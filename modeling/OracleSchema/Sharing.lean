import Mathlib.Logic.Relation
import OracleSchema.Pipeline

/-!
Runs that share one replay cache. A run is taken up in one piece as far as its
database leg, since nothing before the leg suspends; the legs end in any order and
leave the cache alone. The clock may only go forward.
-/
namespace OracleSchema.Sharing
open OracleSchema.Strings OracleSchema.Errors OracleSchema.SqlGate OracleSchema.QueryContext OracleSchema.SeenSets
open OracleSchema.Replay OracleSchema.Traced OracleSchema.Execution OracleSchema.Pipeline

/-- How far a run has come: it ended before its database leg, is in it, or has left it. -/
inductive Stage
  | stopped (outcome : Except PyExc Refusal)
  | inLeg (plan : Plan) (trace : List Event)
  | left (plan : Plan) (outcome : Except PyExc Envelope)

/-- The plan of a run that has reached its database leg. -/
def Stage.plan? : Stage → Option Plan
  | .stopped _ => none
  | .inLeg plan _ => some plan
  | .left plan _ => some plan

structure Job where
  surroundings : Surroundings
  call : Call
  stage : Stage

structure Server where
  cache : ReplayCache
  clock : Int
  jobs : List Job

def Server.initial (start : Int) : Server := ⟨.fresh, start, []⟩

def stageAfter (before : Preflight) : Stage :=
  match before.outcome with
  | .error exc => .stopped (.error exc)
  | .ok (.error refusal) => .stopped (.ok refusal)
  | .ok (.ok plan) => .inLeg plan before.trace

inductive Step (L : Libraries) : Server → Server → Prop
  /-- A call comes in and runs up to its database leg. -/
  | arrive {s : Server} (W : Surroundings) (call : Call) (later : s.clock ≤ W.now) :
      Step L s ⟨(preflight L W call s.cache).cache, W.now, ⟨W, call, stageAfter (preflight L W call s.cache)⟩ :: s.jobs⟩
  /-- The database leg of some job ends. -/
  | leave {s : Server} {before after : List Job} {W : Surroundings} {call : Call} {plan : Plan} {trace : List Event}
      (waiting : s.jobs = before ++ ⟨W, call, .inLeg plan trace⟩ :: after) :
      Step L s ⟨s.cache, s.clock, before ++ ⟨W, call, .left plan (databaseLeg L W call plan trace).1⟩ :: after⟩

/-- The tokens with which a database leg was reached, one entry for each run. -/
def reachedTokens (s : Server) : List PyStr :=
  (s.jobs.filter (fun job => job.stage.plan?.isSome)).map (fun job => job.call.token)

/-- Every job that reached its leg did so with verified claims, and its token is still
    remembered unless its expiry has come. -/
structure Remembers (L : Libraries) (s : Server) : Prop where
  distinct : (reachedTokens s).Nodup
  shown : ∀ job ∈ s.jobs, ∀ plan, job.stage.plan? = some plan → ContextVerified L job.surroundings job.call plan.claims
  kept : ∀ job ∈ s.jobs, ∀ plan, job.stage.plan? = some plan →
    s.cache.lookup plan.claims.jti = some plan.claims.exp ∨ plan.claims.exp ≤ s.clock

section
variable {L : Libraries} {W : Surroundings} {call : Call} {cache : ReplayCache}

theorem plan?_stageAfter {before : Preflight} {plan : Plan} :
    (stageAfter before).plan? = some plan ↔ before.outcome = .ok (.ok plan) := by
  unfold stageAfter
  cases before.outcome with
  | error exc => simp [Stage.plan?]
  | ok answer => cases answer <;> simp [Stage.plan?]

/-- What a preflight does to the cache: nothing without verified claims, else one
    check with their expiry. -/
theorem preflight_cache (L : Libraries) (W : Surroundings) (call : Call) (cache : ReplayCache) :
    ((∀ claims, (verifyContext L W call []).1 ≠ .ok (.ok claims)) ∧ (preflight L W call cache).cache = cache) ∨
      ∃ claims, (verifyContext L W call []).1 = .ok (.ok claims) ∧ ContextVerified L W call claims ∧
        (preflight L W call cache).cache.lookup = record cache.lookup ⟨claims.jti, claims.exp, W.now⟩ := by
  unfold preflight
  cases verified : verifyContext L W call [] with
  | mk result trace =>
    cases result with
    | error exc => exact .inl ⟨by simp, rfl⟩
    | ok answer =>
      rcases verifyContext_returns (by rw [verified]) with ⟨claims, rfl, context⟩ | ⟨refusal, rfl, _, _⟩
      · refine .inr ⟨claims, rfl, context, ?_⟩
        rw [← check_lookup]
        simp only [ReplayCache.check]
        cases cache.checkAndInsert claims.jti claims.exp W.now with
        | mk fresh cache' => cases fresh <;> rfl
      · exact .inl ⟨by simp, rfl⟩

theorem run_cache (L : Libraries) (W : Surroundings) (call : Call) (cache : ReplayCache) :
    (run L W call cache).cache = (preflight L W call cache).cache := by
  cases ended : (preflight L W call cache).outcome with
  | error exc => rw [run_of_error ended]
  | ok answer =>
    cases answer with
    | error refusal => rw [run_of_refusal ended]
    | ok plan => rw [run_of_plan ended]

/-- An entry that was kept stays, or its expiry has come. -/
theorem kept_preflight {jti : PyStr} {exp clock : Int} (later : clock ≤ W.now)
    (kept : cache.lookup jti = some exp ∨ exp ≤ clock) :
    (preflight L W call cache).cache.lookup jti = some exp ∨ exp ≤ W.now := by
  by_cases dead : exp ≤ W.now
  · exact .inr dead
  · have remembered : cache.lookup jti = some exp := by
      rcases kept with remembered | expired
      · exact remembered
      · exact absurd (expired.trans later) dead
    refine .inl ?_
    rcases preflight_cache L W call cache with ⟨_, same⟩ | ⟨claims, _, _, recorded⟩
    · rw [same, remembered]
    · rw [recorded, record_eq_some]
      exact .inr ⟨remembered, not_le.mp dead⟩

/-- A token that has reached a leg is not let through again. -/
theorem token_fresh {s : Server} (remembers : Remembers L s) (later : s.clock ≤ W.now) {plan : Plan}
    (admitted : (preflight L W call s.cache).outcome = .ok (.ok plan)) : call.token ∉ reachedTokens s := by
  intro reached
  obtain ⟨job, member, same⟩ := List.mem_map.mp reached
  obtain ⟨inJobs, arrived⟩ := List.mem_filter.mp member
  obtain ⟨plan', found⟩ := Option.isSome_iff_exists.mp arrived
  rcases preflight_returns admitted with ⟨_, own, all, _⟩ | ⟨refusal, _, refused, _⟩
  · obtain rfl := Except.ok.inj own
    obtain ⟨keys, _, verified⟩ := all.context.verified
    obtain ⟨keys', _, verified'⟩ := (remembers.shown job inJobs plan' found).verified
    rw [same] at verified'
    have sameClaims : plan.claims = plan'.claims := verified.unique verified'
    rcases remembers.kept job inJobs plan' found with remembered | expired
    · have unseen := all.unseen
      rw [← sameClaims] at remembered
      rw [live_of_some remembered, if_pos verified.live] at unseen
      cases unseen
    · rw [← sameClaims] at expired
      exact absurd verified.live (not_lt.mpr (expired.trans later))
  · cases refused

theorem reachedTokens_arrive {s : Server} :
    reachedTokens ⟨(preflight L W call s.cache).cache, W.now,
        ⟨W, call, stageAfter (preflight L W call s.cache)⟩ :: s.jobs⟩ =
      if (stageAfter (preflight L W call s.cache)).plan?.isSome then call.token :: reachedTokens s
      else reachedTokens s := by
  by_cases admitted : (stageAfter (preflight L W call s.cache)).plan?.isSome = true
  · simp [reachedTokens, admitted]
  · simp [reachedTokens, admitted]

theorem remembers_arrive {s : Server} (remembers : Remembers L s) (later : s.clock ≤ W.now) :
    Remembers L ⟨(preflight L W call s.cache).cache, W.now,
      ⟨W, call, stageAfter (preflight L W call s.cache)⟩ :: s.jobs⟩ := by
  refine ⟨?_, ?_, ?_⟩
  · rw [reachedTokens_arrive]
    split_ifs with admitted
    · obtain ⟨plan, found⟩ := Option.isSome_iff_exists.mp admitted
      exact List.nodup_cons.mpr ⟨token_fresh remembers later (plan?_stageAfter.mp found), remembers.distinct⟩
    · exact remembers.distinct
  · intro job member plan found
    rcases List.mem_cons.mp member with rfl | older
    · rcases preflight_returns (plan?_stageAfter.mp found) with ⟨_, own, all, _⟩ | ⟨refusal, _, refused, _⟩
      · obtain rfl := Except.ok.inj own
        exact all.context
      · cases refused
    · exact remembers.shown job older plan found
  · intro job member plan found
    rcases List.mem_cons.mp member with rfl | older
    · rcases preflight_returns (plan?_stageAfter.mp found) with ⟨_, own, _, recorded⟩ | ⟨refusal, _, refused, _⟩
      · obtain rfl := Except.ok.inj own
        exact .inl recorded
      · cases refused
    · exact kept_preflight later (remembers.kept job older plan found)

theorem remembers_leave {s : Server} (remembers : Remembers L s) {before after : List Job} {plan : Plan}
    {trace : List Event} {outcome : Except PyExc Envelope}
    (waiting : s.jobs = before ++ ⟨W, call, .inLeg plan trace⟩ :: after) :
    Remembers L ⟨s.cache, s.clock, before ++ ⟨W, call, .left plan outcome⟩ :: after⟩ := by
  have tokens : reachedTokens ⟨s.cache, s.clock, before ++ ⟨W, call, .left plan outcome⟩ :: after⟩ = reachedTokens s := by
    simp [reachedTokens, waiting, Stage.plan?]
  -- A job of the new list has the plan of a job of the old one, for the same call.
  have older : ∀ job ∈ before ++ ⟨W, call, .left plan outcome⟩ :: after, ∀ plan', job.stage.plan? = some plan' →
      ∃ job' ∈ s.jobs, job'.stage.plan? = some plan' ∧ job'.surroundings = job.surroundings ∧ job'.call = job.call := by
    intro job member plan' found
    rw [waiting]
    simp only [List.mem_append, List.mem_cons] at member ⊢
    rcases member with early | rfl | late
    · exact ⟨job, .inl early, found, rfl, rfl⟩
    · exact ⟨_, .inr (.inl rfl), found, rfl, rfl⟩
    · exact ⟨job, .inr (.inr late), found, rfl, rfl⟩
  refine ⟨by rw [tokens]; exact remembers.distinct, ?_, ?_⟩
  · intro job member plan' found
    obtain ⟨job', member', found', sameW, sameCall⟩ := older job member plan' found
    rw [← sameW, ← sameCall]
    exact remembers.shown job' member' plan' found'
  · intro job member plan' found
    obtain ⟨job', member', found', _, _⟩ := older job member plan' found
    exact remembers.kept job' member' plan' found'

theorem step_remembers {s s' : Server} (step : Step L s s') (remembers : Remembers L s) : Remembers L s' := by
  cases step with
  | arrive W call later => exact remembers_arrive remembers later
  | leave waiting => exact remembers_leave remembers waiting

theorem reachable_remembers {start : Int} {s : Server} (steps : Relation.ReflTransGen (Step L) (.initial start) s) :
    Remembers L s := by
  induction steps with
  | refl => exact ⟨List.nodup_nil, by simp [Server.initial], by simp [Server.initial]⟩
  | tail _ step ih => exact step_remembers step ih
end

/-! ### Exactness of the cache -/

/-- The answer to the `k`-th of a list of calls on a fresh cache. -/
def answer (calls : List CacheCall) (k : Nat) (call : CacheCall) : Bool := ((cacheAfter (calls.take k)).check call).1

theorem accepted_iff {calls : List CacheCall} {k : Nat} {call : CacheCall} :
    Accepted calls k call ↔ calls[k]? = some call ∧ answer calls k call = true := by
  rw [Accepted, answer, check_fst, cacheAfter_lookup]

/-- Call `k` is refused exactly when an earlier accepted call of its token id has seen
    no clock reading at or after its expiry since; the cache holds exactly the calls
    of which this is true. So runs under a clock that does not go back reach the
    database at most once with each token, an unverified token leaves the cache
    alone, and a verified one leaves nothing expired in it. -/
theorem replay_exact :
    (∀ (calls : List CacheCall) (k : Nat) (call : CacheCall), calls[k]? = some call →
      (answer calls k call = false ↔
        ∃ i first, i < k ∧ calls[i]? = some first ∧ answer calls i first = true ∧ first.key = call.key ∧
          ∀ m between, i < m → m ≤ k → calls[m]? = some between → between.now < first.deadline)) ∧
    (∀ (calls : List CacheCall) (k : Nat) (jti : PyStr) (exp : Int),
      (cacheAfter (calls.take (k + 1))).lookup jti = some exp ↔
        ∃ i first, i ≤ k ∧ calls[i]? = some first ∧ answer calls i first = true ∧ first.key = jti ∧ first.deadline = exp ∧
          ∀ m between, i < m → m ≤ k → calls[m]? = some between → between.now < exp) ∧
    (∀ (L : Libraries) (start : Int) (s : Server), Relation.ReflTransGen (Step L) (.initial start) s →
      (reachedTokens s).Nodup) ∧
    (∀ (L : Libraries) (W : Surroundings) (call : Call) (cache : ReplayCache),
      (∀ claims, (verifyContext L W call []).1 ≠ .ok (.ok claims)) → (run L W call cache).cache = cache) ∧
    ∀ (L : Libraries) (W : Surroundings) (call : Call) (cache : ReplayCache) (claims : QueryContextClaims),
      (verifyContext L W call []).1 = .ok (.ok claims) →
        ∀ jti exp, (run L W call cache).cache.lookup jti = some exp → W.now < exp := by
  refine ⟨?_, ?_, ?_, ?_, ?_⟩
  · intro calls k call found
    rw [answer, check_fst, cacheAfter_lookup, refused_iff found]
    simp only [accepted_iff, Outlives, Nat.lt_succ_iff, and_assoc]
  · intro calls k jti exp
    rw [cacheAfter_lookup, after_take_eq_some]
    simp only [accepted_iff, Outlives, Nat.lt_succ_iff, and_assoc]
  · intro L start s steps
    exact (reachable_remembers steps).distinct
  · intro L W call cache unverified
    rw [run_cache]
    rcases preflight_cache L W call cache with ⟨_, same⟩ | ⟨claims, verified, _⟩
    · exact same
    · exact absurd verified (unverified claims)
  · intro L W call cache claims verified jti exp held
    rw [run_cache] at held
    rcases preflight_cache L W call cache with ⟨unverified, _⟩ | ⟨claims', _, context, recorded⟩
    · exact absurd verified (unverified claims)
    · rw [recorded, record_eq_some] at held
      rcases held with ⟨_, _, rfl⟩ | ⟨_, early⟩
      · obtain ⟨keys, _, shown⟩ := context.verified
        exact shown.live
      · exact early

/-- Claims that are live until 100. -/
def sampleClaims : QueryContextClaims where
  iss := issuer
  aud := expectedAud
  sub := lit "user"
  act := lit "agent"
  tenant_id := lit "t1"
  scope_id := lit "s1"
  objects := []
  proxy_db_identity := lit "APP_RO"
  args_sha256 := lit "digest"
  jti := lit "j1"
  iat := 0
  exp := 100

/-- Libraries under which every token verifies and carries the sample claims. -/
def sampleLibraries : Libraries where
  joserfc := ⟨fun _ _ => .ok [], fun _ _ _ _ _ one two => by rw [← Except.ok.inj one, ← Except.ok.inj two]⟩
  loads _ := .ok (.dict (wireItems sampleClaims))
  sha256_hexdigest _ := lit "digest"
  sqlglot := SqlTree.sampleSqlglot [] []
  float _ := .ok .nan

/-- One key file, or none, and a driver that does nothing. -/
def sampleSurroundings (keyFiles : Option PyStr) (now : Int) : Surroundings where
  environ name := if name = publicKeysEnv then keyFiles else none
  read_bytes _ := .ok [1]
  now := now
  driver :=
    { read_credential := fun _ _ => .ok ⟨[], []⟩, connect := fun _ _ _ _ => .ok (), set_call_timeout := fun _ _ => .ok (),
      cursor := fun _ => .ok (), callproc := fun _ _ _ => .ok (), execute := fun _ _ => .ok [], fetchall := fun _ => .ok [],
      exit_cursor := fun _ => .ok (), close := fun _ => .ok () }

def sampleCall : Call where
  cfg := ⟨lit "db", lit "APP", lit "pw", ∅, 200, 4, .dev_insecure, none, none, none, ∅⟩
  scope_id := lit "s1"
  sql := lit "SELECT * FROM dual"
  max_rows := none
  token := lit "h.p.s"

theorem sampleContext_verified :
    (verifyContext sampleLibraries (sampleSurroundings (some (lit "key.pem")) 5) sampleCall []).1 =
      .ok (.ok sampleClaims) := by
  have parsed : parseClaims sampleLibraries.loads [] = .ok sampleClaims :=
    parseClaims_ok_iff.mpr ⟨_, rfl, wireForm_wireItems rfl⟩
  have loaded : loadPublicKeys (sampleSurroundings (some (lit "key.pem")) 5) [] = (.ok (some [[1]]), []) := by decide
  have accepted : verifyQueryContext sampleLibraries.joserfc sampleLibraries.loads sampleCall.token [[1]] expectedAud 5 =
      .ok sampleClaims := by
    simp only [verifyQueryContext, show firstVerified sampleLibraries.joserfc sampleCall.token [[1]] = .ok (some []) from rfl,
      parsed]
    rfl
  simp only [verifyContext, bind_run, loaded]
  rw [if_neg (by decide), show (sampleSurroundings (some (lit "key.pem")) 5).now = 5 from rfl, accepted]
  rfl

/-- The second of two calls with one live token id is refused; the token of the sample
    call reaches the database once; a server without keys keeps its cache; and a
    verified call at 5 leaves nothing that expires by then. -/
theorem replay_exact_twice :
    answer [⟨lit "j1", 100, 5⟩, ⟨lit "j1", 100, 6⟩] 1 ⟨lit "j1", 100, 6⟩ = false ∧
      (cacheAfter [⟨lit "j1", 100, 5⟩]).lookup (lit "j1") = some 100 ∧
      (reachedTokens ⟨(preflight sampleLibraries (sampleSurroundings (some (lit "key.pem")) 5) sampleCall .fresh).cache, 5,
        [⟨sampleSurroundings (some (lit "key.pem")) 5, sampleCall,
          stageAfter (preflight sampleLibraries (sampleSurroundings (some (lit "key.pem")) 5) sampleCall .fresh)⟩]⟩).Nodup ∧
      (run sampleLibraries (sampleSurroundings none 5) sampleCall .fresh).cache = .fresh ∧
      ∀ jti exp, (run sampleLibraries (sampleSurroundings (some (lit "key.pem")) 5) sampleCall .fresh).cache.lookup jti =
        some exp → 5 < exp := by
  obtain ⟨refused, held, distinct, unverified, retained⟩ := replay_exact
  refine ⟨(refused _ 1 _ rfl).mpr ⟨0, ⟨lit "j1", 100, 5⟩, by decide, rfl, by decide, rfl, ?_⟩, ?_, ?_, ?_, ?_⟩
  · intro m between later before found
    obtain rfl : m = 1 := by omega
    rw [← Option.some.inj found]
    decide
  · refine (held [⟨lit "j1", 100, 5⟩] 0 _ _).mpr ⟨0, ⟨lit "j1", 100, 5⟩, by decide, rfl, by decide, rfl, rfl, ?_⟩
    intro m between later before found
    omega
  · exact distinct sampleLibraries 0 _ (.single (.arrive _ _ (by decide)))
  · refine unverified sampleLibraries _ sampleCall .fresh fun claims verified => ?_
    cases verified
  · exact retained sampleLibraries _ sampleCall .fresh sampleClaims sampleContext_verified

end OracleSchema.Sharing
