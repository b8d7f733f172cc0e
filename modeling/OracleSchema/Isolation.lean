import OracleSchema.Secrets
import OracleSchema.Serial

/-!
What callers see of each other and of the secrets: nothing. Two processes that have been sent
the same calls with the tokens of some ids, with drivers that answer alike up to passwords and
exception texts, answer those calls alike, whatever else they have been sent (`noninterference`).
-/
namespace OracleSchema.Isolation
open OracleSchema.Strings OracleSchema.Errors OracleSchema.SqlGate OracleSchema.QueryContext OracleSchema.SeenSets OracleSchema.Replay
open OracleSchema.Traced OracleSchema.Execution OracleSchema.Pipeline OracleSchema.Sharing OracleSchema.Serial OracleSchema.Secrets
open OracleSchema.Truncation

section
variable (L : Libraries) (ids : PyStr → Bool)

/-- The call verifies with one of these token ids, or with none at all. -/
def within (W : Surroundings) (call : Call) : Bool := (claims? L W call).all (fun claims => ids claims.jti)

/-- The calls of a process that are within the ids, the last one first. -/
def ownHistory (s : Server) : List Entry := (history s).filter (fun entry => within L ids entry.surroundings entry.call)

/-- What these calls are answered, or will be when their legs end. -/
def ownAnswers (s : Server) : List (Except PyExc Envelope) :=
  (s.jobs.filter (fun job => within L ids job.surroundings job.call)).map (answerOf L)
end

/-- One call with drivers that answer alike. -/
structure EntryAlike (P : PyStr → PyStr → Prop) (entry entry' : Entry) : Prop where
  call : entry'.call = entry.call
  surroundings : entry'.surroundings = { entry.surroundings with driver := entry'.surroundings.driver }
  drivers : DriverAlike P entry.surroundings.driver entry'.surroundings.driver

section
variable {L : Libraries} {W : Surroundings} {call : Call} {cache cache' : ReplayCache} {ids : PyStr → Bool}

/-! ### Other callers -/

/-- The cache tells a run whether the id of its token is fresh, and nothing else. -/
theorem preflight_congr (same : ∀ claims, claims? L W call = some claims →
    admits cache.lookup ⟨claims.jti, claims.exp, W.now⟩ = admits cache'.lookup ⟨claims.jti, claims.exp, W.now⟩) :
    stageAfter (preflight L W call cache) = stageAfter (preflight L W call cache') := by
  unfold preflight
  cases verified : verifyContext L W call [] with
  | mk result trace =>
    cases result with
    | error exc => rfl
    | ok answer =>
      cases answer with
      | error refusal => rfl
      | ok claims =>
        have fresh := same claims (claims?_eq_some.mpr (by rw [verified]))
        rw [← check_fst, ← check_fst] at fresh
        simp only [ReplayCache.check] at fresh
        cases checked : cache.checkAndInsert claims.jti claims.exp W.now with
        | mk first after =>
          cases checked' : cache'.checkAndInsert claims.jti claims.exp W.now with
          | mk first' after' =>
            rw [checked, checked'] at fresh
            obtain rfl : first = first' := fresh
            cases first with
            | false =>
              simp only [checked, checked']
              rfl
            | true =>
              simp only [checked, checked']
              rfl

theorem within_iff : within L ids W call = true ↔ ∀ claims, claims? L W call = some claims → ids claims.jti = true := by
  unfold within
  cases claims? L W call with
  | none => simp
  | some claims => simp

/-- A call within the ids keeps two caches in agreement, and finds them alike. -/
theorem preflight_own (own : within L ids W call = true)
    (agree : AgreeFrom (fun jti => ids jti = true) W.now cache.lookup cache'.lookup) :
    stageAfter (preflight L W call cache) = stageAfter (preflight L W call cache') ∧
      AgreeFrom (fun jti => ids jti = true) W.now (preflight L W call cache).cache.lookup
        (preflight L W call cache').cache.lookup := by
  have among := within_iff.mp own
  refine ⟨preflight_congr fun claims shown => agree.admits_eq (s := ⟨claims.jti, claims.exp, W.now⟩) (among claims shown), ?_⟩
  rw [preflight_lookup, preflight_lookup]
  cases shown : claims? L W call with
  | none => exact agree
  | some claims => exact agree.record_both (s := ⟨claims.jti, claims.exp, W.now⟩) (among claims shown)

/-- Any other call does not matter for the agreement. -/
theorem preflight_other (other : ¬ within L ids W call = true)
    (agree : AgreeFrom (fun jti => ids jti = true) W.now cache.lookup cache'.lookup) :
    AgreeFrom (fun jti => ids jti = true) W.now (preflight L W call cache).cache.lookup cache'.lookup := by
  rw [preflight_lookup]
  cases shown : claims? L W call with
  | none => exact agree
  | some claims =>
    have foreign : ¬ ids claims.jti = true := by
      intro among
      refine other (within_iff.mpr fun claims' shown' => ?_)
      rwa [← Option.some.inj (shown.symm.trans shown')]
    exact agree.record_other (s := ⟨claims.jti, claims.exp, W.now⟩) foreign

/-- The runs within the ids go as if there were no others. -/
theorem own_serial {start : Int} {s : Server} (steps : Relation.ReflTransGen (Step L) (.initial start) s) :
    ownAnswers L ids s = (serial L (ownHistory L ids s)).2 ∧
      AgreeFrom (fun jti => ids jti = true) s.clock s.cache.lookup (serial L (ownHistory L ids s)).1.lookup := by
  induction steps with
  | refl => exact ⟨rfl, fun _ _ => rfl⟩
  | @tail r s' before step ih =>
    obtain ⟨answers, agree⟩ := ih
    cases step with
    | arrive W call later =>
      have soon := agree.later later
      by_cases own : within L ids W call = true
      · obtain ⟨stage, kept⟩ := preflight_own own soon
        have ran : serial L (ownHistory L ids
            ⟨(preflight L W call r.cache).cache, W.now, ⟨W, call, stageAfter (preflight L W call r.cache)⟩ :: r.jobs⟩) =
            ((run L W call (serial L (ownHistory L ids r)).1).cache, (run L W call (serial L (ownHistory L ids r)).1).outcome ::
              (serial L (ownHistory L ids r)).2) := by
          simp only [ownHistory, history, List.map_cons, List.filter_cons, own, if_true, serial]
        rw [ran, run_cache]
        refine ⟨?_, kept⟩
        rw [← answers, ← answerOf_arrive, ← stage]
        simp only [ownAnswers, List.filter_cons, own, if_true, List.map_cons]
      · have ran : ownHistory L ids
            ⟨(preflight L W call r.cache).cache, W.now, ⟨W, call, stageAfter (preflight L W call r.cache)⟩ :: r.jobs⟩ =
            ownHistory L ids r := by
          simp only [ownHistory, history, List.map_cons, List.filter_cons, own]
          rfl
        rw [ran]
        refine ⟨?_, preflight_other own soon⟩
        rw [← answers]
        simp only [ownAnswers, List.filter_cons, own]
        rfl
    | @leave before after W call plan trace waiting =>
      have same : ownHistory L ids ⟨r.cache, r.clock, before ++ ⟨W, call, .left plan (databaseLeg L W call plan trace).1⟩ :: after⟩ =
          ownHistory L ids r := congrArg (List.filter _) (history_leave waiting)
      rw [same]
      refine ⟨?_, agree⟩
      rw [← answers, ownAnswers, ownAnswers, waiting]
      simp only [List.filter_append, List.filter_cons, List.map_append]
      split_ifs <;> rfl

/-! ### Secrets -/

/-- A run with another driver that answers alike is answered the same. -/
theorem run_blind (L : Libraries) (call : Call) (cache : ReplayCache) {P : PyStr → PyStr → Prop} {D' : Driver}
    (drivers : DriverAlike P W.driver D') :
    (run L { W with driver := D' } call cache).outcome = (run L W call cache).outcome ∧
      (run L { W with driver := D' } call cache).cache = (run L W call cache).cache := by
  have before := preflight_driver L W call cache D'
  refine ⟨?_, by rw [run_cache, run_cache, before]⟩
  rw [← answerOf_arrive, ← answerOf_arrive, before]
  unfold answerOf stageAfter
  cases (preflight L W call cache).outcome with
  | error exc => rfl
  | ok answer =>
    cases answer with
    | error refusal => rfl
    | ok plan =>
      have start : List.Forall₂ (EventAlike P) (preflight L W call cache).trace (preflight L W call cache).trace :=
        List.forall₂_same.mpr fun event _ => .same event
      exact (databaseLeg_blind L W call drivers plan _ _ start).1.eq_of_never.symm

theorem serial_alike {P : PyStr → PyStr → Prop} {entries entries' : List Entry} (alike : List.Forall₂ (EntryAlike P) entries entries') :
    serial L entries' = serial L entries := by
  induction alike with
  | nil => rfl
  | @cons entry entry' rest rest' first _ ih =>
    obtain ⟨answer, cache⟩ := run_blind L entry.call (serial L rest).1 first.drivers
    rw [serial, serial, ih, first.call, first.surroundings, answer, cache]
end

/-- What the calls with the tokens of some ids are answered depends on these calls alone, and not
    on the secrets: two processes that were sent them with alike drivers answer them the same. -/
theorem noninterference (P : PyStr → PyStr → Prop) (L : Libraries) (ids : PyStr → Bool) {start start' : Int} {s s' : Server}
    (steps : Relation.ReflTransGen (Step L) (.initial start) s) (steps' : Relation.ReflTransGen (Step L) (.initial start') s')
    (alike : List.Forall₂ (EntryAlike P) (ownHistory L ids s) (ownHistory L ids s')) : ownAnswers L ids s' = ownAnswers L ids s := by
  rw [(own_serial steps).1, (own_serial steps').1, serial_alike alike]

/-- The claims of a token other than the sample's. -/
def otherClaims : QueryContextClaims := { sampleClaims with jti := lit "j2" }

/-- Libraries that know two tokens. -/
def twoTokens : Libraries :=
  { dualLibraries with
    joserfc := ⟨fun token _ => .ok (if token = sampleCall.token then [] else [1]),
      fun _ _ _ _ _ one two => by rw [← Except.ok.inj one, ← Except.ok.inj two]⟩
    loads := fun payload => .ok (.dict (wireItems (if payload = [] then sampleClaims else otherClaims))) }

def otherCall : Call := { sampleCall with token := lit "other" }

/-- The surroundings of the sample, with a database that refuses this password. -/
def refusingSurroundings (password : PyStr) : Surroundings := { dualSurroundings with driver := refusing password }

theorem twoTokens_claims (password : PyStr) {call : Call} {payload : Bytes} {claims : QueryContextClaims} (given : call.token ≠ [])
    (signed : twoTokens.joserfc.deserialize call.token [1] = .ok payload)
    (carried : twoTokens.loads payload = .ok (.dict (wireItems claims))) (iss : claims.iss = issuer)
    (aud : claims.aud = expectedAud) (early : 5 < claims.exp) :
    claims? twoTokens (refusingSurroundings password) call = some claims := by
  have parsed : parseClaims twoTokens.loads payload = .ok claims := parseClaims_ok_iff.mpr ⟨_, carried, wireForm_wireItems iss⟩
  have loaded : loadPublicKeys (refusingSurroundings password) [] = (.ok (some [[1]]), []) := by
    have same : loadPublicKeys (refusingSurroundings password) [] =
      loadPublicKeys (sampleSurroundings (some (lit "key.pem")) 5) [] := rfl
    rw [same]
    decide
  have accepted : verifyQueryContext twoTokens.joserfc twoTokens.loads call.token [[1]] expectedAud 5 = .ok claims := by
    simp only [verifyQueryContext, firstVerified, signed, parsed]
    rw [if_neg (not_le.mpr early), if_neg (not_not.mpr aud)]
  refine claims?_eq_some.mpr ?_
  simp only [verifyContext, bind_run, loaded]
  rw [if_neg given, show (refusingSurroundings password).now = 5 from rfl, accepted]
  rfl

/-- The other token does not matter for the sample's answer, and neither does the password. -/
theorem noninterference_sample :
    let one := preflight twoTokens (refusingSurroundings (lit "hunter2")) otherCall .fresh
    let two := preflight twoTokens (refusingSurroundings (lit "hunter2")) sampleCall one.cache
    let alone := preflight twoTokens (refusingSurroundings (lit "tiger")) sampleCall .fresh
    let s : Server := ⟨two.cache, 5, [⟨refusingSurroundings (lit "hunter2"), sampleCall, stageAfter two⟩,
      ⟨refusingSurroundings (lit "hunter2"), otherCall, stageAfter one⟩]⟩
    let s' : Server := ⟨alone.cache, 5, [⟨refusingSurroundings (lit "tiger"), sampleCall, stageAfter alone⟩]⟩
    ownAnswers twoTokens (fun jti => jti = sampleClaims.jti) s' = ownAnswers twoTokens (fun jti => jti = sampleClaims.jti) s := by
  intro one two alone s s'
  have steps : Relation.ReflTransGen (Step twoTokens) (.initial 0) s :=
    .tail (.single (.arrive (refusingSurroundings (lit "hunter2")) otherCall (by decide)))
      (.arrive (refusingSurroundings (lit "hunter2")) sampleCall (le_refl (5 : Int)))
  have steps' : Relation.ReflTransGen (Step twoTokens) (.initial 0) s' :=
    .single (.arrive (refusingSurroundings (lit "tiger")) sampleCall (by decide))
  have own : ∀ password, within twoTokens (fun jti => jti = sampleClaims.jti) (refusingSurroundings password) sampleCall = true := by
    intro password
    have shown : claims? twoTokens (refusingSurroundings password) sampleCall = some sampleClaims :=
      twoTokens_claims password (by decide) rfl rfl rfl rfl (by decide)
    rw [within, shown]
    rfl
  have foreign : within twoTokens (fun jti => jti = sampleClaims.jti) (refusingSurroundings (lit "hunter2")) otherCall = false := by
    have shown : claims? twoTokens (refusingSurroundings (lit "hunter2")) otherCall = some otherClaims :=
      twoTokens_claims _ (by decide) rfl rfl rfl rfl (by decide)
    rw [within, shown]
    rfl
  refine noninterference (fun _ _ => True) twoTokens _ steps steps' ?_
  simp only [ownHistory, history, s, s', List.map_cons, List.map_nil, List.filter_cons, List.filter_nil, own, foreign, if_true]
  exact .cons ⟨rfl, rfl, refusing_alike _ _⟩ .nil

end OracleSchema.Isolation
