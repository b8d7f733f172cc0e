import OracleSchema.Dispatch

/-!
The calls of one process as one history. Within a fleet a ticket is used up by a verified
call that shows it, whatever became of that call, until a later verified call reads the clock
at or after the expiry; so it is used up for good while the clock does not go back
(`spent_iff`). A process remembers the tickets of which this is true and no others, so that
neither forged nor repeated tokens fill its memory (`memory_bounded`).
-/
namespace OracleSchema.Serial
open OracleSchema.Strings OracleSchema.Errors OracleSchema.Json OracleSchema.JsonReader OracleSchema.QueryContext OracleSchema.SeenSets
open OracleSchema.Replay OracleSchema.Traced OracleSchema.Execution OracleSchema.Pipeline OracleSchema.Sharing OracleSchema.Canonical
open OracleSchema.Codec OracleSchema.Dispatch

/-- A call that a process has taken up, and whether it was refused as a replay. -/
structure Entry where
  surroundings : Surroundings
  call : Call
  replayed : Bool

def isReplay : Stage → Bool
  | .stopped (.ok refusal) => refusal.reason = .query_context_replayed
  | _ => false

/-- The calls of a process, the last one first. -/
def history (s : Server) : List Entry := s.jobs.map (fun job => ⟨job.surroundings, job.call, isReplay job.stage⟩)

/-- The claims that a call verifies with. -/
def claims? (L : Libraries) (W : Surroundings) (call : Call) : Option QueryContextClaims :=
  match (verifyContext L W call []).1 with
  | .ok (.ok claims) => some claims
  | _ => none

section
variable {L : Libraries} {W : Surroundings} {call : Call} {cache : ReplayCache} {claims : QueryContextClaims}

theorem claims?_eq_some : claims? L W call = some claims ↔ (verifyContext L W call []).1 = .ok (.ok claims) := by
  unfold claims?
  split
  · rename_i claims' verified
    rw [verified, Option.some.injEq, Except.ok.injEq, Except.ok.injEq]
  · rename_i other
    exact ⟨nofun, fun verified => absurd verified (other claims)⟩

theorem context_of_claims (shown : claims? L W call = some claims) : ContextVerified L W call claims := by
  rcases verifyContext_returns (claims?_eq_some.mp shown) with ⟨_, own, context⟩ | ⟨_, refused, _⟩
  · obtain rfl := Except.ok.inj own
    exact context
  · cases refused

theorem live_of_claims (shown : claims? L W call = some claims) : W.now < claims.exp := by
  obtain ⟨_, _, verified⟩ := (context_of_claims shown).verified
  exact verified.live

/-- A preflight records what the call verifies with. -/
theorem preflight_lookup (L : Libraries) (W : Surroundings) (call : Call) (cache : ReplayCache) :
    (preflight L W call cache).cache.lookup =
      (claims? L W call).elim cache.lookup (fun claims => record cache.lookup ⟨claims.jti, claims.exp, W.now⟩) := by
  rcases preflight_cache L W call cache with ⟨none, same⟩ | ⟨claims, verified, _, recorded⟩
  · have unverified : claims? L W call = Option.none :=
      Option.eq_none_iff_forall_ne_some.mpr fun claims shown => none claims (claims?_eq_some.mp shown)
    rw [same, unverified, Option.elim_none]
  · rw [recorded, claims?_eq_some.mpr verified, Option.elim_some]

/-! ### One order -/

variable (L) in
/-- Runs one after another on one cache, the last call first: the cache that they leave,
    and their answers. -/
def serial : List Entry → ReplayCache × List (Except PyExc Envelope)
  | [] => (.fresh, [])
  | entry :: older =>
    let finished := run L entry.surroundings entry.call (serial older).1
    (finished.cache, finished.outcome :: (serial older).2)

variable (L) in
/-- The answer of a job that has ended, or the one that its leg is going to end with. -/
def answerOf (job : Job) : Except PyExc Envelope :=
  match job.stage with
  | .stopped outcome => outcome.map .refusal
  | .inLeg plan trace => (databaseLeg L job.surroundings job.call plan trace).1
  | .left _ outcome => outcome

theorem answerOf_arrive : answerOf L ⟨W, call, stageAfter (preflight L W call cache)⟩ = (run L W call cache).outcome := by
  unfold answerOf stageAfter
  cases ended : (preflight L W call cache).outcome with
  | error exc =>
    rw [run_of_error ended]
    rfl
  | ok answer =>
    cases answer with
    | error refusal =>
      rw [run_of_refusal ended]
      rfl
    | ok plan => rw [run_of_plan ended]

theorem history_leave {s : Server} {before after : List Job} {plan : Plan} {trace : List Event} {outcome : Except PyExc Envelope}
    (waiting : s.jobs = before ++ ⟨W, call, .inLeg plan trace⟩ :: after) :
    history ⟨s.cache, s.clock, before ++ ⟨W, call, .left plan outcome⟩ :: after⟩ = history s := by
  simp [history, waiting, isReplay]

/-! ### Used tickets -/

theorem preflight_seen (shown : claims? L W call = some claims) (seen : live cache.lookup W.now claims.jti ≠ none) :
    (preflight L W call cache).outcome =
      .ok (refuse .query_context_replayed "this query-context token was already used (replay refused)") := by
  have refused : (cache.checkAndInsert claims.jti claims.exp W.now).1 = false := by
    refine (check_fst cache ⟨claims.jti, claims.exp, W.now⟩).trans ?_
    rw [admits, Option.isNone_eq_false_iff, Option.isSome_iff_ne_none]
    exact seen
  have verified : verifyContext L W call [] = (.ok (.ok claims), (verifyContext L W call []).2) :=
    Prod.ext (claims?_eq_some.mp shown) rfl
  unfold preflight
  rw [verified]
  cases checked : cache.checkAndInsert claims.jti claims.exp W.now with
  | mk fresh cache' =>
    rw [checked] at refused
    obtain rfl : fresh = false := refused
    simp only [checked]

/-- A preflight refuses as a replay exactly the verified claims that its cache still holds. -/
theorem isReplay_stageAfter : isReplay (stageAfter (preflight L W call cache)) = true ↔
    ∃ claims, claims? L W call = some claims ∧ live cache.lookup W.now claims.jti ≠ none := by
  constructor
  · intro replayed
    have refused : ∃ refusal, (preflight L W call cache).outcome = .ok (.error refusal) ∧
        refusal.reason = .query_context_replayed := by
      unfold stageAfter isReplay at replayed
      cases ended : (preflight L W call cache).outcome with
      | error exc => simp [ended] at replayed
      | ok answer =>
        cases answer with
        | error refusal => exact ⟨refusal, rfl, by simpa [ended] using replayed⟩
        | ok plan => simp [ended] at replayed
    obtain ⟨refusal, ended, reason⟩ := refused
    rcases preflight_returns ended with ⟨_, other, _⟩ | ⟨_, gate, own, first, same⟩
    · cases other
    · obtain rfl := Except.error.inj own
      have atReplay : gate = .replay := by
        rw [reason] at same
        cases gate <;> first | rfl | cases same
      subst atReplay
      obtain ⟨claims, context⟩ := first.2 .context (by decide)
      rcases preflight_cache L W call cache with ⟨none, _⟩ | ⟨claims', verified, context', _⟩
      · cases verified : (verifyContext L W call []).1 with
        | error exc =>
          unfold preflight at ended
          rw [show verifyContext L W call [] = (.error exc, (verifyContext L W call []).2) from Prod.ext verified rfl] at ended
          cases ended
        | ok early =>
          rcases verifyContext_returns verified with ⟨claims', rfl, _⟩ | ⟨_, _, _, never⟩
          · exact absurd verified (none claims')
          · exact absurd context (never claims)
      · exact ⟨claims', claims?_eq_some.mpr verified, fun unseen => first.1 ⟨claims', context', unseen⟩⟩
  · rintro ⟨claims, shown, seen⟩
    unfold stageAfter
    rw [preflight_seen shown seen]
    rfl

variable (L) in
/-- No verified call of the history has come at or after the expiry. -/
def Pending (entries : List Entry) (exp : Int) : Prop :=
  ∀ entry ∈ entries, (claims? L entry.surroundings entry.call).isSome → entry.surroundings.now < exp

variable (L) in
/-- Some call of the history has verified with these claims, and they have been pending since. -/
def Remembered (entries : List Entry) (claims : QueryContextClaims) : Prop :=
  ∃ since earlier before, entries = since ++ earlier :: before ∧
    claims? L earlier.surroundings earlier.call = some claims ∧ Pending L since claims.exp

theorem remembered_nil : ¬ Remembered L [] claims := by
  rintro ⟨since, earlier, before, split, _⟩
  simp at split

theorem remembered_cons {entry : Entry} {older : List Entry} : Remembered L (entry :: older) claims ↔
    claims? L entry.surroundings entry.call = some claims ∨
      Remembered L older claims ∧ ((claims? L entry.surroundings entry.call).isSome → entry.surroundings.now < claims.exp) := by
  constructor
  · rintro ⟨since, earlier, before, split, shown, pending⟩
    cases since with
    | nil =>
      obtain ⟨rfl, rfl⟩ := List.cons.inj split
      exact .inl shown
    | cons last since =>
      obtain ⟨rfl, rfl⟩ := List.cons.inj split
      obtain ⟨first, rest⟩ := List.forall_mem_cons.mp pending
      exact .inr ⟨⟨since, earlier, before, rfl, shown, rest⟩, first⟩
  · rintro (shown | ⟨⟨since, earlier, before, rfl, shown, pending⟩, early⟩)
    · exact ⟨[], entry, older, rfl, shown, by simp [Pending]⟩
    · exact ⟨entry :: since, earlier, before, rfl, shown, List.forall_mem_cons.mpr ⟨early, pending⟩⟩

theorem Remembered.mem {entries : List Entry} (remembered : Remembered L entries claims) :
    ∃ earlier ∈ entries, claims? L earlier.surroundings earlier.call = some claims := by
  obtain ⟨since, earlier, before, rfl, shown, _⟩ := remembered
  exact ⟨earlier, by simp, shown⟩

variable (L) in
/-- A process whose cache holds what it remembers, and which has refused as replays what it
    remembered. -/
structure Exact (s : Server) : Prop where
  held : ∀ jti exp, s.cache.lookup jti = some exp ↔ ∃ claims, claims.jti = jti ∧ claims.exp = exp ∧ Remembered L (history s) claims
  replays : ∀ newer entry older, history s = newer ++ entry :: older → (entry.replayed = true ↔
    ∃ claims, claims? L entry.surroundings entry.call = some claims ∧ Remembered L older claims)

/-- What a verified call finds in an exact cache: its id, if the process remembers its claims. -/
theorem Exact.seen_iff {s : Server} (exact : Exact L s) (shown : claims? L W call = some claims)
    (single : ∀ other, Remembered L (history s) other → other.jti = claims.jti → other = claims) :
    live s.cache.lookup W.now claims.jti ≠ none ↔ Remembered L (history s) claims := by
  rw [Option.ne_none_iff_exists']
  simp only [live_eq_some, exact.held]
  constructor
  · rintro ⟨exp, ⟨other, same, _, remembered⟩, _⟩
    rwa [single other remembered same] at remembered
  · intro remembered
    exact ⟨claims.exp, ⟨claims, rfl, rfl, remembered⟩, live_of_claims shown⟩

theorem exact_arrive {s : Server} (exact : Exact L s) (single : ∀ claims, claims? L W call = some claims →
      ∀ other, Remembered L (history s) other → other.jti = claims.jti → other = claims) :
    Exact L ⟨(preflight L W call s.cache).cache, W.now, ⟨W, call, stageAfter (preflight L W call s.cache)⟩ :: s.jobs⟩ := by
  refine ⟨?_, ?_⟩
  · intro jti exp
    show _ ↔ ∃ claims, claims.jti = jti ∧ claims.exp = exp ∧ Remembered L (⟨W, call, _⟩ :: history s) claims
    simp only [remembered_cons]
    rw [preflight_lookup]
    cases shown : claims? L W call with
    | none => simp [exact.held]
    | some claims =>
      have seen := exact.seen_iff shown (single claims shown)
      have fresh : admits s.cache.lookup ⟨claims.jti, claims.exp, W.now⟩ = true ↔ ¬ Remembered L (history s) claims := by
        rw [← seen]
        simp [admits]
      simp only [Option.elim_some, record_eq_some, exact.held, fresh, Option.some.injEq, Option.isSome_some, forall_const]
      constructor
      · rintro (⟨_, rfl, rfl⟩ | ⟨⟨other, rfl, rfl, remembered⟩, early⟩)
        · exact ⟨claims, rfl, rfl, .inl rfl⟩
        · exact ⟨other, rfl, rfl, .inr ⟨remembered, early⟩⟩
      · rintro ⟨other, rfl, rfl, rfl | ⟨remembered, early⟩⟩
        · by_cases before : Remembered L (history s) claims
          · exact .inr ⟨⟨claims, rfl, rfl, before⟩, live_of_claims shown⟩
          · exact .inl ⟨before, rfl, rfl⟩
        · exact .inr ⟨⟨other, rfl, rfl, remembered⟩, early⟩
  · intro newer entry older split
    cases newer with
    | nil =>
      obtain ⟨rfl, rfl⟩ := List.cons.inj split
      show isReplay _ = true ↔ _
      rw [isReplay_stageAfter]
      exact exists_congr fun claims => and_congr_right fun shown => exact.seen_iff shown (single claims shown)
    | cons first newer => exact exact.replays newer entry older (List.cons.inj split).2

theorem exact_leave {s : Server} (exact : Exact L s) {before after : List Job} {plan : Plan} {trace : List Event}
    {outcome : Except PyExc Envelope} (waiting : s.jobs = before ++ ⟨W, call, .inLeg plan trace⟩ :: after) :
    Exact L ⟨s.cache, s.clock, before ++ ⟨W, call, .left plan outcome⟩ :: after⟩ := by
  have same : history ⟨s.cache, s.clock, before ++ ⟨W, call, .left plan outcome⟩ :: after⟩ = history s := history_leave waiting
  exact ⟨by rw [same]; exact exact.held, by rw [same]; exact exact.replays⟩

/-- Under a clock that does not go back, what was shown before a verified call is remembered. -/
theorem remembered_of_forward {s : Server} (forward : Forward s) {newer older : List Entry} {entry earlier : Entry}
    (split : history s = newer ++ entry :: older) (shown : claims? L entry.surroundings entry.call = some claims)
    (before : earlier ∈ older) (shown' : claims? L earlier.surroundings earlier.call = some claims) :
    Remembered L older claims := by
  have ordered : (history s).Pairwise (fun later earlier => earlier.surroundings.now ≤ later.surroundings.now) :=
    List.pairwise_map.mpr forward
  rw [split] at ordered
  obtain ⟨notLater, _⟩ := List.pairwise_cons.mp (List.pairwise_append.mp ordered).2.1
  obtain ⟨since, rest, rfl⟩ := List.append_of_mem before
  exact ⟨since, earlier, rest, rfl, shown', fun between member _ =>
    (notLater between (List.mem_append_left _ member)).trans_lt (live_of_claims shown)⟩

/-! ### Within a fleet -/

variable {float : PyStr → PyFloat} {tickets : List (Ticket L.sha256_hexdigest float)}

/-- Calls that the kernel's signature covers verify with one set of claims for each id. -/
theorem claims_of_jti (reads : L.loads = loads float) (unique : (tickets.map (fun ticket => ticket.claims.jti)).Nodup)
    {job job' : Job} (genuine : Genuine L tickets job) (genuine' : Genuine L tickets job') {claims claims' : QueryContextClaims}
    (shown : claims? L job.surroundings job.call = some claims) (shown' : claims? L job'.surroundings job'.call = some claims')
    (same : claims'.jti = claims.jti) : claims' = claims := by
  obtain ⟨ticket, minted, isOwn⟩ := ticket_of_context reads genuine (context_of_claims shown)
  obtain ⟨ticket', minted', isOther⟩ := ticket_of_context reads genuine' (context_of_claims shown')
  have sameTicket : ticket' = ticket := List.inj_on_of_nodup_map unique minted' minted (by rw [← isOwn, ← isOther, same])
  rw [isOwn, isOther, sameTicket]

theorem mem_history {s : Server} {entry : Entry} (member : entry ∈ history s) :
    ∃ job ∈ s.jobs, job.surroundings = entry.surroundings ∧ job.call = entry.call := by
  obtain ⟨job, taken, rfl⟩ := List.mem_map.mp member
  exact ⟨job, taken, rfl, rfl⟩

theorem exact_of_genuine (reads : L.loads = loads float) (unique : (tickets.map (fun ticket => ticket.claims.jti)).Nodup)
    {start : Int} {s : Server} (steps : Relation.ReflTransGen (ProcessStep L) (.initial start) s)
    (genuine : ∀ job ∈ s.jobs, Genuine L tickets job) : Exact L s := by
  induction steps with
  | refl => exact ⟨by simp [history, Server.initial, ReplayCache.fresh, ReplayCache.lookup, remembered_nil], by simp [history, Server.initial]⟩
  | @tail r s' before step ih =>
    have older := genuine_before step genuine
    have exact := ih older
    cases step with
    | arrive W call =>
      refine exact_arrive exact fun claims shown other remembered same => ?_
      obtain ⟨entry, member, shown'⟩ := remembered.mem
      obtain ⟨job, taken, sameW, sameCall⟩ := mem_history member
      rw [← sameW, ← sameCall] at shown'
      exact claims_of_jti reads unique (genuine _ List.mem_cons_self) (older job taken) shown shown' same
    | leave waiting => exact exact_leave exact waiting

/-- Where tickets have ids of their own, the calls of a process that are refused as replays
    are those whose ticket an earlier verified call has shown, whatever it was answered, and
    no verified call between them came at or after the expiry. While the clock does not go
    back, none can have. -/
theorem spent_iff (L : Libraries) (float : PyStr → PyFloat) (reads : L.loads = loads float) (f : Fleet L float)
    (reachable : Reachable L f) (unique : DistinctIds f) (s : Server) (running : s ∈ f.processes) (newer older : List Entry)
    (entry : Entry) (split : history s = newer ++ entry :: older) :
    (entry.replayed = true ↔ ∃ claims, claims? L entry.surroundings entry.call = some claims ∧ Remembered L older claims) ∧
      (Forward s → (entry.replayed = true ↔ ∃ claims, claims? L entry.surroundings entry.call = some claims ∧
        ∃ earlier ∈ older, claims? L earlier.surroundings earlier.call = some claims)) := by
  obtain ⟨⟨start, steps⟩, genuine⟩ := reachable_lawful reachable s running
  have replays := (exact_of_genuine reads unique steps genuine).replays newer entry older split
  refine ⟨replays, fun forward => replays.trans (exists_congr fun claims => and_congr_right fun shown => ?_)⟩
  constructor
  · exact Remembered.mem
  · rintro ⟨earlier, before, shown'⟩
    exact remembered_of_forward forward split shown before shown'

/-- Where tickets have ids of their own, a process remembers exactly the tickets that a
    verified call has shown and that have been pending since; so after a verified call there
    are never more of them than tickets of the kernel that were live at that call. -/
theorem memory_bounded (L : Libraries) (float : PyStr → PyFloat) (reads : L.loads = loads float) (f : Fleet L float)
    (reachable : Reachable L f) (unique : DistinctIds f) (s : Server) (running : s ∈ f.processes) :
    (∀ jti exp, s.cache.lookup jti = some exp ↔
      ∃ claims, claims.jti = jti ∧ claims.exp = exp ∧ Remembered L (history s) claims) ∧
    ∀ newer entry older, history s = newer ++ entry :: older → (claims? L entry.surroundings entry.call).isSome →
      (∀ later ∈ newer, claims? L later.surroundings later.call = none) →
        s.cache.seen.keys.length ≤ (f.tickets.filter (fun ticket => entry.surroundings.now < ticket.claims.exp)).length := by
  obtain ⟨⟨start, steps⟩, genuine⟩ := reachable_lawful reachable s running
  have exact := exact_of_genuine reads unique steps genuine
  refine ⟨exact.held, fun newer entry older split verified unverified => ?_⟩
  have alive : ∀ claims, Remembered L (history s) claims → entry.surroundings.now < claims.exp := by
    intro claims remembered
    rw [split] at remembered
    clear split
    induction newer with
    | nil =>
      rcases remembered_cons.mp remembered with shown | ⟨_, early⟩
      · exact live_of_claims shown
      · exact early verified
    | cons later newer ih =>
      rcases remembered_cons.mp remembered with shown | ⟨before, _⟩
      · rw [unverified later List.mem_cons_self] at shown
        cases shown
      · exact ih (fun e member => unverified e (List.mem_cons_of_mem _ member)) before
  have minted : s.cache.seen.keys ⊆
      (f.tickets.filter (fun ticket => entry.surroundings.now < ticket.claims.exp)).map (fun ticket => ticket.claims.jti) := by
    intro jti inCache
    obtain ⟨exp, found⟩ := Option.isSome_iff_exists.mp (AList.lookup_isSome.mpr (AList.mem_keys.mpr inCache))
    obtain ⟨claims, rfl, rfl, remembered⟩ := (exact.held jti exp).mp found
    obtain ⟨shower, there, shown⟩ := remembered.mem
    obtain ⟨job, taken, sameW, sameCall⟩ := mem_history there
    rw [← sameW, ← sameCall] at shown
    obtain ⟨ticket, known, rfl⟩ := ticket_of_context reads (genuine job taken) (context_of_claims shown)
    exact List.mem_map.mpr ⟨ticket, List.mem_filter.mpr ⟨known, decide_eq_true (alive _ remembered)⟩, rfl⟩
  calc s.cache.seen.keys.length ≤ _ := (List.subperm_of_subset (AList.keys_nodup _) minted).length_le
    _ = _ := List.length_map _
end

/-! ### One token twice -/

theorem claims_of_plan {L : Libraries} {W : Surroundings} {call : Call} {cache : ReplayCache} {plan : Plan}
    (ended : (preflight L W call cache).outcome = .ok (.ok plan)) : claims? L W call = some plan.claims := by
  rcases preflight_returns ended with ⟨_, own, all, held⟩ | ⟨_, _, other, _⟩
  · obtain rfl := Except.ok.inj own
    rcases preflight_cache L W call cache with ⟨_, same⟩ | ⟨claims, verified, context, _⟩
    · obtain ⟨_, _, verified⟩ := all.context.verified
      have unseen := all.unseen
      rw [same] at held
      rw [live_of_some held, if_pos verified.live] at unseen
      cases unseen
    · rw [← context.unique all.context]
      exact claims?_eq_some.mpr verified
  · cases other

/-- One process that has been shown the sample ticket twice. -/
theorem shownTwice : ∃ (f : Fleet ticketLibraries (fun _ => .nan)) (s : Server) (last first : Entry),
    Reachable ticketLibraries f ∧ DistinctIds f ∧ f.tickets.length = 1 ∧ s ∈ f.processes ∧ Forward s ∧ history s = [last, first] ∧
      claims? ticketLibraries last.surroundings last.call = some sampleClaims ∧
      claims? ticketLibraries first.surroundings first.call = some sampleClaims := by
  obtain ⟨payload, written⟩ := sampleClaims_written
  obtain ⟨plan, ended⟩ := samplePlan written
  let call := (sampleArguments payload).call sampleCall.cfg
  let one : Job := ⟨sampleKeys, call, stageAfter (preflight ticketLibraries sampleKeys call .fresh)⟩
  let s : Server := ⟨(preflight ticketLibraries sampleKeys call .fresh).cache, 5, [one]⟩
  let two : Job := ⟨sampleKeys, call, stageAfter (preflight ticketLibraries sampleKeys call s.cache)⟩
  let s' : Server := ⟨(preflight ticketLibraries sampleKeys call s.cache).cache, 5, [two, one]⟩
  have served : FleetStep ticketLibraries (sampleFleet written) ⟨[sampleTicket written], [s]⟩ :=
    .serve (i := 0) rfl (.arrive sampleKeys call) fun job taken => sampleCall_genuine written (by rw [List.mem_singleton.mp taken])
  have again : FleetStep ticketLibraries ⟨[sampleTicket written], [s]⟩ ⟨[sampleTicket written], [s']⟩ := by
    refine .serve (i := 0) (s := s) rfl (.arrive sampleKeys call) fun job taken => sampleCall_genuine written ?_
    rcases List.mem_cons.mp taken with rfl | older
    · rfl
    · rw [List.mem_singleton.mp older]
  have shown : claims? ticketLibraries sampleKeys call = some sampleClaims := by
    have own := ((samplePresents written).context_iff rfl sampleCall.cfg).mp (context_of_claims (claims_of_plan ended))
    rw [claims_of_plan ended, own.1]
    rfl
  have forward : Forward s' := List.pairwise_pair.mpr le_rfl
  exact ⟨_, s', _, _, ((sampleFleet_reachable written).tail served).tail again, List.nodup_singleton _, rfl,
    List.mem_singleton_self _, forward, rfl, shown, shown⟩

/-- The second call with the ticket is refused as a replay, the first is not. -/
theorem spent_iff_twice : ∃ (s : Server) (last first : Entry),
    history s = [last, first] ∧ last.replayed = true ∧ ¬ first.replayed = true := by
  obtain ⟨f, s, last, first, reachable, unique, _, running, forward, split, shown, shown'⟩ := shownTwice
  refine ⟨s, last, first, split, ?_, ?_⟩
  · exact ((spent_iff ticketLibraries (fun _ => .nan) rfl f reachable unique s running [] [first] last split).2 forward).mpr
      ⟨_, shown, first, List.mem_singleton_self _, shown'⟩
  · rw [(spent_iff ticketLibraries (fun _ => .nan) rfl f reachable unique s running [last] [] first split).1]
    rintro ⟨_, _, remembered⟩
    exact remembered_nil remembered

/-- Two calls leave one entry, which is the sample ticket. -/
theorem memory_bounded_twice : ∃ (s : Server) (last first : Entry), history s = [last, first] ∧
    s.cache.lookup sampleClaims.jti = some sampleClaims.exp ∧ s.cache.seen.keys.length ≤ 1 := by
  obtain ⟨f, s, last, first, reachable, unique, single, running, _, split, shown, _⟩ := shownTwice
  obtain ⟨held, bounded⟩ := memory_bounded ticketLibraries (fun _ => .nan) rfl f reachable unique s running
  refine ⟨s, last, first, split, (held _ _).mpr ⟨sampleClaims, rfl, rfl, ?_⟩, ?_⟩
  · rw [split]
    exact remembered_cons.mpr (.inl shown)
  · calc s.cache.seen.keys.length ≤ _ := bounded [] last [first] split (by rw [shown]; rfl) (by simp)
      _ ≤ f.tickets.length := List.length_filter_le _ _
      _ = 1 := single

end OracleSchema.Serial
