import OracleSchema.Pool

/-!
One undisturbed fetch, from any state of the module. It takes one of five courses
(`fetch_course`): the first attempt is final, or ORA-01017 starts a rebuild, which the
close, the credential file or the pool creation ends, or which leads to a second attempt.
-/
namespace OracleSchema.Rebuilds
open OracleSchema.Errors OracleSchema.Settings OracleSchema.Tools OracleSchema.Pool

def isAttempt : PoolEvent → Bool
  | .attempt _ => true
  | _ => false
def isCreate : PoolEvent → Bool
  | .createPool _ => true
  | _ => false

section
variable {α : Type}

/-- The first attempt raised ORA-01017. -/
def Refused (E : Outcomes α) : Prop := ∃ exc, E.first = .error exc ∧ isAuthError exc = true

/-- The steps of a rebuild in order, up to the first that raises. -/
def rebuild (E : Outcomes α) (m : Module) : Except PyExc Unit := do
  if m.pool.isSome then E.close
  let _ ← E.credential
  E.create

/-- The close of the pool of the module, if it has one. -/
def closing (m : Module) : List PoolEvent :=
  match m.pool with
  | none => []
  | some old => [.close old]

theorem closing_some {m : Module} {old : Nat} (there : m.pool = some old) : closing m = [.close old] := by
  rw [closing, there]

/-- What a fetch on the chosen pool adds to the trace, with its result and the pool that
    the module is left with. -/
inductive Course (chosen : Nat) (limit : Int) (E : Outcomes α) (m : Module) :
    List PoolEvent → Except PyExc (List α × Bool) → Option Nat → Prop
  | handedOn (accepted : ¬ Refused E) :
      Course chosen limit E m [.attempt chosen] (E.first.map (fun rows => fetchBounded rows limit)) m.pool
  | unclosed {old : Nat} {exc : PyExc} (refused : Refused E) (there : m.pool = some old) (close : E.close = .error exc) :
      Course chosen limit E m [.attempt chosen, .close old] (.error exc) m.pool
  | unread {exc : PyExc} (refused : Refused E) (close : m.pool.isSome = true → E.close = .ok ())
      (credential : E.credential = .error exc) :
      Course chosen limit E m (.attempt chosen :: (closing m ++ [.readCredential])) (.error exc) none
  | uncreated {read : CredentialRead} {exc : PyExc} (refused : Refused E) (close : m.pool.isSome = true → E.close = .ok ())
      (credential : E.credential = .ok read) (create : E.create = .error exc) :
      Course chosen limit E m (.attempt chosen :: (closing m ++ [.readCredential, .createPool read])) (.error exc) none
  | retried {read : CredentialRead} (refused : Refused E) (close : m.pool.isSome = true → E.close = .ok ())
      (credential : E.credential = .ok read) (create : E.create = .ok ()) :
      Course chosen limit E m
        (.attempt chosen :: (closing m ++ [.readCredential, .createPool read, .attempt m.created]))
        (E.second.map (fun rows => fetchBounded rows limit)) (some m.created)

theorem retry_course {limit : Int} {E : Outcomes α} {m closed : Module} {chosen : Nat} (refused : Refused E)
    (close : m.pool.isSome = true → E.close = .ok ()) (created : closed.created = m.created) (gone : closed.pool = none)
    (extended : closed.trace = m.trace ++ .attempt chosen :: closing m) :
    ∃ added, (retry limit E closed).2.trace = m.trace ++ added ∧
      Course chosen limit E m added (retry limit E closed).1 (retry limit E closed).2.pool := by
  unfold retry initPool
  cases credential : E.credential with
  | error exc =>
    refine ⟨.attempt chosen :: (closing m ++ [.readCredential]), by simp [extended], ?_⟩
    show Course chosen limit E m _ (.error exc) closed.pool
    rw [gone]
    exact .unread refused close credential
  | ok read =>
    cases create : E.create with
    | error exc =>
      refine ⟨.attempt chosen :: (closing m ++ [.readCredential, .createPool read]), by simp [extended], ?_⟩
      show Course chosen limit E m _ (.error exc) closed.pool
      rw [gone]
      exact .uncreated refused close credential create
    | ok _ =>
      refine ⟨.attempt chosen :: (closing m ++ [.readCredential, .createPool read, .attempt m.created]),
        by simp [requirePool, fetchOnce, extended, created], ?_⟩
      show Course chosen limit E m _ (E.second.map (fun rows => fetchBounded rows limit)) (some closed.created)
      rw [created]
      exact .retried refused close credential create

/-- The courses of a fetch. -/
theorem fetch_course {injected : Option Nat} {chosen : Nat} {m : Module} (chose : choosePool injected m = .ok chosen)
    (limit : Int) (E : Outcomes α) : ∃ added, (fetch injected limit E m).2.trace = m.trace ++ added ∧
      Course chosen limit E m added (fetch injected limit E m).1 (fetch injected limit E m).2.pool := by
  have accepts : ¬ Refused E → E.first.map (fun rows => fetchBounded rows limit) = (fetch injected limit E m).1 ∧
      (fetch injected limit E m).2 = { m with trace := m.trace ++ [.attempt chosen] } := by
    intro accepted
    unfold fetch fetchOnce
    rw [chose]
    cases first : E.first with
    | ok rows => exact ⟨rfl, rfl⟩
    | error exc =>
      have other : ¬ isAuthError exc = true := fun auth => accepted ⟨exc, first, auth⟩
      simp [Except.map, other]
  by_cases refused : Refused E
  · obtain ⟨exc, first, auth⟩ := id refused
    have rebuilds : fetch injected limit E m =
        rebuildAndRetry limit E { m with trace := m.trace ++ [.attempt chosen] } := by
      unfold fetch fetchOnce
      simp [chose, first, Except.map, auth]
    rw [rebuilds]
    unfold rebuildAndRetry closePool
    cases there : m.pool with
    | none =>
      have nothing : closing m = [] := by rw [closing, there]
      exact retry_course refused (by simp [there]) rfl rfl (by simp [nothing])
    | some old =>
      cases close : E.close with
      | error exc' =>
        refine ⟨[.attempt chosen, .close old], by simp, ?_⟩
        show Course chosen limit E m _ (.error exc') (some old)
        rw [← there]
        exact .unclosed refused there close
      | ok _ => exact retry_course refused (fun _ => close) rfl rfl (by simp [closing_some there])
  · obtain ⟨result, module⟩ := accepts refused
    refine ⟨[.attempt chosen], by rw [module], ?_⟩
    rw [← result, module]
    exact .handedOn refused

/-! ### The protocol -/

/-- At most two attempts and one rebuild, in the documented order. -/
structure OneRebuild (chosen : Nat) (limit : Int) (E : Outcomes α) (m : Module) (added : List PoolEvent)
    (result : Except PyExc (List α × Bool)) (pool : Option Nat) : Prop where
  attempts : added.countP isAttempt ≤ 2
  creates : added.countP isCreate ≤ 1
  /-- Without ORA-01017 there is one attempt, and its result or exception is handed on. -/
  handedOn : ¬ Refused E →
    added = [.attempt chosen] ∧ pool = m.pool ∧ result = E.first.map (fun rows => fetchBounded rows limit)
  /-- The credential is read after the old pool has been closed. -/
  closesFirst : .readCredential ∈ added → (m.pool.isSome = true → E.close = .ok ()) ∧
    ∃ rest, added = .attempt chosen :: (closing m ++ .readCredential :: rest)
  /-- A pool is created with the credential just read. -/
  readsFirst : ∀ read, .createPool read ∈ added → E.credential = .ok read ∧
    ∃ rest, added = .attempt chosen :: (closing m ++ .readCredential :: .createPool read :: rest)
  /-- An exception of the rebuild is final. -/
  fails : Refused E → ∀ exc, rebuild E m = .error exc → result = .error exc ∧ added.countP isAttempt = 1
  /-- After a rebuild the second attempt is on the new pool, and final. -/
  retries : Refused E → rebuild E m = .ok () →
    pool = some m.created ∧ result = E.second.map (fun rows => fetchBounded rows limit) ∧
      ∃ read, added = .attempt chosen :: (closing m ++ [.readCredential, .createPool read, .attempt m.created])

theorem closing_count (m : Module) (kind : PoolEvent → Bool) (other : ∀ pool, kind (.close pool) = false) :
    (closing m).countP kind = 0 := by
  rw [List.countP_eq_zero]
  intro event member
  unfold closing at member
  cases there : m.pool with
  | none =>
    rw [there] at member
    cases member
  | some old =>
    rw [there] at member
    obtain rfl := List.mem_singleton.mp member
    simp [other]

theorem createPool_not_mem_closing (m : Module) (read : CredentialRead) : .createPool read ∉ closing m := by
  unfold closing
  cases m.pool with
  | none => simp
  | some old => simp

/-- A rebuild raises what its first failing step raises. -/
theorem rebuild_closed {E : Outcomes α} {m : Module} (close : m.pool.isSome = true → E.close = .ok ()) :
    rebuild E m = (do let _ ← E.credential; E.create) := by
  unfold rebuild
  cases there : m.pool with
  | none => rfl
  | some old =>
    rw [close (by rw [there]; rfl)]
    rfl

/-- A rebuild that has read the credential file, by what comes after the read. -/
theorem oneRebuild_of_read {chosen : Nat} {limit : Int} {E : Outcomes α} {m : Module} {rest : List PoolEvent}
    {result : Except PyExc (List α × Bool)} {pool : Option Nat} (refused : Refused E)
    (close : m.pool.isSome = true → E.close = .ok ()) (attempts : rest.countP isAttempt ≤ 1) (creates : rest.countP isCreate ≤ 1)
    (readsFirst : ∀ read, .createPool read ∈ rest → E.credential = .ok read ∧ ∃ more, rest = .createPool read :: more)
    (fails : ∀ exc, rebuild E m = .error exc → result = .error exc ∧ rest.countP isAttempt = 0)
    (retries : rebuild E m = .ok () → pool = some m.created ∧ result = E.second.map (fun rows => fetchBounded rows limit) ∧
      ∃ read, rest = [.createPool read, .attempt m.created]) :
    OneRebuild chosen limit E m (.attempt chosen :: (closing m ++ .readCredential :: rest)) result pool := by
  have attemptless := closing_count m isAttempt fun _ => rfl
  have createless := closing_count m isCreate fun _ => rfl
  have onlyRest : (PoolEvent.attempt chosen :: (closing m ++ .readCredential :: rest)).countP isAttempt =
      rest.countP isAttempt + 1 := by
    simp [List.countP_cons, List.countP_append, attemptless, isAttempt]
  refine ⟨?_, ?_, fun accepted => absurd refused accepted, fun _ => ⟨close, rest, rfl⟩, fun read member => ?_,
    fun _ exc same => ?_, fun _ same => ?_⟩
  · omega
  · simpa [List.countP_cons, List.countP_append, createless, isCreate] using creates
  · obtain ⟨credential, more, rfl⟩ := readsFirst read (by simpa [createPool_not_mem_closing] using member)
    exact ⟨credential, more, rfl⟩
  · obtain ⟨final, none⟩ := fails exc same
    exact ⟨final, by omega⟩
  · obtain ⟨isNew, final, read, rfl⟩ := retries same
    exact ⟨isNew, final, read, rfl⟩

theorem Course.oneRebuild {chosen : Nat} {limit : Int} {E : Outcomes α} {m : Module} {added : List PoolEvent}
    {result : Except PyExc (List α × Bool)} {pool : Option Nat} (course : Course chosen limit E m added result pool) :
    OneRebuild chosen limit E m added result pool := by
  cases course with
  | handedOn accepted =>
    refine ⟨by simp [isAttempt], by simp [isCreate], fun _ => ⟨rfl, rfl, rfl⟩, by simp, by simp, ?_, ?_⟩
    · exact fun refused => absurd refused accepted
    · exact fun refused => absurd refused accepted
  | @unclosed old exc refused there close =>
    have raises : rebuild E m = .error exc := by
      unfold rebuild
      rw [there, close]
      rfl
    refine ⟨by simp [isAttempt, List.countP_cons], by simp [isCreate], fun accepted => absurd refused accepted,
      by simp, by simp, fun _ exc' same => ?_, fun _ same => ?_⟩
    · cases raises.symm.trans same
      exact ⟨rfl, by simp [isAttempt, List.countP_cons]⟩
    · cases raises.symm.trans same
  | @unread exc refused close credential =>
    have raises : rebuild E m = .error exc := by
      rw [rebuild_closed close, credential]
      rfl
    refine oneRebuild_of_read refused close (by simp) (by simp) (by simp) (fun exc' same => ?_) (fun same => ?_)
    · cases raises.symm.trans same
      exact ⟨rfl, rfl⟩
    · cases raises.symm.trans same
  | @uncreated read exc refused close credential create =>
    have raises : rebuild E m = .error exc := by
      rw [rebuild_closed close, credential]
      exact create
    refine oneRebuild_of_read refused close (by simp [isAttempt]) (by simp [isCreate]) (fun read' member => ?_)
      (fun exc' same => ?_) (fun same => ?_)
    · obtain rfl : read' = read := by simpa using member
      exact ⟨credential, [], rfl⟩
    · cases raises.symm.trans same
      exact ⟨rfl, rfl⟩
    · cases raises.symm.trans same
  | @retried read refused close credential create =>
    have succeeds : rebuild E m = .ok () := by
      rw [rebuild_closed close, credential]
      exact create
    refine oneRebuild_of_read refused close (by simp [List.countP_cons, isAttempt]) (by simp [List.countP_cons, isCreate])
      (fun read' member => ?_) (fun exc' same => ?_) (fun _ => ⟨rfl, rfl, read, rfl⟩)
    · obtain rfl : read' = read := by simpa using member
      exact ⟨credential, _, rfl⟩
    · cases succeeds.symm.trans same

/-- A fetch takes the given pool, or else the one of the module. -/
theorem choosePool_some {injected : Option Nat} {m : Module} {chosen : Nat} (there : (injected <|> m.pool) = some chosen) :
    choosePool injected m = .ok chosen := by
  cases injected with
  | some pool =>
    obtain rfl := Option.some.inj there
    rfl
  | none =>
    have own : m.pool = some chosen := there
    unfold choosePool requirePool
    rw [own]

theorem choosePool_none {injected : Option Nat} {m : Module} (gone : (injected <|> m.pool) = none) :
    ∃ exc, choosePool injected m = .error exc := by
  cases injected with
  | some pool => cases gone
  | none =>
    have own : m.pool = none := gone
    unfold choosePool requirePool
    rw [own]
    exact ⟨_, rfl⟩
end

/-- A fetch has no pool and does nothing, or it attempts the query on the given pool or
    the one of the module and rebuilds at most once. -/
theorem fetch_one_rebuild {α : Type} (injected : Option Nat) (limit : Int) (E : Outcomes α) (m : Module) :
    ((injected <|> m.pool) = none ∧ ∃ exc, fetch injected limit E m = (.error exc, m)) ∨
      ∃ chosen added, (injected <|> m.pool) = some chosen ∧ (fetch injected limit E m).2.trace = m.trace ++ added ∧
        OneRebuild chosen limit E m added (fetch injected limit E m).1 (fetch injected limit E m).2.pool := by
  cases there : injected <|> m.pool with
  | none =>
    obtain ⟨exc, chooses⟩ := choosePool_none there
    refine .inl ⟨rfl, exc, ?_⟩
    unfold fetch
    rw [chooses]
  | some chosen =>
    obtain ⟨added, extended, course⟩ := fetch_course (choosePool_some there) limit E
    exact .inr ⟨chosen, added, rfl, extended, course.oneRebuild⟩

end OracleSchema.Rebuilds
