import OracleSchema.Settings
import OracleSchema.Tools

/-!
The metadata pool of the process and one fetch after another: `init_pool`,
`close_pool` and `fetch` with its single rebuild after ORA-01017. What the driver and
the credential file answer is given for each call. `pool_survives_iff` says after
which runs the pool is still there.
-/
namespace OracleSchema.Pool
open OracleSchema.Strings OracleSchema.Errors OracleSchema.Settings OracleSchema.Tools

inductive PoolEvent
  | attempt (pool : Nat)
  | close (pool : Nat)
  | readCredential
  | createPool (credential : CredentialRead)

/-- The module: its `_pool`, the number of pools created so far, which numbers the
    next one, and what has been done. -/
structure Module where
  pool : Option Nat
  created : Nat
  trace : List PoolEvent

/-- What the outside answers to one fetch; `first` and `second` are the rows of the
    query, or what `_fetch_once` raises. -/
structure Outcomes (α : Type) where
  first : Except PyExc (List α)
  close : Except PyExc Unit
  credential : Except PyExc CredentialRead
  create : Except PyExc Unit
  second : Except PyExc (List α)

section
variable {α : Type}

/-- `init_pool`. -/
def initPool (credential : Except PyExc CredentialRead) (create : Except PyExc Unit) (m : Module) :
    Except PyExc Unit × Module :=
  match credential with
  | .error exc => (.error exc, { m with trace := m.trace ++ [.readCredential] })
  | .ok read =>
    match create with
    | .error exc => (.error exc, { m with trace := m.trace ++ [.readCredential, .createPool read] })
    | .ok () => (.ok (), ⟨some m.created, m.created + 1, m.trace ++ [.readCredential, .createPool read]⟩)

/-- `close_pool`. -/
def closePool (close : Except PyExc Unit) (m : Module) : Except PyExc Unit × Module :=
  match m.pool with
  | none => (.ok (), m)
  | some pool =>
    match close with
    | .error exc => (.error exc, { m with trace := m.trace ++ [.close pool] })
    | .ok () => (.ok (), { m with pool := none, trace := m.trace ++ [.close pool] })

/-- `_require_pool`. -/
def requirePool (m : Module) : Except PyExc Nat :=
  match m.pool with
  | none => .error (.ofText .RuntimeError (lit "oracle pool not initialised; call init_pool(cfg) at startup"))
  | some pool => .ok pool

/-- `_fetch_once`. -/
def fetchOnce (pool : Nat) (answer : Except PyExc (List α)) (limit : Int) (m : Module) :
    Except PyExc (List α × Bool) × Module :=
  (answer.map (fun rows => fetchBounded rows limit), { m with trace := m.trace ++ [.attempt pool] })

/-- `init_pool` and the second attempt of `fetch`. -/
def retry (limit : Int) (E : Outcomes α) (m : Module) : Except PyExc (List α × Bool) × Module :=
  match initPool E.credential E.create m with
  | (.error exc, failed) => (.error exc, failed)
  | (.ok (), rebuilt) =>
    match requirePool rebuilt with
    | .error exc => (.error exc, rebuilt)
    | .ok pool => fetchOnce pool E.second limit rebuilt

/-- What `fetch` does after the first attempt raised ORA-01017. -/
def rebuildAndRetry (limit : Int) (E : Outcomes α) (m : Module) : Except PyExc (List α × Bool) × Module :=
  match closePool E.close m with
  | (.error exc, closing) => (.error exc, closing)
  | (.ok (), closed) => retry limit E closed

/-- The pool of the first attempt; `injected` is the `_pool` argument of `fetch`. -/
def choosePool (injected : Option Nat) (m : Module) : Except PyExc Nat :=
  match injected with
  | some pool => .ok pool
  | none => requirePool m

/-- `fetch`. -/
def fetch (injected : Option Nat) (limit : Int) (E : Outcomes α) (m : Module) : Except PyExc (List α × Bool) × Module :=
  match choosePool injected m with
  | .error exc => (.error exc, m)
  | .ok pool =>
    match fetchOnce pool E.first limit m with
    | (.ok result, later) => (.ok result, later)
    | (.error exc, later) => if isAuthError exc then rebuildAndRetry limit E later else (.error exc, later)
end

/-! ### Runs -/

/-- The module after a successful `init_pool` at startup. -/
def started (credential : CredentialRead) : Module := (initPool (.ok credential) (.ok ()) ⟨none, 0, []⟩).2

structure FetchCall (α : Type) where
  injected : Option Nat
  limit : Int
  outcomes : Outcomes α

section
variable {α : Type}

def FetchCall.perform (call : FetchCall α) (m : Module) : Except PyExc (List α × Bool) × Module :=
  fetch call.injected call.limit call.outcomes m

def after (credential : CredentialRead) (calls : List (FetchCall α)) : Module :=
  calls.foldl (fun m call => (call.perform m).2) (started credential)

/-- If the first attempt raises ORA-01017 and the close succeeds, so do the credential
    read and the pool creation. -/
def KeepsPool (E : Outcomes α) : Prop :=
  (∃ exc, E.first = .error exc ∧ isAuthError exc = true) → E.close = .ok () →
    (∃ read, E.credential = .ok read) ∧ E.create = .ok ()

/-- The credential file is valid, creation succeeds, and the database accepts the credential:
    the query has these rows wherever it is answered. -/
structure Accepted (E : Outcomes α) (rows : List α) : Prop where
  readable : ∃ read, E.credential = .ok read
  creatable : E.create = .ok ()
  first : ∀ answer, E.first = .ok answer → answer = rows
  second : E.second = .ok rows

/-- The first attempt succeeds, or it raises ORA-01017 and the pool closes. -/
def Recovers (E : Outcomes α) : Prop :=
  (∃ answer, E.first = .ok answer) ∨ (∃ exc, E.first = .error exc ∧ isAuthError exc = true) ∧ E.close = .ok ()

theorem choosePool_ok {m : Module} {pool : Nat} (there : m.pool = some pool) (injected : Option Nat) :
    ∃ chosen, choosePool injected m = .ok chosen := by
  cases injected with
  | none => exact ⟨pool, by simp [choosePool, requirePool, there]⟩
  | some given => exact ⟨given, rfl⟩

/-- Without a pool every fetch raises, and nothing changes. -/
theorem perform_none {m : Module} (gone : m.pool = none) {call : FetchCall α} (own : call.injected = none) :
    (∃ exc, (call.perform m).1 = .error exc) ∧ (call.perform m).2 = m := by
  simp [FetchCall.perform, fetch, choosePool, requirePool, gone, own]

/-- With a pool in place, a fetch leaves one in place exactly when it keeps it. -/
theorem perform_isSome {m : Module} {pool : Nat} (there : m.pool = some pool) (call : FetchCall α) :
    (call.perform m).2.pool.isSome = true ↔ KeepsPool call.outcomes := by
  obtain ⟨chosen, chose⟩ := choosePool_ok there call.injected
  unfold FetchCall.perform fetch KeepsPool fetchOnce
  simp only [chose]
  cases call.outcomes.first with
  | ok rows => simp [Except.map, there]
  | error exc =>
    by_cases auth : isAuthError exc = true
    · simp only [Except.map, auth, if_true, rebuildAndRetry, closePool, there]
      cases call.outcomes.close with
      | error exc' => simp
      | ok closed =>
        simp only [retry, initPool]
        cases call.outcomes.credential with
        | error exc' => simp [auth]
        | ok read =>
          cases call.outcomes.create with
          | error exc' => simp [auth]
          | ok created => simp [requirePool, fetchOnce]
    · simp [Except.map, auth, there]

/-- With a pool in place, a fetch whose credential the database accepts returns the rows
    exactly if it recovers from its first attempt. -/
theorem perform_returns {m : Module} {pool : Nat} (there : m.pool = some pool) {call : FetchCall α} {rows : List α}
    (accepted : Accepted call.outcomes rows) :
    (call.perform m).1 = .ok (fetchBounded rows call.limit) ↔ Recovers call.outcomes := by
  obtain ⟨chosen, chose⟩ := choosePool_ok there call.injected
  obtain ⟨read, readable⟩ := accepted.readable
  unfold FetchCall.perform fetch fetchOnce Recovers
  simp only [chose]
  cases first : call.outcomes.first with
  | ok answer =>
    obtain rfl := accepted.first answer first
    simp [Except.map]
  | error exc =>
    by_cases auth : isAuthError exc = true
    · simp only [Except.map, auth, if_true, rebuildAndRetry, closePool, there]
      cases call.outcomes.close with
      | error exc' => simp
      | ok closed =>
        simp [retry, initPool, readable, accepted.creatable, requirePool, fetchOnce, accepted.second, Except.map, auth]
    · simp [Except.map, auth]

theorem after_concat (credential : CredentialRead) (calls : List (FetchCall α)) (call : FetchCall α) :
    after credential (calls ++ [call]) = (call.perform (after credential calls)).2 := by
  simp [after]

/-- Calls that keep the pool leave it in place. -/
theorem after_kept (credential : CredentialRead) {calls : List (FetchCall α)}
    (keep : ∀ call ∈ calls, KeepsPool call.outcomes) : (after credential calls).pool.isSome = true := by
  induction calls using List.reverseRecOn with
  | nil => rfl
  | append_singleton calls call ih =>
    have before := ih fun other member => keep other (List.mem_append_left _ member)
    obtain ⟨pool, there⟩ := Option.isSome_iff_exists.mp before
    rw [after_concat, perform_isSome there]
    exact keep call (by simp)

/-- A call that does not keep the pool loses it for good. -/
theorem after_lost (credential : CredentialRead) {calls : List (FetchCall α)} (own : ∀ call ∈ calls, call.injected = none)
    {call : FetchCall α} (member : call ∈ calls) (loses : ¬ KeepsPool call.outcomes) :
    (after credential calls).pool = none := by
  induction calls using List.reverseRecOn with
  | nil => cases member
  | append_singleton calls last ih =>
    rw [after_concat]
    cases before : (after credential calls).pool with
    | none => rw [(perform_none before (own last (by simp))).2, before]
    | some pool =>
      rcases List.mem_append.mp member with early | same
      · rw [ih (fun other inCalls => own other (List.mem_append_left _ inCalls)) early] at before
        cases before
      · obtain rfl := List.mem_singleton.mp same
        have gone := (perform_isSome before call).not.mpr loses
        simpa using gone

/-- If every fetch of a run keeps the pool, it is there after the run, and a fetch whose
    credential the database then accepts returns its rows exactly if it recovers from its own
    first attempt. If one does not keep it, the pool is gone and every later fetch raises. -/
theorem pool_survives_iff (credential : CredentialRead) (calls : List (FetchCall α)) :
    ((∀ call ∈ calls, KeepsPool call.outcomes) →
      (after credential calls).pool ≠ none ∧ ∀ later : FetchCall α, ∀ rows, Accepted later.outcomes rows →
        ((later.perform (after credential calls)).1 = .ok (fetchBounded rows later.limit) ↔ Recovers later.outcomes)) ∧
    ((∀ call ∈ calls, call.injected = none) → (∃ call ∈ calls, ¬ KeepsPool call.outcomes) →
      (after credential calls).pool = none ∧ ∀ later : FetchCall α, later.injected = none →
        ∃ exc, (later.perform (after credential calls)).1 = .error exc) := by
  constructor
  · intro keep
    obtain ⟨pool, there⟩ := Option.isSome_iff_exists.mp (after_kept credential keep)
    refine ⟨by simp [there], fun later rows accepted => perform_returns there accepted⟩
  · rintro own ⟨call, member, loses⟩
    have gone := after_lost credential own member loses
    exact ⟨gone, fun later injectsNone => (perform_none gone injectsNone).1⟩

/-- ORA-01017, as the driver raises it. -/
def passwordRefused : PyExc := ⟨.Sub (lit "DatabaseError") .Exception, [⟨lit "ORA-01017", some (lit "ORA-01017")⟩]⟩

/-- A fetch on a pool with an old password, when the credential file reads like this. -/
def rotation (credential : Except PyExc CredentialRead) : FetchCall Nat where
  injected := none
  limit := 2
  outcomes := ⟨.error passwordRefused, .ok (), credential, .ok (), .ok [1, 2, 3]⟩

/-- A rotation whose rebuild succeeds leaves the pool for the next one. -/
theorem pool_survives_iff_rotated :
    ((rotation (.ok ⟨lit "newer", lit "u"⟩)).perform (after ⟨lit "old", lit "s"⟩ [rotation (.ok ⟨lit "new", lit "t"⟩)])).1 =
      .ok ([1, 2], true) := by
  have keeps : KeepsPool (rotation (.ok ⟨lit "new", lit "t"⟩)).outcomes := fun _ _ => ⟨⟨_, rfl⟩, rfl⟩
  have kept := (pool_survives_iff ⟨lit "old", lit "s"⟩ [rotation (.ok ⟨lit "new", lit "t"⟩)]).1 (by simpa using keeps)
  refine (kept.2 (rotation (.ok ⟨lit "newer", lit "u"⟩)) [1, 2, 3] ⟨⟨_, rfl⟩, rfl, fun _ answered => ?_, rfl⟩).mpr
    (.inr ⟨⟨passwordRefused, rfl, rfl⟩, rfl⟩)
  cases answered

/-- The credential file cannot be read while the password is rotated, and after that it can. -/
theorem failedRotation_loses_pool :
    let failed := rotation (.error (.ofText .CredentialFileError (lit "credential file unreadable")))
    let later := rotation (.ok ⟨lit "new", lit "t"⟩)
    (after ⟨lit "old", lit "s"⟩ [failed]).pool = none ∧ Accepted later.outcomes [1, 2, 3] ∧ Recovers later.outcomes ∧
      (later.perform (after ⟨lit "old", lit "s"⟩ [failed])).1 ≠ .ok ([1, 2], true) := by
  refine ⟨rfl, ⟨⟨_, rfl⟩, rfl, fun _ answered => ?_, rfl⟩, .inr ⟨⟨passwordRefused, rfl, rfl⟩, rfl⟩, fun returned => ?_⟩
  · cases answered
  · cases returned

end
end OracleSchema.Pool
