import OracleSchema.Ledgers
import OracleSchema.Pool
import OracleSchema.Runs

/-!
Concurrent fetches and the shutdown of the lifespan on one event loop. What a task
does between two awaits is one step; the tasks interleave at their awaits. A fetch of
`Pool` is a run in which nothing interleaves (`fetch_path`). The pools make a ledger
(`step_ledger`), and `pools_safe_iff` says which runs lose no pool and close none twice.
-/
namespace OracleSchema.PoolTasks
open OracleSchema.Strings OracleSchema.Errors OracleSchema.Settings OracleSchema.Tools OracleSchema.Ledgers OracleSchema.Runs
  OracleSchema.Pool

inductive Round
  | first | second

section
variable (α : Type)

/-- The awaits of `_fetch_once`; the connection is released whatever happened before. -/
inductive AwaitPoint
  | acquire | execute | fetchmany
  | release (pending : Except PyExc (List α))

/-- What follows the `await _pool.close()` of a task. -/
inductive AfterClose
  | rebuild (limit : Int)
  | shutdown

/-- A task, by the await in which it is suspended or the way it ended. -/
inductive Task
  | attempting (round : Round) (limit : Int) (pool : Nat) (point : AwaitPoint α)
  | closing (next : AfterClose) (pool : Nat)
  | returned (outcome : Except PyExc (List α × Bool))
  | shutDown (outcome : Except PyExc Unit)

/-- The module with its tasks, and the pools whose `close()` has returned or raised. -/
structure World where
  module : Module
  closed : List Nat
  raised : List Nat
  tasks : List (Task α)

/-- A new fetch, the shutdown, or the end of the await of task `t`: what it gives or
    raises, and what the credential file and the pool creation answer if the task
    then rebuilds. -/
inductive Action
  | spawn (injected : Option Nat) (limit : Int)
  | shutdown
  | resume (t : Nat) (result : Except PyExc (List α)) (credential : Except PyExc CredentialRead)
      (create : Except PyExc Unit)
end

variable {α : Type}

/-- The outcome of the attempt, if the await was its last one. -/
def attemptOutcome (result : Except PyExc (List α)) : AwaitPoint α → Option (Except PyExc (List α))
  | .acquire =>
    match result with
    | .ok _ => none
    | .error exc => some (.error exc)
  | .execute => none
  | .fetchmany => none
  | .release pending =>
    match result with
    | .ok _ => some pending
    | .error exc => some (.error exc)

/-- The next await of the attempt. -/
def nextPoint (result : Except PyExc (List α)) : AwaitPoint α → AwaitPoint α
  | .acquire => .execute
  | .execute =>
    match result with
    | .ok _ => .fetchmany
    | .error exc => .release (.error exc)
  | .fetchmany => .release result
  | .release pending => .release pending

def begin (round : Round) (limit : Int) (pool : Nat) (m : Module) : Module × Task α :=
  ({ m with trace := m.trace ++ [.attempt pool] }, .attempting round limit pool .acquire)

/-- `init_pool` and the start of the second attempt. -/
def rebuild (limit : Int) (credential : Except PyExc CredentialRead) (create : Except PyExc Unit) (m : Module) :
    Module × Task α :=
  match initPool credential create m with
  | (.error exc, failed) => (failed, .returned (.error exc))
  | (.ok (), rebuilt) =>
    match requirePool rebuilt with
    | .error exc => (rebuilt, .returned (.error exc))
    | .ok pool => begin .second limit pool rebuilt

/-- The first half of `close_pool`: the call of `close()`, if there is a pool. -/
def enterClose (next : AfterClose) (m : Module) : Option (Module × Task α) :=
  m.pool.map (fun pool => ({ m with trace := m.trace ++ [.close pool] }, .closing next pool))

/-- What a fetch does when an attempt ends. -/
def endAttempt (round : Round) (limit : Int) (outcome : Except PyExc (List α))
    (credential : Except PyExc CredentialRead) (create : Except PyExc Unit) (m : Module) : Module × Task α :=
  match outcome with
  | .ok rows => (m, .returned (.ok (fetchBounded rows limit)))
  | .error exc =>
    match round with
    | .second => (m, .returned (.error exc))
    | .first =>
      if isAuthError exc then (enterClose (.rebuild limit) m).getD (rebuild limit credential create m)
      else (m, .returned (.error exc))

/-- The second half of `close_pool` and what follows it. -/
def endClose (next : AfterClose) (credential : Except PyExc CredentialRead) (create : Except PyExc Unit)
    (m : Module) : Module × Task α :=
  match next with
  | .rebuild limit => rebuild limit credential create { m with pool := none }
  | .shutdown => ({ m with pool := none }, .shutDown (.ok ()))

def failClose (exc : PyExc) : AfterClose → Task α
  | .rebuild _ => .returned (.error exc)
  | .shutdown => .shutDown (.error exc)

def step : Action α → World α → Option (World α)
  | .spawn injected limit, s =>
    match choosePool injected s.module with
    | .error exc => some { s with tasks := s.tasks ++ [.returned (.error exc)] }
    | .ok pool =>
      let begun := begin .first limit pool s.module
      some { s with module := begun.1, tasks := s.tasks ++ [begun.2] }
  | .shutdown, s =>
    let entered := (enterClose .shutdown s.module).getD (s.module, .shutDown (.ok ()))
    some { s with module := entered.1, tasks := s.tasks ++ [entered.2] }
  | .resume t result credential create, s =>
    match s.tasks[t]? with
    | some (.attempting round limit pool point) =>
      match attemptOutcome result point with
      | none => some { s with tasks := s.tasks.set t (.attempting round limit pool (nextPoint result point)) }
      | some outcome =>
        let ended := endAttempt round limit outcome credential create s.module
        some { s with module := ended.1, tasks := s.tasks.set t ended.2 }
    | some (.closing next pool) =>
      match result with
      | .error exc => some { s with raised := pool :: s.raised, tasks := s.tasks.set t (failClose exc next) }
      | .ok _ =>
        let ended := endClose next credential create s.module
        some { s with module := ended.1, closed := pool :: s.closed, tasks := s.tasks.set t ended.2 }
    | _ => none

/-- The server after its startup, without tasks. -/
def initial (credential : CredentialRead) : World α := ⟨started credential, [], [], []⟩

/-! ### A fetch on its own -/

/-- Task `t` goes on, whatever its await gives. -/
def Goes (t : Nat) (s s' : World α) : Prop :=
  ∃ result credential create, step (.resume t result credential create) s = some s'

/-- The world after its newest task has gone on; `front` are the other tasks. -/
def World.become (s : World α) (front : List (Task α)) (next : Module × Task α) : World α :=
  { s with module := next.1, tasks := front ++ [next.2] }

section
variable (s : World α) (front : List (Task α)) (m : Module)

/-- An attempt that nothing interrupts ends with its answer. -/
theorem attempt_path (round : Round) (limit : Int) (pool : Nat) (answer : Except PyExc (List α))
    (credential : Except PyExc CredentialRead) (create : Except PyExc Unit) :
    Relation.ReflTransGen (Goes front.length) (s.become front (m, .attempting round limit pool .acquire))
      (s.become front (endAttempt round limit answer credential create m)) := by
  cases answer with
  | error exc =>
    have only : step (.resume front.length (.error exc) credential create)
        (s.become front (m, .attempting round limit pool .acquire)) =
          some (s.become front (endAttempt round limit (.error exc) credential create m)) := by
      simp [step, World.become, attemptOutcome]
    exact .single ⟨_, _, _, only⟩
  | ok rows =>
    have acquired : step (.resume front.length (.ok []) credential create)
        (s.become front (m, .attempting round limit pool .acquire)) =
          some (s.become front (m, .attempting round limit pool .execute)) := by
      simp [step, World.become, attemptOutcome, nextPoint]
    have executed : step (.resume front.length (.ok []) credential create)
        (s.become front (m, .attempting round limit pool .execute)) =
          some (s.become front (m, .attempting round limit pool .fetchmany)) := by
      simp [step, World.become, attemptOutcome, nextPoint]
    have fetched : step (.resume front.length (.ok rows) credential create)
        (s.become front (m, .attempting round limit pool .fetchmany)) =
          some (s.become front (m, .attempting round limit pool (.release (.ok rows)))) := by
      simp [step, World.become, attemptOutcome, nextPoint]
    have released : step (.resume front.length (.ok []) credential create)
        (s.become front (m, .attempting round limit pool (.release (.ok rows)))) =
          some (s.become front (endAttempt round limit (.ok rows) credential create m)) := by
      simp [step, World.become, attemptOutcome]
    exact .tail (.tail (.tail (.single ⟨_, _, _, acquired⟩) ⟨_, _, _, executed⟩) ⟨_, _, _, fetched⟩) ⟨_, _, _, released⟩

/-- From the rebuild on, a task that nothing interrupts does what `retry` does. -/
theorem rebuild_path (limit : Int) (E : Outcomes α) :
    ∃ s', Relation.ReflTransGen (Goes front.length) (s.become front (rebuild limit E.credential E.create m)) s' ∧
      s'.module = (retry limit E m).2 ∧ s'.tasks = front ++ [.returned (retry limit E m).1] := by
  unfold rebuild retry
  cases initPool E.credential E.create m with
  | mk outcome rebuilt =>
    cases outcome with
    | error exc => exact ⟨_, .refl, rfl, rfl⟩
    | ok made =>
      cases required : requirePool rebuilt with
      | error exc =>
        simp only [required]
        exact ⟨_, .refl, rfl, rfl⟩
      | ok pool =>
        simp only [required]
        have path := attempt_path s front { rebuilt with trace := rebuilt.trace ++ [.attempt pool] }
          .second limit pool E.second E.credential E.create
        refine ⟨_, path, ?_, ?_⟩
        · cases E.second <;> rfl
        · cases E.second <;> rfl

/-- A task that is closing the pool and that nothing interrupts does what the rest of
    `rebuildAndRetry` does. -/
theorem close_path (limit : Int) (E : Outcomes α) {pool : Nat} (there : m.pool = some pool) :
    ∃ s', Relation.ReflTransGen (Goes front.length)
        (s.become front ({ m with trace := m.trace ++ [.close pool] }, .closing (.rebuild limit) pool)) s' ∧
      s'.module = (rebuildAndRetry limit E m).2 ∧ s'.tasks = front ++ [.returned (rebuildAndRetry limit E m).1] := by
  obtain ⟨current, created, trace⟩ := m
  obtain rfl : current = some pool := there
  simp only [rebuildAndRetry, closePool]
  cases E.close with
  | error exc =>
    have failed : step (.resume front.length (.error exc) E.credential E.create)
        (s.become front (⟨some pool, created, trace ++ [PoolEvent.close pool]⟩, .closing (.rebuild limit) pool)) =
          some ({ s with raised := pool :: s.raised }.become front
            (⟨some pool, created, trace ++ [PoolEvent.close pool]⟩, .returned (.error exc))) := by
      simp [step, World.become, failClose]
    exact ⟨_, .single ⟨_, _, _, failed⟩, rfl, rfl⟩
  | ok closed =>
    have ended : step (.resume front.length (.ok []) E.credential E.create)
        (s.become front (⟨some pool, created, trace ++ [PoolEvent.close pool]⟩, .closing (.rebuild limit) pool)) =
          some ({ s with closed := pool :: s.closed }.become front
            (rebuild limit E.credential E.create ⟨none, created, trace ++ [PoolEvent.close pool]⟩)) := by
      simp [step, World.become, endClose]
    obtain ⟨s', path, module', tasks'⟩ := rebuild_path { s with closed := pool :: s.closed } front
      ⟨none, created, trace ++ [PoolEvent.close pool]⟩ limit E
    exact ⟨s', path.head ⟨_, _, _, ended⟩, module', tasks'⟩

/-- When its first attempt has ended with an error, a task that nothing interrupts does
    what `fetch` does then. -/
theorem failed_path (limit : Int) (E : Outcomes α) (exc : PyExc) :
    ∃ s', Relation.ReflTransGen (Goes front.length)
        (s.become front (endAttempt .first limit (.error exc) E.credential E.create m)) s' ∧
      s'.module = (if isAuthError exc then rebuildAndRetry limit E m else (.error exc, m)).2 ∧
      s'.tasks = front ++ [.returned (if isAuthError exc then rebuildAndRetry limit E m else (.error exc, m)).1] := by
  unfold endAttempt
  by_cases auth : isAuthError exc = true
  · simp only [auth, if_true]
    cases there : m.pool with
    | none =>
      have closed : closePool E.close m = (.ok (), m) := by simp [closePool, there]
      simpa [enterClose, there, rebuildAndRetry, closed] using rebuild_path s front m limit E
    | some pool => simpa [enterClose, there] using close_path s front m limit E there
  · simp only [auth]
    exact ⟨_, .refl, rfl, rfl⟩
end

/-- Every fetch of `Pool` is a run of its task among idle ones. -/
theorem fetch_path (injected : Option Nat) (limit : Int) (E : Outcomes α) (s : World α) :
    ∃ begun s', step (.spawn injected limit) s = some begun ∧ Relation.ReflTransGen (Goes s.tasks.length) begun s' ∧
      s'.module = (fetch injected limit E s.module).2 ∧
      s'.tasks = s.tasks ++ [.returned (fetch injected limit E s.module).1] := by
  unfold fetch
  cases chosen : choosePool injected s.module with
  | error exc =>
    have spawned : step (.spawn injected limit) s = some { s with tasks := s.tasks ++ [.returned (.error exc)] } := by
      simp [step, chosen]
    exact ⟨_, _, spawned, .refl, rfl, rfl⟩
  | ok pool =>
    let attempted : Module := { s.module with trace := s.module.trace ++ [.attempt pool] }
    have spawned : step (.spawn injected limit) s =
        some (s.become s.tasks (attempted, .attempting .first limit pool .acquire)) := by
      simp [step, chosen, begin, World.become, attempted]
    have path := attempt_path s s.tasks attempted .first limit pool E.first E.credential E.create
    simp only [fetchOnce]
    cases answer : E.first with
    | ok rows =>
      rw [answer] at path
      exact ⟨_, _, spawned, path, rfl, rfl⟩
    | error exc =>
      rw [answer] at path
      obtain ⟨s', rest, module', tasks'⟩ := failed_path s s.tasks attempted limit E exc
      exact ⟨_, s', spawned, path.trans rest, module', tasks'⟩

/-! ### Pools lost and pools closed twice -/

def closeOf : PoolEvent → Option Nat
  | .close pool => some pool
  | _ => none

/-- The pools on which `close()` was called, in this order. -/
def calledIn (trace : List PoolEvent) : List Nat := trace.filterMap closeOf

@[simp]
theorem calledIn_nil : calledIn [] = [] := rfl

@[simp]
theorem calledIn_cons (event : PoolEvent) (trace : List PoolEvent) :
    calledIn (event :: trace) = (closeOf event).toList ++ calledIn trace := by
  cases event <;> rfl

@[simp]
theorem calledIn_append (trace more : List PoolEvent) : calledIn (trace ++ more) = calledIn trace ++ calledIn more := by
  simp [calledIn]

/-- The pool in whose `close()` the task is suspended. -/
def Task.closer : Task α → Option Nat
  | .closing _ pool => some pool
  | _ => none

def Task.Finished : Task α → Prop
  | .returned _ => True
  | .shutDown _ => True
  | _ => False

def World.Open (s : World α) (pool : Nat) : Prop := pool < s.module.created ∧ pool ∉ s.closed

/-- Every pool is current or had `close()` called, no pool had it called twice, and when
    all tasks have finished there is at most one open pool. -/
structure Safe (s : World α) : Prop where
  kept : ∀ pool < s.module.created, s.module.pool = some pool ∨ pool ∈ calledIn s.module.trace
  once : (calledIn s.module.trace).Nodup
  few : (∀ task ∈ s.tasks, task.Finished) → ∀ pool other, s.Open pool → s.Open other → pool = other

/-- The action gets as far as `close_pool`: the shutdown, or a first attempt that ends with ORA-01017. -/
def EntersClose (action : Action α) (s : World α) : Prop :=
  match action with
  | .spawn _ _ => False
  | .shutdown => True
  | .resume t result _ _ => ∃ limit pool point exc, s.tasks[t]? = some (.attempting .first limit pool point) ∧
      attemptOutcome result point = some (.error exc) ∧ isAuthError exc = true

/-- If the action calls `close()`, no task is suspended in one, and none of this pool has raised. -/
def ClosesAlone (action : Action α) (s : World α) : Prop :=
  EntersClose action s → ∀ pool, s.module.pool = some pool →
    (∀ task ∈ s.tasks, task.closer = none) ∧ pool ∉ s.raised

/-! ### The ledger of a world -/

def bookOf (m : Module) (closed raised : List Nat) (tasks : Multiset (Task α)) : Ledger Nat :=
  ⟨m.pool, Finset.range m.created, calledIn m.trace, closed, raised, tasks.filterMap Task.closer⟩

def World.ledger (s : World α) : Ledger Nat := bookOf s.module s.closed s.raised (↑s.tasks : Multiset (Task α))

/-- The invariant of runs that close no pool twice. -/
def Balanced (s : World α) : Prop := Sound s.ledger

theorem mayEnter_iff {s : World α} {pool : Nat} :
    MayEnter (s.ledger) pool ↔ (∀ task ∈ s.tasks, task.closer = none) ∧ pool ∉ s.raised := by
  simp [MayEnter, World.ledger, bookOf, List.filterMap_eq_nil_iff]

theorem balanced_initial (credential : CredentialRead) : Balanced (initial credential : World α) := by
  simpa [Balanced, World.ledger, bookOf, initial, started, initPool, closeOf, Ledger.first] using sound_first 0

theorem safe_of_balanced {s : World α} (sound : Balanced s) : Safe s := by
  have open_current : ∀ pool, s.Open pool → s.module.pool = some pool := by
    rintro pool ⟨made, unclosed⟩
    rcases sound.known pool (Finset.mem_range.mpr made) with current | shut
    · exact current
    · exact absurd shut unclosed
  refine ⟨?_, sound.once, ?_⟩
  · intro pool made
    rcases sound.known pool (Finset.mem_range.mpr made) with current | shut
    · exact .inl current
    · exact .inr (sound.past pool shut).1
  · intro _ pool other poolOpen otherOpen
    have current := open_current pool poolOpen
    rw [open_current other otherOpen] at current
    exact (Option.some.inj current).symm

/-! ### What a step does to the ledger -/

/-- A task among the others, before and after it goes on. -/
theorem tasks_split {tasks : List (Task α)} {t : Nat} {task : Task α} (there : tasks[t]? = some task) :
    ∃ rest : Multiset (Task α), (tasks : Multiset (Task α)) = task ::ₘ rest ∧
      ∀ next, (tasks.set t next : Multiset (Task α)) = next ::ₘ rest := by
  obtain ⟨within, rfl⟩ := List.getElem?_eq_some_iff.mp there
  have split : ∀ next, (tasks.set t next : Multiset (Task α)) = next ::ₘ ↑(tasks.take t ++ tasks.drop (t + 1)) := by
    intro next
    rw [List.set_eq_take_append_cons_drop, if_pos within]
    exact Multiset.coe_eq_coe.mpr List.perm_middle
  refine ⟨_, ?_, split⟩
  rw [← split, List.set_getElem_self]

theorem tasks_concat (tasks : List (Task α)) (task : Task α) :
    (↑(tasks ++ [task]) : Multiset (Task α)) = task ::ₘ ↑tasks :=
  Multiset.coe_eq_coe.mpr (List.perm_append_singleton task tasks)

section
variable {m : Module} {closed raised : List Nat} {rest : Multiset (Task α)}

theorem bookOf_cons {task : Task α} (idle : task.closer = none) :
    bookOf m closed raised (task ::ₘ rest) = bookOf m closed raised rest := by
  simp [bookOf, idle]

theorem bookOf_closing (next : AfterClose) (pool : Nat) :
    bookOf m closed raised (.closing next pool ::ₘ rest) =
      { bookOf m closed raised rest with closers := pool ::ₘ rest.filterMap Task.closer } := by
  simp [bookOf, Task.closer]

/-- Events other than the call of a close are not in the ledger. -/
theorem bookOf_trace {more : List PoolEvent} (silent : calledIn more = []) :
    bookOf { m with trace := m.trace ++ more } closed raised rest = bookOf m closed raised rest := by
  simp [bookOf, silent]

theorem bookOf_enter {pool : Nat} (there : m.pool = some pool) (next : AfterClose) :
    bookOf ⟨some pool, m.created, m.trace ++ [.close pool]⟩ closed raised (.closing next pool ::ₘ rest) =
      (bookOf m closed raised rest).enter pool := by
  simp [bookOf, there, Task.closer, closeOf, Ledger.enter]

variable (m closed raised rest) (limit : Int) (credential : Except PyExc CredentialRead) (create : Except PyExc Unit)

/-- Without a current pool, a rebuild creates one or does nothing. -/
theorem rebuild_ledger {m : Module} (vacant : m.pool = none) :
    Relation.ReflTransGen Move (bookOf m closed raised rest)
      (bookOf (rebuild limit credential create m : Module × Task α).1 closed raised
        ((rebuild limit credential create m).2 ::ₘ rest)) := by
  unfold rebuild initPool
  cases credential with
  | error exc =>
    simp only
    rw [bookOf_cons rfl, bookOf_trace rfl]
  | ok read =>
    cases create with
    | error exc =>
      simp only
      rw [bookOf_cons rfl, bookOf_trace rfl]
    | ok done =>
      have moved := Move.create (l := bookOf m closed raised rest) (p := m.created) vacant (by simp [bookOf])
      simp only [requirePool, begin]
      rw [bookOf_cons rfl]
      apply Relation.ReflTransGen.single
      simpa [bookOf, closeOf, Finset.range_add_one] using moved

/-- What follows an attempt enters the close exactly when a first one ended with ORA-01017. -/
theorem endAttempt_ledger (round : Round) (outcome : Except PyExc (List α)) :
    Turn (round = .first ∧ ∃ exc, outcome = .error exc ∧ isAuthError exc = true) (bookOf m closed raised rest)
      (bookOf (endAttempt round limit outcome credential create m).1 closed raised
        ((endAttempt round limit outcome credential create m).2 ::ₘ rest)) := by
  cases outcome with
  | ok rows =>
    rw [endAttempt, bookOf_cons rfl]
    exact .moves (by simp) .refl
  | error exc =>
    cases round with
    | second =>
      rw [endAttempt, bookOf_cons rfl]
      exact .moves (by simp) .refl
    | first =>
      by_cases auth : isAuthError exc = true
      · cases there : m.pool with
        | none =>
          simp only [endAttempt, auth, if_true, enterClose, there, Option.map_none, Option.getD_none]
          exact .moves (fun _ => there) (rebuild_ledger closed raised rest limit credential create there)
        | some pool =>
          simp only [endAttempt, auth, if_true, enterClose, there, Option.map_some, Option.getD_some]
          rw [bookOf_enter there]
          exact .enter there (by simp [auth])
      · simp only [endAttempt, auth]
        rw [if_neg (by simp), bookOf_cons rfl]
        exact .moves (by simp [auth]) .refl

/-- The return of a `close()` ends it, and the task may then rebuild. -/
theorem endClose_ledger (next : AfterClose) (pool : Nat) :
    Relation.ReflTransGen Move (bookOf m closed raised (.closing next pool ::ₘ rest))
      (bookOf (endClose next credential create m : Module × Task α).1 (pool :: closed) raised
        ((endClose next credential create m).2 ::ₘ rest)) := by
  have finished : Move (bookOf m closed raised (.closing next pool ::ₘ rest))
      (bookOf { m with pool := none } (pool :: closed) raised rest) := by
    rw [bookOf_closing]
    exact .finish rfl
  refine Relation.ReflTransGen.head finished ?_
  cases next with
  | rebuild limit => exact rebuild_ledger (pool :: closed) raised rest limit credential create rfl
  | shutdown =>
    rw [endClose, bookOf_cons rfl]

theorem failClose_ledger (exc : PyExc) (next : AfterClose) (pool : Nat) :
    Relation.ReflTransGen Move (bookOf m closed raised (.closing next pool ::ₘ rest))
      (bookOf m closed (pool :: raised) (failClose exc next ::ₘ rest)) := by
  have idle : (failClose exc next : Task α).closer = none := by cases next <;> rfl
  rw [bookOf_closing, bookOf_cons idle]
  exact .single (.fail rfl)
end

theorem entersClose_attempting {s : World α} {t : Nat} {round : Round} {limit : Int} {pool : Nat} {point : AwaitPoint α}
    (there : s.tasks[t]? = some (.attempting round limit pool point)) (result : Except PyExc (List α))
    (credential : Except PyExc CredentialRead) (create : Except PyExc Unit) :
    EntersClose (.resume t result credential create) s ↔
      round = .first ∧ ∃ exc, attemptOutcome result point = some (.error exc) ∧ isAuthError exc = true := by
  simp only [EntersClose, there]
  constructor
  · rintro ⟨limit', pool', point', exc, same, ended, auth⟩
    cases same
    exact ⟨rfl, exc, ended, auth⟩
  · rintro ⟨rfl, exc, ended, auth⟩
    exact ⟨limit, pool, point, exc, rfl, ended, auth⟩

theorem resume_ledger {t : Nat} {result : Except PyExc (List α)} {credential : Except PyExc CredentialRead}
    {create : Except PyExc Unit} {s s' : World α} (took : step (.resume t result credential create) s = some s') :
    Turn (EntersClose (.resume t result credential create) s) s.ledger s'.ledger := by
  simp only [step] at took
  cases there : s.tasks[t]? with
  | none => simp [there] at took
  | some task =>
    obtain ⟨rest, before, after⟩ := tasks_split there
    simp only [World.ledger, before]
    cases task with
    | attempting round limit pool point =>
      rw [bookOf_cons rfl, entersClose_attempting there]
      cases ends : attemptOutcome result point with
      | none =>
        simp only [there, ends, Option.some.injEq] at took
        subst took
        simp only [after]
        rw [bookOf_cons rfl]
        exact .moves (by simp) .refl
      | some outcome =>
        simp only [there, ends, Option.some.injEq] at took
        subst took
        simp only [after]
        simpa only [Option.some.injEq] using
          endAttempt_ledger s.module s.closed s.raised rest limit credential create round outcome
    | closing next pool =>
      refine .moves (by simp [EntersClose, there]) ?_
      cases result with
      | error exc =>
        simp only [there, Option.some.injEq] at took
        subst took
        simp only [after]
        exact failClose_ledger s.module s.closed s.raised rest exc next pool
      | ok rows =>
        simp only [there, Option.some.injEq] at took
        subst took
        simp only [after]
        exact endClose_ledger s.module s.closed s.raised rest credential create next pool
    | returned outcome => simp [there] at took
    | shutDown outcome => simp [there] at took

/-- A step calls the close of the current pool, or does other moves. -/
theorem step_ledger {action : Action α} {s s' : World α} (took : step action s = some s') :
    Turn (EntersClose action s) s.ledger s'.ledger := by
  cases action with
  | spawn injected limit =>
    refine .moves False.elim ?_
    simp only [step] at took
    cases chosen : choosePool injected s.module with
    | error exc =>
      simp only [chosen, Option.some.injEq] at took
      subst took
      simp only [World.ledger, tasks_concat]
      rw [bookOf_cons rfl]
    | ok pool =>
      simp only [chosen, begin, Option.some.injEq] at took
      subst took
      simp only [World.ledger, tasks_concat]
      rw [bookOf_cons rfl, bookOf_trace rfl]
  | shutdown =>
    simp only [step, Option.some.injEq] at took
    subst took
    simp only [World.ledger, tasks_concat]
    cases there : s.module.pool with
    | none =>
      simp only [enterClose, there, Option.map_none, Option.getD_none]
      rw [bookOf_cons rfl]
      exact .moves (fun _ => there) .refl
    | some pool =>
      simp only [enterClose, there, Option.map_some, Option.getD_some]
      rw [bookOf_enter there]
      exact .enter there trivial
  | resume t result credential create => exact resume_ledger took

/-- Steps that close a pool alone keep the balance, as do those that close none. -/
theorem balanced_step {action : Action α} {s s' : World α} (balanced : Balanced s) (alone : ClosesAlone action s)
    (took : step action s = some s') : Balanced s' :=
  sound_turn balanced (step_ledger took) fun enters pool there => mayEnter_iff.mpr (alone enters pool there)

/-- Any other step closes a pool a second time. -/
theorem unsafe_step {action : Action α} {s s' : World α} (balanced : Balanced s) (crowded : ¬ ClosesAlone action s)
    (took : step action s = some s') : ¬ Safe s' := by
  simp only [ClosesAlone, Classical.not_imp, not_forall] at crowded
  obtain ⟨enters, pool, there, early⟩ := crowded
  have twice := twice_of_turn balanced (step_ledger took) there enters fun may => early (mayEnter_iff.mp may)
  exact fun safe => twice safe.once

/-- The pools are safe throughout a run exactly when each of its steps that calls
    `close()` does so while no task is suspended in one and none of this pool has raised. -/
theorem pools_safe_iff (credential : CredentialRead) {taken : List (World α × Action α)} {last : World α}
    (path : Path step (initial credential) taken last) :
    (∀ s ∈ states taken last, Safe s) ↔ ∀ t ∈ taken, ClosesAlone t.2 t.1 :=
  path.safe_iff (balanced_initial credential) balanced_step safe_of_balanced unsafe_step

/-- A rotation that one fetch alone notices. -/
theorem pools_safe_iff_rotation : ∃ taken, ∃ last : World Unit, Path step (initial ⟨lit "old", lit "t"⟩) taken last ∧
    calledIn last.module.trace = [0] ∧ last.module.pool = some 1 ∧ ∀ s ∈ states taken last, Safe s := by
  have spawned : step (.spawn none 200) (initial ⟨lit "old", lit "t"⟩ : World Unit) =
      some ⟨⟨some 0, 1, [.readCredential, .createPool ⟨lit "old", lit "t"⟩, .attempt 0]⟩, [], [],
        [.attempting .first 200 0 .acquire]⟩ := rfl
  have refused : step (.resume 0 (.error passwordRefused) (.ok ⟨lit "new", lit "t"⟩) (.ok ()))
      ⟨⟨some 0, 1, [.readCredential, .createPool ⟨lit "old", lit "t"⟩, .attempt 0]⟩, [], [],
        [.attempting .first 200 0 .acquire]⟩ =
      some (⟨⟨some 0, 1, [.readCredential, .createPool ⟨lit "old", lit "t"⟩, .attempt 0, .close 0]⟩, [], [],
        [.closing (.rebuild 200) 0]⟩ : World Unit) := rfl
  have path := ((Path.single spawned).snoc refused).snoc
    (rfl : step (.resume 0 (.ok []) (.ok ⟨lit "new", lit "t"⟩) (.ok ())) _ = some _)
  refine ⟨_, _, path, rfl, rfl, (pools_safe_iff _ path).mpr ?_⟩
  intro t member
  simp only [List.mem_append, List.mem_singleton] at member
  rcases member with (rfl | rfl) | rfl
  · exact False.elim
  · intro _ pool there
    simp [Task.closer]
  · rintro ⟨limit, pool, point, exc, same, _⟩
    cases same

/-- Two fetches notice a rotation together: each closes the first pool, and the rebuild
    of the second one takes the place of a pool that the first one has just created. -/
def twoRotations : List (Action Unit) :=
  [.spawn none 200, .spawn none 200,
    .resume 0 (.error passwordRefused) (.ok ⟨lit "new", lit "t"⟩) (.ok ()),
    .resume 1 (.error passwordRefused) (.ok ⟨lit "new", lit "t"⟩) (.ok ()),
    .resume 0 (.ok []) (.ok ⟨lit "new", lit "t"⟩) (.ok ()), .resume 1 (.ok []) (.ok ⟨lit "new", lit "t"⟩) (.ok ())] ++
  List.flatten (List.replicate 4
    [.resume 0 (.ok []) (.ok ⟨lit "new", lit "t"⟩) (.ok ()), .resume 1 (.ok []) (.ok ⟨lit "new", lit "t"⟩) (.ok ())])

theorem twoRotations_loses_pool : ∃ taken, ∃ last : World Unit, Path step (initial ⟨lit "old", lit "t"⟩) taken last ∧
    (∀ task ∈ last.tasks, task.Finished) ∧
    ¬ (∀ pool < last.module.created, last.module.pool = some pool ∨ pool ∈ calledIn last.module.trace) ∧
    ¬ (calledIn last.module.trace).Nodup ∧ ∃ pool other, last.Open pool ∧ last.Open other ∧ pool ≠ other := by
  have took : twoRotations.foldlM (fun s action => step action s) (initial ⟨lit "old", lit "t"⟩) =
      some ⟨⟨some 2, 3, [.readCredential, .createPool ⟨lit "old", lit "t"⟩, .attempt 0, .attempt 0, .close 0, .close 0,
        .readCredential, .createPool ⟨lit "new", lit "t"⟩, .attempt 1,
        .readCredential, .createPool ⟨lit "new", lit "t"⟩, .attempt 2]⟩, [0, 0], [],
        [.returned (.ok ([], false)), .returned (.ok ([], false))]⟩ := rfl
  obtain ⟨taken, path⟩ := Path.exists_of_foldlM took
  refine ⟨taken, _, path, ?_, ?_, ?_, 1, 2, ⟨by decide, by decide⟩, ⟨by decide, by decide⟩, by decide⟩
  · simp [Task.Finished]
  · intro kept
    have lost := kept 1 (by decide)
    simp [closeOf] at lost
  · simp [closeOf]

end OracleSchema.PoolTasks
