import Mathlib.Algebra.BigOperators.Group.Multiset.Basic
import OracleSchema.PoolTasks

/-!
What concurrent fetches cost and what they return, in every interleaving. `step_turn` says
once what a task can do when it goes on; each bound is a potential that no turn raises.
Every run comes to an end without new fetches (`fetches_bounded`), and the page that a task
returns is cut from the rows of its own query (`own_rows`).
-/
namespace OracleSchema.Progress
open OracleSchema.Errors OracleSchema.Settings OracleSchema.Tools OracleSchema.Runs OracleSchema.Pool OracleSchema.PoolTasks
variable {α : Type}

/-! ### What a task can do -/

section
variable (credential : Except PyExc CredentialRead) (create : Except PyExc Unit) (m : Module)

/-- How a rebuild goes on: the credential is unreadable, no pool is created, or the second
    attempt starts on the pool that is. -/
inductive Rebuilt (limit : Int) : Module → PoolTasks.Task α → Prop
  | unreadable {exc : PyExc} (raised : credential = .error exc) :
      Rebuilt limit { m with trace := m.trace ++ [.readCredential] } (.returned (.error exc))
  | uncreated {exc : PyExc} {read : CredentialRead} (given : credential = .ok read) (raised : create = .error exc) :
      Rebuilt limit { m with trace := m.trace ++ [.readCredential, .createPool read] } (.returned (.error exc))
  | retries {read : CredentialRead} (given : credential = .ok read) (done : create = .ok ()) :
      Rebuilt limit ⟨some m.created, m.created + 1, m.trace ++ [.readCredential, .createPool read, .attempt m.created]⟩
        (.attempting .second limit m.created .acquire)

/-- What the end of an await and the steps of the task up to its next await make of the task
    and of the module. -/
inductive Turn (result : Except PyExc (List α)) : PoolTasks.Task α → Module → PoolTasks.Task α → Prop
  | awaits {round : Round} {limit : Int} {pool : Nat} {point : AwaitPoint α} (open_ : attemptOutcome result point = none) :
      Turn result (.attempting round limit pool point) m (.attempting round limit pool (nextPoint result point))
  | answered {round : Round} {limit : Int} {pool : Nat} {point : AwaitPoint α} {rows : List α}
      (ended : attemptOutcome result point = some (.ok rows)) :
      Turn result (.attempting round limit pool point) m (.returned (.ok (fetchBounded rows limit)))
  | failed {round : Round} {limit : Int} {pool : Nat} {point : AwaitPoint α} {exc : PyExc}
      (ended : attemptOutcome result point = some (.error exc)) (last : round = .second ∨ isAuthError exc = false) :
      Turn result (.attempting round limit pool point) m (.returned (.error exc))
  | closes {limit : Int} {pool current : Nat} {point : AwaitPoint α} {exc : PyExc}
      (ended : attemptOutcome result point = some (.error exc)) (auth : isAuthError exc = true) (there : m.pool = some current) :
      Turn result (.attempting .first limit pool point) ⟨some current, m.created, m.trace ++ [.close current]⟩
        (.closing (.rebuild limit) current)
  | rebuilds {limit : Int} {pool : Nat} {point : AwaitPoint α} {exc : PyExc} {m' : Module} {next : PoolTasks.Task α}
      (ended : attemptOutcome result point = some (.error exc)) (auth : isAuthError exc = true) (vacant : m.pool = none)
      (rebuilt : Rebuilt credential create m limit m' next) : Turn result (.attempting .first limit pool point) m' next
  | closed {limit : Int} {pool : Nat} {m' : Module} {next : PoolTasks.Task α}
      (rebuilt : Rebuilt credential create { m with pool := none } limit m' next) :
      Turn result (.closing (.rebuild limit) pool) m' next
  | unclosed {after : AfterClose} {pool : Nat} {exc : PyExc} (raised : result = .error exc) :
      Turn result (.closing after pool) m (failClose exc after)
  | shut {pool : Nat} : Turn result (.closing .shutdown pool) { m with pool := none } (.shutDown (.ok ()))

/-- What a new task is when it first awaits. -/
inductive Fresh : Action α → Module → PoolTasks.Task α → Prop
  | poolless {injected : Option Nat} {limit : Int} {exc : PyExc} (raised : choosePool injected m = .error exc) :
      Fresh (.spawn injected limit) m (.returned (.error exc))
  | attempts {injected : Option Nat} {limit : Int} {pool : Nat} (chosen : choosePool injected m = .ok pool) :
      Fresh (.spawn injected limit) { m with trace := m.trace ++ [.attempt pool] } (.attempting .first limit pool .acquire)
  | idle : Fresh .shutdown m (.shutDown (.ok ()))
  | closes {pool : Nat} (there : m.pool = some pool) :
      Fresh .shutdown ⟨some pool, m.created, m.trace ++ [.close pool]⟩ (.closing .shutdown pool)
end

variable {credential : Except PyExc CredentialRead} {create : Except PyExc Unit} {m m' : Module}

theorem rebuild_rebuilt {limit : Int} {rebuilt : Module × PoolTasks.Task α} (did : rebuild limit credential create m = rebuilt) :
    Rebuilt credential create m limit rebuilt.1 rebuilt.2 := by
  subst did
  unfold rebuild initPool
  cases credential with
  | error exc => exact .unreadable rfl
  | ok read =>
    cases create with
    | error exc => exact .uncreated rfl rfl
    | ok done =>
      simp only [requirePool, begin, List.append_assoc]
      exact .retries rfl rfl

theorem endAttempt_turn {result : Except PyExc (List α)} {round : Round} {limit : Int} {pool : Nat} {point : AwaitPoint α}
    {outcome : Except PyExc (List α)} (ended : attemptOutcome result point = some outcome)
    (credential : Except PyExc CredentialRead) (create : Except PyExc Unit) (m : Module) :
    Turn credential create m result (.attempting round limit pool point) (endAttempt round limit outcome credential create m).1
      (endAttempt round limit outcome credential create m).2 := by
  cases outcome with
  | ok rows => exact .answered ended
  | error exc =>
    cases round with
    | second => exact .failed ended (.inl rfl)
    | first =>
      unfold endAttempt
      simp only
      split_ifs with auth
      · cases there : m.pool with
        | some current =>
          simp only [enterClose, there, Option.map_some, Option.getD_some]
          exact .closes ended auth there
        | none =>
          simp only [enterClose, there, Option.map_none, Option.getD_none]
          exact .rebuilds ended auth there (rebuild_rebuilt rfl)
      · exact .failed ended (.inr (Bool.eq_false_iff.mpr auth))

/-- A step starts a task, or one task goes on and the others stay. -/
theorem step_turn {action : Action α} {s s' : World α} (took : step action s = some s') :
    (∃ task, Fresh s.module action s'.module task ∧ s'.tasks = s.tasks ++ [task]) ∨
      ∃ t result credential create task next, action = .resume t result credential create ∧ s.tasks[t]? = some task ∧
        Turn credential create s.module result task s'.module next ∧ s'.tasks = s.tasks.set t next := by
  cases action with
  | spawn injected limit =>
    left
    simp only [step] at took
    cases chosen : choosePool injected s.module with
    | error exc =>
      simp only [chosen, Option.some.injEq] at took
      subst took
      exact ⟨_, .poolless chosen, rfl⟩
    | ok pool =>
      simp only [chosen, begin, Option.some.injEq] at took
      subst took
      exact ⟨_, .attempts chosen, rfl⟩
  | shutdown =>
    left
    simp only [step, Option.some.injEq] at took
    subst took
    cases there : s.module.pool with
    | none =>
      simp only [enterClose, there, Option.map_none, Option.getD_none]
      exact ⟨_, .idle, rfl⟩
    | some pool =>
      simp only [enterClose, there, Option.map_some, Option.getD_some]
      exact ⟨_, .closes there, rfl⟩
  | resume t result credential create =>
    right
    simp only [step] at took
    cases there : s.tasks[t]? with
    | none => simp [there] at took
    | some task =>
      cases task with
      | attempting round limit pool point =>
        cases ends : attemptOutcome result point with
        | none =>
          simp only [there, ends, Option.some.injEq] at took
          subst took
          exact ⟨t, result, credential, create, _, _, rfl, there, .awaits ends, rfl⟩
        | some outcome =>
          simp only [there, ends, Option.some.injEq] at took
          subst took
          exact ⟨t, result, credential, create, _, _, rfl, there, endAttempt_turn ends credential create s.module, rfl⟩
      | closing after pool =>
        cases result with
        | error exc =>
          simp only [there, Option.some.injEq] at took
          subst took
          exact ⟨t, _, credential, create, _, _, rfl, there, .unclosed rfl, rfl⟩
        | ok rows =>
          simp only [there, Option.some.injEq] at took
          subst took
          cases after with
          | shutdown => exact ⟨t, _, credential, create, _, _, rfl, there, .shut, rfl⟩
          | rebuild limit =>
            exact ⟨t, _, credential, create, _, _, rfl, there, .closed (rebuild_rebuilt rfl), rfl⟩
      | returned outcome => simp [there] at took
      | shutDown outcome => simp [there] at took

/-- A task after a step is one from before it, a new one, or the one that went on. -/
theorem step_task {action : Action α} {s s' : World α} (took : step action s = some s') {t : Nat} {task : PoolTasks.Task α}
    (there : s'.tasks[t]? = some task) :
    s.tasks[t]? = some task ∨ (s.tasks.length = t ∧ Fresh s.module action s'.module task) ∨
      ∃ result credential create old, action = .resume t result credential create ∧ s.tasks[t]? = some old ∧
        Turn credential create s.module result old s'.module task := by
  rcases step_turn took with ⟨fresh, isFresh, tasks'⟩ | ⟨t', result, credential, create, old, next, rfl, inS, turn, tasks'⟩
  · rw [tasks', List.getElem?_append, List.getElem?_singleton] at there
    split_ifs at there with isOld position
    · exact .inl there
    · obtain rfl := Option.some.inj there
      exact .inr (.inl ⟨by omega, isFresh⟩)
  · rw [tasks'] at there
    by_cases same : t' = t
    · subst same
      rw [List.getElem?_set_self (List.getElem?_eq_some_iff.mp inS).1] at there
      obtain rfl := Option.some.inj there
      exact .inr (.inr ⟨result, credential, create, old, rfl, inS, turn⟩)
    · rw [List.getElem?_set_ne same] at there
      exact .inl there

/-- No step removes a task. -/
theorem tasks_grow {action : Action α} {s s' : World α} (took : step action s = some s') : s.tasks.length ≤ s'.tasks.length := by
  rcases step_turn took with ⟨task, _, tasks⟩ | ⟨t, result, credential, create, task, next, _, _, _, tasks⟩
  · simp [tasks]
  · simp [tasks]

/-! ### Costs -/

def awaitsLeft : AwaitPoint α → Nat
  | .acquire => 4
  | .execute => 3
  | .fetchmany => 2
  | .release _ => 1

/-- What is counted: resumptions, attempts, credential reads, pool creations and calls of
    `close()`. -/
structure Costs where
  resumptions : Nat
  attempts : Nat
  reads : Nat
  creations : Nat
  closes : Nat

/-- The most that a task may still cost. -/
def due : PoolTasks.Task α → Costs
  | .attempting .first _ _ point => ⟨awaitsLeft point + 5, 1, 1, 1, 1⟩
  | .attempting .second _ _ point => ⟨awaitsLeft point, 0, 0, 0, 0⟩
  | .closing (.rebuild _) _ => ⟨5, 1, 1, 1, 0⟩
  | .closing .shutdown _ => ⟨1, 0, 0, 0, 0⟩
  | .returned _ => ⟨0, 0, 0, 0, 0⟩
  | .shutDown _ => ⟨0, 0, 0, 0, 0⟩

/-- What an event counts as. -/
def charge : PoolEvent → Costs
  | .attempt _ => ⟨0, 1, 0, 0, 0⟩
  | .close _ => ⟨0, 0, 0, 0, 1⟩
  | .readCredential => ⟨0, 0, 1, 0, 0⟩
  | .createPool _ => ⟨0, 0, 0, 1, 0⟩

/-- What a new task may cost in all. -/
def allowance : Action α → Costs
  | .spawn _ _ => ⟨9, 2, 1, 1, 1⟩
  | .shutdown => ⟨1, 0, 0, 0, 1⟩
  | .resume _ _ _ _ => ⟨0, 0, 0, 0, 0⟩

def resumes : Action α → Nat
  | .resume _ _ _ _ => 1
  | _ => 0

/-- A kind of cost, with what a resumption counts as. -/
inductive Kind
  | resumption | attempt | read | creation | close
  deriving DecidableEq

def Costs.of (costs : Costs) : Kind → Nat
  | .resumption => costs.resumptions
  | .attempt => costs.attempts
  | .read => costs.reads
  | .creation => costs.creations
  | .close => costs.closes

/-- The number of events of a kind. -/
def counted (kind : Kind) (events : List PoolEvent) : Nat := (events.map (fun event => (charge event).of kind)).sum

/-- What a resumption itself counts as. -/
def perResume (kind : Kind) (action : Action α) : Nat := if kind = .resumption then resumes action else 0

@[simp] theorem counted_nil (kind : Kind) : counted kind [] = 0 := rfl
@[simp] theorem counted_cons (kind : Kind) (event : PoolEvent) (events : List PoolEvent) :
    counted kind (event :: events) = (charge event).of kind + counted kind events := rfl
@[simp] theorem counted_append (kind : Kind) (events more : List PoolEvent) :
    counted kind (events ++ more) = counted kind events + counted kind more := by
  simp [counted]

theorem fresh_allowed {action : Action α} {task : PoolTasks.Task α} (fresh : Fresh m action m' task) (kind : Kind) :
    (due task).of kind + counted kind m'.trace + perResume kind action ≤
      (allowance action).of kind + counted kind m.trace := by
  cases fresh <;> cases kind <;> simp only [due, awaitsLeft, counted_append, counted_cons, counted_nil, charge, allowance, Costs.of,
    perResume, resumes, reduceCtorEq, ↓reduceIte] <;> omega

theorem rebuilt_due {limit : Int} {next : PoolTasks.Task α} (rebuilt : Rebuilt credential create m limit m' next) (kind : Kind) :
    (due next).of kind + counted kind m'.trace + (if kind = .resumption then 1 else 0) ≤
      (⟨5, 1, 1, 1, 0⟩ : Costs).of kind + counted kind m.trace := by
  cases rebuilt <;> cases kind <;> simp only [due, awaitsLeft, counted_append, counted_cons, counted_nil, charge, Costs.of,
    reduceCtorEq, ↓reduceIte] <;> omega

theorem awaitsLeft_nextPoint {result : Except PyExc (List α)} {point : AwaitPoint α} (goesOn : attemptOutcome result point = none) :
    awaitsLeft (nextPoint result point) + 1 ≤ awaitsLeft point := by
  cases point with
  | acquire => simp [nextPoint, awaitsLeft]
  | execute => cases result <;> simp [nextPoint, awaitsLeft]
  | fetchmany => simp [nextPoint, awaitsLeft]
  | release pending => cases result <;> simp [attemptOutcome] at goesOn

theorem awaitsLeft_pos (point : AwaitPoint α) : 1 ≤ awaitsLeft point := by
  cases point <;> simp [awaitsLeft]

/-- A turn costs no more than was due. -/
theorem turn_due {result : Except PyExc (List α)} {task next : PoolTasks.Task α}
    (turn : Turn credential create m result task m' next) (kind : Kind) :
    (due next).of kind + counted kind m'.trace + (if kind = .resumption then 1 else 0) ≤
      (due task).of kind + counted kind m.trace := by
  cases turn with
  | @awaits round limit pool point goesOn =>
    have fewer := awaitsLeft_nextPoint goesOn
    cases round <;> cases kind <;> simp only [due, Costs.of, reduceCtorEq, ↓reduceIte] <;> omega
  | @answered round limit pool point rows ended =>
    have some_ := awaitsLeft_pos point
    cases round <;> cases kind <;> simp only [due, Costs.of, reduceCtorEq, ↓reduceIte] <;> omega
  | @failed round limit pool point exc ended last =>
    have some_ := awaitsLeft_pos point
    cases round <;> cases kind <;> simp only [due, Costs.of, reduceCtorEq, ↓reduceIte] <;> omega
  | @closes limit pool current point exc ended auth there =>
    have some_ := awaitsLeft_pos point
    cases kind <;> simp only [due, counted_append, counted_cons, counted_nil, charge, Costs.of, reduceCtorEq, ↓reduceIte] <;> omega
  | rebuilds ended auth vacant rebuilt =>
    have paid := rebuilt_due rebuilt kind
    cases kind <;> simp only [due, Costs.of, reduceCtorEq, ↓reduceIte] at paid ⊢ <;> omega
  | closed rebuilt => exact rebuilt_due rebuilt kind
  | @unclosed after pool exc raised =>
    cases after <;> cases kind <;> simp only [failClose, due, Costs.of, reduceCtorEq, ↓reduceIte] <;> omega
  | shut => cases kind <;> simp only [due, Costs.of, reduceCtorEq, ↓reduceIte] <;> omega

/-- What has been counted and what is due. -/
def potential (kind : Kind) (s : World α) : Nat :=
  (s.tasks.map (fun task => (due task).of kind)).sum + counted kind s.module.trace

theorem sum_due_set {tasks : List (PoolTasks.Task α)} {t : Nat} {task : PoolTasks.Task α} (there : tasks[t]? = some task)
    (next : PoolTasks.Task α) (kind : Kind) :
    ((tasks.set t next).map (fun task => (due task).of kind)).sum + (due task).of kind =
      (tasks.map (fun task => (due task).of kind)).sum + (due next).of kind := by
  obtain ⟨rest, before, after⟩ := tasks_split there
  simp only [← Multiset.sum_coe, ← Multiset.map_coe, before, after, Multiset.map_cons, Multiset.sum_cons]
  omega

theorem step_pays (kind : Kind) {action : Action α} {s s' : World α} (took : step action s = some s') :
    potential kind s' + perResume kind action ≤ potential kind s + (allowance action).of kind := by
  rcases step_turn took with ⟨task, fresh, tasks'⟩ | ⟨t, result, credential, create, task, next, rfl, there, turn, tasks'⟩
  · have allowed := fresh_allowed fresh kind
    simp only [potential, tasks', List.map_append, List.map_singleton, List.sum_append, List.sum_singleton]
    omega
  · have paid := turn_due turn kind
    have summed := sum_due_set there next kind
    have once : perResume kind (.resume t result credential create) = if kind = .resumption then 1 else 0 := rfl
    simp only [potential, tasks', once]
    omega

/-! ### Runs -/

def isSpawn : Action α → Bool
  | .spawn _ _ => true
  | _ => false

def isShutdown : Action α → Bool
  | .shutdown => true
  | _ => false

def isResume : Action α → Bool
  | .resume _ _ _ _ => true
  | _ => false

/-- The number of steps of a run whose action is of a sort. -/
def stepsOf (sort : Action α → Bool) (taken : List (World α × Action α)) : Nat := taken.countP (fun t => sort t.2)

theorem allowances (kind : Kind) (taken : List (World α × Action α)) :
    total (fun action => (allowance action).of kind) taken =
      (allowance (.spawn none 0 : Action α)).of kind * stepsOf isSpawn taken +
        (allowance (.shutdown : Action α)).of kind * stepsOf isShutdown taken := by
  induction taken with
  | nil => simp [total, stepsOf]
  | cons t taken ih =>
    obtain ⟨s, action⟩ := t
    simp only [total, ih, stepsOf, List.countP_cons]
    cases action <;> cases kind <;> simp [allowance, Costs.of, isSpawn, isShutdown] <;> omega

theorem resumptions (taken : List (World α × Action α)) :
    total (perResume .resumption) taken = stepsOf isResume taken := by
  induction taken with
  | nil => simp [total, stepsOf]
  | cons t taken ih =>
    obtain ⟨s, action⟩ := t
    simp only [total, ih, stepsOf, List.countP_cons]
    cases action <;> simp [perResume, resumes, isResume]
    omega

theorem run_pays (kind : Kind) {start last : World α} {taken : List (World α × Action α)} (path : Path step start taken last) :
    potential kind last + total (perResume kind) taken ≤
      potential kind start + ((allowance (.spawn none 0 : Action α)).of kind * stepsOf isSpawn taken +
        (allowance (.shutdown : Action α)).of kind * stepsOf isShutdown taken) := by
  rw [← allowances]
  exact path.amortized (step_pays kind)

/-- A task that has not finished can go on, whatever its await gives. -/
theorem unfinished_iff {s : World α} {t : Nat} {task : PoolTasks.Task α} (there : s.tasks[t]? = some task) :
    ¬ task.Finished ↔ ∀ result credential create, ∃ s', step (.resume t result credential create) s = some s' := by
  cases task with
  | attempting round limit pool point =>
    refine ⟨fun _ result credential create => ?_, fun _ => False.elim⟩
    simp only [step, there]
    cases attemptOutcome result point with
    | none => exact ⟨_, rfl⟩
    | some outcome => exact ⟨_, rfl⟩
  | closing after pool =>
    refine ⟨fun _ result credential create => ?_, fun _ => False.elim⟩
    simp only [step, there]
    cases result with
    | error exc => exact ⟨_, rfl⟩
    | ok rows => exact ⟨_, rfl⟩
  | returned outcome =>
    refine ⟨fun unfinished => absurd trivial unfinished, fun goesOn => ?_⟩
    obtain ⟨s', took⟩ := goesOn (.ok []) (.ok ⟨[], []⟩) (.ok ())
    simp [step, there] at took
  | shutDown outcome =>
    refine ⟨fun unfinished => absurd trivial unfinished, fun goesOn => ?_⟩
    obtain ⟨s', took⟩ := goesOn (.ok []) (.ok ⟨[], []⟩) (.ok ())
    simp [step, there] at took

/-- However fetches and shutdowns interleave, there are in total at most nine resumptions and
    two attempts for each fetch and one rebuild for each, besides a resumption and a close for
    each shutdown; and a task that has not finished can go on, so that without new tasks all
    of them finish. -/
theorem fetches_bounded (credential : CredentialRead) {taken : List (World α × Action α)} {last : World α}
    (path : Path step (initial credential) taken last) :
    stepsOf isResume taken ≤ 9 * stepsOf isSpawn taken + stepsOf isShutdown taken ∧
      counted .attempt last.module.trace ≤ 2 * stepsOf isSpawn taken ∧
      counted .read last.module.trace ≤ 1 + stepsOf isSpawn taken ∧
      counted .creation last.module.trace ≤ 1 + stepsOf isSpawn taken ∧
      counted .close last.module.trace ≤ stepsOf isSpawn taken + stepsOf isShutdown taken ∧
      ∀ t task, last.tasks[t]? = some task →
        (¬ task.Finished ↔ ∀ result credential create, ∃ s', step (.resume t result credential create) last = some s') := by
  have paid : ∀ kind, counted kind last.module.trace + total (perResume kind) taken ≤
      (⟨0, 0, 1, 1, 0⟩ : Costs).of kind + ((allowance (.spawn none 0 : Action α)).of kind * stepsOf isSpawn taken +
        (allowance (.shutdown : Action α)).of kind * stepsOf isShutdown taken) := by
    intro kind
    have atFirst : potential kind (initial credential : World α) = (⟨0, 0, 1, 1, 0⟩ : Costs).of kind := by cases kind <;> rfl
    have within : counted kind last.module.trace ≤ potential kind last := Nat.le_add_left _ _
    have run := run_pays kind path
    rw [atFirst] at run
    omega
  have resumed := paid .resumption
  have attempted := paid .attempt
  have read := paid .read
  have created := paid .creation
  have closed := paid .close
  rw [resumptions] at resumed
  simp only [Costs.of, allowance] at resumed attempted read created closed
  exact ⟨by omega, by omega, by omega, by omega, by omega, fun t task there => unfinished_iff there⟩

/-- A fetch of two rows at limit one, and the shutdown. -/
def oneFetch : List (Action Nat) :=
  [.spawn none 1, .resume 0 (.ok []) (.ok ⟨[], []⟩) (.ok ()), .resume 0 (.ok []) (.ok ⟨[], []⟩) (.ok ()),
    .resume 0 (.ok [7, 8]) (.ok ⟨[], []⟩) (.ok ()), .resume 0 (.ok []) (.ok ⟨[], []⟩) (.ok ()), .shutdown]

theorem oneFetch_path : ∃ taken, ∃ last : World Nat, Path step (initial ⟨[], []⟩) taken last ∧
    last.tasks = [.returned (.ok ([7], true)), .closing .shutdown 0] := by
  have took : oneFetch.foldlM (fun s action => step action s) (initial ⟨[], []⟩) =
      some ⟨⟨some 0, 1, [.readCredential, .createPool ⟨[], []⟩, .attempt 0, .close 0]⟩, [], [],
        [.returned (.ok ([7], true)), .closing .shutdown 0]⟩ := rfl
  obtain ⟨taken, path⟩ := Path.exists_of_foldlM took
  exact ⟨taken, _, path, rfl⟩

theorem fetches_bounded_one : ∃ taken, ∃ last : World Nat, Path step (initial ⟨[], []⟩) taken last ∧
    stepsOf isResume taken ≤ 9 * stepsOf isSpawn taken + stepsOf isShutdown taken ∧
    ∃ s', step (.resume 1 (.ok []) (.ok ⟨[], []⟩) (.ok ())) last = some s' := by
  obtain ⟨taken, last, path, tasks⟩ := oneFetch_path
  obtain ⟨resumed, _, _, _, _, goesOn⟩ := fetches_bounded ⟨[], []⟩ path
  refine ⟨taken, last, path, resumed, ?_⟩
  exact (goesOn 1 (.closing .shutdown 0) (by rw [tasks]; rfl)).mp id (.ok []) (.ok ⟨[], []⟩) (.ok ())

/-! ### Pages -/

/-- Task `t` was started with this limit. -/
def Spawned (taken : List (World α × Action α)) (t : Nat) (limit : Int) : Prop :=
  ∃ s injected, (s, .spawn injected limit) ∈ taken ∧ s.tasks.length = t

/-- The `fetchmany` of task `t` gave these rows. -/
def Fetched (taken : List (World α × Action α)) (t : Nat) (rows : List α) : Prop :=
  ∃ s credential create round limit pool, (s, .resume t (.ok rows) credential create) ∈ taken ∧
    s.tasks[t]? = some (.attempting round limit pool .fetchmany)

/-- Where the limit and the rows of a task come from. -/
def Owns (taken : List (World α × Action α)) (t : Nat) : PoolTasks.Task α → Prop
  | .attempting _ limit _ (.release (.ok rows)) => Spawned taken t limit ∧ Fetched taken t rows
  | .attempting _ limit _ _ => Spawned taken t limit
  | .closing (.rebuild limit) _ => Spawned taken t limit
  | .returned (.ok page) => ∃ limit rows, Spawned taken t limit ∧ Fetched taken t rows ∧ page = fetchBounded rows limit
  | _ => True

section
variable {taken more : List (World α × Action α)} {t : Nat}

theorem owns_mono (within : taken ⊆ more) {task : PoolTasks.Task α} (owns : Owns taken t task) : Owns more t task := by
  have spawned : ∀ limit, Spawned taken t limit → Spawned more t limit := by
    rintro limit ⟨s, injected, member, position⟩
    exact ⟨s, injected, within member, position⟩
  have fetched : ∀ rows, Fetched taken t rows → Fetched more t rows := by
    rintro rows ⟨s, credential, create, round, limit, pool, member, there⟩
    exact ⟨s, credential, create, round, limit, pool, within member, there⟩
  cases task with
  | attempting round limit pool point =>
    cases point with
    | release pending =>
      cases pending with
      | error exc => exact spawned limit owns
      | ok rows => exact ⟨spawned limit owns.1, fetched rows owns.2⟩
    | _ => exact spawned limit owns
  | closing after pool =>
    cases after with
    | rebuild limit => exact spawned limit owns
    | shutdown => trivial
  | returned outcome =>
    cases outcome with
    | error exc => trivial
    | ok page =>
      obtain ⟨limit, rows, own, got, rfl⟩ := owns
      exact ⟨limit, rows, spawned limit own, fetched rows got, rfl⟩
  | shutDown outcome => trivial

theorem spawned_of_owns {round : Round} {limit : Int} {pool : Nat} {point : AwaitPoint α}
    (owns : Owns taken t (.attempting round limit pool point)) : Spawned taken t limit := by
  cases point with
  | release pending =>
    cases pending with
    | error exc => exact owns
    | ok rows => exact owns.1
  | _ => exact owns

theorem owns_rebuilt {limit : Int} (spawned : Spawned taken t limit) {next : PoolTasks.Task α}
    (rebuilt : Rebuilt credential create m limit m' next) : Owns taken t next := by
  cases rebuilt with
  | unreadable raised => trivial
  | uncreated given raised => trivial
  | retries given done => exact spawned

theorem owns_fresh {action : Action α} {task : PoolTasks.Task α} (fresh : Fresh m action m' task)
    (spawned : ∀ injected limit, action = .spawn injected limit → Spawned taken t limit) : Owns taken t task := by
  cases fresh with
  | poolless raised => trivial
  | attempts chosen => exact spawned _ _ rfl
  | idle => trivial
  | closes there => trivial

/-- What a task owns before a turn it owns after it; rows come from its own `fetchmany`. -/
theorem owns_turn {result : Except PyExc (List α)} {task next : PoolTasks.Task α}
    (turn : Turn credential create m result task m' next) (owns : Owns taken t task)
    (fetched : ∀ rows round limit pool, result = .ok rows → task = .attempting round limit pool .fetchmany → Fetched taken t rows) :
    Owns taken t next := by
  cases turn with
  | @awaits round limit pool point goesOn =>
    have spawned := spawned_of_owns owns
    cases point with
    | acquire => exact spawned
    | execute => cases result <;> exact spawned
    | fetchmany =>
      cases result with
      | error exc => exact spawned
      | ok rows => exact ⟨spawned, fetched rows round limit pool rfl rfl⟩
    | release pending => cases result <;> simp [attemptOutcome] at goesOn
  | @answered round limit pool point rows ended =>
    cases point with
    | acquire => cases result <;> simp [attemptOutcome] at ended
    | execute => simp [attemptOutcome] at ended
    | fetchmany => simp [attemptOutcome] at ended
    | release pending =>
      cases result with
      | error exc => simp [attemptOutcome] at ended
      | ok empty =>
        obtain rfl : pending = .ok rows := by simpa [attemptOutcome] using ended
        exact ⟨limit, rows, owns.1, owns.2, rfl⟩
  | failed ended last => trivial
  | closes ended auth there => exact spawned_of_owns owns
  | rebuilds ended auth vacant rebuilt => exact owns_rebuilt (spawned_of_owns owns) rebuilt
  | closed rebuilt => exact owns_rebuilt owns rebuilt
  | @unclosed after pool exc raised => cases after <;> trivial
  | shut => trivial
end

theorem run_owns {start last : World α} {taken : List (World α × Action α)} (path : Path step start taken last)
    (idle : start.tasks = []) : ∀ t task, last.tasks[t]? = some task → Owns taken t task := by
  induction path with
  | nil => simp [idle]
  | @snoc taken s s' action before took ih =>
    intro t task there
    have earlier : ∀ task, s.tasks[t]? = some task → Owns (taken ++ [(s, action)]) t task :=
      fun task inS => owns_mono (List.subset_append_left _ _) (ih t task inS)
    rcases step_task took there with same | ⟨position, fresh⟩ | ⟨result, credential, create, old, rfl, inS, turn⟩
    · exact earlier task same
    · refine owns_fresh fresh ?_
      rintro injected limit rfl
      exact ⟨s, injected, by simp, position⟩
    · refine owns_turn turn (earlier old inS) ?_
      rintro rows round limit pool rfl rfl
      exact ⟨s, credential, create, round, limit, pool, by simp, inS⟩

/-- However fetches interleave, the page that a task returns is cut at the limit of its own
    call from the rows that its own `fetchmany` gave. -/
theorem own_rows (credential : CredentialRead) {taken : List (World α × Action α)} {last : World α}
    (path : Path step (initial credential) taken last) (t : Nat) (page : List α × Bool)
    (ended : last.tasks[t]? = some (.returned (.ok page))) :
    ∃ limit rows, Spawned taken t limit ∧ Fetched taken t rows ∧ page = fetchBounded rows limit :=
  run_owns path rfl t _ ended

theorem own_rows_one : ∃ taken, ∃ last : World Nat, Path step (initial ⟨[], []⟩) taken last ∧
    ∃ limit rows, Spawned taken 0 limit ∧ Fetched taken 0 rows ∧ ([7], true) = fetchBounded rows limit := by
  obtain ⟨taken, last, path, tasks⟩ := oneFetch_path
  exact ⟨taken, last, path, own_rows ⟨[], []⟩ path 0 ([7], true) (by rw [tasks]; rfl)⟩

end OracleSchema.Progress
