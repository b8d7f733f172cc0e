import OracleSchema.Progress

/-!
A fetch on its own, at both levels. `finish` says how the rest of a fetch ends from where its
task is suspended, and `goes_finish` that one step of the task changes only what is still to
be answered; so the runs in which nothing disturbs a fetch are those of `Pool.fetch`
(`undisturbed_iff`).
-/
namespace OracleSchema.Undisturbed
open OracleSchema.Errors OracleSchema.Settings OracleSchema.Tools OracleSchema.Pool OracleSchema.PoolTasks
open OracleSchema.Progress
variable {α : Type}

/-- What `fetch` does with the answer of its first attempt. -/
def settle (limit : Int) (E : Outcomes α) (m : Module) : Except PyExc (List α × Bool) × Module :=
  match E.first with
  | .ok rows => (.ok (fetchBounded rows limit), m)
  | .error exc => if isAuthError exc then rebuildAndRetry limit E m else (.error exc, m)

/-- The rest of a fetch, for what the outside still answers, from where its task is suspended. -/
def finish (E : Outcomes α) (m : Module) : PoolTasks.Task α → Option (Except PyExc (List α × Bool) × Module)
  | .attempting .first limit _ _ => some (settle limit E m)
  | .attempting .second limit _ _ => some (E.second.map (fun rows => fetchBounded rows limit), m)
  | .closing (.rebuild limit) _ =>
    match E.close with
    | .error exc => some (.error exc, m)
    | .ok () => some (retry limit E { m with pool := none })
  | .closing .shutdown _ => none
  | .returned outcome => some (outcome, m)
  | .shutDown _ => none

/-- A fetch that finds a pool starts its first attempt on it. -/
theorem fetch_chosen {injected : Option Nat} {m : Module} {pool : Nat} (chosen : choosePool injected m = .ok pool) (limit : Int)
    (E : Outcomes α) : fetch injected limit E m = settle limit E { m with trace := m.trace ++ [.attempt pool] } := by
  simp only [fetch, chosen, fetchOnce, settle]
  cases E.first <;> rfl

section
variable {E : Outcomes α} {m m' : Module} {r : Except PyExc (List α × Bool) × Module} {limit : Int}
  {credential : Except PyExc CredentialRead} {create : Except PyExc Unit} {task next : PoolTasks.Task α}

theorem rebuilt_finish (rebuilt : Rebuilt credential create m limit m' next) (rest : finish E m' next = some r) :
    retry limit { E with credential := credential, create := create } m = r := by
  cases rebuilt with
  | unreadable raised =>
    subst raised
    exact Option.some.inj rest
  | uncreated given raised =>
    subst given raised
    exact Option.some.inj rest
  | retries given done =>
    subst given done
    simp only [retry, initPool, requirePool, fetchOnce, List.append_assoc]
    exact Option.some.inj rest

/-- What a turn has answered is no longer open, and the rest is as it was. -/
theorem turn_finish {result : Except PyExc (List α)} (turn : Turn credential create m result task m' next)
    (rest : finish E m' next = some r) : ∃ E', finish E' m task = some r := by
  cases turn with
  | @awaits round limit pool point open_ =>
    refine ⟨E, ?_⟩
    cases round <;> exact rest
  | @answered round limit pool point rows ended =>
    cases round with
    | first => exact ⟨{ E with first := .ok rows }, rest⟩
    | second => exact ⟨{ E with second := .ok rows }, rest⟩
  | @failed round limit pool point exc ended last =>
    cases round with
    | first =>
      have other : isAuthError exc = false := last.resolve_left (by simp)
      refine ⟨{ E with first := .error exc }, ?_⟩
      simp only [finish, settle, other]
      exact rest
    | second => exact ⟨{ E with second := .error exc }, rest⟩
  | @closes limit pool current point exc ended auth there =>
    refine ⟨{ E with first := .error exc }, ?_⟩
    simp only [finish, settle, auth, if_true, rebuildAndRetry, closePool, there] at rest ⊢
    cases closed : E.close with
    | error exc' =>
      rw [closed] at rest
      exact rest
    | ok done =>
      rw [closed] at rest
      exact rest
  | @rebuilds limit pool point exc _ _ ended auth vacant rebuilt =>
    refine ⟨{ E with first := .error exc, credential := credential, create := create }, ?_⟩
    simp only [finish, settle, auth, if_true, rebuildAndRetry, closePool, vacant, Option.some.injEq]
    exact rebuilt_finish rebuilt rest
  | closed rebuilt =>
    refine ⟨{ E with close := .ok (), credential := credential, create := create }, ?_⟩
    exact congrArg some (rebuilt_finish rebuilt rest)
  | @unclosed after pool exc raised =>
    cases after with
    | rebuild limit => exact ⟨{ E with close := .error exc }, rest⟩
    | shutdown => cases rest
  | shut => cases rest
end

/-- When a task goes on, the others stay, and each way in which its rest can end is one in
    which it could end before. -/
theorem goes_finish {t : Nat} {s s' : World α} (goes : Goes t s s') {task : PoolTasks.Task α} (there : s.tasks[t]? = some task) :
    ∃ next, s'.tasks = s.tasks.set t next ∧
      ∀ E r, finish E s'.module next = some r → ∃ E', finish E' s.module task = some r := by
  obtain ⟨result, credential, create, took⟩ := goes
  rcases step_turn took with ⟨_, fresh, _⟩ | ⟨t', result', credential', create', task', next, same, found, turn, tasks⟩
  · generalize s'.module = m' at fresh
    cases fresh
  · obtain ⟨rfl, rfl, rfl, rfl⟩ := Action.resume.inj same
    obtain rfl : task = task' := Option.some.inj (there.symm.trans found)
    exact ⟨next, tasks, fun E r rest => turn_finish turn rest⟩

theorem alone_finish {t : Nat} {begun last : World α} (alone : Relation.ReflTransGen (Goes t) begun last)
    {task : PoolTasks.Task α} (there : begun.tasks[t]? = some task) :
    ∃ next, last.tasks = begun.tasks.set t next ∧
      ∀ E r, finish E last.module next = some r → ∃ E', finish E' begun.module task = some r := by
  induction alone with
  | refl =>
    obtain ⟨within, rfl⟩ := List.getElem?_eq_some_iff.mp there
    exact ⟨_, (List.set_getElem_self within).symm, fun E r rest => ⟨E, rest⟩⟩
  | tail _ goes ih =>
    obtain ⟨middle, tasks, earlier⟩ := ih
    have within : t < begun.tasks.length := (List.getElem?_eq_some_iff.mp there).1
    obtain ⟨next, tasks', later⟩ := goes_finish goes (by rw [tasks, List.getElem?_set_self within])
    refine ⟨next, by rw [tasks', tasks, List.set_set], fun E r rest => ?_⟩
    obtain ⟨E', rest'⟩ := later E r rest
    exact earlier E' r rest'

/-- A fetch to which the outside answers nothing of note. -/
def unanswered : Outcomes α := ⟨.ok [], .ok (), .ok ⟨[], []⟩, .ok (), .ok []⟩

/-- What a fetch that nothing disturbs can return, with what it leaves of the module, is what
    `fetch` gives for some answers of the outside. -/
theorem undisturbed_iff (injected : Option Nat) (limit : Int) (s : World α) (outcome : Except PyExc (List α × Bool)) (m : Module) :
    (∃ begun last, step (.spawn injected limit) s = some begun ∧ Relation.ReflTransGen (Goes s.tasks.length) begun last ∧
      last.tasks = s.tasks ++ [.returned outcome] ∧ last.module = m) ↔
    ∃ E : Outcomes α, fetch injected limit E s.module = (outcome, m) := by
  constructor
  · rintro ⟨begun, last, spawned, alone, ended, rfl⟩
    have newest : ∀ task : PoolTasks.Task α, begun.tasks = s.tasks ++ [task] →
        ∃ E', finish E' begun.module task = some (outcome, last.module) := by
      intro task tasks
      obtain ⟨next, tasks', earlier⟩ := alone_finish alone (show begun.tasks[s.tasks.length]? = some task by rw [tasks]; simp)
      rw [tasks, List.set_append_right _ _ (Nat.le_refl _), Nat.sub_self, List.set_cons_zero, ended] at tasks'
      obtain rfl : .returned outcome = next := List.singleton_inj.mp (List.append_cancel_left tasks')
      exact earlier unanswered _ rfl
    simp only [step] at spawned
    cases chosen : choosePool injected s.module with
    | error exc =>
      simp only [chosen, Option.some.injEq] at spawned
      subst spawned
      obtain ⟨E, rest⟩ := newest _ rfl
      refine ⟨E, ?_⟩
      simp only [fetch, chosen]
      exact Option.some.inj rest
    | ok pool =>
      simp only [chosen, begin, Option.some.injEq] at spawned
      subst spawned
      obtain ⟨E, rest⟩ := newest _ rfl
      exact ⟨E, (fetch_chosen chosen limit E).trans (Option.some.inj rest)⟩
  · rintro ⟨E, fetched⟩
    obtain ⟨begun, last, spawned, alone, module', tasks'⟩ := fetch_path injected limit E s
    rw [fetched] at module' tasks'
    exact ⟨begun, last, spawned, alone, tasks', module'⟩

end OracleSchema.Undisturbed
