import OracleSchema.Catalog
import OracleSchema.Progress

/-!
The metadata tools as a service. Calls run as concurrent fetches on one pool, which rotations
rebuild and the shutdown closes, over a dictionary that changes meanwhile. Each result is the
page of the listing of its own call at one moment while the call was in progress
(`results_current`).
-/
namespace OracleSchema.Service
open OracleSchema.Strings OracleSchema.Errors OracleSchema.Settings OracleSchema.Queries OracleSchema.Dictionary OracleSchema.Tools
open OracleSchema.Listings OracleSchema.Catalog OracleSchema.Runs OracleSchema.Pool OracleSchema.PoolTasks OracleSchema.Progress

/-- What a tool makes of the page of its fetch. -/
def resultOf (request : Request) (page : List Dictionary.Source × Bool) : Result :=
  ⟨listKey request.statement, page.1.map (fun source => item request.statement (source.cells request.statement)), page.2⟩

/-- The steps of the run are tool calls and a database that answers them. Task `t` is that
    of call `calls t`, and `contents k` is the dictionary before step `k`. -/
structure Serves (cfg : Config) (calls : Nat → ToolCall) (contents : Nat → Views)
    (taken : List (World Dictionary.Source × Action Dictionary.Source)) : Prop where
  /-- Each fetch is that of a call that its tool has let through. -/
  sent : ∀ (j : Nat) (s : World Dictionary.Source) injected limit, taken[j]? = some (s, .spawn injected limit) →
    ∃ request, (calls s.tasks.length).request cfg = .ok request ∧ limit = request.limit
  /-- Statement-level read consistency: rows are as of one moment since the call began. -/
  consistent : ∀ (i : Nat) (s : World Dictionary.Source) t rows credential create round limit pool request,
    taken[i]? = some (s, .resume t (.ok rows) credential create) →
      s.tasks[t]? = some (.attempting round limit pool .fetchmany) → (calls t).request cfg = .ok request →
        ∃ k ≤ i, (∃ s' action, taken[k]? = some (s', action) ∧ t < s'.tasks.length) ∧
          request.statement.Answers (contents k) request.binds rows

section
variable {α : Type} {taken : List (World α × Action α)} {start last : World α}

theorem tasks_ordered (path : Path step start taken last) {j k : Nat} {s s' : World α} {action action' : Action α}
    (before : taken[j]? = some (s, action)) (after : taken[k]? = some (s', action')) (more : s.tasks.length < s'.tasks.length) :
    j < k := by
  have ordered := path.ordered (fun s => s.tasks.length) tasks_grow
  rw [states, List.pairwise_append, List.pairwise_map] at ordered
  obtain ⟨inBefore, isBefore⟩ := List.getElem?_eq_some_iff.mp before
  obtain ⟨inAfter, isAfter⟩ := List.getElem?_eq_some_iff.mp after
  by_contra late
  rcases Nat.eq_or_lt_of_le (not_lt.mp late) with same | earlier
  · subst same
    rw [isBefore] at isAfter
    obtain ⟨rfl, _⟩ := Prod.mk.inj isAfter
    exact absurd more (lt_irrefl _)
  · have order := List.pairwise_iff_getElem.mp ordered.1 k j inAfter inBefore earlier
    rw [isBefore, isAfter] at order
    exact absurd more (not_lt.mpr order)
end

/-- However calls, rotations and shutdowns interleave while the dictionary changes, with at
    most one comment for each table and column at any time, a call that returns shows the
    page of its own listing at a moment after it began and before it returned. -/
theorem results_current (credential : CredentialRead) (cfg : Config) (calls : Nat → ToolCall) (contents : Nat → Views)
    (one : ∀ k, OneComment (contents k)) {taken : List (World Dictionary.Source × Action Dictionary.Source)}
    {last : World Dictionary.Source} (path : Path step (initial credential) taken last)
    (serves : Serves cfg calls contents taken) (t : Nat) (page : List Dictionary.Source × Bool)
    (returned : last.tasks[t]? = some (.returned (.ok page))) :
    ∃ request, (calls t).request cfg = .ok request ∧ ∃ j k s injected, taken[j]? = some (s, .spawn injected request.limit) ∧
      s.tasks.length = t ∧ j < k ∧ k < taken.length ∧ (resultOf request page).key = resultKey (calls t) ∧
      (listing (contents k) cfg (calls t)).Page cfg.max_rows (resultOf request page).items (resultOf request page).truncated := by
  obtain ⟨limit, rows, ⟨s, injected, spawned, rfl⟩, fetched, rfl⟩ := run_owns path rfl t _ returned
  obtain ⟨s', credential', create, round, limit', pool, resumed, there⟩ := fetched
  obtain ⟨j, inTaken, atJ⟩ := List.getElem_of_mem spawned
  obtain ⟨i, inTaken', atI⟩ := List.getElem_of_mem resumed
  have isSpawn := List.getElem?_eq_some_iff.mpr ⟨inTaken, atJ⟩
  have isResume := List.getElem?_eq_some_iff.mpr ⟨inTaken', atI⟩
  obtain ⟨request, sent, rfl⟩ := serves.sent j s injected limit isSpawn
  obtain ⟨k, notLater, ⟨during, action, atK, began⟩, answers⟩ :=
    serves.consistent i s' _ rows credential' create round limit' pool request isResume there sent
  have output : Outputs (contents k) cfg (calls s.tasks.length) (fetchBounded rows request.limit).1
      (resultOf request (fetchBounded rows request.limit)) := ⟨request, rows, sent, answers, rfl, rfl⟩
  obtain ⟨_, key, shows⟩ := page_of_outputs (requested (one k) _) output
  exact ⟨request, sent, j, k, s, injected, isSpawn, rfl, tasks_ordered path isSpawn atK began, by omega, key, shows⟩

/-- A server with one fetch, at this await. -/
def oneCall (point : AwaitPoint Dictionary.Source) : World Dictionary.Source :=
  ⟨⟨some 0, 1, [.readCredential, .createPool ⟨[], []⟩, .attempt 0]⟩, [], [], [.attempting .first 200 0 point]⟩

def goesOn (rows : List Dictionary.Source) : Action Dictionary.Source := .resume 0 (.ok rows) (.ok ⟨[], []⟩) (.ok ())

/-- One call, answered with these rows. -/
def oneCallTaken (rows : List Dictionary.Source) : List (World Dictionary.Source × Action Dictionary.Source) :=
  [(initial ⟨[], []⟩, .spawn none 200), (oneCall .acquire, goesOn []), (oneCall .execute, goesOn []),
    (oneCall .fetchmany, goesOn rows), (oneCall (.release (.ok rows)), goesOn [])]

theorem oneCall_path (rows : List Dictionary.Source) : ∃ last : World Dictionary.Source,
    Path step (initial ⟨[], []⟩) (oneCallTaken rows) last ∧ last.tasks = [.returned (.ok (fetchBounded rows 200))] := by
  have spawned : step (.spawn none 200) (initial ⟨[], []⟩) = some (oneCall .acquire) := rfl
  have acquired : step (goesOn []) (oneCall .acquire) = some (oneCall .execute) := rfl
  have executed : step (goesOn []) (oneCall .execute) = some (oneCall .fetchmany) := rfl
  have fetched : step (goesOn rows) (oneCall .fetchmany) = some (oneCall (.release (.ok rows))) := rfl
  have path := ((((Path.single spawned).snoc acquired).snoc executed).snoc fetched).snoc
    (rfl : step (goesOn []) (oneCall (.release (.ok rows))) = some _)
  exact ⟨_, path, rfl⟩

theorem oneCall_serves {rows : List Dictionary.Source}
    (answers : Statement.Answers .listTables twoTables (dict [(lit "owner", lit "HR")]) rows) :
    Serves onlyHr (fun _ => .list_tables (lit "hr")) (fun _ => twoTables) (oneCallTaken rows) where
  sent j s injected limit found := by
    rcases j with _ | _ | _ | _ | _ | j
    · obtain ⟨rfl, spawned⟩ := Prod.mk.inj (Option.some.inj found)
      obtain ⟨rfl, rfl⟩ := Action.spawn.inj spawned
      exact ⟨_, rfl, rfl⟩
    · cases (Prod.mk.inj (Option.some.inj found)).2
    · cases (Prod.mk.inj (Option.some.inj found)).2
    · cases (Prod.mk.inj (Option.some.inj found)).2
    · cases (Prod.mk.inj (Option.some.inj found)).2
    · cases found
  consistent i s t rows' credential create round limit pool request found there sent := by
    rcases i with _ | _ | _ | _ | _ | i
    · cases (Prod.mk.inj (Option.some.inj found)).2
    · obtain ⟨rfl, resumed⟩ := Prod.mk.inj (Option.some.inj found)
      obtain ⟨rfl, _⟩ := Action.resume.inj resumed
      cases Option.some.inj there
    · obtain ⟨rfl, resumed⟩ := Prod.mk.inj (Option.some.inj found)
      obtain ⟨rfl, _⟩ := Action.resume.inj resumed
      cases Option.some.inj there
    · obtain ⟨rfl, resumed⟩ := Prod.mk.inj (Option.some.inj found)
      obtain ⟨rfl, given, _⟩ := Action.resume.inj resumed
      obtain rfl := Except.ok.inj given
      obtain rfl := Except.ok.inj sent
      -- The rows are as of the execution.
      exact ⟨2, by decide, ⟨oneCall .execute, goesOn [], rfl, Nat.zero_lt_one⟩, answers⟩
    · obtain ⟨rfl, resumed⟩ := Prod.mk.inj (Option.some.inj found)
      obtain ⟨rfl, _⟩ := Action.resume.inj resumed
      cases Option.some.inj there
    · cases found

theorem results_current_one : ∃ (rows : List Dictionary.Source) (request : Request),
    ToolCall.request onlyHr (.list_tables (lit "hr")) = .ok request ∧
      ∃ j k s injected, (oneCallTaken rows)[j]? = some (s, .spawn injected request.limit) ∧ s.tasks.length = 0 ∧ j < k ∧
        k < (oneCallTaken rows).length ∧ (resultOf request (fetchBounded rows 200)).key = resultKey (.list_tables (lit "hr")) ∧
        (listing twoTables onlyHr (.list_tables (lit "hr"))).Page onlyHr.max_rows (resultOf request (fetchBounded rows 200)).items
          (resultOf request (fetchBounded rows 200)).truncated := by
  have answers : Statement.Answers .listTables twoTables (dict [(lit "owner", lit "HR")]) _ := answers_insertionSort _
  obtain ⟨last, path, returned⟩ := oneCall_path _
  exact ⟨_, results_current ⟨[], []⟩ onlyHr (fun _ => .list_tables (lit "hr")) (fun _ => twoTables) (fun _ => twoTables_comments)
    path (oneCall_serves answers) 0 _ (by rw [returned]; rfl)⟩

end OracleSchema.Service
