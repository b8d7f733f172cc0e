import OracleSchema.Rebuilds
import OracleSchema.Startup

/-!
A metadata tool from the configuration to its result: the clamped limit, the fetch of one
row more, the slice and the projection. What is returned is an exact prefix of the query's
answer (`items_first_rows`).
-/
namespace OracleSchema.Pages
open OracleSchema.Strings OracleSchema.Errors OracleSchema.Json OracleSchema.Settings OracleSchema.Queries
open OracleSchema.Dictionary OracleSchema.Tools
open OracleSchema.Pool OracleSchema.Rebuilds OracleSchema.Startup

/-- A call of a tool: the request, the fetch on the pool of the module and the items. -/
def perform (cfg : Config) (call : ToolCall) (E : Outcomes (List Cell)) (m : Module) : Except PyExc Result × Module :=
  match call.request cfg with
  | .error exc => (.error exc, m)
  | .ok request =>
    match fetch none request.limit E m with
    | (.error exc, later) => (.error exc, later)
    | (.ok (rows, truncated), later) =>
      (.ok ⟨listKey request.statement, rows.map (item request.statement), truncated⟩, later)

/-- The rows that the query gave in the attempt that the result comes from. -/
def Answered {α : Type} (E : Outcomes α) (answer : List α) : Prop :=
  E.first = .ok answer ∨ Refused E ∧ E.second = .ok answer

/-- A default without the white space around it; an empty one is none at all. -/
inductive ShowsDefault : Cell → PyValue → Prop
  | null : ShowsDefault none .none
  | empty : ShowsDefault (some []) .none
  | text {shown : PyStr} (given : shown ≠ []) : ShowsDefault (some shown) (.str (strip shown))

/-- The item that shows one row of a statement: each field with the cell that it stands for. -/
inductive Projects : Statement → List Cell → Item → Prop
  | listSchemas {filter : OwnerFilter} {r : List Cell} :
    Projects (.listSchemas filter) r [(lit "owner", cellValue (cell r 0))]
  | listTables {r : List Cell} :
    Projects .listTables r [(lit "table_name", cellValue (cell r 0)), (lit "comments", cellValue (cell r 1))]
  | describeTable {r : List Cell} {data_default : PyValue} (default : ShowsDefault (cell r 3) data_default) :
    Projects .describeTable r
      [(lit "column_name", cellValue (cell r 0)), (lit "data_type", cellValue (cell r 1)),
        (lit "nullable", .bool (cell r 2 = some (lit "Y"))), (lit "data_default", data_default),
        (lit "comments", cellValue (cell r 4))]
  | findColumns {filter : OwnerFilter} {r : List Cell} :
    Projects (.findColumns filter) r
      [(lit "owner", cellValue (cell r 0)), (lit "table_name", cellValue (cell r 1)), (lit "column_name", cellValue (cell r 2)),
        (lit "data_type", cellValue (cell r 3))]
  | listRelationships {table : Bool} {r : List Cell} :
    Projects (.listRelationships table) r
      [(lit "constraint_name", cellValue (cell r 0)), (lit "child_owner", cellValue (cell r 1)),
        (lit "child_table", cellValue (cell r 2)), (lit "child_column", cellValue (cell r 3)),
        (lit "parent_owner", cellValue (cell r 4)), (lit "parent_table", cellValue (cell r 5)),
        (lit "parent_column", cellValue (cell r 6))]
  | getConstraints {r : List Cell} :
    Projects .getConstraints r
      [(lit "constraint_name", cellValue (cell r 0)), (lit "constraint_type", cellValue (cell r 1)),
        (lit "column_name", cellValue (cell r 2)), (lit "search_condition", cellValue (cell r 3)),
        (lit "r_owner", cellValue (cell r 4)), (lit "r_constraint_name", cellValue (cell r 5))]

/-- The items show the first rows, one each, up to the limit and in order, and the flag says
    whether there are more. -/
structure ExactPrefix (max_rows : Int) (statement : Statement) (answer : List (List Cell)) (result : Result) : Prop where
  key : result.key = listKey statement
  items : List.Forall₂ (Projects statement) (answer.take (min answer.length max_rows.toNat)) result.items
  bounded : result.items.length ≤ 1000
  truncated : result.truncated = true ↔ max_rows < answer.length

/-! ### The limit -/

/-- The limit of every tool is the configured one. -/
theorem request_limit {cfg : Config} {call : ToolCall} {request : Request} (admitted : call.request cfg = .ok request) :
    request.limit = cfg.max_rows := by
  cases call with
  | list_relationships owner table =>
    obtain ⟨norm, _, rfl⟩ := map_eq_ok.mp admitted
    cases table <;> rfl
  | _ =>
    obtain ⟨_, _, rfl⟩ := map_eq_ok.mp admitted
    rfl

theorem fromEnv_max_rows {environ : Environ} {cfg : Config} (started : fromEnv environ = .ok cfg) :
    1 ≤ cfg.max_rows ∧ cfg.max_rows ≤ 1000 := by
  rw [fromEnv_eq] at started
  obtain ⟨build, before, rest⟩ := bind_eq_ok.mp started
  obtain ⟨pool_max, _, rest⟩ := bind_eq_ok.mp rest
  obtain rfl := Except.ok.inj rest
  exact (beforePool_ok before).max_rows pool_max

/-! ### The page -/

theorem showsDefault_shown (c : Cell) : ShowsDefault c (cellValue (if c.getD [] = [] then none else c.map strip)) := by
  cases c with
  | none => exact .null
  | some text =>
    by_cases empty : text = []
    · subst empty
      exact .empty
    · simp only [Option.getD_some, if_neg empty]
      exact .text empty

/-- Each tool makes such an item of a row. -/
theorem projects_item (statement : Statement) (r : List Cell) : Projects statement r (item statement r) := by
  cases statement with
  | listSchemas filter => exact .listSchemas
  | listTables => exact .listTables
  | describeTable => exact .describeTable (showsDefault_shown _)
  | findColumns filter => exact .findColumns
  | listRelationships table => exact .listRelationships
  | getConstraints => exact .getConstraints

theorem fetchBounded_snd {α : Type} (answer : List α) {limit : Int} (nonneg : 0 ≤ limit) :
    (fetchBounded answer limit).2 = true ↔ limit < answer.length := by
  simp only [fetchBounded, List.length_take, decide_eq_true_eq]
  omega

theorem exactPrefix_page {max_rows : Int} (bounds : 1 ≤ max_rows ∧ max_rows ≤ 1000) (statement : Statement)
    (answer : List (List Cell)) :
    ExactPrefix max_rows statement answer ⟨listKey statement, (fetchBounded answer max_rows).1.map (item statement),
      (fetchBounded answer max_rows).2⟩ where
  key := rfl
  items := by
    have same : answer.take max_rows.toNat = answer.take (min answer.length max_rows.toNat) := by
      rw [List.take_eq_take_iff]
      omega
    rw [fetchBounded_fst, same, List.forall₂_map_right_iff]
    exact List.forall₂_same.mpr fun r _ => projects_item statement r
  bounded := by
    rw [List.length_map, fetchBounded_fst, List.length_take]
    omega
  truncated := fetchBounded_snd answer (by omega)

/-- A fetch that returns does so with the page of one attempt. -/
theorem fetch_answered {α : Type} {injected : Option Nat} {limit : Int} {E : Outcomes α} {m : Module}
    {page : List α × Bool} (returned : (fetch injected limit E m).1 = .ok page) :
    ∃ answer, Answered E answer ∧ page = fetchBounded answer limit := by
  cases there : injected <|> m.pool with
  | none =>
    obtain ⟨exc, chooses⟩ := choosePool_none there
    unfold fetch at returned
    rw [chooses] at returned
    cases returned
  | some chosen =>
    obtain ⟨added, _, course⟩ := fetch_course (choosePool_some there) limit E
    rw [returned] at course
    generalize result : (Except.ok page : Except PyExc (List α × Bool)) = outcome at course
    generalize (fetch injected limit E m).2.pool = left at course
    cases course with
    | handedOn accepted =>
      obtain ⟨answer, first, rfl⟩ := map_eq_ok.mp result.symm
      exact ⟨answer, .inl first, rfl⟩
    | retried refused close credential create =>
      obtain ⟨answer, second, rfl⟩ := map_eq_ok.mp result.symm
      exact ⟨answer, .inr ⟨refused, second⟩, rfl⟩
    | _ => cases result

/-- On a pool, an answered query gives its page. -/
theorem fetch_first {α : Type} {limit : Int} {E : Outcomes α} {m : Module} {answer : List α}
    (there : m.pool.isSome = true) (first : E.first = .ok answer) :
    (fetch none limit E m).1 = .ok (fetchBounded answer limit) := by
  obtain ⟨pool, own⟩ := Option.isSome_iff_exists.mp there
  simp [fetch, choosePool, requirePool, own, fetchOnce, first, Except.map]

/-- Every result of a tool is an exact prefix of what its query gave, and an answered query
    on a pool gives a result. -/
theorem items_first_rows (environ : Environ) (cfg : Config) (started : fromEnv environ = .ok cfg) (call : ToolCall)
    (request : Request) (admitted : call.request cfg = .ok request) (E : Outcomes (List Cell)) (m : Module) :
    (∀ result, (perform cfg call E m).1 = .ok result →
      ∃ answer, Answered E answer ∧ ExactPrefix cfg.max_rows request.statement answer result) ∧
    ∀ answer, m.pool.isSome = true → E.first = .ok answer →
      ∃ result, (perform cfg call E m).1 = .ok result ∧ ExactPrefix cfg.max_rows request.statement answer result := by
  have bounds := fromEnv_max_rows started
  unfold perform
  rw [admitted]
  simp only [request_limit admitted]
  constructor
  · intro result returned
    split at returned
    · cases returned
    · rename_i rows truncated later fetched
      obtain rfl := Except.ok.inj returned
      obtain ⟨answer, answered, page⟩ := fetch_answered (congrArg Prod.fst fetched)
      obtain ⟨rfl, rfl⟩ := Prod.mk.inj page
      exact ⟨answer, answered, exactPrefix_page bounds request.statement answer⟩
  · intro answer there first
    have returned : (fetch none cfg.max_rows E m).1 = .ok (fetchBounded answer cfg.max_rows) := fetch_first there first
    cases fetched : fetch none cfg.max_rows E m with
    | mk result later =>
      rw [fetched] at returned
      obtain rfl : result = .ok (fetchBounded answer cfg.max_rows) := returned
      exact ⟨_, rfl, exactPrefix_page bounds request.statement answer⟩

/-- One table, from a server that was started with the defaults. -/
theorem items_first_rows_tables : ∃ cfg result, fromEnv (sampleEnviron none none) = .ok cfg ∧
    (perform cfg (.list_tables (lit "hr")) ⟨.ok [[some (lit "EMP"), none]], .ok (), .ok ⟨[], []⟩, .ok (), .ok []⟩
      (started ⟨[], []⟩)).1 = .ok result ∧
    ExactPrefix cfg.max_rows .listTables [[some (lit "EMP"), none]] result := by
  obtain ⟨build, before⟩ := beforePool_of_accepted (sampleEnviron_accepted none none)
  have fresh : fromEnv (sampleEnviron none none) = .ok (build 4) := by
    have four : poolMax (sampleEnviron none none) = .ok 4 := rfl
    rw [fromEnv_eq, before, four]
    rfl
  have unrestricted : (build 4).allowed_owners = ∅ := by
    rw [(beforePool_ok before).allowed_owners]
    rfl
  have admitted : ToolCall.request (build 4) (.list_tables (lit "hr")) =
      .ok ⟨.listTables, dict [(lit "owner", lit "HR")], (build 4).max_rows⟩ := by
    have passed : guardOwner (lit "hr") (build 4) = .ok (lit "HR") := by
      simp only [guardOwner, unrestricted, Finset.not_nonempty_empty, false_and, if_false]
      rfl
    show (guardOwner (lit "hr") (build 4)).map _ = _
    rw [passed]
    rfl
  obtain ⟨result, returned, page⟩ := (items_first_rows (sampleEnviron none none) (build 4) fresh (.list_tables (lit "hr")) _
    admitted ⟨.ok [[some (lit "EMP"), none]], .ok (), .ok ⟨[], []⟩, .ok (), .ok []⟩ (started ⟨[], []⟩)).2 _ rfl rfl
  exact ⟨build 4, result, fresh, returned, page⟩

end OracleSchema.Pages
