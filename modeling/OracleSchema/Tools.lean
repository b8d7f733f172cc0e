import OracleSchema.Settings
import OracleSchema.Json
import OracleSchema.Dictionary

/-!
The six metadata tools: the request that each sends, the bounded fetch, and the
items that are returned. `confined_iff` says when the owners that appear in a result
are all in the allow-list.
-/
namespace OracleSchema.Tools
open OracleSchema.Strings OracleSchema.Errors OracleSchema.Json OracleSchema.Settings OracleSchema.Queries
open OracleSchema.Dictionary

structure Request where
  statement : Statement
  binds : Binds
  limit : Int

/-- A dictionary display: a later entry of a key replaces an earlier one. -/
def dict (entries : List (PyStr × PyStr)) : Binds := entries.foldl (fun binds entry => binds.insert entry.1 entry.2) ∅

/-- `_owner_predicate`: the predicate and its bind values. -/
def ownerPredicate (cfg : Config) (owner : Option PyStr) : Except PyExc (OwnerFilter × List (PyStr × PyStr)) :=
  match owner with
  | some owner => (guardOwner owner cfg).map (fun norm => (.bound, [(lit "owner", norm)]))
  | none =>
    if cfg.allowed_owners = ∅ then .ok (.unrestricted, [])
    else
      let binds := (sorted cfg.allowed_owners).zipIdx.map (fun entry => (lit "owner_" ++ intText entry.2, entry.1))
      .ok (.among (binds.map Prod.fst), binds)

section
variable (cfg : Config)

def listSchemas : Except PyExc Request :=
  (ownerPredicate cfg none).map (fun pred => ⟨.listSchemas pred.1, dict pred.2, cfg.max_rows⟩)
def listTables (owner : PyStr) : Except PyExc Request :=
  (guardOwner owner cfg).map (fun norm => ⟨.listTables, dict [(lit "owner", norm)], cfg.max_rows⟩)
def describeTable (owner table : PyStr) : Except PyExc Request :=
  (guardOwner owner cfg).map (fun norm =>
    ⟨.describeTable, dict [(lit "owner", norm), (lit "tname", upper (strip table))], cfg.max_rows⟩)
def findColumns (name_pattern : PyStr) (owner : Option PyStr) : Except PyExc Request :=
  (ownerPredicate cfg owner).map (fun pred =>
    ⟨.findColumns pred.1, dict ([(lit "pat", name_pattern)] ++ pred.2), cfg.max_rows⟩)
def listRelationships (owner : PyStr) (table : Option PyStr) : Except PyExc Request :=
  (guardOwner owner cfg).map (fun norm =>
    match table with
    | none => ⟨.listRelationships false, dict [(lit "owner", norm)], cfg.max_rows⟩
    | some table =>
      ⟨.listRelationships true, dict [(lit "owner", norm), (lit "tname", upper (strip table))], cfg.max_rows⟩)
def getConstraints (owner table : PyStr) : Except PyExc Request :=
  (guardOwner owner cfg).map (fun norm =>
    ⟨.getConstraints, dict [(lit "owner", norm), (lit "tname", upper (strip table))], cfg.max_rows⟩)
end

inductive ToolCall
  | list_schemas
  | list_tables (owner : PyStr)
  | describe_table (owner table : PyStr)
  | find_columns (name_pattern : PyStr) (owner : Option PyStr)
  | list_relationships (owner : PyStr) (table : Option PyStr)
  | get_constraints (owner table : PyStr)

def ToolCall.request (cfg : Config) : ToolCall → Except PyExc Request
  | .list_schemas => listSchemas cfg
  | .list_tables owner => listTables cfg owner
  | .describe_table owner table => describeTable cfg owner table
  | .find_columns name_pattern owner => findColumns cfg name_pattern owner
  | .list_relationships owner table => listRelationships cfg owner table
  | .get_constraints owner table => getConstraints cfg owner table

/-! ### Items -/

abbrev Item := List (PyStr × PyValue)

def cellValue : Cell → PyValue
  | none => .none
  | some text => .str text

/-- `r[i]`. -/
def cell (r : List Cell) (i : Nat) : Cell := r.getD i none

/-- The names of the fields that take a cell unchanged, from the first cell on. -/
def fields (names : List String) (r : List Cell) : Item :=
  names.zipIdx.map (fun entry => (lit entry.1, cellValue (cell r entry.2)))

/-- The item that a tool makes of one row of its statement. -/
def item : Statement → List Cell → Item
  | .listSchemas _, r => fields ["owner"] r
  | .listTables, r => fields ["table_name", "comments"] r
  | .describeTable, r =>
    fields ["column_name", "data_type"] r ++
      [(lit "nullable", .bool (cell r 2 = some (lit "Y"))),
        (lit "data_default", cellValue (if (cell r 3).getD [] = [] then none else (cell r 3).map strip)),
        (lit "comments", cellValue (cell r 4))]
  | .findColumns _, r => fields ["owner", "table_name", "column_name", "data_type"] r
  | .listRelationships _, r =>
    fields ["constraint_name", "child_owner", "child_table", "child_column", "parent_owner", "parent_table",
      "parent_column"] r
  | .getConstraints, r =>
    fields ["constraint_name", "constraint_type", "column_name", "search_condition", "r_owner", "r_constraint_name"] r

/-! ### The bounded fetch -/

/-- `xs[:stop]`. -/
def sliceTo {α : Type} (xs : List α) (stop : Int) : List α :=
  if 0 ≤ stop then xs.take stop.toNat else xs.take (xs.length - (-stop).toNat)

/-- The rows of a fetch and whether more were there; one row more than the limit is
    fetched, and a size below one fetches none. -/
def fetchBounded {α : Type} (answer : List α) (limit : Int) : List α × Bool :=
  let fetched := answer.take (limit + 1).toNat
  (sliceTo fetched limit, limit < fetched.length)

/-- The key of the list in the returned dictionary. -/
def listKey : Statement → PyStr
  | .describeTable => lit "columns"
  | _ => lit "items"

structure Result where
  key : PyStr
  items : List Item
  truncated : Bool

/-- A result that a tool call may give, with the view rows that it shows. -/
def Outputs (V : Views) (cfg : Config) (call : ToolCall) (shown : List Source) (result : Result) : Prop :=
  ∃ request answer, call.request cfg = .ok request ∧ request.statement.Answers V request.binds answer ∧
    shown = (fetchBounded answer request.limit).1 ∧
      result = ⟨listKey request.statement, shown.map (fun source => item request.statement (source.cells request.statement)),
        (fetchBounded answer request.limit).2⟩

theorem fetchBounded_fst {α : Type} (answer : List α) (limit : Int) :
    (fetchBounded answer limit).1 = answer.take limit.toNat := by
  unfold fetchBounded sliceTo
  split_ifs with given
  · simp only [List.take_take]
    rw [min_eq_left (by omega)]
  · have none : (limit + 1).toNat = 0 := by omega
    have zero : limit.toNat = 0 := by omega
    simp [none, zero]

/-- A fetch that is not cut off gives the whole answer. -/
theorem fetchBounded_whole {α : Type} {answer : List α} {limit : Int} (whole : (fetchBounded answer limit).2 = false) :
    (fetchBounded answer limit).1 = answer := by
  rw [fetchBounded_fst]
  simp only [fetchBounded, List.length_take, decide_eq_false_iff_not] at whole
  exact List.take_of_length_le (by omega)

/-! ### Owners -/

/-- The fields that hold schema owners. -/
def ownerKeys : List PyStr := [lit "owner", lit "child_owner", lit "parent_owner", lit "r_owner"]

/-- The owner of the listed object. -/
def owner : Source → PyStr
  | .schema owner => owner
  | .table t _ => t.owner
  | .column col _ => col.owner
  | .edge c _ _ _ => c.owner
  | .constraint c _ => c.owner

/-- The owner at the far side of a foreign key. -/
def farOwner : Source → Option PyStr
  | .edge _ _ rc _ => some rc.owner
  | .constraint c _ => c.r_owner
  | _ => none

/-- Every owner in a result is in the allow-list. -/
def Confined (V : Views) (cfg : Config) (call : ToolCall) : Prop :=
  ∀ shown result, Outputs V cfg call shown result →
    (∀ item ∈ result.items, ∀ key ∈ ownerKeys, ∀ name, (key, PyValue.str name) ∈ item → name ∈ cfg.allowed_owners) ∧
      ∀ source ∈ shown, owner source ∈ cfg.allowed_owners

/-- Foreign keys to owners outside the allow-list come, in the order of the statement,
    after as many rows as are returned. -/
def FarOwnersCut (V : Views) (cfg : Config) (call : ToolCall) : Prop :=
  ∀ request, call.request cfg = .ok request → ∀ source ∈ request.statement.rows V request.binds,
    ∀ far, farOwner source = some far → far ∉ cfg.allowed_owners →
      request.limit ≤ preceding (Source.orderKey request.statement) (request.statement.rows V request.binds) source

theorem lookup_dict {entries : List (PyStr × PyStr)} {key text : PyStr}
    (found : (dict entries).lookup key = some text) : (key, text) ∈ entries := by
  induction entries using List.reverseRecOn with
  | nil => simp [dict] at found
  | append_singleton entries entry ih =>
    have last : dict (entries ++ [entry]) = (dict entries).insert entry.1 entry.2 := by simp [dict]
    rw [last] at found
    by_cases same : key = entry.1
    · subst same
      rw [AList.lookup_insert] at found
      obtain rfl := Option.some.inj found
      simp
    · rw [AList.lookup_insert_ne same] at found
      exact List.mem_append_left _ (ih found)

/-- What equals a bind value is a value bound to that key. -/
theorem mem_of_sqlEq {entries : List (PyStr × PyStr)} {key text : PyStr}
    (equal : sqlEq (some text) (value (dict entries) key) = true) : (key, text) ∈ entries := by
  obtain ⟨same, isText, found⟩ := sqlEq_iff.mp equal
  obtain rfl := Option.some.inj isText
  exact lookup_dict (Option.filter_eq_some_iff.mp found).1

section
variable {cfg : Config} (listed : cfg.allowed_owners.Nonempty)
include listed

/-- Owners that pass an owner predicate are in a non-empty allow-list. -/
theorem ownerPredicate_confines {given : Option PyStr} {pred : OwnerFilter × List (PyStr × PyStr)}
    (built : ownerPredicate cfg given = .ok pred) {others : List (PyStr × PyStr)}
    (apart : ∀ entry ∈ others, entry.1 = lit "pat") {name : PyStr}
    (passes : pred.1.holds (dict (others ++ pred.2)) name = true) : name ∈ cfg.allowed_owners := by
  have bindsOwners : ∀ key, key ≠ lit "pat" → (key, name) ∈ others ++ pred.2 → (key, name) ∈ pred.2 := by
    intro key notPattern member
    rcases List.mem_append.mp member with other | own
    · exact absurd (apart _ other) notPattern
    · exact own
  unfold ownerPredicate at built
  cases given with
  | some owner =>
    simp only at built
    cases guarded : guardOwner owner cfg with
    | error exc => rw [guarded] at built; cases built
    | ok norm =>
      rw [guarded] at built
      obtain rfl := Except.ok.inj built
      have bound := bindsOwners _ (by decide) (mem_of_sqlEq passes)
      obtain rfl : name = norm := by simpa using bound
      exact guardOwner_mem listed guarded
  | none =>
    simp only at built
    rw [if_neg listed.ne_empty] at built
    obtain rfl := Except.ok.inj built
    obtain ⟨key, among, equal⟩ := List.any_eq_true.mp passes
    obtain ⟨entry, inBinds, rfl⟩ := List.mem_map.mp among
    obtain ⟨numbered, inSorted, rfl⟩ := List.mem_map.mp inBinds
    have notPattern : lit "owner_" ++ intText numbered.2 ≠ lit "pat" := by
      intro same
      exact absurd (List.cons.inj same).1 (by decide)
    obtain ⟨numbered', inSorted', same⟩ := List.mem_map.mp (bindsOwners _ notPattern (mem_of_sqlEq equal))
    obtain ⟨_, rfl⟩ := Prod.mk.inj same
    have inOwners := List.fst_mem_of_mem_zipIdx inSorted'
    exact mem_sorted.mp inOwners

/-- An owner that equals the bound one is the guarded owner. -/
theorem guarded_confines {given norm name : PyStr} (guarded : guardOwner given cfg = .ok norm)
    {others : List (PyStr × PyStr)} (apart : ∀ entry ∈ others, entry.1 = lit "tname")
    (equal : sqlEq (some name) (value (dict ((lit "owner", norm) :: others)) (lit "owner")) = true) :
    name ∈ cfg.allowed_owners := by
  rcases List.mem_cons.mp (mem_of_sqlEq equal) with same | other
  · rw [(Prod.mk.inj same).2]
    exact guardOwner_mem listed guarded
  · have differ : lit "owner" ≠ lit "tname" := by decide
    exact absurd (apart _ other) differ

/-- The listed object of every selected row has an owner in the allow-list. -/
theorem owner_confined {call : ToolCall} {request : Request} (sent : call.request cfg = .ok request) {V : Views}
    {source : Source} (member : source ∈ request.statement.rows V request.binds) : owner source ∈ cfg.allowed_owners := by
  have selected := (List.mem_filter.mp member).2
  have fits := fits_of_selects selected
  have noOthers : ∀ entry ∈ ([] : List (PyStr × PyStr)), entry.1 = lit "tname" := by simp
  have table : ∀ text : PyStr, ∀ entry ∈ [(lit "tname", text)], entry.1 = lit "tname" := by simp
  cases call with
  | list_schemas =>
    obtain ⟨pred, built, rfl⟩ := map_eq_ok.mp sent
    cases fits
    have apart : ∀ entry ∈ ([] : List (PyStr × PyStr)), entry.1 = lit "pat" := by simp
    exact ownerPredicate_confines listed built apart selected
  | list_tables given =>
    obtain ⟨norm, guarded, rfl⟩ := map_eq_ok.mp sent
    cases fits
    exact guarded_confines listed guarded noOthers selected
  | describe_table given table' =>
    obtain ⟨norm, guarded, rfl⟩ := map_eq_ok.mp sent
    cases fits
    simp only [Statement.selects, Bool.and_eq_true] at selected
    exact guarded_confines listed guarded (table _) selected.1
  | find_columns pattern given =>
    obtain ⟨pred, built, rfl⟩ := map_eq_ok.mp sent
    cases fits
    simp only [Statement.selects, Bool.and_eq_true] at selected
    have apart : ∀ entry ∈ [(lit "pat", pattern)], entry.1 = lit "pat" := by simp
    exact ownerPredicate_confines listed built apart selected.2
  | list_relationships given table' =>
    obtain ⟨norm, guarded, rfl⟩ := map_eq_ok.mp sent
    cases table' with
    | none =>
      cases fits
      simp only [Statement.selects, Bool.and_eq_true] at selected
      exact guarded_confines listed guarded noOthers selected.1.2
    | some table' =>
      cases fits
      simp only [Statement.selects, Bool.and_eq_true] at selected
      exact guarded_confines listed guarded (table _) selected.1.2
  | get_constraints given table' =>
    obtain ⟨norm, guarded, rfl⟩ := map_eq_ok.mp sent
    cases fits
    simp only [Statement.selects, Bool.and_eq_true] at selected
    exact guarded_confines listed guarded (table _) selected.1

end

/-- The owner fields of the item for a row. -/
def ownerFields (source : Source) : Statement → Item
  | .listSchemas _ => [(lit "owner", .str (owner source))]
  | .findColumns _ => [(lit "owner", .str (owner source))]
  | .listRelationships _ =>
    [(lit "child_owner", .str (owner source)), (lit "parent_owner", cellValue (farOwner source))]
  | .getConstraints => [(lit "r_owner", cellValue (farOwner source))]
  | .listTables => []
  | .describeTable => []

theorem ownerFields_eq {statement : Statement} {source : Source} (fits : Fits statement source) :
    (item statement (source.cells statement)).filter (fun field => field.1 ∈ ownerKeys) = ownerFields source statement := by
  cases fits <;> rfl

/-- The owners in an item are the owner of the listed object and the far owner. -/
theorem owner_of_mem_item {statement : Statement} {source : Source} (fits : Fits statement source) {key name : PyStr}
    (isOwner : key ∈ ownerKeys) (member : (key, PyValue.str name) ∈ item statement (source.cells statement)) :
    name = owner source ∨ farOwner source = some name := by
  have inFields : (key, PyValue.str name) ∈ ownerFields source statement := by
    rw [← ownerFields_eq fits]
    exact List.mem_filter.mpr ⟨member, by simpa using isOwner⟩
  have far : PyValue.str name = cellValue (farOwner source) → farOwner source = some name := by
    intro same
    cases found : farOwner source with
    | none => rw [found] at same; cases same
    | some other => rw [found] at same; rw [PyValue.str.inj same]
  cases statement with
  | listSchemas owner_filter => exact .inl (PyValue.str.inj (Prod.mk.inj (List.mem_singleton.mp inFields)).2)
  | listTables => cases inFields
  | describeTable => cases inFields
  | findColumns owner_filter => exact .inl (PyValue.str.inj (Prod.mk.inj (List.mem_singleton.mp inFields)).2)
  | listRelationships onTable =>
    rcases List.mem_cons.mp inFields with child | parent
    · exact .inl (PyValue.str.inj (Prod.mk.inj child).2)
    · exact .inr (far (Prod.mk.inj (List.mem_singleton.mp parent)).2)
  | getConstraints => exact .inr (far (Prod.mk.inj (List.mem_singleton.mp inFields)).2)

/-- A far owner is in the item. -/
theorem farOwner_mem_item {statement : Statement} {source : Source} (fits : Fits statement source) {far : PyStr}
    (isFar : farOwner source = some far) :
    ∃ key ∈ ownerKeys, (key, PyValue.str far) ∈ item statement (source.cells statement) := by
  have fromFields : ∀ key ∈ ownerKeys, (key, PyValue.str far) ∈ ownerFields source statement →
      ∃ key ∈ ownerKeys, (key, PyValue.str far) ∈ item statement (source.cells statement) := by
    intro key isOwner inFields
    rw [← ownerFields_eq fits] at inFields
    exact ⟨key, isOwner, (List.mem_filter.mp inFields).1⟩
  cases fits with
  | listRelationships onTable c cc rc rcc =>
    exact fromFields (lit "parent_owner") (by decide) (by simp [ownerFields, isFar, cellValue])
  | getConstraints c cc => exact fromFields (lit "r_owner") (by decide) (by simp [ownerFields, isFar, cellValue])
  | _ => cases isFar

/-- With an allow-list, the owners in every result are in it if and only if the
    selected foreign keys to other owners are cut off by the row limit. -/
theorem confined_iff (V : Views) (cfg : Config) (call : ToolCall) (listed : cfg.allowed_owners.Nonempty) :
    Confined V cfg call ↔ FarOwnersCut V cfg call := by
  constructor
  · intro confined request sent source member far isFar outside
    by_contra exceeds
    have few : preceding (Source.orderKey request.statement) (request.statement.rows V request.binds) source <
        request.limit.toNat := by omega
    obtain ⟨answer, answers, within⟩ := (mem_take_answer_iff member _).mpr few
    rw [← fetchBounded_fst] at within
    obtain ⟨key, isOwner, inItem⟩ := farOwner_mem_item (fits_of_selects (List.mem_filter.mp member).2) isFar
    have inside := (confined _ _ ⟨request, answer, sent, answers, rfl, rfl⟩).1 _ (List.mem_map_of_mem within) key isOwner far
    exact outside (inside inItem)
  · rintro cut shown result ⟨request, answer, sent, answers, rfl, rfl⟩
    have ofShown : ∀ source ∈ (fetchBounded answer request.limit).1, source ∈ request.statement.rows V request.binds := by
      intro source shown
      rw [fetchBounded_fst] at shown
      exact answers.mem.mp (List.mem_of_mem_take shown)
    refine ⟨?_, fun source shown => owner_confined listed sent (ofShown source shown)⟩
    intro shownItem inItems key isOwner name inItem
    obtain ⟨source, shown, rfl⟩ := List.mem_map.mp inItems
    have member := ofShown source shown
    rcases owner_of_mem_item (fits_of_selects (List.mem_filter.mp member).2) isOwner inItem with rfl | isFar
    · exact owner_confined listed sent member
    · by_contra outside
      have late := cut request sent source member name isFar outside
      rw [fetchBounded_fst] at shown
      have few := (mem_take_answer_iff member _).mp ⟨answer, answers, shown⟩
      omega

/-- HR's table EMP refers to a key of FIN, whose schema is not in the allow-list. -/
def crossSchema : Views where
  all_tables := []
  all_tab_comments := []
  all_tab_columns := []
  all_col_comments := []
  all_constraints :=
    [⟨lit "HR", lit "FK", some (lit "R"), lit "EMP", none, some (lit "FIN"), some (lit "PK")⟩,
      ⟨lit "FIN", lit "PK", some (lit "P"), lit "ACCOUNTS", none, none, none⟩]
  all_cons_columns :=
    [⟨lit "HR", lit "FK", some (lit "ACCOUNT_ID"), some 1⟩, ⟨lit "FIN", lit "PK", some (lit "ID"), some 1⟩]

/-- Only HR is allowed. -/
def onlyHr : Config := ⟨lit "db", lit "APP", lit "pw", {lit "HR"}, 200, 4, .dev_insecure, none, none, none, ∅⟩

/-- Another foreign key of EMP, within HR, which comes first. -/
def ownFirst : Views :=
  { crossSchema with
    all_constraints := [⟨lit "HR", lit "DK", some (lit "R"), lit "EMP", none, some (lit "HR"), some (lit "UK")⟩,
      ⟨lit "HR", lit "UK", some (lit "U"), lit "DEPT", none, none, none⟩] ++ crossSchema.all_constraints
    all_cons_columns := [⟨lit "HR", lit "DK", some (lit "DEPT_ID"), some 1⟩, ⟨lit "HR", lit "UK", some (lit "ID"), some 1⟩] ++
      crossSchema.all_cons_columns }

def oneRow : Config := { onlyHr with max_rows := 1 }

/-- The row of a foreign key of EMP. -/
def edgeOf (fk column : String) (parent : Constraint) : Source :=
  .edge ⟨lit "HR", lit fk, some (lit "R"), lit "EMP", none, some parent.owner, some parent.constraint_name⟩
    ⟨lit "HR", lit fk, some (lit column), some 1⟩ parent ⟨parent.owner, parent.constraint_name, some (lit "ID"), some 1⟩

def edgeToDept : Source := edgeOf "DK" "DEPT_ID" ⟨lit "HR", lit "UK", some (lit "U"), lit "DEPT", none, none, none⟩
def edgeToFin : Source := edgeOf "FK" "ACCOUNT_ID" ⟨lit "FIN", lit "PK", some (lit "P"), lit "ACCOUNTS", none, none, none⟩

/-- One row is returned, and the reference to FIN is the second one. -/
theorem confined_iff_cut : Confined ownFirst oneRow (.list_relationships (lit "hr") none) := by
  refine (confined_iff ownFirst oneRow (.list_relationships (lit "hr") none) (Finset.singleton_nonempty _)).mpr ?_
  intro request sent source member far isFar outside
  obtain rfl : ⟨.listRelationships false, dict [(lit "owner", lit "HR")], 1⟩ = request := Except.ok.inj sent
  have rows : (Statement.listRelationships false).rows ownFirst (dict [(lit "owner", lit "HR")]) = [edgeToDept, edgeToFin] := by decide
  simp only [rows] at member ⊢
  rcases List.mem_pair.mp member with rfl | rfl
  · obtain rfl : lit "HR" = far := Option.some.inj isFar
    exact absurd (Finset.mem_singleton_self _) outside
  · have before : Source.orderKey (.listRelationships false) edgeToDept < Source.orderKey (.listRelationships false) edgeToFin :=
      List.cons_lt_cons_iff.mpr (.inl (precedes_textKey.mpr (by decide)))
    have counted : 0 < preceding (Source.orderKey (.listRelationships false)) [edgeToDept, edgeToFin] edgeToFin :=
      List.countP_pos_iff.mpr ⟨edgeToDept, List.mem_cons_self, decide_eq_true before⟩
    omega

theorem crossSchema_shown :
    onlyHr.allowed_owners.Nonempty ∧ ¬ Confined crossSchema onlyHr (.list_relationships (lit "hr") none) := by
  refine ⟨Finset.singleton_nonempty _, fun confined => ?_⟩
  have rows : (Statement.listRelationships false).rows crossSchema (dict [(lit "owner", lit "HR")]) = [edgeToFin] := by decide
  have answers : (Statement.listRelationships false).Answers crossSchema (dict [(lit "owner", lit "HR")]) [edgeToFin] := by
    refine ⟨?_, List.pairwise_singleton _ _⟩
    rw [rows]
  have sent : listRelationships onlyHr (lit "hr") none =
      .ok ⟨.listRelationships false, dict [(lit "owner", lit "HR")], 200⟩ := rfl
  have shown := (confined _ _ ⟨_, [edgeToFin], sent, answers, rfl, rfl⟩).1 _ List.mem_cons_self (lit "parent_owner") (by decide) (lit "FIN")
  exact absurd (shown (by simp [edgeToFin, edgeOf, item, fields, Source.cells, cell, cellValue])) (by decide)

end OracleSchema.Tools
