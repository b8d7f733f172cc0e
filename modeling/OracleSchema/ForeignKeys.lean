import OracleSchema.Tools

/-!
`list_relationships` from the views to its items. The columns of a foreign key and of the
key that it refers to are paired by position, one edge for each position that both have
(`edges_by_position`).
-/
namespace OracleSchema.ForeignKeys
open OracleSchema.Strings OracleSchema.Errors OracleSchema.Json OracleSchema.Settings OracleSchema.Queries
open OracleSchema.Dictionary OracleSchema.Tools

/-- The name that a bound text gives; an empty text is a null to the database and gives
    none. -/
def Named (text name : PyStr) : Prop := text ≠ [] ∧ name = text

/-- A foreign key of an owner, and of a table where one is given. -/
structure ForeignKey (V : Views) (owner : PyStr) (table : Option PyStr) (c : Constraint) : Prop where
  visible : c ∈ V.all_constraints
  referential : c.constraint_type = some (lit "R")
  owned : Named owner c.owner
  onTable : ∀ text ∈ table, Named text c.table_name

/-- The visible key that a foreign key refers to. -/
structure Parent (V : Views) (c rc : Constraint) : Prop where
  visible : rc ∈ V.all_constraints
  r_owner : c.r_owner = some rc.owner
  r_constraint_name : c.r_constraint_name = some rc.constraint_name

/-- A column of a constraint and its place. -/
structure ColumnAt (V : Views) (c : Constraint) (position : Int) (cc : ConsColumn) : Prop where
  visible : cc ∈ V.all_cons_columns
  owner : cc.owner = c.owner
  constraint_name : cc.constraint_name = c.constraint_name
  at_ : cc.position = some position

/-- The places of the columns of a constraint. -/
def positions (V : Views) (c : Constraint) : List Int :=
  (V.all_cons_columns.filter (fun cc => cc.owner = c.owner && cc.constraint_name = c.constraint_name)).filterMap
    (fun cc => cc.position)

/-- A foreign key, or a key that one refers to. -/
def Key (V : Views) (c : Constraint) : Prop :=
  c.constraint_type = some (lit "R") ∨
    ∃ child ∈ V.all_constraints, child.constraint_type = some (lit "R") ∧ Parent V child c

/-- Constraint names are unique for each owner, and places for each key. A null place
    equals no other, so nothing is asked of it. -/
structure Keyed (V : Views) : Prop where
  names : (V.all_constraints.map (fun c => (c.owner, c.constraint_name))).Nodup
  places : ∀ c ∈ V.all_constraints, Key V c → (positions V c).Nodup

/-- A column of a foreign key and the column at the same place of the key that it refers
    to. -/
structure Edge (V : Views) (owner : PyStr) (table : Option PyStr) where
  child : Constraint
  parent : Constraint
  position : Int
  child_column : ConsColumn
  parent_column : ConsColumn
  foreignKey : ForeignKey V owner table child
  refers : Parent V child parent
  childAt : ColumnAt V child position child_column
  parentAt : ColumnAt V parent position parent_column

section
variable {V : Views} {owner : PyStr} {table : Option PyStr}

def Edge.item (e : Edge V owner table) : Item :=
  [(lit "constraint_name", .str e.child.constraint_name), (lit "child_owner", .str e.child.owner),
    (lit "child_table", .str e.child.table_name), (lit "child_column", cellValue e.child_column.column_name),
    (lit "parent_owner", .str e.parent.owner), (lit "parent_table", .str e.parent.table_name),
    (lit "parent_column", cellValue e.parent_column.column_name)]

/-- The view rows of an edge. -/
def Edge.source (e : Edge V owner table) : Source := .edge e.child e.child_column e.parent e.parent_column

/-- The order of edges: by the name of the constraint, then by place. -/
def Edge.Before (e e' : Edge V owner table) : Prop :=
  e.child.constraint_name < e'.child.constraint_name ∨
    e.child.constraint_name = e'.child.constraint_name ∧ e.position < e'.position
end

/-- A place that a constraint has in common with the key that it refers to. -/
def OnBoth (V : Views) (c : Constraint) (position : Int) : Prop :=
  position ∈ positions V c ∧ ∃ rc, Parent V c rc ∧ position ∈ positions V rc

/-- The items are edges in order, exactly one for each foreign key and each place that it
    has in common with the key that it refers to. -/
structure PairedByPosition (V : Views) (owner : PyStr) (table : Option PyStr) (items : List Item)
    (found : List (Edge V owner table)) : Prop where
  items_eq : items = found.map Edge.item
  ordered : found.Pairwise Edge.Before
  exactlyOne : ∀ c position, ForeignKey V owner table c ∧ OnBoth V c position ↔
    ∃ e, found.filter (fun e => e.child = c ∧ e.position = position) = [e]

theorem mem_positions {V : Views} {c : Constraint} {position : Int} :
    position ∈ positions V c ↔ ∃ cc, ColumnAt V c position cc := by
  constructor
  · intro member
    obtain ⟨cc, ofConstraint, at_⟩ := List.mem_filterMap.mp member
    obtain ⟨visible, same⟩ := List.mem_filter.mp ofConstraint
    simp only [Bool.and_eq_true, decide_eq_true_eq] at same
    exact ⟨cc, visible, same.1, same.2, at_⟩
  · rintro ⟨cc, visible, owner, constraint_name, at_⟩
    refine List.mem_filterMap.mpr ⟨cc, List.mem_filter.mpr ⟨visible, ?_⟩, at_⟩
    simp [owner, constraint_name]

/-! ### The rows of the statement -/

theorem parent_iff {V : Views} {c rc : Constraint} :
    Parent V c rc ↔ rc ∈ V.all_constraints ∧
      (sqlEq (some rc.owner) c.r_owner && sqlEq (some rc.constraint_name) c.r_constraint_name) = true := by
  rw [Bool.and_eq_true, sqlEq_some_iff, sqlEq_some_iff]
  constructor
  · intro parent
    exact ⟨parent.visible, parent.r_owner, parent.r_constraint_name⟩
  · intro found
    exact ⟨found.1, found.2.1, found.2.2⟩

theorem mem_edges {V : Views} {source : Source} :
    source ∈ edges V ↔ ∃ c cc rc rcc position, source = .edge c cc rc rcc ∧ c ∈ V.all_constraints ∧ Parent V c rc ∧
      ColumnAt V c position cc ∧ ColumnAt V rc position rcc := by
  constructor
  · intro member
    obtain ⟨⟨⟨⟨c, cc⟩, rc⟩, rcc⟩, inBoth, rfl⟩ := List.mem_map.mp member
    obtain ⟨inParent, inRcc, onRcc⟩ := mem_join.mp inBoth
    obtain ⟨inChild, inRc, onRc⟩ := mem_join.mp inParent
    obtain ⟨inC, inCc, onCc⟩ := mem_join.mp inChild
    simp only [Bool.and_eq_true, decide_eq_true_eq] at onRcc onCc
    obtain ⟨position, ofRcc, ofCc⟩ := sqlEq_iff.mp onRcc.2
    exact ⟨c, cc, rc, rcc, position, rfl, inC, parent_iff.mpr ⟨inRc, onRc⟩, ⟨inCc, onCc.1, onCc.2, ofCc⟩,
      ⟨inRcc, onRcc.1.1, onRcc.1.2, ofRcc⟩⟩
  · rintro ⟨c, cc, rc, rcc, position, rfl, inC, parent, childAt, parentAt⟩
    have inChild : (c, cc) ∈ join (fun c cc => cc.owner = c.owner && cc.constraint_name = c.constraint_name)
        V.all_constraints V.all_cons_columns := by
      refine mem_join.mpr ⟨inC, childAt.visible, ?_⟩
      simp [childAt.owner, childAt.constraint_name]
    refine List.mem_map.mpr ⟨(((c, cc), rc), rcc), mem_join.mpr ⟨mem_join.mpr ⟨inChild, parent_iff.mp parent⟩,
      parentAt.visible, ?_⟩, rfl⟩
    simp [sqlEq, parentAt.owner, parentAt.constraint_name, parentAt.at_, childAt.at_]

theorem sqlEq_value {binds : Binds} {key text name : PyStr} (bound : binds.lookup key = some text) :
    sqlEq (some name) (value binds key) = true ↔ Named text name := by
  by_cases empty : text = []
  · simp [sqlEq, value, bound, Named, empty, Option.filter]
  · simp [sqlEq, value, bound, Named, empty, Option.filter]

/-- The bind values of a call. -/
structure Bound (binds : Binds) (owner : PyStr) (table : Option PyStr) : Prop where
  owner_eq : binds.lookup (lit "owner") = some owner
  table_eq : ∀ text ∈ table, binds.lookup (lit "tname") = some text

section
variable {V : Views} {binds : Binds} {owner : PyStr} {table : Option PyStr} (bound : Bound binds owner table)
include bound

theorem selects_iff {c : Constraint} {cc : ConsColumn} {rc : Constraint} {rcc : ConsColumn} :
    (Statement.listRelationships table.isSome).selects binds (.edge c cc rc rcc) = true ↔
      c.constraint_type = some (lit "R") ∧ Named owner c.owner ∧ ∀ text ∈ table, Named text c.table_name := by
  have typed : sqlEq c.constraint_type (some (lit "R")) = true ↔ c.constraint_type = some (lit "R") := by
    rw [sqlEq_iff]
    constructor
    · rintro ⟨_, isType, same⟩
      rw [isType, same]
    · intro isType
      exact ⟨_, isType, rfl⟩
  cases table with
  | none => simp [Statement.selects, typed, sqlEq_value bound.owner_eq]
  | some text =>
    have named : sqlEq (some c.table_name) (value binds (lit "tname")) = true ↔ Named text c.table_name :=
      sqlEq_value (bound.table_eq text rfl)
    simp [Statement.selects, typed, sqlEq_value bound.owner_eq, named, and_assoc]

/-- The rows are the edges. -/
theorem mem_rows_iff {source : Source} :
    source ∈ (Statement.listRelationships table.isSome).rows V binds ↔ ∃ e : Edge V owner table, e.source = source := by
  rw [Statement.rows, List.mem_filter, Statement.from_, mem_edges]
  constructor
  · rintro ⟨⟨c, cc, rc, rcc, position, rfl, visible, parent, childAt, parentAt⟩, selected⟩
    obtain ⟨referential, owned, onTable⟩ := (selects_iff bound).mp selected
    exact ⟨⟨c, rc, position, cc, rcc, ⟨visible, referential, owned, onTable⟩, parent, childAt, parentAt⟩, rfl⟩
  · rintro ⟨e, rfl⟩
    refine ⟨⟨e.child, e.child_column, e.parent, e.parent_column, e.position, rfl, e.foreignKey.visible, e.refers,
      e.childAt, e.parentAt⟩, ?_⟩
    exact (selects_iff bound).mpr ⟨e.foreignKey.referential, e.foreignKey.owned, e.foreignKey.onTable⟩
end

/-! ### One row for each place -/

def IsNamed (owner name : PyStr) (c : Constraint) : Prop :=
  c.constraint_type = some (lit "R") ∧ (c.owner, c.constraint_name) = (owner, name)

/-- The row of a foreign key for one place. -/
def IsPair (owner name : PyStr) (position : Int) : Source → Prop
  | .edge c cc _ _ => IsNamed owner name c ∧ cc.position = some position
  | _ => False

section
variable {V : Views} (keyed : Keyed V)
include keyed

/-- A key has one column at a place. -/
theorem column_alone {c : Constraint} (visible : c ∈ V.all_constraints) (key : Key V c) (position : Int) :
    AtMostOne (fun cc => (cc.owner = c.owner ∧ cc.constraint_name = c.constraint_name) ∧ cc.position = some position)
      V.all_cons_columns := by
  have distinct := List.pairwise_filter.mp (List.pairwise_filterMap.mp (keyed.places c visible key))
  refine distinct.imp ?_
  intro cc cc' apart both
  refine apart ?_ ?_ position both.1.2 position both.2.2 rfl
  · simpa using both.1.1
  · simpa using both.2.1

/-- A constraint refers to one key. -/
theorem parent_alone (c : Constraint) : AtMostOne (Parent V c) V.all_constraints := by
  refine (List.pairwise_map.mp keyed.names).imp ?_
  intro rc rc' differ both
  have sameOwner : rc.owner = rc'.owner := Option.some.inj (both.1.r_owner.symm.trans both.2.r_owner)
  have sameName : rc.constraint_name = rc'.constraint_name :=
    Option.some.inj (both.1.r_constraint_name.symm.trans both.2.r_constraint_name)
  exact differ (Prod.ext sameOwner sameName)

/-- Each of the three joins keeps at most one row for a place: the first since a key has
    one column there, the second since it refers to one key, and the third since that key
    has one column there. -/
theorem pair_alone (owner name : PyStr) (position : Int) : AtMostOne (IsPair owner name position) (edges V) := by
  refine List.pairwise_map.mpr ?_
  let child (row : Constraint × ConsColumn) : Prop := IsNamed owner name row.1 ∧ row.2.position = some position
  let withParent (row : (Constraint × ConsColumn) × Constraint) : Prop := child row.1
  have named : AtMostOne (IsNamed owner name) V.all_constraints :=
    (nodup_keys_iff.mp keyed.names (owner, name)).imp fun c _ isNamed => isNamed.2
  have children : AtMostOne child (join (fun c cc => cc.owner = c.owner && cc.constraint_name = c.constraint_name)
      V.all_constraints V.all_cons_columns) := by
    refine atMostOne_join child (fun c cc _ isChild => isChild.1) named ?_
    intro c visible isNamed
    refine (column_alone keyed visible (.inl isNamed.1) position).imp ?_
    intro cc _ found
    simpa using And.intro found.1 found.2.2
  have parents : AtMostOne withParent (join (fun (row : Constraint × ConsColumn) rc =>
      sqlEq (some rc.owner) row.1.r_owner && sqlEq (some rc.constraint_name) row.1.r_constraint_name)
      (join (fun c cc => cc.owner = c.owner && cc.constraint_name = c.constraint_name) V.all_constraints V.all_cons_columns)
      V.all_constraints) := by
    refine atMostOne_join withParent (fun row rc _ isChild => isChild) children ?_
    intro row _ _
    refine (parent_alone keyed row.1).imp ?_
    intro rc inRc found
    exact parent_iff.mpr ⟨inRc, found.1⟩
  refine atMostOne_join (fun row => withParent row.1) (fun row rcc _ isChild => isChild) parents ?_
  intro row inParent isChild
  obtain ⟨inChild, inRc⟩ := mem_join.mp inParent
  have key : Key V row.2 := .inr ⟨row.1.1, (mem_join.mp inChild).1, isChild.1.1, parent_iff.mpr inRc⟩
  refine (column_alone keyed inRc.1 key position).imp ?_
  intro rcc _ found
  have same : sqlEq rcc.position row.1.2.position = true := by simpa using (Bool.and_eq_true_iff.mp found.1).2
  obtain ⟨p, ofRcc, ofCc⟩ := sqlEq_iff.mp same
  refine ⟨by simpa using (Bool.and_eq_true_iff.mp found.1).1, ?_⟩
  rw [ofRcc, ← ofCc, isChild.2]
end

/-! ### The items -/

section
variable {V : Views} {owner : PyStr} {table : Option PyStr}

theorem items_source (onTable : Bool) (found : List (Edge V owner table)) :
    (found.map Edge.source).map (fun source => Tools.item (.listRelationships onTable) (source.cells (.listRelationships onTable))) =
      found.map Edge.item := by
  rw [List.map_map]
  rfl

theorem precedes_iff {onTable : Bool} {e e' : Edge V owner table} :
    Precedes (Source.orderKey (.listRelationships onTable)) e.source e'.source ↔ e.Before e' := by
  simp only [Precedes, Edge.source, Source.orderKey, Edge.Before, e.childAt.at_, e'.childAt.at_, List.cons_lt_cons_iff,
    textKey_inj, List.not_lt_nil, and_false, or_false]
  exact or_congr precedes_textKey (and_congr_right fun _ => precedes_numberKey)

/-- An edge is known by the name of its constraint and its place. -/
theorem isPair_of_orderKey {onTable : Bool} {e e' : Edge V owner table}
    (same : Source.orderKey (.listRelationships onTable) e'.source = Source.orderKey (.listRelationships onTable) e.source) :
    IsPair owner e.child.constraint_name e.position e'.source := by
  simp only [Edge.source, Source.orderKey, e.childAt.at_, e'.childAt.at_, List.cons.injEq, textKey_inj, numberKey_inj] at same
  refine ⟨⟨e'.foreignKey.referential, Prod.ext e'.foreignKey.owned.2 same.1⟩, ?_⟩
  rw [e'.childAt.at_, same.2.1]

theorem rows_nodup (keyed : Keyed V) {binds : Binds} (bound : Bound binds owner table) :
    (((Statement.listRelationships table.isSome).rows V binds).map
      (Source.orderKey (.listRelationships table.isSome))).Nodup := by
  refine nodup_keys_iff.mpr fun k => ?_
  by_cases taken : ∃ e : Edge V owner table, Source.orderKey (.listRelationships table.isSome) e.source = k
  · obtain ⟨e, rfl⟩ := taken
    have alone : AtMostOne (IsPair owner e.child.constraint_name e.position)
        ((Statement.listRelationships table.isSome).rows V binds) :=
      List.Pairwise.filter _ (pair_alone keyed owner e.child.constraint_name e.position)
    refine alone.imp fun source inRows same => ?_
    obtain ⟨e', rfl⟩ := (mem_rows_iff bound).mp inRows
    exact isPair_of_orderKey same
  · refine List.pairwise_of_forall_mem_list fun source inRows _ _ both => ?_
    obtain ⟨e, rfl⟩ := (mem_rows_iff bound).mp inRows
    exact taken ⟨e, both.1⟩

/-- The answer to the statement is the edges in order. -/
theorem paired_of_answers (keyed : Keyed V) {binds : Binds} (bound : Bound binds owner table) {answer : List Source}
    (answers : (Statement.listRelationships table.isSome).Answers V binds answer) :
    ∃ found : List (Edge V owner table), found.map Edge.source = answer ∧
      PairedByPosition V owner table (found.map Edge.item) found := by
  have areEdges : answer ∈ Set.range (List.map (fun e : Edge V owner table => e.source)) := by
    rw [Set.range_list_map]
    intro source member
    exact (mem_rows_iff bound).mp (answers.mem.mp member)
  obtain ⟨found, rfl⟩ := areEdges
  have ordered : found.Pairwise Edge.Before :=
    (List.pairwise_map.mp (answers.strict (rows_nodup keyed bound))).imp precedes_iff.mp
  have alone : ∀ c position, AtMostOne (fun e : Edge V owner table => e.child = c ∧ e.position = position) found := by
    intro c position
    refine ordered.imp ?_
    rintro e e' before ⟨⟨rfl, rfl⟩, child, same⟩
    rcases before with lower | ⟨_, lower⟩
    · exact absurd lower (by simp [child])
    · exact absurd lower (by simp [same])
  refine ⟨found, rfl, rfl, ordered, fun c position => ⟨?_, ?_⟩⟩
  · rintro ⟨foreignKey, onChild, rc, refers, onParent⟩
    obtain ⟨cc, childAt⟩ := mem_positions.mp onChild
    obtain ⟨rcc, parentAt⟩ := mem_positions.mp onParent
    let edge : Edge V owner table := ⟨c, rc, position, cc, rcc, foreignKey, refers, childAt, parentAt⟩
    obtain ⟨e, member, same⟩ := List.mem_map.mp (answers.mem.mpr ((mem_rows_iff bound).mpr ⟨edge, rfl⟩))
    obtain ⟨rfl, rfl, rfl, rfl⟩ := Source.edge.inj same
    have there : e.position = position := Option.some.inj (e.childAt.at_.symm.trans childAt.at_)
    exact ⟨e, (alone _ position).filter_eq member ⟨rfl, there⟩⟩
  · rintro ⟨e, one⟩
    have member : e ∈ found.filter (fun e => e.child = c ∧ e.position = position) := by rw [one]; exact List.mem_cons_self
    obtain ⟨rfl, rfl⟩ := of_decide_eq_true (List.mem_filter.mp member).2
    exact ⟨e.foreignKey, mem_positions.mpr ⟨_, e.childAt⟩, e.parent, e.refers, mem_positions.mpr ⟨_, e.parentAt⟩⟩
end

theorem request_bound {cfg : Config} {given : PyStr} {table : Option PyStr} {request : Request}
    (admitted : listRelationships cfg given table = .ok request) :
    request.statement = .listRelationships (table.map (fun text => upper (strip text))).isSome ∧
      Bound request.binds (upper (strip given)) (table.map (fun text => upper (strip text))) := by
  obtain ⟨norm, guarded, rfl⟩ := map_eq_ok.mp admitted
  obtain rfl := guardOwner_ok guarded
  cases table with
  | none => exact ⟨rfl, rfl, by simp⟩
  | some text => exact ⟨rfl, rfl, by rintro _ ⟨⟩; rfl⟩

/-- An untruncated result is one edge for each foreign key of the owner, and of the table
    when one is given, and each place that the key has in common with its parent. -/
theorem edges_by_position (V : Views) (keyed : Keyed V) (cfg : Config) (given : PyStr) (table : Option PyStr)
    (shown : List Source) (result : Result) (output : Outputs V cfg (.list_relationships given table) shown result)
    (whole : result.truncated = false) :
    ∃ found : List (Edge V (upper (strip given)) (table.map (fun text => upper (strip text)))),
      PairedByPosition V (upper (strip given)) (table.map (fun text => upper (strip text))) result.items found := by
  obtain ⟨⟨statement, binds, limit⟩, answer, admitted, answers, rfl, rfl⟩ := output
  obtain ⟨isList, bound⟩ := request_bound admitted
  simp only at isList bound answers whole
  subst isList
  obtain ⟨found, rfl, paired⟩ := paired_of_answers keyed bound answers
  refine ⟨found, ?_⟩
  rw [fetchBounded_whole whole, items_source]
  exact paired

/-- HR's key FK has two columns, and FIN has a key of that name. -/
def compositeKey : Views where
  all_tables := []
  all_tab_comments := []
  all_tab_columns := []
  all_col_comments := []
  all_constraints :=
    [⟨lit "HR", lit "FK", some (lit "R"), lit "EMP", none, some (lit "FIN"), some (lit "PK")⟩,
      ⟨lit "FIN", lit "FK", some (lit "R"), lit "EMP", none, some (lit "FIN"), some (lit "PK")⟩,
      ⟨lit "FIN", lit "PK", some (lit "P"), lit "ACCOUNTS", none, none, none⟩]
  all_cons_columns :=
    [⟨lit "HR", lit "FK", some (lit "BRANCH_ID"), some 2⟩, ⟨lit "HR", lit "FK", some (lit "BANK_ID"), some 1⟩,
      ⟨lit "FIN", lit "FK", some (lit "PAYER"), some 1⟩, ⟨lit "FIN", lit "PK", some (lit "BANK"), some 1⟩,
      ⟨lit "FIN", lit "PK", some (lit "BRANCH"), some 2⟩]

theorem edges_by_position_composite :
    ∃ result found, (∃ shown, Outputs compositeKey onlyHr (.list_relationships (lit "hr") (some (lit " emp "))) shown result) ∧
      result.truncated = false ∧ result.items.length = 2 ∧
      PairedByPosition compositeKey (lit "HR") (some (lit "EMP")) result.items found := by
  have keyed : Keyed compositeKey := by
    have distinct : ∀ c ∈ compositeKey.all_constraints, (positions compositeKey c).Nodup := by decide
    exact ⟨by decide, fun c visible _ => distinct c visible⟩
  let row (column parent : PyStr) (position : Int) : Source :=
    .edge ⟨lit "HR", lit "FK", some (lit "R"), lit "EMP", none, some (lit "FIN"), some (lit "PK")⟩
      ⟨lit "HR", lit "FK", some column, some position⟩ ⟨lit "FIN", lit "PK", some (lit "P"), lit "ACCOUNTS", none, none, none⟩
      ⟨lit "FIN", lit "PK", some parent, some position⟩
  let bank := row (lit "BANK_ID") (lit "BANK") 1
  let branch := row (lit "BRANCH_ID") (lit "BRANCH") 2
  let binds := dict [(lit "owner", lit "HR"), (lit "tname", lit "EMP")]
  have rows : (Statement.listRelationships true).rows compositeKey binds = [branch, bank] := by decide
  have answers : (Statement.listRelationships true).Answers compositeKey binds [bank, branch] := by
    refine ⟨?_, ?_⟩
    · rw [rows]
      exact List.Perm.swap branch bank []
    · have lower : Precedes numberKey (some 1) (some 2) := precedes_numberKey.mpr (by decide)
      refine List.pairwise_pair.mpr (le_of_lt (List.cons_lt_cons_iff.mpr (.inr ⟨rfl, ?_⟩)))
      exact List.cons_lt_cons_iff.mpr (.inl lower)
  have sent : listRelationships onlyHr (lit "hr") (some (lit " emp ")) = .ok ⟨.listRelationships true, binds, 200⟩ := rfl
  have output : Outputs compositeKey onlyHr (.list_relationships (lit "hr") (some (lit " emp "))) [bank, branch]
      ⟨lit "items", [bank, branch].map (fun source => Tools.item (.listRelationships true)
        (source.cells (.listRelationships true))), false⟩ := ⟨_, [bank, branch], sent, answers, rfl, rfl⟩
  obtain ⟨found, paired⟩ := edges_by_position compositeKey keyed onlyHr (lit "hr") (some (lit " emp ")) _ _ output rfl
  exact ⟨_, found, ⟨_, output⟩, rfl, rfl, paired⟩

end OracleSchema.ForeignKeys
