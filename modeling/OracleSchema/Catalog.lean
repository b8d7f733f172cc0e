import OracleSchema.ForeignKeys
import OracleSchema.Listings
import OracleSchema.Pages
import OracleSchema.Requests

/-!
What the six metadata tools list. `listing` says it without the queries: the entries of a
call, the order and the items. The results that a tool may give, over all answers that the
database may give to its statement, are exactly the pages of the listing (`listed_iff`).
-/
namespace OracleSchema.Catalog
open OracleSchema.Strings OracleSchema.Errors OracleSchema.Json OracleSchema.Settings OracleSchema.Queries
open OracleSchema.Dictionary OracleSchema.Tools OracleSchema.Numerals OracleSchema.Requests OracleSchema.ForeignKeys
open OracleSchema.Listings

/-! ### The catalogue -/

/-- A number to order by; a null comes last. -/
def nullsLast : Option Int → WithTop Int
  | none => ⊤
  | some n => n

/-- The name that an argument gives, which is no empty one. -/
def names (given name : PyStr) : Bool := name ≠ [] && name = upper (strip given)

/-- The owners that a call is about: the given one, else those that the allow-list has. -/
def asks (cfg : Config) (given : Option PyStr) (name : PyStr) : Bool :=
  match given with
  | some text => names text name
  | none => cfg.allowed_owners = ∅ || (name ≠ [] && name ∈ cfg.allowed_owners)

def givenOwner : ToolCall → Option PyStr
  | .list_schemas => none
  | .list_tables owner => some owner
  | .describe_table owner _ => some owner
  | .find_columns _ owner => owner
  | .list_relationships owner _ => some owner
  | .get_constraints owner _ => some owner

/-- A call whose owner, if it gives one, passes the allow-list. -/
def Permitted (cfg : Config) (call : ToolCall) : Prop :=
  ∀ given ∈ givenOwner call, cfg.allowed_owners = ∅ ∨ upper (strip given) ∈ cfg.allowed_owners

section
variable (V : Views)

def tableComment (t : Table) : Option TableComment :=
  V.all_tab_comments.find? (fun c => c.owner = t.owner && c.table_name = t.table_name)

def columnComment (col : Column) : Option ColumnComment :=
  V.all_col_comments.find? (fun cc => cc.owner = col.owner && cc.table_name = col.table_name && cc.column_name = col.column_name)

def columnsOf (c : Constraint) : List ConsColumn :=
  V.all_cons_columns.filter (fun cc => cc.owner = c.owner && cc.constraint_name = c.constraint_name)

/-- A constraint with each of its columns, or alone if it has none. -/
def withColumns (c : Constraint) : List (Constraint × Option ConsColumn) :=
  match columnsOf V c with
  | [] => [(c, none)]
  | found => found.map (fun cc => (c, some cc))

/-- A column of a foreign key, the key that it refers to, and the column at the same place there. -/
structure Pairing where
  child : Constraint
  child_column : ConsColumn
  parent : Constraint
  parent_column : ConsColumn

def pairings (c : Constraint) : List Pairing :=
  (columnsOf V c).flatMap (fun cc =>
    (V.all_constraints.filter (fun rc => c.r_owner = some rc.owner && c.r_constraint_name = some rc.constraint_name)).flatMap
      (fun rc => ((columnsOf V rc).filter (fun rcc => sqlEq rcc.position cc.position)).map (fun rcc => ⟨c, cc, rc, rcc⟩)))

def tableItem (t : Table) : Item :=
  [(lit "table_name", .str t.table_name), (lit "comments", cellValue ((tableComment V t).bind (fun c => c.comments)))]

def columnItem (col : Column) : Item :=
  [(lit "column_name", .str col.column_name), (lit "data_type", cellValue col.data_type),
    (lit "nullable", .bool (col.nullable = some (lit "Y"))),
    (lit "data_default", cellValue ((col.data_default.filter (fun text => text ≠ [])).map strip)),
    (lit "comments", cellValue ((columnComment V col).bind (fun cc => cc.comments)))]

def foundItem (col : Column) : Item :=
  [(lit "owner", .str col.owner), (lit "table_name", .str col.table_name), (lit "column_name", .str col.column_name),
    (lit "data_type", cellValue col.data_type)]

def pairingItem (p : Pairing) : Item :=
  [(lit "constraint_name", .str p.child.constraint_name), (lit "child_owner", .str p.child.owner),
    (lit "child_table", .str p.child.table_name), (lit "child_column", cellValue p.child_column.column_name),
    (lit "parent_owner", .str p.parent.owner), (lit "parent_table", .str p.parent.table_name),
    (lit "parent_column", cellValue p.parent_column.column_name)]

def constraintItem (entry : Constraint × Option ConsColumn) : Item :=
  [(lit "constraint_name", .str entry.1.constraint_name), (lit "constraint_type", cellValue entry.1.constraint_type),
    (lit "column_name", cellValue (entry.2.bind (fun cc => cc.column_name))),
    (lit "search_condition", cellValue entry.1.search_condition), (lit "r_owner", cellValue entry.1.r_owner),
    (lit "r_constraint_name", cellValue entry.1.r_constraint_name)]

/-- The columns with an owner that the call asks for and a name like the pattern. -/
def matching (cfg : Config) (name_pattern : PyStr) (owner : Option PyStr) : List Column :=
  V.all_tab_columns.filter (fun col => name_pattern ≠ [] && like 37 95 name_pattern col.column_name && asks cfg owner col.owner)

/-- Columns are ordered by owner, table and name. -/
def columnKey (col : Column) : PyStr ×ₗ PyStr ×ₗ PyStr := toLex (col.owner, toLex (col.table_name, col.column_name))

/-- What a call lists. -/
def listing (cfg : Config) : ToolCall → Listing Item
  | .list_schemas =>
    { entries := (V.all_tables.map (fun t => t.owner)).dedup.filter (asks cfg none)
      key := fun name => name
      item := fun name => [(lit "owner", .str name)] }
  | .list_tables owner =>
    { entries := V.all_tables.filter (fun t => names owner t.owner)
      key := fun t => t.table_name
      item := tableItem V }
  | .describe_table owner table =>
    { entries := V.all_tab_columns.filter (fun col => names owner col.owner && names table col.table_name)
      key := fun col => nullsLast col.column_id
      item := columnItem V }
  | .find_columns name_pattern owner =>
    { entries := matching V cfg name_pattern owner
      key := columnKey
      item := foundItem }
  | .list_relationships owner table =>
    { entries := (V.all_constraints.filter (fun c =>
        c.constraint_type = some (lit "R") && names owner c.owner && table.all (fun text => names text c.table_name))).flatMap
          (pairings V)
      key := fun p => toLex (p.child.constraint_name, nullsLast p.child_column.position)
      item := pairingItem }
  | .get_constraints owner table =>
    { entries := (V.all_constraints.filter (fun c => names owner c.owner && names table c.table_name)).flatMap (withColumns V)
      key := fun entry => toLex (entry.1.constraint_name, nullsLast (entry.2.bind (fun cc => cc.position)))
      item := constraintItem }
end

/-! ### The conditions -/

theorem guardOwner_eq_ok {given norm : PyStr} {cfg : Config} : guardOwner given cfg = .ok norm ↔
    (cfg.allowed_owners = ∅ ∨ upper (strip given) ∈ cfg.allowed_owners) ∧ norm = upper (strip given) := by
  simp only [guardOwner, Finset.nonempty_iff_ne_empty]
  split_ifs with refused
  · constructor
    · intro passed
      cases passed
    · rintro ⟨unrestricted | allowed, _⟩
      · exact absurd unrestricted refused.1
      · exact absurd allowed refused.2
  · rw [not_and_or, not_not, not_not] at refused
    simp [refused, eq_comm]

theorem named_iff {given name : PyStr} : Named (upper (strip given)) name ↔ names given name = true := by
  rw [Named, names, Bool.and_eq_true, decide_eq_true_eq, decide_eq_true_eq]
  exact ⟨fun both => ⟨both.2 ▸ both.1, both.2⟩, fun both => ⟨both.2 ▸ both.1, both.2⟩⟩

/-- Equality with a bind value is the condition on names. -/
theorem sqlEq_names {binds : Binds} {key given name : PyStr} (bound : binds.lookup key = some (upper (strip given))) :
    sqlEq (some name) (value binds key) = names given name := by
  rw [Bool.eq_iff_iff, sqlEq_value bound, named_iff]

theorem lookup_dict_of_nodup {entries : List (PyStr × PyStr)} (distinct : (entries.map Prod.fst).Nodup) {key text : PyStr}
    (member : (key, text) ∈ entries) : (dict entries).lookup key = some text := by
  induction entries using List.reverseRecOn with
  | nil => cases member
  | append_singleton entries entry ih =>
    have last : dict (entries ++ [entry]) = (dict entries).insert entry.1 entry.2 := by simp [dict]
    rw [List.map_append, List.map_singleton, List.nodup_append] at distinct
    rcases List.mem_append.mp member with before | same
    · have other : key ≠ entry.1 := distinct.2.2 key (List.mem_map_of_mem before) entry.1 (List.mem_singleton_self _)
      rw [last, AList.lookup_insert_ne other]
      exact ih distinct.1 before
    · obtain rfl := List.mem_singleton.mp same
      rw [last, AList.lookup_insert]

/-- The generated keys are numbered apart. -/
theorem generated_nodup (count : Nat) : (generated count).Nodup := by
  refine List.Nodup.map ?_ List.nodup_range
  intro m n same
  have numbers : intText (m : Int) = intText (n : Int) := List.append_cancel_left same
  rw [intText_eq, intText_eq, if_neg (by omega), if_neg (by omega), Int.natAbs_natCast, Int.natAbs_natCast] at numbers
  rw [← value_natText m, ← value_natText n, numbers]

/-- Other names next to the generated ones. -/
structure Apart (others : List (PyStr × PyStr)) : Prop where
  distinct : (others.map Prod.fst).Nodup
  pattern : ∀ entry ∈ others, entry.1 = lit "pat"

theorem noOthers : Apart [] := ⟨List.nodup_nil, by simp⟩
theorem onlyPattern (name_pattern : PyStr) : Apart [(lit "pat", name_pattern)] := ⟨List.nodup_singleton _, by simp⟩

theorem Apart.nodup {others : List (PyStr × PyStr)} (apart : Apart others) (owners : List PyStr) :
    ((others ++ owners.zipIdx.map (fun entry => (lit "owner_" ++ intText entry.2, entry.1))).map Prod.fst).Nodup := by
  rw [List.map_append, numbered]
  refine apart.distinct.append (generated_nodup _) fun key other own => ?_
  obtain ⟨entry, isOther, rfl⟩ := List.mem_map.mp other
  obtain ⟨i, _, same⟩ := List.mem_map.mp own
  rw [apart.pattern entry isOther] at same
  exact absurd (List.cons.inj same).1 (by decide)

/-- The generated predicate admits exactly the names in the allow-list. -/
theorem among_holds {others : List (PyStr × PyStr)} (apart : Apart others) (owners : List PyStr) (name : PyStr) :
    (OwnerFilter.among (generated owners.length)).holds
      (dict (others ++ owners.zipIdx.map (fun entry => (lit "owner_" ++ intText entry.2, entry.1)))) name =
        (name ≠ [] && name ∈ owners : Bool) := by
  have own : ∀ entry ∈ owners.zipIdx.map (fun entry => (lit "owner_" ++ intText entry.2, entry.1)),
      (dict (others ++ owners.zipIdx.map (fun entry => (lit "owner_" ++ intText entry.2, entry.1)))).lookup entry.1 =
        some entry.2 :=
    fun entry member => lookup_dict_of_nodup (apart.nodup owners) (List.mem_append_right _ member)
  rw [Bool.eq_iff_iff, OwnerFilter.holds, ← numbered, List.any_map, List.any_eq_true, Bool.and_eq_true, decide_eq_true_eq,
    decide_eq_true_eq]
  constructor
  · rintro ⟨entry, member, equal⟩
    obtain ⟨given, rfl⟩ := (sqlEq_value (own entry member)).mp equal
    obtain ⟨numbered, inOwners, rfl⟩ := List.mem_map.mp member
    exact ⟨given, List.fst_mem_of_mem_zipIdx inOwners⟩
  · rintro ⟨given, inOwners⟩
    obtain ⟨i, bound, rfl⟩ := List.getElem_of_mem inOwners
    have member := List.mem_map_of_mem (f := fun entry : PyStr × Nat => (lit "owner_" ++ intText entry.2, entry.1))
      (List.mk_mem_zipIdx_iff_getElem?.mpr (List.getElem?_eq_getElem bound))
    exact ⟨_, member, (sqlEq_value (own _ member)).mpr ⟨given, rfl⟩⟩

/-- The bind values of an owner predicate have keys of their own. -/
theorem ownerPredicate_nodup {cfg : Config} {given : Option PyStr} {pred : OwnerFilter × List (PyStr × PyStr)}
    (built : ownerPredicate cfg given = .ok pred) {others : List (PyStr × PyStr)} (apart : Apart others) :
    ((others ++ pred.2).map Prod.fst).Nodup := by
  unfold ownerPredicate at built
  cases given with
  | some text =>
    obtain ⟨norm, guarded, rfl⟩ := map_eq_ok.mp built
    rw [List.map_append]
    refine apart.distinct.append (List.nodup_singleton _) fun key other own => ?_
    obtain ⟨entry, isOther, rfl⟩ := List.mem_map.mp other
    rw [apart.pattern entry isOther] at own
    have same : lit "pat" = lit "owner" := List.mem_singleton.mp own
    exact absurd same (by decide)
  | none =>
    simp only at built
    split_ifs at built with empty
    · obtain rfl := Except.ok.inj built
      rw [List.append_nil]
      exact apart.distinct
    · obtain rfl := Except.ok.inj built
      exact apart.nodup _

/-- An owner predicate admits the owners that the call asks for. -/
theorem asks_holds {cfg : Config} {given : Option PyStr} {pred : OwnerFilter × List (PyStr × PyStr)}
    (built : ownerPredicate cfg given = .ok pred) {others : List (PyStr × PyStr)} (apart : Apart others) (name : PyStr) :
    pred.1.holds (dict (others ++ pred.2)) name = asks cfg given name := by
  have distinct := ownerPredicate_nodup built apart
  unfold ownerPredicate at built
  cases given with
  | some text =>
    obtain ⟨norm, guarded, rfl⟩ := map_eq_ok.mp built
    obtain rfl := guardOwner_ok guarded
    exact sqlEq_names (lookup_dict_of_nodup distinct (by simp))
  | none =>
    simp only at built
    split_ifs at built with empty
    · obtain rfl := Except.ok.inj built
      simp [OwnerFilter.holds, asks, empty]
    · obtain rfl := Except.ok.inj built
      simp only [numbered]
      rw [among_holds apart, asks, decide_eq_false empty, Bool.false_or]
      simp

/-! ### The rows -/

/-- The rows of a statement are the entries of a listing, in its order and with its items. -/
structure Shows (statement : Statement) (rows : List Source) (l : Listing Item) (f : l.Entry → Source) : Prop where
  rows : rows = l.entries.map f
  alike : ∀ a b, Precedes (Source.orderKey statement) (f a) (f b) ↔ Precedes l.key a b
  shown : ∀ a, item statement ((f a).cells statement) = l.item a

theorem precedes_nullsLast {a b : Option Int} : Precedes numberKey a b ↔ Precedes nullsLast a b := by
  unfold Precedes
  cases a with
  | none => simp [numberKey, nullsLast]
  | some m =>
    cases b with
    | none => simp [numberKey, nullsLast]
    | some n => simpa [Precedes, nullsLast] using precedes_numberKey (m := m) (n := n)

/-- Where a choice of rows depends on the first part only, it is made on the first parts. -/
theorem filter_flatMap_of_first {α β : Type} {f : α → List β} {p : α → Bool} {q : β → Bool} (first : ∀ x, ∀ y ∈ f x, q y = p x)
    (xs : List α) : (xs.flatMap f).filter q = (xs.filter p).flatMap f := by
  induction xs with
  | nil => rfl
  | cons x xs ih =>
    rw [List.flatMap_cons, List.filter_append, ih]
    by_cases chosen : p x = true
    · rw [List.filter_cons_of_pos chosen, List.flatMap_cons,
        List.filter_eq_self.mpr fun y member => (first x y member).trans chosen]
    · rw [List.filter_cons_of_neg chosen,
        List.filter_eq_nil_iff.mpr fun y member => by rw [first x y member]; exact chosen, List.nil_append]

/-- A table and a column have at most one comment. -/
structure OneComment (V : Views) : Prop where
  tables : (V.all_tab_comments.map (fun c => (c.owner, c.table_name))).Nodup
  columns : (V.all_col_comments.map (fun cc => (cc.owner, cc.table_name, cc.column_name))).Nodup

section
variable {V : Views} {cfg : Config}

theorem shows_schemas {pred : OwnerFilter × List (PyStr × PyStr)} (built : ownerPredicate cfg none = .ok pred) :
    Shows (.listSchemas pred.1) ((Statement.listSchemas pred.1).rows V (dict pred.2)) (listing V cfg .list_schemas) .schema where
  rows := by
    rw [Statement.rows, Statement.from_, List.filter_map]
    refine congrArg _ (List.filter_congr fun name _ => ?_)
    exact asks_holds built noOthers name
  alike := by
    intro (name : PyStr) (name' : PyStr)
    show Precedes (fun name : PyStr => [textKey name]) name name' ↔ Precedes (fun name : PyStr => name) name name'
    exact precedes_single.trans precedes_textKey
  shown name := rfl

theorem shows_tables (one : OneComment V) {owner : PyStr} {binds : Binds}
    (bound : binds.lookup (lit "owner") = some (upper (strip owner))) :
    Shows .listTables (Statement.listTables.rows V binds) (listing V cfg (.list_tables owner))
      (fun t => .table t (tableComment V t)) where
  rows := by
    have alone : ∀ t ∈ V.all_tables, AtMostOne (fun c => (c.owner = t.owner && c.table_name = t.table_name : Bool) = true)
        V.all_tab_comments := by
      intro t _
      refine (nodup_keys_iff.mp one.tables (t.owner, t.table_name)).imp fun c _ same => ?_
      simpa using same
    rw [Statement.rows, Statement.from_, leftJoin_alone alone, List.map_map, List.filter_map]
    refine congrArg _ (List.filter_congr fun t _ => ?_)
    exact sqlEq_names bound
  alike t t' := by
    show Precedes (fun t : Table => [textKey t.table_name]) t t' ↔ Precedes (fun t : Table => t.table_name) t t'
    exact precedes_single.trans precedes_textKey
  shown t := rfl

theorem shows_described (one : OneComment V) {owner table : PyStr} {binds : Binds}
    (bound : binds.lookup (lit "owner") = some (upper (strip owner)))
    (boundTable : binds.lookup (lit "tname") = some (upper (strip table))) :
    Shows .describeTable (Statement.describeTable.rows V binds) (listing V cfg (.describe_table owner table))
      (fun col => .column col (columnComment V col)) where
  rows := by
    have alone : ∀ col ∈ V.all_tab_columns, AtMostOne (fun cc =>
        (cc.owner = col.owner && cc.table_name = col.table_name && cc.column_name = col.column_name : Bool) = true)
        V.all_col_comments := by
      intro col _
      refine (nodup_keys_iff.mp one.columns (col.owner, col.table_name, col.column_name)).imp fun cc _ same => ?_
      simpa [and_assoc] using same
    rw [Statement.rows, Statement.from_, leftJoin_alone alone, List.map_map, List.filter_map]
    refine congrArg _ (List.filter_congr fun col _ => ?_)
    exact congrArg₂ (· && ·) (sqlEq_names bound) (sqlEq_names boundTable)
  alike := by
    intro (col : Column) (col' : Column)
    show Precedes (fun col : Column => [numberKey col.column_id]) col col' ↔
      Precedes (fun col : Column => nullsLast col.column_id) col col'
    exact precedes_single.trans precedes_nullsLast
  shown := by
    intro (col : Column)
    have default : (if col.data_default.getD [] = [] then none else col.data_default.map strip) =
        (col.data_default.filter (fun text => text ≠ [])).map strip := by
      cases col.data_default with
      | none => rfl
      | some text => by_cases empty : text = [] <;> simp [empty, Option.filter]
    show [_, _, _, (lit "data_default", cellValue (if col.data_default.getD [] = [] then none else col.data_default.map strip)), _] = _
    rw [default]
    rfl

theorem shows_found {name_pattern : PyStr} {owner : Option PyStr} {pred : OwnerFilter × List (PyStr × PyStr)}
    (built : ownerPredicate cfg owner = .ok pred) :
    Shows (.findColumns pred.1) ((Statement.findColumns pred.1).rows V (dict ([(lit "pat", name_pattern)] ++ pred.2)))
      (listing V cfg (.find_columns name_pattern owner)) (fun col => .column col none) where
  rows := by
    have bound : (dict ([(lit "pat", name_pattern)] ++ pred.2)).lookup (lit "pat") = some name_pattern :=
      lookup_dict_of_nodup (ownerPredicate_nodup built (onlyPattern name_pattern)) (by simp)
    rw [Statement.rows, Statement.from_, List.filter_map]
    refine congrArg _ (List.filter_congr fun col _ => ?_)
    refine congrArg₂ (· && ·) ?_ (asks_holds built (onlyPattern name_pattern) col.owner)
    rw [Dictionary.value, bound]
    by_cases given : name_pattern = [] <;> simp [given, Option.filter]
  alike := by
    intro (col : Column) (col' : Column)
    show Precedes (fun col : Column => [textKey col.owner, textKey col.table_name, textKey col.column_name]) col col' ↔
      Precedes (fun col : Column => toLex (col.owner, toLex (col.table_name, col.column_name))) col col'
    rw [precedes_cons, precedes_cons, precedes_single, precedes_toLex, precedes_toLex, textKey_inj, textKey_inj]
    exact or_congr precedes_textKey (and_congr_right fun _ => or_congr precedes_textKey (and_congr_right fun _ => precedes_textKey))
  shown col := rfl

def Pairing.source (p : Pairing) : Source := .edge p.child p.child_column p.parent p.parent_column

/-- The joins of the statement go through the pairings of each constraint. -/
theorem edges_eq (V : Views) : edges V = (V.all_constraints.flatMap (pairings V)).map Pairing.source := by
  have columns : ∀ c : Constraint, V.all_cons_columns.filter (fun cc => cc.owner = c.owner && cc.constraint_name = c.constraint_name) =
      columnsOf V c := fun c => rfl
  have parents : ∀ c : Constraint, V.all_constraints.filter (fun rc =>
      sqlEq (some rc.owner) c.r_owner && sqlEq (some rc.constraint_name) c.r_constraint_name) =
        V.all_constraints.filter (fun rc => c.r_owner = some rc.owner && c.r_constraint_name = some rc.constraint_name) := by
    intro c
    refine List.filter_congr fun rc _ => ?_
    rw [Bool.eq_iff_iff]
    simp [sqlEq_some_iff]
  have places : ∀ (rc : Constraint) (cc : ConsColumn), V.all_cons_columns.filter (fun rcc =>
      rcc.owner = rc.owner && rcc.constraint_name = rc.constraint_name && sqlEq rcc.position cc.position) =
        (columnsOf V rc).filter (fun rcc => sqlEq rcc.position cc.position) := by
    intro rc cc
    rw [columnsOf, List.filter_filter]
    exact List.filter_congr fun rcc _ => Bool.and_comm _ _
  simp only [edges, join_eq, columns, parents, places, List.flatMap_assoc, List.flatMap_map, List.map_flatMap, List.map_map, pairings]
  rfl

theorem child_of_mem_pairings {c : Constraint} {p : Pairing} (member : p ∈ pairings V c) : p.child = c := by
  obtain ⟨cc, _, member⟩ := List.mem_flatMap.mp member
  obtain ⟨rc, _, member⟩ := List.mem_flatMap.mp member
  obtain ⟨rcc, _, rfl⟩ := List.mem_map.mp member
  rfl

theorem leftJoin_columns (V : Views) :
    leftJoin (fun c cc => cc.owner = c.owner && cc.constraint_name = c.constraint_name) V.all_constraints V.all_cons_columns =
      V.all_constraints.flatMap (withColumns V) := by
  refine List.flatMap_congr fun c _ => ?_
  rw [withColumns, columnsOf]
  generalize V.all_cons_columns.filter (fun cc => cc.owner = c.owner && cc.constraint_name = c.constraint_name) = found
  cases found <;> rfl

theorem fst_of_mem_withColumns {c : Constraint} {entry : Constraint × Option ConsColumn} (member : entry ∈ withColumns V c) :
    entry.1 = c := by
  unfold withColumns at member
  split at member
  · rw [List.mem_singleton.mp member]
  · obtain ⟨cc, _, rfl⟩ := List.mem_map.mp member
    rfl

theorem shows_relationships {owner : PyStr} {table : Option PyStr} {binds : Binds}
    (bound : Bound binds (upper (strip owner)) (table.map (fun text => upper (strip text)))) :
    Shows (.listRelationships table.isSome) ((Statement.listRelationships table.isSome).rows V binds)
      (listing V cfg (.list_relationships owner table)) Pairing.source where
  rows := by
    rw [Statement.rows, Statement.from_, edges_eq, List.filter_map]
    refine congrArg _ (filter_flatMap_of_first (fun c p member => ?_) V.all_constraints)
    obtain rfl := child_of_mem_pairings member
    have selected := @selects_iff _ _ _ bound p.child p.child_column p.parent p.parent_column
    rw [Option.isSome_map] at selected
    rw [Bool.eq_iff_iff]
    refine selected.trans ?_
    cases table <;> simp [named_iff, and_assoc]
  alike := by
    intro (p : Pairing) (p' : Pairing)
    show Precedes (fun p : Pairing => [textKey p.child.constraint_name, numberKey p.child_column.position]) p p' ↔
      Precedes (fun p : Pairing => toLex (p.child.constraint_name, nullsLast p.child_column.position)) p p'
    rw [precedes_cons, precedes_single, precedes_toLex, textKey_inj]
    exact or_congr precedes_textKey (and_congr_right fun _ => precedes_nullsLast)
  shown p := rfl

theorem shows_constraints {owner table : PyStr} {binds : Binds} (bound : binds.lookup (lit "owner") = some (upper (strip owner)))
    (boundTable : binds.lookup (lit "tname") = some (upper (strip table))) :
    Shows .getConstraints (Statement.getConstraints.rows V binds) (listing V cfg (.get_constraints owner table))
      (fun entry => .constraint entry.1 entry.2) where
  rows := by
    rw [Statement.rows, Statement.from_, List.filter_map, leftJoin_columns]
    refine congrArg _ (filter_flatMap_of_first (fun c entry member => ?_) V.all_constraints)
    obtain rfl := fst_of_mem_withColumns member
    exact congrArg₂ (· && ·) (sqlEq_names bound) (sqlEq_names boundTable)
  alike := by
    intro (entry : Constraint × Option ConsColumn) (entry' : Constraint × Option ConsColumn)
    show Precedes (fun entry : Constraint × Option ConsColumn =>
        [textKey entry.1.constraint_name, numberKey (entry.2.bind (fun cc => cc.position))]) entry entry' ↔
      Precedes (fun entry : Constraint × Option ConsColumn =>
        toLex (entry.1.constraint_name, nullsLast (entry.2.bind (fun cc => cc.position)))) entry entry'
    rw [precedes_cons, precedes_single, precedes_toLex, textKey_inj]
    exact or_congr precedes_textKey (and_congr_right fun _ => precedes_nullsLast)
  shown entry := rfl

/-- The request of a call asks for its listing. -/
def Requested (V : Views) (cfg : Config) (call : ToolCall) : Prop :=
  ∀ request, call.request cfg = .ok request → ∃ f, Shows request.statement (request.statement.rows V request.binds) (listing V cfg call) f

theorem requested_found (name_pattern : PyStr) (owner : Option PyStr) : Requested V cfg (.find_columns name_pattern owner) := by
  intro request sent
  obtain ⟨pred, built, rfl⟩ := map_eq_ok.mp sent
  exact ⟨_, shows_found built⟩

theorem requested (one : OneComment V) (call : ToolCall) : Requested V cfg call := by
  intro request sent
  cases call with
  | list_schemas =>
    obtain ⟨pred, built, rfl⟩ := map_eq_ok.mp sent
    exact ⟨_, shows_schemas built⟩
  | list_tables owner =>
    obtain ⟨norm, guarded, rfl⟩ := map_eq_ok.mp sent
    obtain rfl := guardOwner_ok guarded
    exact ⟨_, shows_tables one rfl⟩
  | describe_table owner table =>
    obtain ⟨norm, guarded, rfl⟩ := map_eq_ok.mp sent
    obtain rfl := guardOwner_ok guarded
    exact ⟨_, shows_described one rfl rfl⟩
  | find_columns name_pattern owner => exact requested_found name_pattern owner request sent
  | list_relationships owner table =>
    obtain ⟨isList, bound⟩ := request_bound sent
    rw [Option.isSome_map] at isList
    rw [isList]
    exact ⟨_, shows_relationships bound⟩
  | get_constraints owner table =>
    obtain ⟨norm, guarded, rfl⟩ := map_eq_ok.mp sent
    obtain rfl := guardOwner_ok guarded
    exact ⟨_, shows_constraints rfl rfl⟩
end

/-! ### The results -/

/-- The key of the list in the result of a call. -/
def resultKey : ToolCall → PyStr
  | .describe_table _ _ => lit "columns"
  | _ => lit "items"

/-- The result that sorting gives. -/
def sortedResult (V : Views) (cfg : Config) (call : ToolCall) : Result :=
  ⟨resultKey call, ((listing V cfg call).first cfg.max_rows).1, ((listing V cfg call).first cfg.max_rows).2⟩

theorem resultKey_request {cfg : Config} {call : ToolCall} {request : Request} (sent : call.request cfg = .ok request) :
    listKey request.statement = resultKey call := by
  cases call with
  | list_relationships owner table =>
    obtain ⟨norm, _, rfl⟩ := map_eq_ok.mp sent
    cases table <;> rfl
  | _ =>
    obtain ⟨_, _, rfl⟩ := map_eq_ok.mp sent
    rfl

theorem exists_map_ok {α β : Type} {x : Except PyExc α} (f : α → β) : (∃ a, x = .ok a) ↔ ∃ b, x.map f = .ok b := by
  simp only [map_eq_ok]
  constructor
  · rintro ⟨a, rfl⟩
    exact ⟨f a, a, rfl, rfl⟩
  · rintro ⟨_, a, own, _⟩
    exact ⟨a, own⟩

/-- A call is sent exactly if its owner passes the allow-list. -/
theorem permitted_iff {cfg : Config} {call : ToolCall} :
    Permitted cfg call ↔ ∃ request, call.request cfg = .ok request := by
  have asked : ∀ owner, givenOwner call = some owner → (Permitted cfg call ↔ ∃ norm, guardOwner owner cfg = .ok norm) := by
    intro owner given
    simp [Permitted, given, guardOwner_eq_ok]
  have unasked : ∃ pred, ownerPredicate cfg none = .ok pred := by
    unfold ownerPredicate
    simp only
    split_ifs
    · exact ⟨_, rfl⟩
    · exact ⟨_, rfl⟩
  cases call with
  | list_schemas => exact ⟨fun _ => (exists_map_ok _).mp unasked, fun _ => nofun⟩
  | list_tables owner => exact (asked owner rfl).trans (exists_map_ok _)
  | describe_table owner table => exact (asked owner rfl).trans (exists_map_ok _)
  | find_columns name_pattern owner =>
    cases owner with
    | none => exact ⟨fun _ => (exists_map_ok _).mp unasked, fun _ => nofun⟩
    | some owner => exact (asked owner rfl).trans ((exists_map_ok _).trans (exists_map_ok _))
  | list_relationships owner table => exact (asked owner rfl).trans (exists_map_ok _)
  | get_constraints owner table => exact (asked owner rfl).trans (exists_map_ok _)

theorem fetchBounded_more {α : Type} (answer : List α) (limit : Int) : (fetchBounded answer limit).2 = true ↔ limit < answer.length := by
  simp only [fetchBounded, List.length_take, decide_eq_true_eq]
  omega

section
variable {V : Views} {cfg : Config} {call : ToolCall} {result : Result}

theorem request_pages (asked : Requested V cfg call) {request : Request} (sent : call.request cfg = .ok request) :
    (∃ answer, request.statement.Answers V request.binds answer ∧
      result.items = (answer.take cfg.max_rows.toNat).map (fun source => item request.statement (source.cells request.statement)) ∧
      (result.truncated = true ↔ cfg.max_rows < answer.length)) ↔
        (listing V cfg call).Page cfg.max_rows result.items result.truncated := by
  obtain ⟨f, shows⟩ := asked request sent
  exact query_page_iff (shows.rows ▸ List.Perm.refl _) shows.alike shows.shown

theorem page_of_outputs (asked : Requested V cfg call) {shown : List Source} (output : Outputs V cfg call shown result) :
    Permitted cfg call ∧ result.key = resultKey call ∧ (listing V cfg call).Page cfg.max_rows result.items result.truncated := by
  obtain ⟨request, answer, sent, answers, rfl, rfl⟩ := output
  refine ⟨permitted_iff.mpr ⟨request, sent⟩, resultKey_request sent, (request_pages asked sent).mp ⟨answer, answers, ?_, ?_⟩⟩
  · rw [fetchBounded_fst, Pages.request_limit sent]
  · rw [fetchBounded_more, Pages.request_limit sent]

theorem outputs_of_page (asked : Requested V cfg call) (permitted : Permitted cfg call) (key : result.key = resultKey call)
    (page : (listing V cfg call).Page cfg.max_rows result.items result.truncated) : ∃ shown, Outputs V cfg call shown result := by
  obtain ⟨request, sent⟩ := permitted_iff.mp permitted
  obtain ⟨answer, answers, items, more⟩ := (request_pages asked sent).mpr page
  have cut : (fetchBounded answer cfg.max_rows).2 = result.truncated := by rw [Bool.eq_iff_iff, fetchBounded_more, more]
  refine ⟨_, request, answer, sent, answers, rfl, ?_⟩
  rw [Pages.request_limit sent, fetchBounded_fst, resultKey_request sent, ← items, ← key, cut]
end

/-- The results that a tool may give are the pages of its listing, for a call whose owner
    passes the allow-list, and none for another. -/
theorem listed_iff (V : Views) (one : OneComment V) (cfg : Config) (call : ToolCall) (result : Result) :
    (∃ shown, Outputs V cfg call shown result) ↔ Permitted cfg call ∧ result.key = resultKey call ∧
      (listing V cfg call).Page cfg.max_rows result.items result.truncated := by
  constructor
  · rintro ⟨shown, output⟩
    exact page_of_outputs (requested one call) output
  · rintro ⟨permitted, key, page⟩
    exact outputs_of_page (requested one call) permitted key page

/-- HR has two tables, one with a comment, and a key of EMP. -/
def twoTables : Views where
  all_tables := [⟨lit "HR", lit "EMP"⟩, ⟨lit "HR", lit "DEPT"⟩, ⟨lit "FIN", lit "EMP"⟩]
  all_tab_comments := [⟨lit "HR", lit "EMP", some (lit "staff")⟩]
  all_tab_columns :=
    [⟨lit "HR", lit "EMP", lit "ENAME", some (lit "VARCHAR2"), some (lit "Y"), none, some 2⟩,
      ⟨lit "HR", lit "EMP", lit "ID", some (lit "NUMBER"), some (lit "N"), none, some 1⟩]
  all_col_comments := []
  all_constraints := [⟨lit "HR", lit "PK", some (lit "P"), lit "EMP", none, none, none⟩]
  all_cons_columns := [⟨lit "HR", lit "PK", some (lit "ID"), some 1⟩]

theorem twoTables_comments : OneComment twoTables := ⟨by decide, by decide⟩

/-- HR passes the allow-list. -/
theorem onlyHr_permits (call : ToolCall) (hr : givenOwner call = some (lit "hr")) : Permitted onlyHr call := by
  intro given member
  rw [hr] at member
  obtain rfl := Option.some.inj member
  exact .inr (by decide)

theorem outputs_sorted {call : ToolCall} (permitted : Permitted onlyHr call) :
    ∃ shown, Outputs twoTables onlyHr call shown (sortedResult twoTables onlyHr call) :=
  outputs_of_page (requested twoTables_comments call) permitted rfl (page_first _ _)

theorem listed_iff_tables : ∃ shown,
    Outputs twoTables onlyHr (.list_tables (lit "hr")) shown (sortedResult twoTables onlyHr (.list_tables (lit "hr"))) :=
  (listed_iff twoTables twoTables_comments onlyHr (.list_tables (lit "hr")) _).mpr
    ⟨onlyHr_permits _ rfl, rfl, page_first _ _⟩

/-! ### One result -/

/-- Names in the views are unique, as are the places of the columns of a table and of a key. -/
structure Consistent (V : Views) : Prop where
  comments : OneComment V
  tables : (V.all_tables.map (fun t => (t.owner, t.table_name))).Nodup
  columns : (V.all_tab_columns.map (fun col => (col.owner, col.table_name, col.column_name))).Nodup
  column_ids : (V.all_tab_columns.map (fun col => (col.owner, col.table_name, col.column_id))).Nodup
  keyed : Keyed V

/-- The columns of every listed constraint have places of their own. A check constraint has
    null places, so this asks for at most one column of it. -/
def Separated (V : Views) : ToolCall → Prop
  | .get_constraints owner table => ∀ c ∈ V.all_constraints, names owner c.owner = true → names table c.table_name = true →
      ((columnsOf V c).map (fun cc => cc.position)).Nodup
  | _ => True

/-- Keys are unique among chosen rows if they tell the chosen rows apart as unique keys of all rows do. -/
theorem nodup_filter_map {α κ ν : Type} {rows : List α} {whole : α → ν} (unique : (rows.map whole).Nodup) {p : α → Bool}
    {key : α → κ} (determines : ∀ x y, p x = true → p y = true → key x = key y → whole x = whole y) :
    ((rows.filter p).map key).Nodup := by
  refine List.Nodup.map_on ?_ (unique.of_map.filter p)
  intro x inRows y inRows' same
  obtain ⟨member, chosen⟩ := List.mem_filter.mp inRows
  obtain ⟨member', chosen'⟩ := List.mem_filter.mp inRows'
  exact List.inj_on_of_nodup_map unique member member' (determines x y chosen chosen' same)

theorem Shows.unique {statement : Statement} {rows : List Source} {l : Listing Item} {f : l.Entry → Source}
    (shows : Shows statement rows l f) (distinct : (rows.map (Source.orderKey statement)).Nodup) : l.Unique := by
  rw [shows.rows, List.map_map] at distinct
  refine List.pairwise_map.mpr ((List.pairwise_map.mp distinct).imp fun {a b} differ same => differ ?_)
  refine le_antisymm (not_lt.mp fun above => ?_) (not_lt.mp fun below => ?_)
  · exact absurd ((shows.alike b a).mp above) (by simp [Precedes, same])
  · exact absurd ((shows.alike a b).mp below) (by simp [Precedes, same])

theorem names_unique {given name name' : PyStr} (one : names given name = true) (two : names given name' = true) : name = name' := by
  rw [(named_iff.mpr one).2, (named_iff.mpr two).2]

theorem nullsLast_injective : Function.Injective nullsLast := by
  intro m n same
  cases m <;> cases n <;> simp_all [nullsLast]

theorem unique_withColumns {V : Views} {c : Constraint} (places : ((columnsOf V c).map (fun cc => cc.position)).Nodup) :
    ((withColumns V c).map (fun entry => entry.2.bind (fun cc => cc.position))).Nodup := by
  unfold withColumns
  split
  · exact List.nodup_singleton _
  · rw [List.map_map]
    exact places

theorem matching_unique {V : Views} (columns : (V.all_tab_columns.map (fun col => (col.owner, col.table_name, col.column_name))).Nodup)
    {cfg : Config} (name_pattern : PyStr) (owner : Option PyStr) : ((matching V cfg name_pattern owner).map columnKey).Nodup :=
  nodup_filter_map columns fun _ _ _ _ same => same

theorem listing_unique {V : Views} (consistent : Consistent V) {cfg : Config} {call : ToolCall} (separated : Separated V call)
    {request : Request} (sent : call.request cfg = .ok request) : (listing V cfg call).Unique := by
  cases call with
  | list_schemas =>
    show (((V.all_tables.map (fun t => t.owner)).dedup.filter (asks cfg none)).map (fun name => name)).Nodup
    rw [List.map_id']
    exact (List.nodup_dedup _).filter _
  | list_tables owner =>
    exact nodup_filter_map consistent.tables fun t t' chosen chosen' same => Prod.ext (names_unique chosen chosen') same
  | describe_table owner table =>
    refine nodup_filter_map consistent.column_ids fun col col' chosen chosen' same => ?_
    rw [Bool.and_eq_true] at chosen chosen'
    exact Prod.ext (names_unique chosen.1 chosen'.1) (Prod.ext (names_unique chosen.2 chosen'.2) (nullsLast_injective same))
  | find_columns name_pattern owner => exact matching_unique consistent.columns name_pattern owner
  | list_relationships owner table =>
    obtain ⟨f, shows⟩ := requested consistent.comments _ _ sent
    obtain ⟨isList, bound⟩ := request_bound sent
    refine shows.unique ?_
    rw [isList]
    exact rows_nodup consistent.keyed bound
  | get_constraints owner table =>
    refine List.pairwise_map.mpr (List.pairwise_flatMap.mpr ⟨?_, ?_⟩)
    · intro c inFilter
      obtain ⟨visible, chosen⟩ := List.mem_filter.mp inFilter
      rw [Bool.and_eq_true] at chosen
      refine (List.pairwise_map.mp (unique_withColumns (separated c visible chosen.1 chosen.2))).imp ?_
      intro entry entry' differ same
      exact differ (nullsLast_injective (Prod.mk.inj same).2)
    · have apart : ((V.all_constraints.filter (fun c => names owner c.owner && names table c.table_name)).map
          (fun c => c.constraint_name)).Nodup := by
        refine nodup_filter_map consistent.keyed.names fun c c' chosen chosen' same => ?_
        rw [Bool.and_eq_true] at chosen chosen'
        exact Prod.ext (names_unique chosen.1 chosen'.1) same
      refine (List.pairwise_map.mp apart).imp ?_
      intro c c' differ entry member entry' member' same
      rw [← fst_of_mem_withColumns member, ← fst_of_mem_withColumns member'] at differ
      exact differ (Prod.mk.inj same).1

/-- On consistent views, whatever order the database answers in, a tool has one result. -/
theorem one_result (V : Views) (consistent : Consistent V) (cfg : Config) (call : ToolCall) (separated : Separated V call)
    (shown : List Source) (result : Result) (output : Outputs V cfg call shown result) :
    result = sortedResult V cfg call := by
  obtain ⟨permitted, key, page⟩ := page_of_outputs (requested consistent.comments call) output
  obtain ⟨request, sent⟩ := permitted_iff.mp permitted
  have first := page.eq_first (listing_unique consistent separated sent)
  rw [sortedResult, ← key, ← first]

theorem twoTables_consistent : Consistent twoTables := by
  have places : ∀ c ∈ twoTables.all_constraints, (positions twoTables c).Nodup := by decide
  exact ⟨twoTables_comments, by decide, by decide, by decide, by decide, fun c visible _ => places c visible⟩

theorem one_result_constraints : ∃ shown result,
    Outputs twoTables onlyHr (.get_constraints (lit "hr") (lit "emp")) shown result ∧
      result = sortedResult twoTables onlyHr (.get_constraints (lit "hr") (lit "emp")) := by
  have separated : Separated twoTables (.get_constraints (lit "hr") (lit "emp")) := by
    have places : ∀ c ∈ twoTables.all_constraints, ((columnsOf twoTables c).map (fun cc => cc.position)).Nodup := by decide
    exact fun c visible _ _ => places c visible
  obtain ⟨shown, output⟩ := outputs_sorted (onlyHr_permits (.get_constraints (lit "hr") (lit "emp")) rfl)
  exact ⟨shown, _, output, one_result twoTables twoTables_consistent onlyHr _ separated shown _ output⟩

/-! ### Columns by pattern -/

/-- Where no table has two columns of one name, `find_columns` finds the columns whose name can
    be cut into what the characters of the pattern stand for, in order and each once. -/
theorem columns_found (V : Views)
    (columns : (V.all_tab_columns.map (fun col => (col.owner, col.table_name, col.column_name))).Nodup)
    (cfg : Config) (name_pattern : PyStr) (owner : Option PyStr)
    (shown : List Source) (result : Result) (output : Outputs V cfg (.find_columns name_pattern owner) shown result) :
    ∃ found : List Column, found.Pairwise (Precedes columnKey) ∧
      (∀ col, col ∈ found ↔ col ∈ V.all_tab_columns ∧ asks cfg owner col.owner = true ∧ name_pattern ≠ [] ∧
        ∃ parts, List.Forall₂ (Stands 37 95) name_pattern parts ∧ parts.flatten = col.column_name) ∧
      result.items = (found.take cfg.max_rows.toNat).map foundItem ∧ (result.truncated = true ↔ cfg.max_rows < found.length) := by
  obtain ⟨_, _, found, sorted, items, more⟩ := page_of_outputs (requested_found name_pattern owner) output
  have unique : ((matching V cfg name_pattern owner).map columnKey).Nodup := matching_unique columns name_pattern owner
  have answers : Answers columnKey (matching V cfg name_pattern owner) found := sorted
  refine ⟨found, answers.strict unique, fun col => ?_, items, ?_⟩
  · rw [answers.mem, matching, List.mem_filter, Bool.and_eq_true, Bool.and_eq_true, like_iff, decide_eq_true_eq]
    tauto
  · rw [answers.1.length_eq]
    exact more

/-- ENAME is like the pattern with any text after an E. -/
theorem columns_found_ename : ∃ shown result, Outputs twoTables onlyHr (.find_columns (lit "E%") (some (lit "hr"))) shown result ∧
    ∃ found : List Column, ⟨lit "HR", lit "EMP", lit "ENAME", some (lit "VARCHAR2"), some (lit "Y"), none, some 2⟩ ∈ found ∧
      result.items = (found.take onlyHr.max_rows.toNat).map foundItem := by
  obtain ⟨shown, output⟩ := outputs_sorted (onlyHr_permits (.find_columns (lit "E%") (some (lit "hr"))) rfl)
  obtain ⟨found, _, listed, items, _⟩ := columns_found twoTables twoTables_consistent.columns onlyHr _ _ shown _ output
  refine ⟨shown, _, output, found, (listed _).mpr ⟨List.mem_cons_self, by decide, by decide, ?_⟩, items⟩
  exact ⟨[lit "E", lit "NAME"], .cons (.inr ⟨69, rfl, .inr rfl⟩) (.cons (.inl rfl) .nil), rfl⟩

end OracleSchema.Catalog
