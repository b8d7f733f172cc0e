import Mathlib.Data.Finset.Sort
import Mathlib.Data.List.AList
import Mathlib.Data.Sum.Order
import Mathlib.Order.WithBot
import OracleSchema.Strings
import OracleSchema.Queries

/-!
The ALL_* views and the six fixed statements over them: the text that is sent, and
the rows that the text denotes under the bind values.
-/
namespace OracleSchema.Dictionary
open OracleSchema.Strings OracleSchema.Queries

/-! ### The views -/

structure Table where
  owner : PyStr
  table_name : PyStr
  deriving DecidableEq

structure TableComment where
  owner : PyStr
  table_name : PyStr
  comments : Option PyStr
  deriving DecidableEq

structure Column where
  owner : PyStr
  table_name : PyStr
  column_name : PyStr
  data_type : Option PyStr
  nullable : Option PyStr
  data_default : Option PyStr
  column_id : Option Int
  deriving DecidableEq

structure ColumnComment where
  owner : PyStr
  table_name : PyStr
  column_name : PyStr
  comments : Option PyStr
  deriving DecidableEq

structure Constraint where
  owner : PyStr
  constraint_name : PyStr
  constraint_type : Option PyStr
  table_name : PyStr
  search_condition : Option PyStr
  r_owner : Option PyStr
  r_constraint_name : Option PyStr
  deriving DecidableEq

structure ConsColumn where
  owner : PyStr
  constraint_name : PyStr
  column_name : Option PyStr
  position : Option Int
  deriving DecidableEq

structure Views where
  all_tables : List Table
  all_tab_comments : List TableComment
  all_tab_columns : List Column
  all_col_comments : List ColumnComment
  all_constraints : List Constraint
  all_cons_columns : List ConsColumn

/-! ### Statements -/

/-- The two forms of an owner predicate, and its absence. -/
inductive OwnerFilter
  | bound
  | unrestricted
  | among (keys : List PyStr)
  deriving DecidableEq

inductive Statement
  | listSchemas (owner_filter : OwnerFilter)
  | listTables
  | describeTable
  | findColumns (owner_filter : OwnerFilter)
  | listRelationships (onTable : Bool)
  | getConstraints
  deriving DecidableEq

/-- The predicate as SQL text. -/
def OwnerFilter.text (column : PyStr) : OwnerFilter → PyStr
  | .bound => column ++ lit " = :owner"
  | .unrestricted => lit "1 = 1"
  | .among keys => column ++ lit " IN (" ++ List.intercalate (lit ", ") (keys.map (fun key => lit ":" ++ key)) ++ lit ")"

/-- The text that is sent. -/
def Statement.text : Statement → PyStr
  | .listSchemas owner_filter =>
    lit "SELECT DISTINCT owner FROM all_tables WHERE " ++ owner_filter.text (lit "owner") ++ lit " ORDER BY owner"
  | .listTables =>
    lit "SELECT t.table_name, c.comments FROM all_tables t LEFT JOIN all_tab_comments c ON c.owner = t.owner AND c.table_name = t.table_name WHERE t.owner = :owner ORDER BY t.table_name"
  | .describeTable =>
    lit "SELECT col.column_name, col.data_type, col.nullable, col.data_default, cc.comments FROM all_tab_columns col LEFT JOIN all_col_comments cc ON cc.owner = col.owner AND cc.table_name = col.table_name AND cc.column_name = col.column_name WHERE col.owner = :owner AND col.table_name = :tname ORDER BY col.column_id"
  | .findColumns owner_filter =>
    lit "SELECT owner, table_name, column_name, data_type FROM all_tab_columns WHERE column_name LIKE :pat AND " ++
      owner_filter.text (lit "owner") ++ lit " ORDER BY owner, table_name, column_name"
  | .listRelationships onTable =>
    lit "SELECT c.constraint_name, c.owner AS child_owner, c.table_name AS child_table, cc.column_name AS child_column, rc.owner AS parent_owner, rc.table_name AS parent_table, rcc.column_name AS parent_column FROM all_constraints c JOIN all_cons_columns cc ON cc.owner = c.owner AND cc.constraint_name = c.constraint_name JOIN all_constraints rc ON rc.owner = c.r_owner AND rc.constraint_name = c.r_constraint_name JOIN all_cons_columns rcc ON rcc.owner = rc.owner AND rcc.constraint_name = rc.constraint_name AND rcc.position = cc.position WHERE c.constraint_type = 'R' AND c.owner = :owner " ++
      (if onTable then lit "AND c.table_name = :tname" else []) ++ lit " ORDER BY c.constraint_name, cc.position"
  | .getConstraints =>
    lit "SELECT c.constraint_name, c.constraint_type, cc.column_name, c.search_condition, c.r_owner, c.r_constraint_name FROM all_constraints c LEFT JOIN all_cons_columns cc ON cc.owner = c.owner AND cc.constraint_name = c.constraint_name WHERE c.owner = :owner AND c.table_name = :tname ORDER BY c.constraint_name, cc.position"

abbrev Binds := AList (fun _ : PyStr => PyStr)

/-- The value of a bind variable; the database takes an empty string for a null. -/
def value (binds : Binds) (key : PyStr) : Option PyStr := (binds.lookup key).filter (fun text => text ≠ [])

/-- The view rows that a result row is made of. -/
inductive Source
  | schema (owner : PyStr)
  | table (t : Table) (c : Option TableComment)
  | column (col : Column) (cc : Option ColumnComment)
  | edge (c : Constraint) (cc : ConsColumn) (rc : Constraint) (rcc : ConsColumn)
  | constraint (c : Constraint) (cc : Option ConsColumn)
  deriving DecidableEq

/-- The predicate as a condition on an owner. -/
def OwnerFilter.holds (binds : Binds) (owner : PyStr) : OwnerFilter → Bool
  | .bound => sqlEq (some owner) (value binds (lit "owner"))
  | .unrestricted => true
  | .among keys => keys.any (fun key => sqlEq (some owner) (value binds key))

def edges (V : Views) : List Source :=
  let child := join (fun c cc => cc.owner = c.owner && cc.constraint_name = c.constraint_name) V.all_constraints V.all_cons_columns
  let parent := join (fun row rc => sqlEq (some rc.owner) row.1.r_owner && sqlEq (some rc.constraint_name) row.1.r_constraint_name)
    child V.all_constraints
  let both := join (fun row rcc => rcc.owner = row.2.owner && rcc.constraint_name = row.2.constraint_name &&
    sqlEq rcc.position row.1.2.position) parent V.all_cons_columns
  both.map (fun row => .edge row.1.1.1 row.1.1.2 row.1.2 row.2)

/-- The condition of the WHERE clause. -/
def Statement.selects (binds : Binds) : Statement → Source → Bool
  | .listSchemas owner_filter, .schema owner => owner_filter.holds binds owner
  | .listTables, .table t _ => sqlEq (some t.owner) (value binds (lit "owner"))
  | .describeTable, .column col _ =>
    sqlEq (some col.owner) (value binds (lit "owner")) && sqlEq (some col.table_name) (value binds (lit "tname"))
  | .findColumns owner_filter, .column col _ =>
    ((value binds (lit "pat")).any fun pattern => like 37 95 pattern col.column_name) && owner_filter.holds binds col.owner
  | .listRelationships onTable, .edge c _ _ _ =>
    sqlEq c.constraint_type (some (lit "R")) && sqlEq (some c.owner) (value binds (lit "owner")) &&
      (!onTable || sqlEq (some c.table_name) (value binds (lit "tname")))
  | .getConstraints, .constraint c _ =>
    sqlEq (some c.owner) (value binds (lit "owner")) && sqlEq (some c.table_name) (value binds (lit "tname"))
  | _, _ => false

/-- The rows that a statement is about. -/
inductive Fits : Statement → Source → Prop
  | listSchemas (owner_filter : OwnerFilter) (owner : PyStr) : Fits (.listSchemas owner_filter) (.schema owner)
  | listTables (t : Table) (c : Option TableComment) : Fits .listTables (.table t c)
  | describeTable (col : Column) (cc : Option ColumnComment) : Fits .describeTable (.column col cc)
  | findColumns (owner_filter : OwnerFilter) (col : Column) (cc : Option ColumnComment) :
      Fits (.findColumns owner_filter) (.column col cc)
  | listRelationships (onTable : Bool) (c : Constraint) (cc : ConsColumn) (rc : Constraint) (rcc : ConsColumn) :
      Fits (.listRelationships onTable) (.edge c cc rc rcc)
  | getConstraints (c : Constraint) (cc : Option ConsColumn) : Fits .getConstraints (.constraint c cc)

theorem fits_of_selects {binds : Binds} {statement : Statement} {source : Source}
    (selected : statement.selects binds source = true) : Fits statement source := by
  cases statement with
  | listSchemas owner_filter =>
    cases source with
    | schema owner => exact .listSchemas owner_filter owner
    | _ => cases selected
  | listTables =>
    cases source with
    | table t c => exact .listTables t c
    | _ => cases selected
  | describeTable =>
    cases source with
    | column col cc => exact .describeTable col cc
    | _ => cases selected
  | findColumns owner_filter =>
    cases source with
    | column col cc => exact .findColumns owner_filter col cc
    | _ => cases selected
  | listRelationships onTable =>
    cases source with
    | edge c cc rc rcc => exact .listRelationships onTable c cc rc rcc
    | _ => cases selected
  | getConstraints =>
    cases source with
    | constraint c cc => exact .getConstraints c cc
    | _ => cases selected

/-- The rows of the FROM clause. -/
def Statement.from_ (V : Views) : Statement → List Source
  | .listSchemas _ => (V.all_tables.map (fun t => t.owner)).dedup.map .schema
  | .listTables =>
    (leftJoin (fun t c => c.owner = t.owner && c.table_name = t.table_name) V.all_tables V.all_tab_comments).map
      (fun row => .table row.1 row.2)
  | .describeTable =>
    (leftJoin (fun col cc => cc.owner = col.owner && cc.table_name = col.table_name && cc.column_name = col.column_name)
      V.all_tab_columns V.all_col_comments).map (fun row => .column row.1 row.2)
  | .findColumns _ => V.all_tab_columns.map (fun col => .column col none)
  | .listRelationships _ => edges V
  | .getConstraints =>
    (leftJoin (fun c cc => cc.owner = c.owner && cc.constraint_name = c.constraint_name) V.all_constraints
      V.all_cons_columns).map (fun row => .constraint row.1 row.2)

/-- The result rows, before ORDER BY. -/
def Statement.rows (V : Views) (binds : Binds) (statement : Statement) : List Source :=
  (statement.from_ V).filter (statement.selects binds)

/-- One cell of a result row. -/
abbrev Cell := Option PyStr

/-- The select list. -/
def Source.cells : Statement → Source → List Cell
  | .listSchemas _, .schema owner => [some owner]
  | .listTables, .table t c => [some t.table_name, c.bind (fun c => c.comments)]
  | .describeTable, .column col cc =>
    [some col.column_name, col.data_type, col.nullable, col.data_default, cc.bind (fun cc => cc.comments)]
  | .findColumns _, .column col _ => [some col.owner, some col.table_name, some col.column_name, col.data_type]
  | .listRelationships _, .edge c cc rc rcc =>
    [some c.constraint_name, some c.owner, some c.table_name, cc.column_name, some rc.owner, some rc.table_name,
      rcc.column_name]
  | .getConstraints, .constraint c cc =>
    [some c.constraint_name, c.constraint_type, cc.bind (fun cc => cc.column_name), c.search_condition, c.r_owner,
      c.r_constraint_name]
  | _, _ => []

/-- A text or a number to order by; nulls come last. -/
abbrev OrderKey := WithTop (PyStr ⊕ₗ Int)

def textKey (text : PyStr) : OrderKey := ((toLex (Sum.inl text) : PyStr ⊕ₗ Int) : WithTop (PyStr ⊕ₗ Int))
def numberKey : Option Int → OrderKey
  | none => ⊤
  | some n => ((toLex (Sum.inr n) : PyStr ⊕ₗ Int) : WithTop (PyStr ⊕ₗ Int))

theorem precedes_textKey {a b : PyStr} : Precedes textKey a b ↔ a < b := by
  rw [Precedes, textKey, textKey, WithTop.coe_lt_coe, Sum.Lex.inl_lt_inl_iff]

theorem textKey_inj {a b : PyStr} : textKey a = textKey b ↔ a = b := by
  simp [textKey]

theorem precedes_numberKey {m n : Int} : Precedes numberKey (some m) (some n) ↔ m < n := by
  rw [Precedes, numberKey, numberKey, WithTop.coe_lt_coe, Sum.Lex.inr_lt_inr_iff]

theorem numberKey_inj {m n : Int} : numberKey (some m) = numberKey (some n) ↔ m = n := by
  simp [numberKey]

/-- The ORDER BY clause. -/
def Source.orderKey : Statement → Source → List OrderKey
  | .listSchemas _, .schema owner => [textKey owner]
  | .listTables, .table t _ => [textKey t.table_name]
  | .describeTable, .column col _ => [numberKey col.column_id]
  | .findColumns _, .column col _ => [textKey col.owner, textKey col.table_name, textKey col.column_name]
  | .listRelationships _, .edge c cc _ _ => [textKey c.constraint_name, numberKey cc.position]
  | .getConstraints, .constraint c cc => [textKey c.constraint_name, numberKey (cc.bind (fun cc => cc.position))]
  | _, _ => []

/-- An answer that the database may give. -/
def Statement.Answers (statement : Statement) (V : Views) (binds : Binds) (answer : List Source) : Prop :=
  Queries.Answers (Source.orderKey statement) (statement.rows V binds) answer

end OracleSchema.Dictionary
