import OracleSchema.Trees
import OracleSchema.Errors

/-!
The syntax trees that sqlglot builds: an expression has a class, named arguments
that are plain values, and named arguments that are expressions or lists of
expressions. The accessors read these as the library documents them.
-/
namespace OracleSchema.SqlTree
open OracleSchema.Strings OracleSchema.Errors OracleSchema.Trees

/-- The argument names that the program or the accessors read. -/
inductive ArgKey
  | this | expression | expressions | alias_ | db | catalog | with_ | from_ | joins | where_
  | limit | offset | locks | into | count | limit_options | percent | is_string
  | other (name : String)
  deriving DecidableEq

/-- Expression classes; every function class is a `Func` and any class that the
    program does not name is an `Other`. -/
inductive NodeType
  | Select | Subquery | Union | Table | CTE | With | TableAlias | Identifier | Literal | Var | Star | Null | Dot
  | Fetch | Limit | LimitOptions | Join | From | Where | Lock
  | Command | Insert | Update | Delete | Merge | Create | Drop | Alter | Grant | TruncateTable
  | Transaction | Commit | Rollback
  | Func (name : String)
  | Other (name : String)
  deriving DecidableEq

/-- A plain argument value. -/
inductive Scalar
  | str (value : PyStr)
  | bool (value : Bool)
  deriving DecidableEq

structure NodeLabel where
  type : NodeType
  fields : List (ArgKey × Scalar)
  deriving DecidableEq

abbrev Expression := Tree ArgKey NodeLabel

def nodeType (e : Expression) : NodeType := e.label.type

/-- `e.args.get(key)` where the argument is a plain value. -/
def field? (key : ArgKey) (e : Expression) : Option Scalar :=
  (e.label.fields.find? (fun entry => entry.1 = key)).map Prod.snd

/-- Truth of `e.args.get(key)`: an expression, a non-empty list of expressions,
    a non-empty string or `True`. -/
def truthy (key : ArgKey) (e : Expression) : Bool :=
  (e.child? key).isSome ||
    match field? key e with
    | some (.str value) => value ≠ []
    | some (.bool value) => value
    | none => false

def isFunc (e : Expression) : Bool :=
  match nodeType e with
  | .Func _ => true
  | _ => false

/-- `e.this` where it is a string, as for identifiers, literals and variables. -/
def thisText (e : Expression) : PyStr :=
  match field? .this e with
  | some (.str value) => value
  | _ => []

/-- `Expression.text`. -/
def text (key : ArgKey) (e : Expression) : PyStr :=
  match field? key e with
  | some (.str value) => value
  | _ =>
    match e.child? key with
    | none => []
    | some c =>
      match nodeType c with
      | .Identifier | .Literal | .Var => thisText c
      | .Star => lit "*"
      | .Null => lit "NULL"
      | _ => []

mutual
/-- `Expression.name`, with the overrides of `Star`, `Null`, `Dot` and `Table`. -/
def name : Expression → PyStr
  | .node l cs =>
    match l.type with
    | .Star => lit "*"
    | .Null => lit "NULL"
    | .Dot => nameUnder .expression cs
    | .Table =>
      match cs.find? (fun entry => entry.1 = .this) with
      | none => []
      | some (_, this) => if isFunc this then [] else nameUnder .this cs
    | _ => text .this (.node l cs)
/-- The name of the first child under a key. -/
def nameUnder (key : ArgKey) : List (ArgKey × Expression) → PyStr
  | [] => []
  | (k, e) :: cs => if k = key then name e else nameUnder key cs
end

def db (table : Expression) : PyStr := text .db table
def catalog (table : Expression) : PyStr := text .catalog table

/-- `Expression.alias_or_name`. -/
def aliasOrName (e : Expression) : PyStr :=
  let given :=
    match e.child? .alias_ with
    | some a => if nodeType a = .TableAlias then name a else text .alias_ e
    | none => text .alias_ e
  if given ≠ [] then given else name e

theorem nameUnder_eq (key : ArgKey) (cs : List (ArgKey × Expression)) :
    nameUnder key cs = ((cs.find? (fun entry => entry.1 = key)).map (fun entry => name entry.2)).getD [] := by
  induction cs with
  | nil => rfl
  | cons entry cs ih =>
    obtain ⟨k, e⟩ := entry
    by_cases same : k = key
    · simp [nameUnder, same]
    · simp [nameUnder, same, ih]

/-- `Table.name`: nothing for an absent or function-valued `this`, else its name. -/
theorem name_table {table : Expression} (isTable : nodeType table = .Table) :
    name table =
      match table.child? .this with
      | none => []
      | some this => if isFunc this then [] else name this := by
  cases table with
  | node l cs =>
    have labelled : l.type = .Table := isTable
    simp only [name, labelled, nameUnder_eq, Tree.child?, Tree.children_node]
    cases cs.find? (fun entry => entry.1 = ArgKey.this) with
    | none => rfl
    | some entry => rfl

/-- What the program calls of sqlglot. Every call may raise; a walk that returns
    has visited exactly the nodes of the tree. -/
structure Sqlglot where
  /-- `sqlglot.parse(sql, read="oracle")`. -/
  parse : PyStr → Except PyExc (List (Option Expression))
  /-- The texts of `sqlglot.tokenize(sql, read="oracle")`. -/
  tokenize : PyStr → Except PyExc (List PyStr)
  /-- The nodes that `walk` and `find_all` visit, in their order. -/
  walk : Expression → Except PyExc (List Expression)
  /-- `Select.limit(n)`. -/
  limit : Expression → Int → Except PyExc Expression
  /-- `Expression.sql(dialect="oracle")`. -/
  sql : Expression → Except PyExc PyStr
  walk_visits : ∀ e visited, walk e = .ok visited → ∀ n, n ∈ visited ↔ n ∈ e.nodes

/-! ### Trees of sample statements, as sqlglot builds them -/

def identifier (s : String) : Expression := .node ⟨.Identifier, [(.this, .str (lit s))]⟩ []
def star : Expression := .node ⟨.Star, []⟩ []
/-- An unsigned integer literal. -/
def number (n : Int) : Expression :=
  .node ⟨.Literal, [(.this, .str (intText n)), (.is_string, .bool false)]⟩ []
def tableNamed (s : String) : Expression := .node ⟨.Table, []⟩ [(.this, identifier s)]
def tableIn (schema s : String) : Expression := .node ⟨.Table, []⟩ [(.this, identifier s), (.db, identifier schema)]
def cte (given : String) (query : Expression) : Expression :=
  .node ⟨.CTE, []⟩ [(.this, query), (.alias_, .node ⟨.TableAlias, []⟩ [(.this, identifier given)])]
def withClause (entries : List Expression) : Expression :=
  .node ⟨.With, []⟩ (entries.map (fun e => (.expressions, e)))
def subquery (query : Expression) : Expression := .node ⟨.Subquery, []⟩ [(.this, query)]
/-- `SELECT * FROM source`, with further clauses. -/
def selectFrom (source : Expression) (clauses : List (ArgKey × Expression)) : Expression :=
  .node ⟨.Select, []⟩
    ([(.expressions, star), (.from_, .node ⟨.From, []⟩ [(.this, source)])] ++ clauses)

/-- The outer limit that `Select.limit(n)` sets. -/
def limitNode (n : Int) : Expression := .node ⟨.Limit, []⟩ [(.expression, number n)]

/-- sqlglot on the listed texts: each is the text of its tree, and anything else
    is a parse error. -/
def sampleSqlglot (texts : List (PyStr × Expression)) (printed : PyStr) : Sqlglot where
  parse sql :=
    match texts.find? (fun entry => entry.1 = sql) with
    | some entry => .ok [some entry.2]
    | none => .error (.ofText .ParseError [])
  tokenize _ := .ok []
  walk e := .ok e.nodes
  limit e n := .ok (Tree.put .limit (limitNode n) e)
  sql _ := .ok printed
  walk_visits := by
    rintro e visited walked n
    rw [← Except.ok.inj walked]

end OracleSchema.SqlTree
