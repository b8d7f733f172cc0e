import Mathlib.Data.List.ReduceOption
import OracleSchema.SqlTree
import OracleSchema.Settings

/-!
Arms 4 and 5: one plain SELECT statement, and only objects that the token lists.
`analyze` admits a text exactly when the parser gives one statement that is a
plain SELECT (`analyze_admits_iff`); the objects a statement references depend
only on which nodes it has (`mem_objectsAmong`).
-/
namespace OracleSchema.SqlGate
open OracleSchema.Strings OracleSchema.Errors OracleSchema.Joined OracleSchema.Trees OracleSchema.SqlTree

/-- The closed refusal vocabulary of the result envelope. -/
inductive RefusalReason
  | query_context_missing_or_invalid | query_context_replayed | query_context_args_mismatch
  | sql_parse_failed | sql_not_select_only | agent_sql_object_out_of_scope
  | query_identity_stamp_failed | query_execution_failed
  deriving DecidableEq

structure Refusal where
  reason : RefusalReason
  message : PyStr
  deriving DecidableEq

/-- `type(node).__name__`. -/
def typeName : NodeType → PyStr
  | .Select => lit "Select"
  | .Subquery => lit "Subquery"
  | .Union => lit "Union"
  | .Table => lit "Table"
  | .CTE => lit "CTE"
  | .With => lit "With"
  | .TableAlias => lit "TableAlias"
  | .Identifier => lit "Identifier"
  | .Literal => lit "Literal"
  | .Var => lit "Var"
  | .Star => lit "Star"
  | .Null => lit "Null"
  | .Dot => lit "Dot"
  | .Fetch => lit "Fetch"
  | .Limit => lit "Limit"
  | .LimitOptions => lit "LimitOptions"
  | .Join => lit "Join"
  | .From => lit "From"
  | .Where => lit "Where"
  | .Lock => lit "Lock"
  | .Command => lit "Command"
  | .Insert => lit "Insert"
  | .Update => lit "Update"
  | .Delete => lit "Delete"
  | .Merge => lit "Merge"
  | .Create => lit "Create"
  | .Drop => lit "Drop"
  | .Alter => lit "Alter"
  | .Grant => lit "Grant"
  | .TruncateTable => lit "TruncateTable"
  | .Transaction => lit "Transaction"
  | .Commit => lit "Commit"
  | .Rollback => lit "Rollback"
  | .Func name => lit name
  | .Other name => lit name

/-! ### Arm 4 -/

/-- Statement classes that must not appear anywhere in an admitted query. -/
def deniedNodeTypes : List NodeType :=
  [.Command, .Insert, .Update, .Delete, .Merge, .Create, .Drop, .Alter, .Grant, .TruncateTable, .Transaction,
    .Commit, .Rollback]

/-- Tokens that open a PL/SQL block or a PL/SQL declaration in a WITH clause. -/
def classifyParseFailure (S : Sqlglot) (sql : PyStr) : Refusal :=
  match S.tokenize sql with
  | .error _ => ⟨.sql_parse_failed, lit "the SQL statement could not be parsed"⟩
  | .ok [] => ⟨.sql_parse_failed, lit "no SQL statement was provided"⟩
  | .ok (first :: rest) =>
    if upper first ∈ [lit "BEGIN", lit "DECLARE"] then
      ⟨.sql_not_select_only, lit "PL/SQL blocks are not allowed; submit a single SELECT"⟩
    else if upper first = lit "WITH" ∧ (rest.head?.any fun second => upper second ∈ [lit "FUNCTION", lit "PROCEDURE"]) then
      ⟨.sql_not_select_only, lit "WITH FUNCTION / WITH PROCEDURE is not allowed; submit a single SELECT"⟩
    else ⟨.sql_parse_failed, lit "the SQL statement could not be parsed"⟩

/-- `_analyze`: the statement, or the refusal of arm 4. -/
def analyze (S : Sqlglot) (sql : PyStr) : Except PyExc (Except Refusal Expression) :=
  match S.parse sql with
  | .error exc =>
    if exc.isInstance .ParseError then .ok (.error (classifyParseFailure S sql))
    else .ok (.error ⟨.sql_parse_failed, lit "the SQL statement could not be parsed"⟩)
  | .ok statements =>
    match statements.reduceOption with
    | [] => .ok (.error ⟨.sql_parse_failed, lit "no SQL statement was provided"⟩)
    | _ :: _ :: _ =>
      .ok (.error ⟨.sql_not_select_only, lit "multi-statement SQL is not allowed; submit a single SELECT"⟩)
    | [stmt] =>
      if nodeType stmt ≠ .Select then
        .ok (.error ⟨.sql_not_select_only,
          lit "only a single plain SELECT statement is allowed (got " ++ typeName (nodeType stmt) ++ lit ")"⟩)
      else if truthy .locks stmt then
        .ok (.error ⟨.sql_not_select_only, lit "SELECT ... FOR UPDATE is not allowed (read-only queries only)"⟩)
      else if truthy .into stmt then
        .ok (.error ⟨.sql_not_select_only, lit "SELECT ... INTO is not allowed (read-only queries only)"⟩)
      else
        match S.walk stmt with
        | .error exc => .error exc
        | .ok visited =>
          match visited.find? (fun node => nodeType node ∈ deniedNodeTypes) with
          | some node =>
            .ok (.error ⟨.sql_not_select_only,
              lit "only read-only SELECT syntax is allowed (found " ++ typeName (nodeType node) ++ lit ")"⟩)
          | none => .ok (.ok stmt)

/-- The parser gives exactly this statement; empty statements do not count. -/
def ParsesTo (S : Sqlglot) (sql : PyStr) (stmt : Expression) : Prop :=
  ∃ statements, S.parse sql = .ok statements ∧ statements.reduceOption = [stmt]

/-- What arm 4 requires of a statement. -/
structure PlainSelect (stmt : Expression) : Prop where
  select : nodeType stmt = .Select
  unlocked : truthy .locks stmt = false
  noTarget : truthy .into stmt = false
  readOnly : ∀ n ∈ stmt.nodes, nodeType n ∉ deniedNodeTypes

/-- A walk of a plain SELECT finds no denied class. -/
theorem PlainSelect.clean {S : Sqlglot} {stmt : Expression} {visited : List Expression} (plain : PlainSelect stmt)
    (walked : S.walk stmt = .ok visited) : visited.find? (fun node => nodeType node ∈ deniedNodeTypes) = none := by
  rw [List.find?_eq_none]
  intro n seen
  simpa using plain.readOnly n ((S.walk_visits stmt visited walked n).mp seen)

/-- Arm 4 admits a text exactly when it parses to one plain SELECT; the walk must
    return for it to be admitted. -/
theorem analyze_admits_iff (S : Sqlglot) (sql : PyStr) (stmt : Expression) :
    analyze S sql = .ok (.ok stmt) ↔
      ParsesTo S sql stmt ∧ PlainSelect stmt ∧ ∃ visited, S.walk stmt = .ok visited := by
  unfold analyze ParsesTo
  cases parsed : S.parse sql with
  | error exc =>
    simp only [reduceCtorEq, false_and, exists_false, iff_false]
    split_ifs <;> simp
  | ok statements =>
    simp only [Except.ok.injEq, exists_eq_left']
    split
    · rename_i none
      simp [none]
    · rename_i first second rest several
      simp [several]
    · rename_i only single
      simp only [single, List.cons.injEq, and_true]
      constructor
      · intro admitted
        split_ifs at admitted with select locks into
        · cases admitted
        · cases admitted
        · cases admitted
        · cases walked : S.walk only with
          | error exc => rw [walked] at admitted; cases admitted
          | ok visited =>
            rw [walked] at admitted
            simp only at admitted
            split at admitted
            · cases admitted
            · rename_i clean
              obtain rfl : only = stmt := by simpa using admitted
              refine ⟨rfl, ⟨by simpa using select, by simpa using locks, by simpa using into, ?_⟩, visited, walked⟩
              intro n member
              have seen := (S.walk_visits only visited walked n).mpr member
              simpa using List.find?_eq_none.mp clean n seen
      · rintro ⟨rfl, plain, visited, walked⟩
        simp [plain.select, plain.unlocked, plain.noTarget, walked, plain.clean walked]

/-- The tokens open a PL/SQL block or a PL/SQL declaration in a WITH clause. -/
def OpensPlSql (S : Sqlglot) (sql : PyStr) : Prop :=
  ∃ first rest, S.tokenize sql = .ok (first :: rest) ∧
    (upper first ∈ [lit "BEGIN", lit "DECLARE"] ∨
      (upper first = lit "WITH" ∧ ∃ second, rest.head? = some second ∧ upper second ∈ [lit "FUNCTION", lit "PROCEDURE"]))

/-- The text gives no statement, and its tokens do not show PL/SQL. -/
def Unparseable (S : Sqlglot) (sql : PyStr) : Prop :=
  (∃ statements, S.parse sql = .ok statements ∧ statements.reduceOption = []) ∨
    ∃ exc, S.parse sql = .error exc ∧ (exc.isInstance .ParseError = true → ¬ OpensPlSql S sql)

theorem classifyParseFailure_reason (S : Sqlglot) (sql : PyStr) :
    (OpensPlSql S sql ∧ (classifyParseFailure S sql).reason = .sql_not_select_only) ∨
      (¬ OpensPlSql S sql ∧ (classifyParseFailure S sql).reason = .sql_parse_failed) := by
  unfold classifyParseFailure OpensPlSql
  cases S.tokenize sql with
  | error exc => simp
  | ok tokens =>
    cases tokens with
    | nil => simp
    | cons first rest =>
      simp only [Except.ok.injEq, List.cons.injEq]
      split_ifs with block declaration
      · exact .inl ⟨⟨first, rest, ⟨rfl, rfl⟩, .inl block⟩, rfl⟩
      · obtain ⟨isWith, second⟩ := declaration
        refine .inl ⟨⟨first, rest, ⟨rfl, rfl⟩, .inr ⟨isWith, ?_⟩⟩, rfl⟩
        cases found : rest.head? with
        | none => simp [found] at second
        | some word => exact ⟨word, rfl, by simpa [found] using second⟩
      · refine .inr ⟨?_, rfl⟩
        rintro ⟨_, _, ⟨rfl, rfl⟩, opens | ⟨isWith, second, found, word⟩⟩
        · exact block opens
        · exact declaration ⟨isWith, by simpa [found] using word⟩

theorem parsesTo_iff {S : Sqlglot} {sql : PyStr} {statements : List (Option Expression)}
    (parsed : S.parse sql = .ok statements) (stmt : Expression) : ParsesTo S sql stmt ↔ statements.reduceOption = [stmt] := by
  constructor
  · rintro ⟨statements', same, single⟩
    rwa [Except.ok.inj (parsed.symm.trans same)]
  · intro single
    exact ⟨statements, parsed, single⟩

theorem unparseable_iff {S : Sqlglot} {sql : PyStr} {statements : List (Option Expression)}
    (parsed : S.parse sql = .ok statements) : Unparseable S sql ↔ statements.reduceOption = [] := by
  constructor
  · rintro (⟨statements', same, none⟩ | ⟨exc, same, _⟩)
    · rwa [Except.ok.inj (parsed.symm.trans same)]
    · rw [parsed] at same
      cases same
  · intro none
    exact .inl ⟨statements, parsed, none⟩

theorem parseable_of_parsesTo {S : Sqlglot} {sql : PyStr} {stmt : Expression} (parses : ParsesTo S sql stmt) :
    ¬ Unparseable S sql := by
  obtain ⟨statements, parsed, single⟩ := parses
  rw [unparseable_iff parsed, single]
  exact List.cons_ne_nil _ _

theorem parsesTo_unique {S : Sqlglot} {sql : PyStr} {stmt stmt' : Expression} (one : ParsesTo S sql stmt)
    (two : ParsesTo S sql stmt') : stmt = stmt' := by
  obtain ⟨statements, parsed, single⟩ := one
  exact (List.cons.inj (single.symm.trans ((parsesTo_iff parsed stmt').mp two))).1

theorem unparseable_of_error {S : Sqlglot} {sql : PyStr} {exc : PyExc} (failed : S.parse sql = .error exc) :
    Unparseable S sql ↔ (exc.isInstance .ParseError = true → ¬ OpensPlSql S sql) := by
  constructor
  · rintro (⟨statements, same, _⟩ | ⟨exc', same, closed⟩)
    · rw [failed] at same
      cases same
    · rwa [Except.error.inj (failed.symm.trans same)]
  · intro closed
    exact .inr ⟨exc, failed, closed⟩

/-- What an arm-4 refusal says of the text: no statement, or not one plain SELECT. -/
def RefusedFor (S : Sqlglot) (sql : PyStr) (refusal : Refusal) : Prop :=
  (Unparseable S sql ∧ refusal.reason = .sql_parse_failed) ∨
    (¬ Unparseable S sql ∧ (∀ stmt, ParsesTo S sql stmt → ¬ PlainSelect stmt) ∧ refusal.reason = .sql_not_select_only)

theorem refusedFor_of_error {S : Sqlglot} {sql : PyStr} {exc : PyExc} {refusal : Refusal}
    (failed : S.parse sql = .error exc) (refused : analyze S sql = .ok (.error refusal)) : RefusedFor S sql refusal := by
  have noStatement : ∀ stmt, ¬ ParsesTo S sql stmt := by
    rintro stmt ⟨statements, given, _⟩
    rw [failed] at given
    cases given
  unfold analyze at refused
  rw [failed] at refused
  simp only at refused
  split_ifs at refused with isParseError
  · obtain rfl := Except.error.inj (Except.ok.inj refused)
    rcases classifyParseFailure_reason S sql with ⟨opens, reason⟩ | ⟨plain, reason⟩
    · refine .inr ⟨?_, fun stmt parses => absurd parses (noStatement stmt), reason⟩
      rw [unparseable_of_error failed]
      exact fun closed => closed isParseError opens
    · exact .inl ⟨(unparseable_of_error failed).mpr fun _ => plain, reason⟩
  · obtain rfl := Except.error.inj (Except.ok.inj refused)
    exact .inl ⟨(unparseable_of_error failed).mpr fun isInstance => absurd isInstance isParseError, rfl⟩

/-- A single statement is refused only if it is no plain SELECT. -/
theorem refusedFor_of_single {S : Sqlglot} {sql : PyStr} {statements : List (Option Expression)} {only : Expression}
    {refusal : Refusal} (parsed : S.parse sql = .ok statements) (single : statements.reduceOption = [only])
    (refused : analyze S sql = .ok (.error refusal)) : RefusedFor S sql refusal := by
  unfold analyze at refused
  simp only [parsed, single] at refused
  have parsesOnly : ParsesTo S sql only := (parsesTo_iff parsed only).mpr single
  refine .inr ⟨parseable_of_parsesTo parsesOnly, ?_, ?_⟩
  · rintro stmt parses plain
    obtain rfl : only = stmt := parsesTo_unique parsesOnly parses
    rw [if_neg (not_not.mpr plain.select), plain.unlocked, plain.noTarget] at refused
    cases walked : S.walk only with
    | error exc => simp [walked] at refused
    | ok visited => simp [walked, plain.clean walked] at refused
  · split_ifs at refused
    · rw [← Except.error.inj (Except.ok.inj refused)]
    · rw [← Except.error.inj (Except.ok.inj refused)]
    · rw [← Except.error.inj (Except.ok.inj refused)]
    · cases walked : S.walk only with
      | error exc => simp [walked] at refused
      | ok visited =>
        simp only [walked] at refused
        split at refused
        · rw [← Except.error.inj (Except.ok.inj refused)]
        · cases refused

theorem analyze_refuses {S : Sqlglot} {sql : PyStr} {refusal : Refusal} (refused : analyze S sql = .ok (.error refusal)) :
    RefusedFor S sql refusal := by
  cases parsed : S.parse sql with
  | error exc => exact refusedFor_of_error parsed refused
  | ok statements =>
    cases found : statements.reduceOption with
    | nil =>
      simp only [analyze, parsed, found] at refused
      obtain rfl := Except.error.inj (Except.ok.inj refused)
      exact .inl ⟨(unparseable_iff parsed).mpr found, rfl⟩
    | cons first rest =>
      cases rest with
      | nil => exact refusedFor_of_single parsed found refused
      | cons second others =>
        simp only [analyze, parsed, found] at refused
        obtain rfl := Except.error.inj (Except.ok.inj refused)
        refine .inr ⟨?_, ?_, rfl⟩
        · rw [unparseable_iff parsed, found]
          exact List.cons_ne_nil _ _
        · intro stmt parses
          simpa [found] using (parsesTo_iff parsed stmt).mp parses

/-- The statement only reads: one SELECT, no denied class at any depth, and no
    SELECT at any depth that locks rows or writes into a target. -/
structure ReadsOnly (stmt : Expression) : Prop where
  select : nodeType stmt = .Select
  denied : ∀ n ∈ stmt.nodes, nodeType n ∉ deniedNodeTypes
  selects : ∀ n ∈ stmt.nodes, nodeType n = .Select → truthy .locks n = false ∧ truthy .into n = false

/-- Whatever arm 4 admits is one statement that only reads. -/
def SelectOnly (S : Sqlglot) (sql : PyStr) : Prop :=
  ∀ stmt, analyze S sql = .ok (.ok stmt) → ParsesTo S sql stmt ∧ ReadsOnly stmt

/-- Below the statement that the text parses to, if it is a plain SELECT, no
    SELECT locks rows or writes into a target. -/
def NestedSelectsRead (S : Sqlglot) (sql : PyStr) : Prop :=
  ∀ stmt visited, ParsesTo S sql stmt → PlainSelect stmt → S.walk stmt = .ok visited →
    ∀ k c, (k, c) ∈ stmt.children → ∀ n ∈ c.nodes, nodeType n = .Select →
      truthy .locks n = false ∧ truthy .into n = false

/-- The checks for FOR UPDATE and INTO are made at the top only: arm 4 is
    SELECT-only if and only if the nested SELECTs would have passed them. -/
theorem select_only_iff (S : Sqlglot) (sql : PyStr) : SelectOnly S sql ↔ NestedSelectsRead S sql := by
  constructor
  · intro only stmt visited parses plain walked k c child n inside isSelect
    have admitted := (analyze_admits_iff S sql stmt).mpr ⟨parses, plain, visited, walked⟩
    exact (only stmt admitted).2.selects n (Tree.mem_nodes_of_child child inside) isSelect
  · intro nested stmt admitted
    obtain ⟨parses, plain, visited, walked⟩ := (analyze_admits_iff S sql stmt).mp admitted
    refine ⟨parses, plain.select, plain.readOnly, ?_⟩
    intro n member isSelect
    rcases Tree.mem_nodes_iff.mp member with rfl | ⟨k, c, child, inside⟩
    · exact ⟨plain.unlocked, plain.noTarget⟩
    · exact nested stmt visited parses plain walked k c child n inside isSelect

/-- `SELECT * FROM (SELECT * FROM accounts FOR UPDATE)`. -/
def nestedLock : Expression :=
  selectFrom (subquery (selectFrom (tableNamed "accounts") [(.locks, .node ⟨.Lock, []⟩ [])])) []

theorem nestedLock_admitted :
    ¬ SelectOnly (sampleSqlglot [(lit "SELECT * FROM (SELECT * FROM accounts FOR UPDATE)", nestedLock)] [])
      (lit "SELECT * FROM (SELECT * FROM accounts FOR UPDATE)") := by
  intro only
  have plain : PlainSelect nestedLock := ⟨rfl, by decide, by decide, by decide⟩
  have parses : ParsesTo (sampleSqlglot [(lit "SELECT * FROM (SELECT * FROM accounts FOR UPDATE)", nestedLock)] [])
      (lit "SELECT * FROM (SELECT * FROM accounts FOR UPDATE)") nestedLock := ⟨[some nestedLock], by simp [sampleSqlglot], rfl⟩
  have reads := (only nestedLock ((analyze_admits_iff _ _ _).mpr ⟨parses, plain, _, rfl⟩)).2
  have inner : selectFrom (tableNamed "accounts") [(.locks, .node ⟨.Lock, []⟩ [])] ∈ nestedLock.nodes := by
    simp [nestedLock, selectFrom, subquery, Tree.nodes, Tree.nodesUnder]
  exact absurd (reads.selects _ inner rfl).1 (by decide)

/-! ### Arm 5 -/

/-- The aliases of every CTE in the statement, whatever its position. -/
def cteAliases (visited : List Expression) : Finset PyStr :=
  (((visited.filter (fun n => nodeType n = .CTE)).filter (fun c => aliasOrName c ≠ [])).map
    (fun c => upper (aliasOrName c))).toFinset

/-- The qualifying parts that a table reference gives. -/
def qualifiers (table : Expression) : List PyStr := [catalog table, db table].filter (fun part => part ≠ [])

/-- The object that one table reference adds, if it adds one. -/
def reference (aliases : Finset PyStr) (table : Expression) : Option PyStr :=
  if name table = [] then none
  else if qualifiers table ≠ [] then some (upper (join 46 (qualifiers table ++ [name table])))
  else if upper (name table) ∉ aliases then some (upper (name table))
  else none

/-- The references among the nodes of a walk. -/
def objectsAmong (visited : List Expression) : Finset PyStr :=
  ((visited.filter (fun n => nodeType n = .Table)).filterMap (reference (cteAliases visited))).toFinset

/-- `_referenced_objects`. -/
def referencedObjects (S : Sqlglot) (stmt : Expression) : Except PyExc (Finset PyStr) :=
  (S.walk stmt).map objectsAmong

def alwaysAllowedObjects : Finset PyStr := {lit "DUAL", lit "SYS.DUAL"}

/-- `_out_of_scope_objects`: the references that the token does not list, sorted. -/
def outOfScopeObjects (referenced : Finset PyStr) (allowed_objects : List PyStr) : List PyStr :=
  sorted (referenced.filter (fun ref => ref ∉ (allowed_objects.map upper).toFinset ∪ alwaysAllowedObjects))

theorem mem_cteAliases {visited : List Expression} {a : PyStr} :
    a ∈ cteAliases visited ↔ ∃ c ∈ visited, nodeType c = .CTE ∧ aliasOrName c ≠ [] ∧ upper (aliasOrName c) = a := by
  simp [cteAliases, and_assoc, and_left_comm]

theorem mem_objectsAmong {visited : List Expression} {x : PyStr} :
    x ∈ objectsAmong visited ↔
      ∃ t ∈ visited, nodeType t = .Table ∧ reference (cteAliases visited) t = some x := by
  simp [objectsAmong, and_assoc]

/-- The objects of a statement, by its nodes. -/
def objectsOf (stmt : Expression) : Finset PyStr := objectsAmong stmt.nodes

/-- Two walks of the same nodes find the same aliases and the same objects. -/
theorem cteAliases_congr {first second : List Expression} (same : ∀ n, n ∈ first ↔ n ∈ second) :
    cteAliases first = cteAliases second := by
  ext a
  simp only [mem_cteAliases, same]
theorem objectsAmong_congr {first second : List Expression} (same : ∀ n, n ∈ first ↔ n ∈ second) :
    objectsAmong first = objectsAmong second := by
  ext x
  simp only [mem_objectsAmong, same, cteAliases_congr same]

/-- A walk that returns yields the objects of the statement. -/
theorem referencedObjects_walked {S : Sqlglot} {stmt : Expression} {visited : List Expression}
    (walked : S.walk stmt = .ok visited) : referencedObjects S stmt = .ok (objectsOf stmt) := by
  rw [referencedObjects, walked]
  exact congrArg Except.ok (objectsAmong_congr (S.walk_visits stmt visited walked))

/-- Arm 5 passes exactly when every reference is listed or always allowed. -/
theorem outOfScope_eq_nil {referenced : Finset PyStr} {objects : List PyStr} :
    outOfScopeObjects referenced objects = [] ↔
      ∀ ref ∈ referenced, ref ∈ objects.map upper ∨ ref ∈ alwaysAllowedObjects := by
  simp only [outOfScopeObjects, sorted_eq_nil, Finset.filter_eq_empty_iff, not_not, Finset.mem_union, List.mem_toFinset]

theorem reference_qualified {aliases : Finset PyStr} {table : Expression} (named : name table ≠ [])
    (qualified : qualifiers table ≠ []) :
    reference aliases table = some (upper (join 46 (qualifiers table ++ [name table]))) := by
  simp [reference, named, qualified]

theorem reference_unqualified {aliases : Finset PyStr} {table : Expression} (named : name table ≠ [])
    (unqualified : qualifiers table = []) :
    reference aliases table = if upper (name table) ∉ aliases then some (upper (name table)) else none := by
  simp [reference, named, unqualified]

end OracleSchema.SqlGate
