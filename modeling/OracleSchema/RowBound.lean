import OracleSchema.Scoping

/-!
Arm 6: the outer row bound. `_apply_row_bound` replaces the limit clause of the
statement that arms 4 and 5 have admitted, and what the replaced clause holds goes
with it, CTE aliases included. `gated_runs_iff` says when the executed statement
still passes both arms.
-/
namespace OracleSchema.RowBound
open OracleSchema.Strings OracleSchema.Errors OracleSchema.Trees OracleSchema.SqlTree OracleSchema.SqlGate
open OracleSchema.Scoping

def maxRowsDefault : Int := 100
def maxRowsCeiling : Int := 500

/-- `int(literal.name)` where the node is an integer literal. -/
def literalInt? (count : Option Expression) : Option Int :=
  match count with
  | some node =>
    if nodeType node = .Literal ∧ field? .is_string node ≠ some (.bool true) then pyInt (name node) else none
  | none => none

/-- `_author_row_bound`: the statement's own literal bound. -/
def authorRowBound (stmt : Expression) : Option Int :=
  match stmt.child? .limit with
  | none => none
  | some existing =>
    match nodeType existing with
    | .Fetch =>
      match existing.child? .limit_options with
      | some options => if truthy .percent options then none else literalInt? (existing.child? .count)
      | none => literalInt? (existing.child? .count)
    | .Limit => literalInt? (existing.child? .expression)
    | _ => none

/-- The number of rows that the wrap asks for. -/
def effectiveBound (stmt : Expression) (max_rows : Option Int) : Int :=
  let wanted :=
    match max_rows with
    | none => maxRowsDefault
    | some n => if n = 0 then maxRowsDefault else n
  let effective := max 1 (min wanted maxRowsCeiling)
  match authorRowBound stmt with
  | none => effective
  | some bound => min effective bound

/-- `_apply_row_bound`: the bounded text and the bound. -/
def applyRowBound (S : Sqlglot) (stmt : Expression) (max_rows : Option Int) : Except PyExc (PyStr × Int) :=
  match S.limit stmt (effectiveBound stmt max_rows) with
  | .error exc => .error exc
  | .ok bounded =>
    match S.sql bounded with
    | .error exc => .error exc
    | .ok text => .ok (text, effectiveBound stmt max_rows)

/-- The outer limit as the emitted text parses. -/
def fetchNode (n : Int) : Expression :=
  .node ⟨.Fetch, [(.other "direction", .str (lit "FIRST"))]⟩
    [(.count, number n), (.limit_options, .node ⟨.LimitOptions, [(.other "rows", .bool true)]⟩ [])]

/-- What sqlglot does with the statement: the text of the copy that `limit` makes parses to
    the statement with its outer limit clause replaced, by the copy's own clause or by the
    one that the text spells. -/
structure BoundedAs (S : Sqlglot) (stmt : Expression) (n : Int) (bounded parsed : Expression) (text : PyStr) : Prop where
  limited : S.limit stmt n = .ok bounded
  printed : S.sql bounded = .ok text
  reparsed : S.parse text = .ok [some parsed]
  replaced : Tree.Replaced .limit (limitNode n) stmt parsed ∨ Tree.Replaced .limit (fetchNode n) stmt parsed
  walked : ∃ visited, S.walk parsed = .ok visited

/-- Arms 4 and 5 admit the statement for the token's objects. -/
def Admitted (stmt : Expression) (objects : List PyStr) : Prop :=
  PlainSelect stmt ∧ outOfScopeObjects (objectsOf stmt) objects = []

/-- The text that is executed passes arms 4 and 5 for the same objects, and it
    references nothing that the gate did not see. -/
def GatedRuns (S : Sqlglot) (stmt : Expression) (objects : List PyStr) (max_rows : Option Int) : Prop :=
  ∃ text bound executed refs, applyRowBound S stmt max_rows = .ok (text, bound) ∧
    analyze S text = .ok (.ok executed) ∧ referencedObjects S executed = .ok refs ∧
      outOfScopeObjects refs objects = [] ∧ refs ⊆ objectsOf stmt

/-- No unqualified table outside the outer limit clause takes its name from a CTE
    that only the limit clause holds, unless a qualified table has that name. -/
def LimitHidesNothing (stmt : Expression) : Prop :=
  ∀ table ∈ (Tree.without .limit stmt).nodes, nodeType table = .Table → name table ≠ [] → qualifiers table = [] →
    upper (name table) ∈ cteAliases stmt.nodes →
      upper (name table) ∈ cteAliases (Tree.without .limit stmt).nodes ∨
        ∃ q ∈ stmt.nodes, nodeType q = .Table ∧ name q ≠ [] ∧ qualifiers q ≠ [] ∧ dottedName q = upper (name table)

section
variable {stmt bounded clause : Expression} {n : Int}

/-- The classes of the nodes that a new limit clause brings. -/
def clauseTypes : List NodeType := [.Limit, .Literal, .Fetch, .LimitOptions]

theorem limitNode_nodes {m : Expression} (inside : m ∈ (limitNode n).nodes) : nodeType m ∈ clauseTypes := by
  simp only [limitNode, number, Tree.nodes, Tree.nodesUnder, List.append_nil, List.mem_cons, List.not_mem_nil,
    or_false] at inside
  rcases inside with rfl | rfl
  · exact (by decide : NodeType.Limit ∈ clauseTypes)
  · exact (by decide : NodeType.Literal ∈ clauseTypes)

theorem fetchNode_nodes {m : Expression} (inside : m ∈ (fetchNode n).nodes) : nodeType m ∈ clauseTypes := by
  simp only [fetchNode, number, Tree.nodes, Tree.nodesUnder, List.append_nil, List.mem_cons, List.mem_append,
    List.not_mem_nil, or_false] at inside
  rcases inside with rfl | rfl | rfl
  · exact (by decide : NodeType.Fetch ∈ clauseTypes)
  · exact (by decide : NodeType.Literal ∈ clauseTypes)
  · exact (by decide : NodeType.LimitOptions ∈ clauseTypes)

theorem nodeType_replaced (replaced : Tree.Replaced .limit clause stmt bounded) : nodeType bounded = nodeType stmt := by
  rw [nodeType, replaced.label, nodeType]

/-- Apart from its root and the new limit clause, the bounded statement has the
    nodes that the old limit clause did not hold. -/
theorem mem_bounded_iff (replaced : Tree.Replaced .limit clause stmt bounded)
    (brings : ∀ m ∈ clause.nodes, nodeType m ∈ clauseTypes) {t : NodeType} (notRoot : nodeType stmt ≠ t)
    (notClause : t ∉ clauseTypes) {m : Expression} (isType : nodeType m = t) :
    m ∈ bounded.nodes ↔ m ∈ (Tree.without .limit stmt).nodes := by
  rw [replaced.mem_nodes, Tree.mem_nodes_without]
  constructor
  · rintro (rfl | below | inside)
    · exact absurd ((nodeType_replaced replaced).symm.trans isType) notRoot
    · exact .inr below
    · exact absurd (isType ▸ brings m inside) notClause
  · rintro (rfl | below)
    · exact absurd isType notRoot
    · exact .inr (.inl below)

theorem mem_of_without {m : Expression} (inside : m ∈ (Tree.without .limit stmt).nodes)
    (notRoot : nodeType m ≠ nodeType stmt) : m ∈ stmt.nodes := by
  rcases Tree.mem_nodes_without.mp inside with rfl | ⟨k, c, child, _, below⟩
  · exact absurd rfl notRoot
  · exact Tree.mem_nodes_of_child child below

theorem cteAliases_bounded (replaced : Tree.Replaced .limit clause stmt bounded)
    (brings : ∀ m ∈ clause.nodes, nodeType m ∈ clauseTypes) (select : nodeType stmt = .Select) :
    cteAliases bounded.nodes = cteAliases (Tree.without .limit stmt).nodes := by
  ext a
  simp only [mem_cteAliases]
  refine exists_congr fun c => and_congr_left fun ⟨isCte, _⟩ => ?_
  exact mem_bounded_iff replaced brings (by rw [select]; decide) (by decide) isCte

/-- The bounded statement is a plain SELECT if the statement was. -/
theorem plainSelect_bounded (replaced : Tree.Replaced .limit clause stmt bounded)
    (brings : ∀ m ∈ clause.nodes, nodeType m ∈ clauseTypes) (plain : PlainSelect stmt) : PlainSelect bounded := by
  have unchanged : ∀ key, key ≠ .limit → truthy key bounded = truthy key stmt := by
    intro key other
    simp only [truthy, replaced.child?_other other, field?, replaced.label]
  refine ⟨?_, ?_, ?_, ?_⟩
  · rw [nodeType_replaced replaced, plain.select]
  · rw [unchanged .locks (by decide), plain.unlocked]
  · rw [unchanged .into (by decide), plain.noTarget]
  · intro m member
    rcases replaced.mem_nodes.mp member with rfl | ⟨k, d, child, _, below⟩ | inside
    · rw [nodeType_replaced replaced, plain.select]
      decide
    · exact plain.readOnly m (Tree.mem_nodes_of_child child below)
    · have harmless : ∀ t ∈ clauseTypes, t ∉ deniedNodeTypes := by decide
      exact harmless _ (brings m inside)

/-- The bounded statement references nothing new exactly when the old limit clause
    hid no table. -/
theorem objects_bounded_iff (replaced : Tree.Replaced .limit clause stmt bounded)
    (brings : ∀ m ∈ clause.nodes, nodeType m ∈ clauseTypes) (select : nodeType stmt = .Select) :
    objectsOf bounded ⊆ objectsOf stmt ↔ LimitHidesNothing stmt := by
  have tables : ∀ {m : Expression}, nodeType m = .Table → (m ∈ bounded.nodes ↔ m ∈ (Tree.without .limit stmt).nodes) :=
    fun isTable => mem_bounded_iff replaced brings (by rw [select]; decide) (by decide) isTable
  constructor
  · intro subset table outside isTable named unqualified aliased
    by_cases kept : upper (name table) ∈ cteAliases (Tree.without .limit stmt).nodes
    · exact .inl kept
    · have found : upper (name table) ∈ objectsOf bounded := by
        refine mem_objectsAmong.mpr ⟨table, (tables isTable).mpr outside, isTable, reference_eq_some.mpr ?_⟩
        exact ⟨named, dottedName_unqualified unqualified, fun _ => by rwa [cteAliases_bounded replaced brings select]⟩
      exact .inr (qualified_of_aliased (subset found) aliased)
  · intro hidesNothing x found
    obtain ⟨table, member, isTable, referenced⟩ := mem_objectsAmong.mp found
    obtain ⟨named, rfl, free⟩ := reference_eq_some.mp referenced
    have outside := (tables isTable).mp member
    have inside : table ∈ stmt.nodes := mem_of_without outside (by rw [isTable, select]; decide)
    by_cases unqualified : qualifiers table = []
    · by_cases aliased : upper (name table) ∈ cteAliases stmt.nodes
      · rcases hidesNothing table outside isTable named unqualified aliased with kept | ⟨q, member', isTable', named', qualified, same⟩
        · exact absurd (by rwa [cteAliases_bounded replaced brings select]) (free unqualified)
        · rw [dottedName_unqualified unqualified, ← same]
          exact mem_objectsAmong.mpr ⟨q, member', isTable', reference_eq_some.mpr
            ⟨named', rfl, fun bare => absurd bare qualified⟩⟩
      · exact mem_objectsAmong.mpr ⟨table, inside, isTable, reference_eq_some.mpr ⟨named, rfl, fun _ => aliased⟩⟩
    · exact mem_objectsAmong.mpr ⟨table, inside, isTable, reference_eq_some.mpr
        ⟨named, rfl, fun bare => absurd bare unqualified⟩⟩
end

/-- For an admitted statement, what is executed is what was gated if and only if
    the outer limit clause holds no CTE that names a table outside of it. -/
theorem gated_runs_iff (S : Sqlglot) (stmt bounded parsed : Expression) (text : PyStr) (objects : List PyStr)
    (max_rows : Option Int) (admitted : Admitted stmt objects)
    (library : BoundedAs S stmt (effectiveBound stmt max_rows) bounded parsed text) :
    GatedRuns S stmt objects max_rows ↔ LimitHidesNothing stmt := by
  obtain ⟨clause, replaced, brings⟩ : ∃ clause, Tree.Replaced .limit clause stmt parsed ∧
      ∀ m ∈ clause.nodes, nodeType m ∈ clauseTypes := by
    rcases library.replaced with limit | fetch
    · exact ⟨_, limit, fun m inside => limitNode_nodes inside⟩
    · exact ⟨_, fetch, fun m inside => fetchNode_nodes inside⟩
  obtain ⟨visited, walked⟩ := library.walked
  have applied : applyRowBound S stmt max_rows = .ok (text, effectiveBound stmt max_rows) := by
    simp [applyRowBound, library.limited, library.printed]
  have passes : analyze S text = .ok (.ok parsed) :=
    (analyze_admits_iff S text parsed).mpr
      ⟨⟨_, library.reparsed, rfl⟩, plainSelect_bounded replaced brings admitted.1, visited, walked⟩
  rw [← objects_bounded_iff replaced brings admitted.1.select]
  constructor
  · rintro ⟨text', bound, executed, refs, applied', passes', computed, _, subset⟩
    obtain ⟨rfl, rfl⟩ := Prod.mk.inj (Except.ok.inj (applied.symm.trans applied'))
    obtain rfl := Except.ok.inj (Except.ok.inj (passes.symm.trans passes'))
    obtain rfl := Except.ok.inj ((referencedObjects_walked walked).symm.trans computed)
    exact subset
  · intro subset
    refine ⟨text, _, parsed, objectsOf parsed, applied, passes, referencedObjects_walked walked, ?_, subset⟩
    exact outOfScope_eq_nil.mpr fun ref member => outOfScope_eq_nil.mp admitted.2 ref (subset member)

/-- sqlglot on one statement: its text is as given, and it parses to the tree with the clause. -/
theorem sample_boundedAs {clause : Expression} (text : PyStr) (stmt : Expression) (n : Int)
    (wraps : clause = limitNode n ∨ clause = fetchNode n) :
    BoundedAs (sampleSqlglot [(text, Tree.put .limit clause stmt)] text) stmt n
      (Tree.put .limit (limitNode n) stmt) (Tree.put .limit clause stmt) text where
  limited := rfl
  printed := rfl
  reparsed := by simp [sampleSqlglot]
  replaced := by
    rcases wraps with rfl | rfl
    · exact .inl (Tree.put_replaced _ _ _)
    · exact .inr (Tree.put_replaced _ _ _)
  walked := ⟨_, rfl⟩

/-- `WITH staff AS (SELECT * FROM hr.emp) SELECT * FROM staff FETCH FIRST 7 ROWS ONLY`. -/
def fetchStaff : Expression := fromStaff [(.limit, fetchNode 7)]
def fetchStaffText : PyStr := lit "WITH staff AS (SELECT * FROM hr.emp) SELECT * FROM staff FETCH FIRST 7 ROWS ONLY"

/-- Bounded to the author's seven rows, the statement keeps its CTE. -/
theorem gated_runs_iff_staff :
    GatedRuns (sampleSqlglot [(fetchStaffText, Tree.put .limit (fetchNode 7) fetchStaff)] fetchStaffText) fetchStaff
      [lit "HR.EMP"] none := by
  have plain : PlainSelect fetchStaff := ⟨rfl, by decide, by decide, by decide⟩
  have granted : outOfScopeObjects (objectsOf fetchStaff) [lit "HR.EMP"] = [] := outOfScope_eq_nil.mpr (by decide)
  refine (gated_runs_iff _ _ _ _ _ _ none ⟨plain, granted⟩ (sample_boundedAs _ _ 7 (.inr rfl))).mpr ?_
  intro table _ _ _ _ aliased
  have outside : cteAliases fetchStaff.nodes = cteAliases (Tree.without .limit fetchStaff).nodes := by decide
  exact .inl (outside ▸ aliased)

/-- `SELECT * FROM payroll FETCH FIRST (WITH payroll AS (SELECT * FROM dual) SELECT * FROM payroll) ROWS ONLY`. -/
def limitAlias : Expression :=
  selectFrom (tableNamed "payroll") [(.limit, .node ⟨.Fetch, []⟩ [(.count, subquery
    (selectFrom (tableNamed "payroll") [(.with_, withClause [cte "payroll" (selectFrom (tableNamed "dual") [])])]))])]

theorem limitAlias_escapes :
    Admitted limitAlias [] ∧
      ¬ GatedRuns (sampleSqlglot [(lit "SELECT * FROM payroll FETCH FIRST 100 ROWS ONLY",
        Tree.put .limit (limitNode 100) limitAlias)] (lit "SELECT * FROM payroll FETCH FIRST 100 ROWS ONLY"))
      limitAlias [] none := by
  refine ⟨⟨⟨rfl, by decide, by decide, by decide⟩, outOfScope_eq_nil.mpr (by decide)⟩, ?_⟩
  rintro ⟨text, bound, executed, refs, applied, passes, computed, _, subset⟩
  have ran : executed = Tree.put .limit (limitNode 100) limitAlias := by
    obtain ⟨⟨statements, parsed, single⟩, _⟩ := (analyze_admits_iff _ _ _).mp passes
    obtain ⟨rfl, rfl⟩ := Prod.mk.inj (Except.ok.inj applied)
    have known := (sample_boundedAs (lit "SELECT * FROM payroll FETCH FIRST 100 ROWS ONLY") limitAlias 100 (.inl rfl)).reparsed
    obtain rfl := Except.ok.inj (known.symm.trans parsed)
    exact (List.cons.inj single).1.symm
  subst ran
  obtain rfl := Except.ok.inj ((referencedObjects_walked rfl).symm.trans computed)
  have new : lit "PAYROLL" ∈ objectsOf (Tree.put .limit (limitNode 100) limitAlias) := by decide
  have old : lit "PAYROLL" ∉ objectsOf limitAlias := by decide
  exact old (subset new)

end OracleSchema.RowBound
