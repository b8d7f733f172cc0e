import OracleSchema.SqlGate

/-!
Which names of a statement are real objects. SQL binds a CTE alias in the block
that carries the WITH and in the later entries of its list; `Sees` follows these
rules and gives the names visible at each node. The gate instead collects the
aliases of the whole statement, so it drops an unqualified table whose name is an
alias bound elsewhere. `referenced_exact_iff` says for which statements the two agree.
-/
namespace OracleSchema.Scoping
open OracleSchema.Strings OracleSchema.Errors OracleSchema.Joined OracleSchema.Trees OracleSchema.SqlTree
open OracleSchema.SqlGate

/-- Upper-cased CTE names in scope. -/
abbrev Names := List PyStr

/-- The name that an entry of a WITH list binds. -/
def bound (entry : Expression) : Names :=
  if nodeType entry = .CTE ∧ aliasOrName entry ≠ [] then [upper (aliasOrName entry)] else []
def boundBy (entries : List (ArgKey × Expression)) : Names := entries.flatMap (fun entry => bound entry.2)
/-- The names bound by the WITH that a query block carries. -/
def withNames (block : Expression) : Names :=
  (block.children.filter (fun child => child.1 = .with_)).flatMap (fun child => boundBy child.2.children)

/-- `Sees env e env' n`: `n` occurs in `e`, and where `env` is visible at `e`, `env'`
    is visible at `n`. An entry sees itself and the entries before it; every
    other clause of the block sees the whole list. -/
inductive Sees : Names → Expression → Names → Expression → Prop
  | here (env : Names) (e : Expression) : Sees env e env e
  | carrier {env : Names} {e w : Expression} (carries : (.with_, w) ∈ e.children) : Sees env e env w
  | entry {env env' : Names} {e w c n : Expression} {k : ArgKey} {before after : List (ArgKey × Expression)}
      (carries : (.with_, w) ∈ e.children) (split : w.children = before ++ (k, c) :: after)
      (inside : Sees (boundBy (before ++ [(k, c)]) ++ env) c env' n) : Sees env e env' n
  | clause {env env' : Names} {e c n : Expression} {k : ArgKey} (child : (k, c) ∈ e.children) (other : k ≠ .with_)
      (inside : Sees (withNames e ++ env) c env' n) : Sees env e env' n

/-- The reference is to a CTE: an unqualified name that is in scope. -/
def IsCteReference (env : Names) (table : Expression) : Prop :=
  qualifiers table = [] ∧ upper (name table) ∈ env

/-- The upper-cased dotted name of a table reference. -/
def dottedName (table : Expression) : PyStr := upper (join 46 (qualifiers table ++ [name table]))

/-- The statement names this object somewhere outside the scope of a CTE of its name. -/
def RealObject (stmt : Expression) (x : PyStr) : Prop :=
  ∃ env table, Sees [] stmt env table ∧ nodeType table = .Table ∧ name table ≠ [] ∧
    ¬ IsCteReference env table ∧ dottedName table = x

/-- Arm 5 works on exactly the real objects of the statement, and so an empty
    answer of it places each of them in the token's objects. -/
def ReferencedExact (S : Sqlglot) (stmt : Expression) : Prop :=
  ∃ refs, referencedObjects S stmt = .ok refs ∧ (∀ x, x ∈ refs ↔ RealObject stmt x) ∧
    ∀ objects, outOfScopeObjects refs objects = [] →
      ∀ x, RealObject stmt x → x ∈ objects.map upper ∨ x ∈ alwaysAllowedObjects

/-- Every unqualified table named like some CTE of the statement is in the scope
    of a CTE of that name, unless a qualified table has the same dotted name. -/
def AliasesInScope (stmt : Expression) : Prop :=
  ∀ env table, Sees [] stmt env table → nodeType table = .Table → name table ≠ [] → qualifiers table = [] →
    upper (name table) ∈ cteAliases stmt.nodes →
      upper (name table) ∈ env ∨
        ∃ q ∈ stmt.nodes, nodeType q = .Table ∧ name q ≠ [] ∧ qualifiers q ≠ [] ∧ dottedName q = upper (name table)

theorem mem_boundBy {entries : List (ArgKey × Expression)} {a : PyStr} :
    a ∈ boundBy entries ↔
      ∃ k c, (k, c) ∈ entries ∧ nodeType c = .CTE ∧ aliasOrName c ≠ [] ∧ upper (aliasOrName c) = a := by
  simp only [boundBy, List.mem_flatMap, bound]
  constructor
  · rintro ⟨⟨k, c⟩, member, inside⟩
    split_ifs at inside with entry
    · exact ⟨k, c, member, entry.1, entry.2, by simpa [eq_comm] using inside⟩
    · cases inside
  · rintro ⟨k, c, member, isCte, named, rfl⟩
    exact ⟨(k, c), member, by simp [isCte, named]⟩

theorem mem_withNames {block : Expression} {a : PyStr} :
    a ∈ withNames block ↔ ∃ w, (.with_, w) ∈ block.children ∧ a ∈ boundBy w.children := by
  simp [withNames]

/-- A name bound below a tree is the alias of a CTE in the tree. -/
theorem boundBy_alias {t w : Expression} {k : ArgKey} {entries : List (ArgKey × Expression)} {a : PyStr}
    (child : (k, w) ∈ t.children) (below : ∀ entry ∈ entries, entry ∈ w.children) (member : a ∈ boundBy entries) :
    a ∈ cteAliases t.nodes := by
  obtain ⟨k', c, entry, isCte, named, same⟩ := mem_boundBy.mp member
  have inside : c ∈ t.nodes :=
    Tree.mem_nodes_of_child child (Tree.mem_nodes_of_child (below _ entry) (Tree.self_mem_nodes c))
  exact mem_cteAliases.mpr ⟨c, inside, isCte, named, same⟩

theorem cteAliases_mono {inner outer : Expression} (inside : inner ∈ outer.nodes) {a : PyStr}
    (member : a ∈ cteAliases inner.nodes) : a ∈ cteAliases outer.nodes := by
  obtain ⟨c, found, isCte, named, same⟩ := mem_cteAliases.mp member
  exact mem_cteAliases.mpr ⟨c, Tree.mem_nodes_trans inside found, isCte, named, same⟩

theorem sees_mem {env env' : Names} {e n : Expression} (sees : Sees env e env' n) : n ∈ e.nodes := by
  induction sees with
  | here env e => exact Tree.self_mem_nodes e
  | carrier carries => exact Tree.mem_nodes_of_child carries (Tree.self_mem_nodes _)
  | entry carries split _ ih =>
    have entry := Tree.mem_nodes_of_child (k := _) (by rw [split]; exact List.mem_append_right _ List.mem_cons_self) ih
    exact Tree.mem_nodes_of_child carries entry
  | clause child _ _ ih => exact Tree.mem_nodes_of_child child ih

/-- Every node of a tree is seen from its root. The induction carries the children
    along, for the entries of a WITH are grandchildren of its block. -/
theorem mem_sees {e n : Expression} (member : n ∈ e.nodes) (env : Names) : ∃ env', Sees env e env' n := by
  have both : (∀ n ∈ e.nodes, ∀ env, ∃ env', Sees env e env' n) ∧
      ∀ k c, (k, c) ∈ e.children → ∀ n ∈ c.nodes, ∀ env, ∃ env', Sees env c env' n := by
    clear member
    induction e using Tree.induct with
    | node e ih =>
      refine ⟨?_, fun k c child => (ih k c child).1⟩
      intro n member env
      rcases Tree.mem_nodes_iff.mp member with rfl | ⟨k, c, child, inside⟩
      · exact ⟨env, .here env n⟩
      · by_cases carries : k = .with_
        · subst carries
          rcases Tree.mem_nodes_iff.mp inside with rfl | ⟨k', d, entry, below⟩
          · exact ⟨env, .carrier child⟩
          · obtain ⟨before, after, split⟩ := List.append_of_mem entry
            obtain ⟨env', sees⟩ := (ih _ c child).2 k' d entry n below (boundBy (before ++ [(k', d)]) ++ env)
            exact ⟨env', .entry child split sees⟩
        · obtain ⟨env', sees⟩ := (ih k c child).1 n inside (withNames e ++ env)
          exact ⟨env', .clause child carries sees⟩
  exact both.1 n member env

/-- Whatever is in scope at a node was in scope outside or is the alias of a CTE
    of the tree. -/
theorem sees_names {env env' : Names} {e n : Expression} (sees : Sees env e env' n) {a : PyStr}
    (visible : a ∈ env') : a ∈ env ∨ a ∈ cteAliases e.nodes := by
  induction sees with
  | here env e => exact .inl visible
  | carrier carries => exact .inl visible
  | @entry env env' e w c n k before after carries split inside ih =>
    have within : c ∈ e.nodes :=
      Tree.mem_nodes_of_child carries (Tree.mem_nodes_of_child (k := k) (by rw [split]; simp) (Tree.self_mem_nodes c))
    rcases ih visible with outer | inner
    · rcases List.mem_append.mp outer with listed | outside
      · refine .inr (boundBy_alias carries ?_ listed)
        intro entry member
        rw [split]
        rcases List.mem_append.mp member with early | last
        · exact List.mem_append_left _ early
        · exact List.mem_append_right _ (by simpa using .inl (List.mem_singleton.mp last))
      · exact .inl outside
    · exact .inr (cteAliases_mono within inner)
  | @clause env env' e c n k child other inside ih =>
    have within : c ∈ e.nodes := Tree.mem_nodes_of_child child (Tree.self_mem_nodes c)
    rcases ih visible with outer | inner
    · rcases List.mem_append.mp outer with listed | outside
      · obtain ⟨w, carries, bound⟩ := mem_withNames.mp listed
        exact .inr (boundBy_alias carries (fun _ member => member) bound)
      · exact .inl outside
    · exact .inr (cteAliases_mono within inner)

/-- Names in scope stay in scope further in. -/
theorem sees_mono {env env' : Names} {e n : Expression} (sees : Sees env e env' n) : env ⊆ env' := by
  induction sees with
  | here env e => exact fun _ visible => visible
  | carrier carries => exact fun _ visible => visible
  | entry carries split inside ih => exact fun _ visible => ih (List.mem_append_right _ visible)
  | clause child other inside ih => exact fun _ visible => ih (List.mem_append_right _ visible)

/-- The alias of the only entry of a block's WITH is in scope everywhere below it. -/
theorem sees_single {env env' : Names} {e w c n : Expression} {k : ArgKey} (carries : ∀ v, (.with_, v) ∈ e.children ↔ v = w)
    (single : w.children = [(k, c)]) {a : PyStr} (binds : a ∈ bound c) (sees : Sees env e env' n) : n = e ∨ n = w ∨ a ∈ env' := by
  cases sees with
  | here => exact .inl rfl
  | carrier holds => exact .inr (.inl ((carries n).mp holds))
  | @entry _ _ _ v d _ k' before after holds split inside =>
    obtain rfl := (carries v).mp holds
    rw [single] at split
    obtain ⟨rfl, rest⟩ | ⟨_, _, impossible⟩ := List.cons_eq_append_iff.mp split
    · obtain ⟨same, _⟩ := List.cons.inj rest
      obtain ⟨rfl, rfl⟩ := Prod.mk.inj same
      exact .inr (.inr (sees_mono inside (List.mem_append_left _ (by simpa [boundBy] using binds))))
    · simp at impossible
  | clause child other inside =>
    have listed : a ∈ withNames e := mem_withNames.mpr ⟨w, (carries w).mpr rfl, by simpa [single, boundBy] using binds⟩
    exact .inr (.inr (sees_mono inside (List.mem_append_left _ listed)))

theorem dottedName_unqualified {table : Expression} (unqualified : qualifiers table = []) :
    dottedName table = upper (name table) := by
  simp [dottedName, unqualified]

/-- What a reference of the gate is: the dotted name of a qualified table, or a
    bare name that no CTE of the statement has. -/
theorem reference_eq_some {aliases : Finset PyStr} {table : Expression} {x : PyStr} :
    reference aliases table = some x ↔
      name table ≠ [] ∧ dottedName table = x ∧ (qualifiers table = [] → upper (name table) ∉ aliases) := by
  by_cases named : name table = []
  · simp [reference, named]
  · by_cases unqualified : qualifiers table = []
    · rw [reference_unqualified named unqualified, dottedName_unqualified unqualified]
      by_cases member : upper (name table) ∈ aliases
      · simp [member, unqualified]
      · simp [member, named]
    · rw [reference_qualified named unqualified]
      simp [dottedName, named, unqualified]

/-- An object that has the name of a CTE of the statement is the name of a qualified table. -/
theorem qualified_of_aliased {stmt : Expression} {x : PyStr} (found : x ∈ objectsOf stmt) (aliased : x ∈ cteAliases stmt.nodes) :
    ∃ q ∈ stmt.nodes, nodeType q = .Table ∧ name q ≠ [] ∧ qualifiers q ≠ [] ∧ dottedName q = x := by
  obtain ⟨q, member, isTable, referenced⟩ := mem_objectsAmong.mp found
  obtain ⟨named, dotted, free⟩ := reference_eq_some.mp referenced
  refine ⟨q, member, isTable, named, ?_, dotted⟩
  intro bare
  rw [dottedName_unqualified bare] at dotted
  exact free bare (dotted ▸ aliased)

/-- Every object the gate finds is real: an alias in scope is an alias of the statement. -/
theorem objectsOf_real {stmt : Expression} {x : PyStr} (found : x ∈ objectsOf stmt) : RealObject stmt x := by
  obtain ⟨table, member, isTable, referenced⟩ := mem_objectsAmong.mp found
  obtain ⟨named, dotted, free⟩ := reference_eq_some.mp referenced
  obtain ⟨env, sees⟩ := mem_sees member []
  refine ⟨env, table, sees, isTable, named, ?_, dotted⟩
  rintro ⟨unqualified, visible⟩
  rcases sees_names sees visible with outside | aliased
  · cases outside
  · exact free unqualified aliased

/-- The gate finds every real object exactly when aliases are in scope wherever
    an unqualified table has their name. -/
theorem objectsOf_complete_iff {stmt : Expression} :
    (∀ x, RealObject stmt x → x ∈ objectsOf stmt) ↔ AliasesInScope stmt := by
  constructor
  · intro complete env table sees isTable named unqualified aliased
    by_cases visible : upper (name table) ∈ env
    · exact .inl visible
    · have real : RealObject stmt (upper (name table)) :=
        ⟨env, table, sees, isTable, named, fun bound => visible bound.2, dottedName_unqualified unqualified⟩
      exact .inr (qualified_of_aliased (complete _ real) aliased)
  · rintro inScope x ⟨env, table, sees, isTable, named, notCte, rfl⟩
    have member := sees_mem sees
    by_cases unqualified : qualifiers table = []
    · by_cases aliased : upper (name table) ∈ cteAliases stmt.nodes
      · rcases inScope env table sees isTable named unqualified aliased with visible | ⟨q, found, isTable', named', qualified, same⟩
        · exact absurd ⟨unqualified, visible⟩ notCte
        · rw [dottedName_unqualified unqualified, ← same]
          exact mem_objectsAmong.mpr ⟨q, found, isTable', reference_eq_some.mpr
            ⟨named', rfl, fun bare => absurd bare qualified⟩⟩
      · exact mem_objectsAmong.mpr ⟨table, member, isTable, reference_eq_some.mpr ⟨named, rfl, fun _ => aliased⟩⟩
    · exact mem_objectsAmong.mpr ⟨table, member, isTable, reference_eq_some.mpr
        ⟨named, rfl, fun bare => absurd bare unqualified⟩⟩

/-- Where the walk returns, arm 5 works on exactly the real objects of a statement
    if and only if every unqualified table that has the name of some CTE is in the
    scope of one. -/
theorem referenced_exact_iff (S : Sqlglot) (stmt : Expression) (visited : List Expression)
    (walked : S.walk stmt = .ok visited) : ReferencedExact S stmt ↔ AliasesInScope stmt := by
  rw [← objectsOf_complete_iff]
  constructor
  · rintro ⟨refs, computed, exact, _⟩ x real
    obtain rfl : objectsOf stmt = refs := Except.ok.inj ((referencedObjects_walked walked).symm.trans computed)
    exact (exact x).mpr real
  · intro complete
    refine ⟨objectsOf stmt, referencedObjects_walked walked, fun x => ⟨objectsOf_real, complete x⟩, ?_⟩
    intro objects passed x real
    exact outOfScope_eq_nil.mp passed x (complete x real)

/-- `WITH staff AS (SELECT * FROM hr.emp) SELECT * FROM staff`, with further clauses. -/
def fromStaff (clauses : List (ArgKey × Expression)) : Expression :=
  selectFrom (tableNamed "staff") ((.with_, withClause [cte "staff" (selectFrom (tableIn "hr" "emp") [])]) :: clauses)

/-- The one table that has the name of the CTE is in its scope. -/
theorem referenced_exact_iff_staff : ReferencedExact (sampleSqlglot [] []) (fromStaff []) := by
  refine (referenced_exact_iff (sampleSqlglot [] []) (fromStaff []) _ rfl).mpr ?_
  intro env table sees isTable _ _ aliased
  have only : cteAliases (fromStaff []).nodes = {lit "STAFF"} := by decide
  rw [only, Finset.mem_singleton] at aliased
  have binds : lit "STAFF" ∈ bound (cte "staff" (selectFrom (tableIn "hr" "emp") [])) := by decide
  rcases sees_single (e := fromStaff []) (w := withClause [cte "staff" (selectFrom (tableIn "hr" "emp") [])])
      (by simp [fromStaff, selectFrom]) rfl binds sees with rfl | rfl | visible
  · cases isTable
  · cases isTable
  · exact .inl (aliased ▸ visible)

/-- `SELECT * FROM payroll JOIN (WITH payroll AS (SELECT * FROM dual) SELECT * FROM payroll)`:
    the alias of the inner block hides the outer table from the gate. -/
def siblingAlias : Expression :=
  selectFrom (tableNamed "payroll") [(.joins, .node ⟨.Join, []⟩ [(.this, subquery
    (selectFrom (tableNamed "payroll") [(.with_, withClause [cte "payroll" (selectFrom (tableNamed "dual") [])])]))])]

theorem siblingAlias_hidden : ¬ ReferencedExact (sampleSqlglot [] []) siblingAlias := by
  rintro ⟨refs, computed, exact, _⟩
  have walked : (sampleSqlglot [] []).walk siblingAlias = .ok siblingAlias.nodes := rfl
  obtain rfl : objectsOf siblingAlias = refs := Except.ok.inj ((referencedObjects_walked walked).symm.trans computed)
  have real : RealObject siblingAlias (lit "PAYROLL") := by
    refine ⟨[], tableNamed "payroll", ?_, rfl, by decide, fun bound => absurd bound.2 List.not_mem_nil, by decide⟩
    refine .clause (k := .from_) (c := .node ⟨.From, []⟩ [(.this, tableNamed "payroll")])
      (by simp [siblingAlias, selectFrom]) (by decide) ?_
    refine .clause (k := .this) (c := tableNamed "payroll") (by simp) (by decide) ?_
    exact .here _ _
  have missed : lit "PAYROLL" ∉ objectsOf siblingAlias := by decide
  exact missed ((exact _).mpr real)

end OracleSchema.Scoping
