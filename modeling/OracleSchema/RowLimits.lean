import OracleSchema.Numerals
import OracleSchema.RowBound

/-!
The arithmetic of the row bound. The bound lies between the floor and the ceiling,
exceeds neither `max_rows` nor a literal bound of the author, and is all that the wrap
changes; bounding the bounded statement again changes nothing (`row_bounded`).
-/
namespace OracleSchema.RowLimits
open OracleSchema.Strings OracleSchema.Errors OracleSchema.Trees OracleSchema.SqlTree OracleSchema.SqlGate
open OracleSchema.RowBound OracleSchema.Numerals

/-- The limit clause is a percentage of the rows. -/
def isPercent (existing : Expression) : Bool := (existing.child? .limit_options).any (truthy .percent)

/-- The expression is an unquoted literal that denotes an integer. -/
structure IntLiteral (node : Expression) (n : Int) : Prop where
  literal : nodeType node = .Literal
  unquoted : field? .is_string node ≠ some (.bool true)
  value : pyInt (name node) = some n

/-- The outer limit clause holds a row count that is an integer literal. -/
inductive LiteralBound (stmt : Expression) (n : Int) : Prop
  | fetch {existing node : Expression} (holds : stmt.child? .limit = some existing) (isFetch : nodeType existing = .Fetch)
      (rows : isPercent existing = false) (counts : existing.child? .count = some node) (literal : IntLiteral node n)
  | limit {existing node : Expression} (holds : stmt.child? .limit = some existing) (isLimit : nodeType existing = .Limit)
      (counts : existing.child? .expression = some node) (literal : IntLiteral node n)

/-- Numbers in the statement are written without a sign, as the tokenizer makes them. -/
def Unsigned (stmt : Expression) : Prop :=
  ∀ node ∈ stmt.nodes, nodeType node = .Literal → field? .is_string node ≠ some (.bool true) →
    (strip (name node)).head? ≠ some 45

/-- What is assumed of `Select.limit`: it replaces the outer limit argument of a copy,
    whatever that was. -/
structure LimitReplaces (S : Sqlglot) : Prop where
  replaces : ∀ stmt n, ∃ bounded, S.limit stmt n = .ok bounded ∧ Tree.Replaced .limit (limitNode n) stmt bounded
  again : ∀ stmt bounded n m, S.limit stmt n = .ok bounded → S.limit bounded m = S.limit stmt m

/-! ### The author's bound -/

theorem literalInt?_iff {count : Option Expression} {n : Int} :
    literalInt? count = some n ↔ ∃ node, count = some node ∧ IntLiteral node n := by
  cases count with
  | none => simp [literalInt?]
  | some node =>
    simp only [literalInt?, Option.some.injEq]
    constructor
    · intro read
      split_ifs at read with numeric
      exact ⟨node, rfl, numeric.1, numeric.2, read⟩
    · rintro ⟨_, rfl, literal⟩
      rw [if_pos ⟨literal.literal, literal.unquoted⟩]
      exact literal.value

theorem authorRowBound_iff {stmt : Expression} {n : Int} : authorRowBound stmt = some n ↔ LiteralBound stmt n := by
  constructor
  · intro read
    unfold authorRowBound at read
    split at read
    · cases read
    · rename_i existing holds
      split at read
      · rename_i isFetch
        have counted : isPercent existing = false ∧ literalInt? (existing.child? .count) = some n := by
          cases has : existing.child? .limit_options with
          | none =>
            rw [has] at read
            exact ⟨by rw [isPercent, has]; rfl, read⟩
          | some options =>
            simp only [has] at read
            split_ifs at read with percent
            refine ⟨?_, read⟩
            rw [isPercent, has, Option.any_some]
            exact Bool.eq_false_of_not_eq_true percent
        obtain ⟨node, counts, literal⟩ := literalInt?_iff.mp counted.2
        exact .fetch holds isFetch counted.1 counts literal
      · rename_i isLimit
        obtain ⟨node, counts, literal⟩ := literalInt?_iff.mp read
        exact .limit holds isLimit counts literal
      · cases read
  · intro bound
    cases bound with
    | @fetch existing node holds isFetch rows counts literal =>
      have count := literalInt?_iff.mpr ⟨node, counts, literal⟩
      simp only [authorRowBound, holds, isFetch]
      cases has : existing.child? .limit_options with
      | none => exact count
      | some options =>
        rw [isPercent, has, Option.any_some] at rows
        simp only [rows]
        exact count
    | @limit existing node holds isLimit counts literal =>
      simp only [authorRowBound, holds, isLimit]
      exact literalInt?_iff.mpr ⟨node, counts, literal⟩

/-- The child under a key is within the statement. -/
theorem mem_nodes_child? {e c : Expression} {key : ArgKey} (child : e.child? key = some c) : c ∈ e.nodes := by
  obtain ⟨entry, found, rfl⟩ := Option.map_eq_some_iff.mp child
  exact Tree.mem_nodes_of_child (List.mem_of_find?_eq_some found) (Tree.self_mem_nodes _)

/-- Without signs a literal bound is not negative. -/
theorem LiteralBound.nonneg {stmt : Expression} {n : Int} (bound : LiteralBound stmt n) (unsigned : Unsigned stmt) : 0 ≤ n := by
  have below : ∀ {existing node : Expression} {key : ArgKey}, stmt.child? .limit = some existing →
      existing.child? key = some node → IntLiteral node n → 0 ≤ n := by
    intro existing node key holds counts literal
    have inside : node ∈ stmt.nodes := Tree.mem_nodes_trans (mem_nodes_child? holds) (mem_nodes_child? counts)
    exact pyInt_unsigned (unsigned node inside literal.literal literal.unquoted) literal.value
  cases bound with
  | fetch holds isFetch rows counts literal => exact below holds counts literal
  | limit holds isLimit counts literal => exact below holds counts literal

/-! ### The bound of the wrap -/

/-- `max(1, min(max_rows or 100, 500))`. -/
def wrapBound (max_rows : Option Int) : Int :=
  max 1 (min (match max_rows with
    | none => maxRowsDefault
    | some n => if n = 0 then maxRowsDefault else n) maxRowsCeiling)

theorem effectiveBound_literal {stmt : Expression} {n : Int} (bound : LiteralBound stmt n) (max_rows : Option Int) :
    effectiveBound stmt max_rows = min (wrapBound max_rows) n := by
  simp only [effectiveBound, authorRowBound_iff.mpr bound]
  rfl

theorem effectiveBound_free {stmt : Expression} (free : ∀ n, ¬ LiteralBound stmt n) (max_rows : Option Int) :
    effectiveBound stmt max_rows = wrapBound max_rows := by
  have unread : authorRowBound stmt = none := by
    rw [Option.eq_none_iff_forall_not_mem]
    exact fun n read => free n (authorRowBound_iff.mp read)
  simp only [effectiveBound, unread]
  rfl

theorem wrapBound_range (max_rows : Option Int) : 1 ≤ wrapBound max_rows ∧ wrapBound max_rows ≤ 500 := by
  simp only [wrapBound, maxRowsCeiling]
  omega

theorem wrapBound_le {m : Int} (positive : 1 ≤ m) : wrapBound (some m) ≤ m := by
  simp only [wrapBound, maxRowsCeiling, if_neg (show m ≠ 0 by omega)]
  omega

theorem effectiveBound_range {stmt : Expression} (unsigned : Unsigned stmt) (max_rows : Option Int) :
    0 ≤ effectiveBound stmt max_rows ∧ effectiveBound stmt max_rows ≤ wrapBound max_rows := by
  have range := wrapBound_range max_rows
  by_cases bounded : ∃ n, LiteralBound stmt n
  · obtain ⟨n, bound⟩ := bounded
    have nonneg := bound.nonneg unsigned
    rw [effectiveBound_literal bound]
    omega
  · rw [effectiveBound_free fun n bound => bounded ⟨n, bound⟩]
    omega

/-- Bounding by what a bound of this wrap left changes nothing. -/
theorem effectiveBound_again {stmt parsed : Expression} {max_rows : Option Int}
    (left : LiteralBound parsed (effectiveBound stmt max_rows)) :
    effectiveBound parsed max_rows = effectiveBound stmt max_rows := by
  rw [effectiveBound_literal left]
  refine min_eq_right ?_
  by_cases bounded : ∃ n, LiteralBound stmt n
  · obtain ⟨n, bound⟩ := bounded
    rw [effectiveBound_literal bound]
    exact min_le_left _ _
  · exact (effectiveBound_free (fun n bound => bounded ⟨n, bound⟩) max_rows).le

theorem intLiteral_number {n : Int} (nonneg : 0 ≤ n) (small : n ≤ 500) : IntLiteral (number n) n where
  literal := rfl
  unquoted quoted := nomatch (show some (Scalar.bool false) = some (Scalar.bool true) from quoted)
  value := by
    have digits : (Nat.toDigits 10 n.natAbs).length ≤ 3 := by
      rw [Nat.length_toDigits_le_iff (by decide) (by decide)]
      omega
    exact pyInt_intText (digits.trans (by decide))

/-- What bounding a statement does, for a limit argument that `Select.limit` replaces. -/
structure RowBounded (S : Sqlglot) (stmt : Expression) (max_rows : Option Int) (bounded : Expression) : Prop where
  limited : S.limit stmt (effectiveBound stmt max_rows) = .ok bounded
  returned : applyRowBound S stmt max_rows = (S.sql bounded).map (fun text => (text, effectiveBound stmt max_rows))
  nonneg : 0 ≤ effectiveBound stmt max_rows
  ceiling : effectiveBound stmt max_rows ≤ 500
  caller : ∀ m, max_rows = some m → 1 ≤ m → effectiveBound stmt max_rows ≤ m
  author : ∀ n, LiteralBound stmt n → effectiveBound stmt max_rows ≤ n
  floor : ¬ LiteralBound stmt 0 → 1 ≤ effectiveBound stmt max_rows
  outer : ∀ d, (ArgKey.limit, d) ∈ bounded.children ↔ d = limitNode (effectiveBound stmt max_rows)
  others : Tree.without .limit bounded = Tree.without .limit stmt
  again : effectiveBound bounded max_rows = effectiveBound stmt max_rows ∧
    applyRowBound S bounded max_rows = applyRowBound S stmt max_rows
  /-- The same for the tree of the emitted text. -/
  parsedAgain : ∀ parsed, Tree.Replaced .limit (fetchNode (effectiveBound stmt max_rows)) stmt parsed →
    effectiveBound parsed max_rows = effectiveBound stmt max_rows ∧
      ∃ rebounded, S.limit parsed (effectiveBound stmt max_rows) = .ok rebounded ∧
        Tree.Replaced .limit (limitNode (effectiveBound stmt max_rows)) stmt rebounded

theorem applyRowBound_ok {S : Sqlglot} {stmt bounded : Expression} {max_rows : Option Int}
    (limited : S.limit stmt (effectiveBound stmt max_rows) = .ok bounded) :
    applyRowBound S stmt max_rows = (S.sql bounded).map (fun text => (text, effectiveBound stmt max_rows)) := by
  simp only [applyRowBound, limited]
  cases S.sql bounded <;> rfl

/-- The row bound is in range and all that the wrap changes, and bounding is idempotent. -/
theorem row_bounded (S : Sqlglot) (library : LimitReplaces S) (stmt : Expression) (unsigned : Unsigned stmt)
    (max_rows : Option Int) : ∃ bounded, RowBounded S stmt max_rows bounded := by
  obtain ⟨bounded, limited, replaced⟩ := library.replaces stmt (effectiveBound stmt max_rows)
  have range := wrapBound_range max_rows
  obtain ⟨nonneg, below⟩ := effectiveBound_range unsigned max_rows
  have literal : IntLiteral (number (effectiveBound stmt max_rows)) (effectiveBound stmt max_rows) :=
    intLiteral_number nonneg (by omega)
  have sameBound : effectiveBound bounded max_rows = effectiveBound stmt max_rows :=
    effectiveBound_again (.limit replaced.child?_self rfl rfl literal)
  have limitedAgain : S.limit bounded (effectiveBound bounded max_rows) = .ok bounded := by
    rw [sameBound, library.again _ _ _ _ limited, limited]
  refine ⟨bounded, limited, applyRowBound_ok limited, nonneg, by omega, ?_, ?_, ?_, replaced.holds, replaced.rest,
    ⟨sameBound, ?_⟩, ?_⟩
  · rintro m rfl positive
    exact below.trans (wrapBound_le positive)
  · intro n bound
    rw [effectiveBound_literal bound]
    exact min_le_right _ _
  · intro nonzero
    by_cases literalBound : ∃ n, LiteralBound stmt n
    · obtain ⟨n, bound⟩ := literalBound
      have differs : n ≠ 0 := fun zero => nonzero (zero ▸ bound)
      have positive := bound.nonneg unsigned
      rw [effectiveBound_literal bound]
      omega
    · rw [effectiveBound_free fun n bound => literalBound ⟨n, bound⟩]
      exact range.1
  · rw [applyRowBound_ok limitedAgain, applyRowBound_ok limited, sameBound]
  · intro parsed fetched
    obtain ⟨rebounded, limited', replaced'⟩ := library.replaces parsed (effectiveBound stmt max_rows)
    exact ⟨effectiveBound_again (.fetch fetched.child?_self rfl rfl rfl literal), rebounded, limited', fetched.trans replaced'⟩

/-- Bounding a tree again by `Tree.put` forgets the first bound. -/
theorem sample_limitReplaces (texts : List (PyStr × Expression)) (printed : PyStr) :
    LimitReplaces (sampleSqlglot texts printed) where
  replaces stmt n := ⟨_, rfl, Tree.put_replaced _ _ _⟩
  again := by
    rintro stmt bounded n m limited
    obtain rfl := Except.ok.inj limited
    simp [sampleSqlglot, Tree.put, List.filter_append, List.filter_filter]

/-- `SELECT * FROM dual FETCH FIRST 7 ROWS ONLY`. -/
def fetchSeven : Expression := selectFrom (tableNamed "dual") [(.limit, fetchNode 7)]

theorem row_bounded_seven : ∃ bounded, RowBounded (sampleSqlglot [] []) fetchSeven (some 20) bounded := by
  refine row_bounded _ (sample_limitReplaces [] []) fetchSeven ?_ (some 20)
  unfold Unsigned
  decide

end OracleSchema.RowLimits
