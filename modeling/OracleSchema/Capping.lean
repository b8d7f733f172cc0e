import OracleSchema.Cuts
import OracleSchema.RowLimits

/-!
The row bound on the rows that a statement gives. The bound asks for no more rows than
the author's row count, so the emitted statement gives a prefix of the author's rows; the
percentage of a FETCH, or a count that is no integer literal, is replaced by the bound of
the wrap (`capped`).
-/
namespace OracleSchema.Capping
open OracleSchema.Strings OracleSchema.Errors OracleSchema.Trees OracleSchema.SqlTree OracleSchema.SqlGate
open OracleSchema.RowBound OracleSchema.RowLimits OracleSchema.Cuts

/-- The contents of a database, as far as the outer clauses of a statement need them. -/
structure Database (ρ : Type) where
  /-- The rows of a statement without OFFSET and outer limit, in their order. -/
  rows : Expression → List ρ
  /-- Rows that the ORDER BY of a statement does not separate. -/
  tied : Expression → ρ → ρ → Bool
  /-- The number that an expression gives, such as a bind variable. -/
  number : Expression → Rat

/-- The expression that says how many rows a limit clause asks for. -/
def countArg (existing : Expression) : Option Expression :=
  match nodeType existing with
  | .Fetch => existing.child? .count
  | _ => existing.child? .expression

section
variable {ρ : Type} (DB : Database ρ)

def numberOf (node : Expression) : Rat :=
  match literalInt? (some node) with
  | some n => n
  | none => DB.number node
/-- A number of rows, which leaves out a fraction. -/
def countOf (node : Expression) : Int :=
  match literalInt? (some node) with
  | some n => n
  | none => (DB.number node).floor

/-- The rows that OFFSET skips. -/
def skipped (stmt : Expression) : Nat :=
  match (stmt.child? .offset).bind (fun clause => clause.child? .expression) with
  | some node => (countOf DB node).toNat
  | none => 0

/-- The rows of the statement without its outer limit, after OFFSET. -/
def freeRows (stmt : Expression) : List ρ :=
  (DB.rows (Tree.without .offset (Tree.without .limit stmt))).drop (skipped DB (Tree.without .limit stmt))

/-- What the outer limit asks for; without a count that is one row. -/
def cutOf (stmt : Expression) : Cut :=
  match stmt.child? .limit with
  | none => .all
  | some existing =>
    let ties := (existing.child? .limit_options).any (truthy (.other "with_ties"))
    match countArg existing with
    | none => .rows 1 ties
    | some node => if isPercent existing then .percent (numberOf DB node) ties else .rows (countOf DB node) ties

/-- The rows of the statement. -/
def answer (stmt : Expression) : List ρ :=
  (cutOf DB stmt).apply (DB.tied (Tree.without .limit stmt)) (freeRows DB stmt)

/-- The emitted statement gives a prefix of the author's rows. -/
def Caps (S : Sqlglot) (stmt : Expression) (max_rows : Option Int) : Prop :=
  ∀ bounded, S.limit stmt (effectiveBound stmt max_rows) = .ok bounded → answer DB bounded <+: answer DB stmt
end

/-- The outer limit is a number of rows, as an integer literal. -/
def RowCount (stmt : Expression) : Prop :=
  ∃ existing n, stmt.child? .limit = some existing ∧ isPercent existing = false ∧ LiteralBound stmt n

/-- The outer limit is a FETCH of a percentage, or its count is no integer literal. -/
inductive Discarded (stmt : Expression) : Prop
  | percentage {existing : Expression} (holds : stmt.child? .limit = some existing) (isFetch : nodeType existing = .Fetch)
      (percent : isPercent existing = true)
  | computed {existing node : Expression} (holds : stmt.child? .limit = some existing)
      (clause : nodeType existing = .Fetch ∨ nodeType existing = .Limit) (counts : countArg existing = some node)
      (noLiteral : ∀ n, ¬ IntLiteral node n)

section
variable {ρ : Type} {DB : Database ρ} {stmt bounded : Expression} {n : Int}

theorem countOf_literal {node : Expression} (literal : IntLiteral node n) : countOf DB node = n := by
  simp only [countOf, literalInt?_iff.mpr ⟨node, rfl, literal⟩]

theorem LiteralBound.count (bound : LiteralBound stmt n) : ∃ existing node, stmt.child? .limit = some existing ∧
    countArg existing = some node ∧ IntLiteral node n := by
  cases bound with
  | @fetch existing node holds isFetch rows counts literal =>
    exact ⟨existing, node, holds, by rwa [countArg, isFetch], literal⟩
  | @limit existing node holds isLimit counts literal =>
    exact ⟨existing, node, holds, by rwa [countArg, isLimit], literal⟩

theorem cutOf_literal {existing : Expression} (holds : stmt.child? .limit = some existing)
    (rows : isPercent existing = false) (bound : LiteralBound stmt n) : ∃ ties, cutOf DB stmt = .rows n ties := by
  obtain ⟨existing', node, holds', counts, literal⟩ := LiteralBound.count bound
  cases holds.symm.trans holds'
  refine ⟨(existing.child? .limit_options).any (truthy (.other "with_ties")), ?_⟩
  simp only [cutOf, holds, counts, rows, countOf_literal literal, Bool.false_eq_true, if_false]

theorem Discarded.not_literal (discarded : Discarded stmt) (bound : LiteralBound stmt n) : False := by
  cases discarded with
  | percentage holds isFetch percent =>
    cases bound with
    | fetch holds' isFetch' rows counts literal =>
      cases holds.symm.trans holds'
      cases rows.symm.trans percent
    | limit holds' isLimit counts literal =>
      cases holds.symm.trans holds'
      cases isFetch.symm.trans isLimit
  | computed holds clause counts noLiteral =>
    obtain ⟨existing', node', holds', counts', literal⟩ := LiteralBound.count bound
    cases holds.symm.trans holds'
    cases counts.symm.trans counts'
    exact noLiteral n literal

/-- The emitted statement gives the first rows of the statement without its outer limit. -/
theorem answer_bounded (replaced : Tree.Replaced .limit (limitNode n) stmt bounded) (nonneg : 0 ≤ n) (small : n ≤ 500) :
    answer DB bounded = (freeRows DB stmt).take n.toNat := by
  have cut : cutOf DB bounded = .rows n false := by
    simp only [cutOf, replaced.child?_self]
    show Cut.rows (countOf DB (number n)) false = _
    rw [countOf_literal (intLiteral_number nonneg small)]
  have sameRows : freeRows DB bounded = freeRows DB stmt := by
    rw [freeRows, freeRows, replaced.rest]
  rw [answer, cut, apply_rows, sameRows]
end

/-- Without an outer limit, or with a literal row count, the emitted statement gives a
    prefix of the author's rows; the percentage of a FETCH and any other count are replaced. -/
theorem capped {ρ : Type} (S : Sqlglot) (library : LimitReplaces S) (DB : Database ρ) (stmt : Expression)
    (unsigned : Unsigned stmt) (max_rows : Option Int) :
    ((stmt.child? .limit = none ∨ RowCount stmt) → Caps DB S stmt max_rows) ∧
      (Discarded stmt → ∃ bounded, S.limit stmt (effectiveBound stmt max_rows) = .ok bounded ∧
        answer DB bounded = (freeRows DB stmt).take (wrapBound max_rows).toNat) := by
  obtain ⟨bounded, limited, replaced⟩ := library.replaces stmt (effectiveBound stmt max_rows)
  obtain ⟨nonneg, below⟩ := effectiveBound_range unsigned max_rows
  have range := wrapBound_range max_rows
  have emitted : answer DB bounded = (freeRows DB stmt).take (effectiveBound stmt max_rows).toNat :=
    answer_bounded replaced nonneg (by omega)
  constructor
  · intro clause bounded' limited'
    obtain rfl := Except.ok.inj (limited.symm.trans limited')
    rw [emitted, answer]
    rcases clause with absent | ⟨existing, n, holds, rows, bound⟩
    · have cut : cutOf DB stmt = .all := by simp only [cutOf, absent]
      rw [cut, apply_all]
      exact List.take_prefix _ _
    · obtain ⟨ties, cut⟩ : ∃ ties, cutOf DB stmt = .rows n ties := cutOf_literal holds rows bound
      apply take_prefix_apply
      have least : effectiveBound stmt max_rows ≤ n := by
        rw [effectiveBound_literal bound]
        exact min_le_right _ _
      rw [cut, Cut.size]
      exact Int.toNat_le_toNat least
  · intro discarded
    have wrap : effectiveBound stmt max_rows = wrapBound max_rows :=
      effectiveBound_free (fun n bound => discarded.not_literal bound) max_rows
    exact ⟨bounded, limited, by rw [emitted, wrap]⟩

/-- `SELECT * FROM staff FETCH FIRST 10 PERCENT ROWS ONLY`. -/
def fetchShare : Expression :=
  selectFrom (tableNamed "staff") [(.limit, .node ⟨.Fetch, [(.other "direction", .str (lit "FIRST"))]⟩
    [(.count, number 10), (.limit_options, .node ⟨.LimitOptions, [(.percent, .bool true), (.other "rows", .bool true)]⟩ [])])]

/-- Ten rows, for any statement. -/
def tenRows : Database Nat := ⟨fun _ => List.range 10, fun _ _ _ => false, fun _ => 0⟩

theorem capped_share :
    (Caps tenRows (sampleSqlglot [] []) fetchSeven none) ∧
      ∃ bounded, (sampleSqlglot [] []).limit fetchShare (effectiveBound fetchShare none) = .ok bounded ∧
        answer tenRows bounded = (freeRows tenRows fetchShare).take (wrapBound none).toNat := by
  have seven : RowCount fetchSeven :=
    ⟨fetchNode 7, 7, rfl, rfl, .fetch rfl rfl rfl rfl (intLiteral_number (by decide) (by decide))⟩
  have unsigned : Unsigned fetchSeven ∧ Unsigned fetchShare := by
    unfold Unsigned
    decide
  have library := sample_limitReplaces [] []
  exact ⟨(capped _ library tenRows fetchSeven unsigned.1 none).1 (.inr seven),
    (capped _ library tenRows fetchShare unsigned.2 none).2 (.percentage rfl rfl rfl)⟩

/-- The author's bound keeps one of the ten rows, the emitted statement all ten. -/
theorem fetchShare_raised : PlainSelect fetchShare ∧ ¬ Caps tenRows (sampleSqlglot [] []) fetchShare none := by
  refine ⟨⟨rfl, by decide, by decide, by decide⟩, fun caps => ?_⟩
  have longer := (caps _ rfl).length_le
  revert longer
  decide +kernel

end OracleSchema.Capping
