import Mathlib.Data.List.Basic
import Mathlib.Data.List.TakeWhile
import Mathlib.Data.Rat.Defs
import Mathlib.Order.Lattice
import Mathlib.Tactic.Common

/-!
Row limits on a list of rows in a fixed order: a number of rows or a percentage, with
or without the rows that tie with the last one. A cut keeps a prefix of the rows
(`apply_prefix`), and the prefixes of a list are ordered by their lengths, so that a
smaller number of rows is a prefix of a larger one, ties or not (`take_prefix_apply`).
-/
namespace OracleSchema.Cuts
universe u
variable {α : Type u}

inductive Cut
  | all
  | rows (count : Int) (ties : Bool)
  | percent (share : Rat) (ties : Bool)

/-- The number of rows that a cut asks for, of so many. -/
def Cut.size (total : Nat) : Cut → Nat
  | .all => total
  | .rows count _ => count.toNat
  | .percent share _ => (share * total / 100).ceil.toNat

def Cut.ties : Cut → Bool
  | .all => false
  | .rows _ ties => ties
  | .percent _ ties => ties

/-- The rows after the first ones that tie with the last of these. -/
def tail (tied : α → α → Bool) (front back : List α) : List α :=
  match front.getLast? with
  | none => []
  | some last => back.takeWhile (tied last)

/-- The rows that a cut keeps. -/
def Cut.apply (tied : α → α → Bool) (cut : Cut) (xs : List α) : List α :=
  let n := cut.size xs.length
  xs.take n ++ if cut.ties then tail tied (xs.take n) (xs.drop n) else []

theorem tail_prefix (tied : α → α → Bool) (front back : List α) : tail tied front back <+: back := by
  unfold tail
  cases front.getLast? with
  | none => exact List.nil_prefix
  | some last => exact List.takeWhile_prefix _

theorem apply_prefix (tied : α → α → Bool) (cut : Cut) (xs : List α) : cut.apply tied xs <+: xs := by
  have extra : (if cut.ties then tail tied (xs.take (cut.size xs.length)) (xs.drop (cut.size xs.length)) else []) <+:
      xs.drop (cut.size xs.length) := by
    split_ifs
    · exact tail_prefix _ _ _
    · exact List.nil_prefix
  have whole : xs.take (cut.size xs.length) ++ xs.drop (cut.size xs.length) = xs := List.take_append_drop _ _
  calc cut.apply tied xs <+: xs.take (cut.size xs.length) ++ xs.drop (cut.size xs.length) :=
        (List.prefix_append_right_inj _).mpr extra
    _ = xs := whole

/-- No cut drops a row that is among as many rows as it asks for. -/
theorem take_prefix_apply {n : Nat} {cut : Cut} {xs : List α} (fewer : n ≤ cut.size xs.length) (tied : α → α → Bool) :
    xs.take n <+: cut.apply tied xs := by
  have fewerRows : xs.take n <+: xs.take (cut.size xs.length) := by
    rw [List.prefix_take_iff]
    exact ⟨List.take_prefix _ _, (List.length_take_le _ _).trans fewer⟩
  exact fewerRows.trans (List.prefix_append _ _)

theorem apply_rows (tied : α → α → Bool) (count : Int) (xs : List α) :
    (Cut.rows count false).apply tied xs = xs.take count.toNat := by
  simp [Cut.apply, Cut.size, Cut.ties]

theorem apply_all (tied : α → α → Bool) (xs : List α) : Cut.all.apply tied xs = xs := by
  simp [Cut.apply, Cut.size, Cut.ties]

end OracleSchema.Cuts
