import Mathlib.Algebra.Order.Ring.Int
import Mathlib.Data.Nat.Digits.Defs
import OracleSchema.Json

/-!
Decimal numerals: `int` reads back what `str` writes (`pyInt_intText`), and a text
that begins with a digit is never read as a negative number.
-/
namespace OracleSchema.Numerals
open OracleSchema.Casing OracleSchema.Strings OracleSchema.Json

/-- The decimal digits of a natural number. -/
def natText (n : Nat) : PyStr := (Nat.toDigits 10 n).map (fun c => Fin.ofNat _ c.toNat)

theorem intText_eq (n : Int) : intText n = if n < 0 then 45 :: natText n.natAbs else natText n.natAbs := rfl

/-- The number that decimal digits stand for. -/
def value (digits : PyStr) : Nat := digits.foldl (fun n c => 10 * n + (c.val - 48)) 0

/-! ### Digits -/

theorem isDigit_iff {c : CodePoint} : isDigit c = true ↔ 48 ≤ c.val ∧ c.val ≤ 57 := by
  simp [isDigit]

theorem val_ofNat_digit {c : Char} (digit : c.isDigit = true) : (Fin.ofNat 0x110000 c.toNat).val = c.toNat := by
  rw [Fin.val_ofNat]
  have bounds : 48 ≤ c.toNat ∧ c.toNat ≤ 57 := by
    simpa [Char.isDigit, UInt32.le_iff_toNat_le] using digit
  omega

theorem isDigit_natText {n : Nat} : ∀ c ∈ natText n, isDigit c = true := by
  intro c member
  obtain ⟨d, inDigits, rfl⟩ := List.mem_map.mp member
  have digit : d.isDigit = true := Nat.isDigit_of_mem_toDigits (by decide) (by decide) inDigits
  have bounds : 48 ≤ d.toNat ∧ d.toNat ≤ 57 := by
    simpa [Char.isDigit, UInt32.le_iff_toNat_le] using digit
  rw [isDigit_iff, val_ofNat_digit digit]
  exact bounds

theorem natText_ne_nil (n : Nat) : natText n ≠ [] := by
  simp [natText, Nat.toDigits_ne_nil]

theorem isDigits_natText (n : Nat) : isDigits (natText n) = true := by
  simp only [isDigits, decide_eq_true_eq]
  exact ⟨natText_ne_nil n, List.all_eq_true.mpr isDigit_natText⟩

theorem length_natText (n : Nat) : (natText n).length = (Nat.toDigits 10 n).length := by
  simp [natText]

/-- The digits of a number stand for the number. -/
theorem value_natText (n : Nat) : value (natText n) = n := by
  calc value (natText n) = (Nat.toDigits 10 n).foldl (fun sofar c => 10 * sofar + (c.toNat - 48)) 0 := by
        rw [value, natText, List.foldl_map]
        refine List.foldl_ext _ _ _ fun sofar c inDigits => ?_
        rw [val_ofNat_digit (Nat.isDigit_of_mem_toDigits (by decide) (by decide) inDigits)]
    _ = Nat.ofDigitChars 10 (Nat.toDigits 10 n) 0 := rfl
    _ = n := Nat.ofDigitChars_ten_toDigits

/-- Only the number zero has a leading zero. -/
theorem head_toDigits {n : Nat} (positive : 0 < n) : (Nat.toDigits 10 n).head? ≠ some '0' := by
  induction n using Nat.strong_induction_on with
  | _ n ih =>
    by_cases small : n < 10
    · rw [Nat.toDigits_of_lt_base small]
      have nonzero : ∀ m < 10, 0 < m → [Nat.digitChar m].head? ≠ some '0' := by decide
      exact nonzero n small positive
    · rw [Nat.toDigits_of_base_le (by decide) (by omega), List.head?_append]
      have front := ih (n / 10) (by omega) (by omega)
      cases found : (Nat.toDigits 10 (n / 10)).head? with
      | none => exact absurd (List.head?_eq_none_iff.mp found) Nat.toDigits_ne_nil
      | some c => simpa [found] using front

theorem isWhole_natText (n : Nat) : isWhole (natText n) = true := by
  simp only [isWhole, decide_eq_true_eq]
  refine ⟨isDigits_natText n, ?_⟩
  by_cases zero : n = 0
  · subst zero
    exact .inl (by decide)
  · right
    have front := head_toDigits (Nat.pos_of_ne_zero zero)
    cases digits : Nat.toDigits 10 n with
    | nil => exact absurd digits Nat.toDigits_ne_nil
    | cons c rest =>
      rw [digits] at front
      have digit : c.isDigit = true :=
        Nat.isDigit_of_mem_toDigits (show 0 < 10 by decide) (by decide) (digits ▸ List.mem_cons_self)
      simp only [natText, digits, List.map_cons, List.head?_cons, ne_eq, Option.some.injEq] at front ⊢
      intro same
      have code : c.toNat = 48 := by rw [← val_ofNat_digit digit, same]; rfl
      exact front (Char.ext (UInt32.toNat_inj.mp code))

/-! ### `int` -/

theorem digit?_of_isDigit {c : CodePoint} (digit : isDigit c = true) : digit? c = some (c.val - 48) := by
  obtain ⟨above, below⟩ := isDigit_iff.mp digit
  have first : digitZeros.find? (fun start => start ≤ c.val ∧ c.val < start + 10) = some 48 := by
    have here : (48 ≤ c.val ∧ c.val < 48 + 10) := by omega
    simp [digitZeros, here]
  rw [digit?, first]
  rfl

theorem isIntSpace_digit {c : CodePoint} (digit : isDigit c = true) : isIntSpace c = false := by
  obtain ⟨above, below⟩ := isDigit_iff.mp digit
  have solid : isSpace c = false := by
    simp only [isSpace, decide_eq_false_iff_not]
    omega
  rw [isIntSpace, solid, Bool.false_and]

theorem trim_eq_self {p : CodePoint → Bool} {s : PyStr} (solid : ∀ c ∈ s, p c = false) :
    (s.dropWhile p).rdropWhile p = s := by
  have front : s.dropWhile p = s := by
    cases s with
    | nil => rfl
    | cons c rest => simp [solid c List.mem_cons_self]
  rw [front, List.rdropWhile_eq_self_iff]
  intro some
  simp [solid _ (List.getLast_mem some)]

theorem mapM_digit? {digits : PyStr} (all : ∀ c ∈ digits, isDigit c = true) :
    digits.mapM digit? = some (digits.map (fun c => c.val - 48)) := by
  induction digits with
  | nil => rfl
  | cons c rest ih =>
    rw [List.mapM_cons, digit?_of_isDigit (all c List.mem_cons_self), ih fun d member => all d (List.mem_cons_of_mem _ member)]
    rfl

theorem splitOn_digits {digits : PyStr} (all : ∀ c ∈ digits, isDigit c = true) : digits.splitOn 95 = [digits] := by
  refine List.splitOn_eq_singleton fun member => ?_
  exact absurd (all 95 member) (by decide)

theorem cast_all (ds : List Nat) : (do let d ← ds; pure (d : Int) : List Int) = List.map (Nat.cast : Nat → Int) ds := by
  simp only [List.bind_eq_flatMap, List.pure_def, List.map_eq_flatMap]

theorem foldl_value (digits : PyStr) :
    (List.map (Nat.cast : Nat → Int) (digits.map (fun c => c.val - 48))).foldl (fun (n d : Int) => 10 * n + d) (0 : Int) =
      (value digits : Int) := by
  have step : ∀ start : Nat, (List.map (Nat.cast : Nat → Int) (digits.map (fun c => c.val - 48))).foldl
      (fun (n d : Int) => 10 * n + d) (start : Int) = ((digits.foldl (fun n c => 10 * n + (c.val - 48)) start : Nat) : Int) := by
    induction digits with
    | nil => exact fun start => rfl
    | cons c rest ih =>
      intro start
      simp only [List.map_cons, List.foldl_cons]
      rw [← ih]
      push_cast
      rfl
  exact step 0

theorem foldl_nonneg (ds : List Nat) (start : Int) (nonneg : 0 ≤ start) :
    0 ≤ (List.map (Nat.cast : Nat → Int) ds).foldl (fun n d => 10 * n + d) start := by
  induction ds generalizing start with
  | nil => exact nonneg
  | cons d rest ih =>
    have next : 0 ≤ 10 * start + (d : Int) := by omega
    exact ih _ next

theorem intLiteral_digits {digits : PyStr} (isNumber : isDigits digits = true) :
    intLiteral digits = some (false, digits.map (fun c => c.val - 48)) := by
  simp only [isDigits, decide_eq_true_eq] at isNumber
  have all := List.all_eq_true.mp isNumber.2
  have solid := trim_eq_self fun c member => isIntSpace_digit (all c member)
  cases digits with
  | nil => exact absurd rfl isNumber.1
  | cons c rest =>
    obtain ⟨above, below⟩ := isDigit_iff.mp (all c List.mem_cons_self)
    have notMinus : c ≠ 45 := by rintro rfl; exact absurd above (by decide)
    have notPlus : c ≠ 43 := by rintro rfl; exact absurd above (by decide)
    unfold intLiteral
    rw [solid]
    split
    rename_i negative body signed
    split at signed
    · rename_i same; exact absurd (List.cons.inj same).1 notMinus
    · rename_i same; exact absurd (List.cons.inj same).1 notPlus
    · obtain ⟨rfl, rfl⟩ := Prod.mk.inj signed
      simp only [splitOn_digits all, List.flatten_singleton, mapM_digit? all, List.mem_singleton, if_false, reduceCtorEq,
        Option.map_some]

theorem intLiteral_minus {digits : PyStr} (isNumber : isDigits digits = true) :
    intLiteral (45 :: digits) = some (true, digits.map (fun c => c.val - 48)) := by
  simp only [isDigits, decide_eq_true_eq] at isNumber
  have all := List.all_eq_true.mp isNumber.2
  have solid : ((45 :: digits).dropWhile isIntSpace).rdropWhile isIntSpace = 45 :: digits := by
    refine trim_eq_self fun c member => ?_
    rcases List.mem_cons.mp member with rfl | inDigits
    · decide
    · exact isIntSpace_digit (all c inDigits)
  have some : [] ≠ digits := Ne.symm isNumber.1
  simp only [intLiteral, solid, splitOn_digits all, List.flatten_singleton, mapM_digit? all, List.mem_singleton, some, if_false,
    Option.map_some]

/-- `int` of digits. -/
theorem pyInt_digits_eq {digits : PyStr} (isNumber : isDigits digits = true) :
    pyInt digits = if 4300 < digits.length then none else some (value digits : Int) := by
  have total := foldl_value digits
  simp only [pyInt, intLiteral_digits isNumber, List.length_map, cast_all, total, if_false, Bool.false_eq_true]

/-- `int` of a minus sign and digits. -/
theorem pyInt_minus_eq {digits : PyStr} (isNumber : isDigits digits = true) :
    pyInt (45 :: digits) = if 4300 < digits.length then none else some (-(value digits : Int)) := by
  have total := foldl_value digits
  simp only [pyInt, intLiteral_minus isNumber, List.length_map, cast_all, total, if_true]

/-- `int` of digits, at most 4300 of them. -/
theorem pyInt_digits {digits : PyStr} (isNumber : isDigits digits = true) (short : digits.length ≤ 4300) :
    pyInt digits = some (value digits : Int) := by
  rw [pyInt_digits_eq isNumber, if_neg (not_lt.mpr short)]

theorem pyInt_minus {digits : PyStr} (isNumber : isDigits digits = true) (short : digits.length ≤ 4300) :
    pyInt (45 :: digits) = some (-(value digits : Int)) := by
  rw [pyInt_minus_eq isNumber, if_neg (not_lt.mpr short)]

/-- `int` reads back what `str` writes, up to 4300 digits. -/
theorem pyInt_intText {n : Int} (short : (Nat.toDigits 10 n.natAbs).length ≤ 4300) : pyInt (intText n) = some n := by
  rw [← length_natText] at short
  rw [intText_eq]
  split_ifs with negative
  · rw [pyInt_minus (isDigits_natText _) short, value_natText]
    congr 1
    omega
  · rw [pyInt_digits (isDigits_natText _) short, value_natText]
    congr 1
    omega

theorem isSpace_of_isIntSpace {c : CodePoint} (space : isIntSpace c = true) : isSpace c = true := (Bool.and_eq_true_iff.mp space).1

theorem head?_trim {p : CodePoint → Bool} {s : PyStr} {c : CodePoint} (first : ((s.dropWhile p).rdropWhile p).head? = some c) :
    (s.dropWhile p).head? = some c := by
  obtain ⟨rest, split⟩ := List.rdropWhile_prefix p (l := s.dropWhile p)
  rw [← split, List.head?_append, first]
  rfl

/-- A minus sign that `int` reads first is first in the stripped text. -/
theorem strip_head?_minus {s : PyStr} (first : ((s.dropWhile isIntSpace).rdropWhile isIntSpace).head? = some 45) :
    (strip s).head? = some 45 := by
  have front : (s.dropWhile isSpace).head? = some 45 := by
    have front := head?_trim first
    induction s with
    | nil => cases front
    | cons c rest ih =>
      by_cases skipped : isIntSpace c = true
      · rw [List.dropWhile_cons_of_pos skipped] at first front
        rw [List.dropWhile_cons_of_pos (isSpace_of_isIntSpace skipped)]
        exact ih first front
      · rw [List.dropWhile_cons_of_neg skipped] at front
        obtain rfl := Option.some.inj front
        rfl
  obtain ⟨tail, split⟩ := List.rdropWhile_prefix isSpace (l := s.dropWhile isSpace)
  have kept : strip s ≠ [] := by
    intro empty
    have blank := List.rdropWhile_eq_nil_iff.mp empty 45 (List.mem_of_mem_head? front)
    exact absurd blank (by decide)
  rw [← split] at front
  exact (List.head?_append_of_ne_nil _ kept).symm.trans front

/-- A text that does not begin with a minus sign is not read as a negative number. -/
theorem pyInt_unsigned {s : PyStr} {n : Int} (unsigned : (strip s).head? ≠ some 45) (read : pyInt s = some n) : 0 ≤ n := by
  unfold pyInt at read
  split at read
  · cases read
  · rename_i negative digits literal
    have positive : negative = false := by
      unfold intLiteral at literal
      split at literal
      rename_i sign body signed
      dsimp only at literal
      split_ifs at literal
      obtain ⟨ds, _, same⟩ := Option.map_eq_some_iff.mp literal
      obtain ⟨rfl, _⟩ := Prod.mk.inj same
      split at signed
      · rename_i trimmed
        exact absurd (strip_head?_minus (by rw [trimmed]; rfl)) unsigned
      · exact (Prod.mk.inj signed).1.symm
      · exact (Prod.mk.inj signed).1.symm
    simp only [positive, cast_all, Bool.false_eq_true, if_false] at read
    split_ifs at read
    obtain rfl := Option.some.inj read
    exact foldl_nonneg _ _ le_rfl

/-! ### The number of digits that `int` takes -/

theorem digit?_lt {c : CodePoint} {d : Nat} (digit : digit? c = some d) : d < 10 := by
  obtain ⟨start, found, rfl⟩ := Option.map_eq_some_iff.mp digit
  have range := List.find?_some found
  simp only [decide_eq_true_eq] at range
  omega

theorem digits_lt {s : PyStr} {ds : List Nat} (every : s.mapM digit? = some ds) : ∀ d ∈ ds, d < 10 := by
  induction s generalizing ds with
  | nil =>
    obtain rfl := Option.some.inj every
    simp
  | cons c rest ih =>
    rw [List.mapM_cons] at every
    obtain ⟨d, digit, every⟩ := Option.bind_eq_some_iff.mp every
    obtain ⟨more, others, same⟩ := Option.bind_eq_some_iff.mp every
    obtain rfl := Option.some.inj same
    exact List.forall_mem_cons.mpr ⟨digit?_lt digit, ih others⟩

/-- A number written with so many digits is below that power of ten. -/
theorem foldl_lt (ds : List Nat) (small : ∀ d ∈ ds, d < 10) (start : Int) :
    (List.map (Nat.cast : Nat → Int) ds).foldl (fun n d => 10 * n + d) start < (start + 1) * 10 ^ ds.length := by
  induction ds generalizing start with
  | nil => simp
  | cons d rest ih =>
    have digit := small d List.mem_cons_self
    have power : (0 : Int) ≤ 10 ^ rest.length := pow_nonneg (by decide) _
    calc _ < (10 * start + (d : Int) + 1) * 10 ^ rest.length := ih (fun e member => small e (List.mem_cons_of_mem _ member)) _
      _ ≤ ((start + 1) * 10) * 10 ^ rest.length := Int.mul_le_mul_of_nonneg_right (by omega) power
      _ = (start + 1) * 10 ^ (d :: rest).length := by rw [List.length_cons, pow_succ', mul_assoc]

theorem intLiteral_lt {s : PyStr} {negative : Bool} {digits : List Nat} (literal : intLiteral s = some (negative, digits)) :
    ∀ d ∈ digits, d < 10 := by
  unfold intLiteral at literal
  split at literal
  dsimp only at literal
  split_ifs at literal
  obtain ⟨ds, every, same⟩ := Option.map_eq_some_iff.mp literal
  obtain ⟨_, rfl⟩ := Prod.mk.inj same
  exact digits_lt every

/-- The number that `int` reads, from its digits. -/
theorem pyInt_read {s : PyStr} {n : Int} (read : pyInt s = some n) : ∃ ds : List Nat, (∀ d ∈ ds, d < 10) ∧ ds.length ≤ 4300 ∧
    n.natAbs = ((List.map (Nat.cast : Nat → Int) ds).foldl (fun n d => 10 * n + d) 0).natAbs := by
  unfold pyInt at read
  split at read
  · cases read
  · rename_i negative digits literal
    simp only [cast_all] at read
    split_ifs at read with long minus
    all_goals
      refine ⟨digits, intLiteral_lt literal, not_lt.mp long, ?_⟩
      obtain rfl := Option.some.inj read
      first | exact Int.natAbs_neg _ | rfl

/-- What `int` reads has at most 4300 digits. -/
theorem pyInt_short {s : PyStr} {n : Int} (read : pyInt s = some n) : (Nat.toDigits 10 n.natAbs).length ≤ 4300 := by
  obtain ⟨ds, small, short, same⟩ := pyInt_read read
  have below : n.natAbs < 10 ^ ds.length := by
    have above := foldl_nonneg ds 0 le_rfl
    have bound := foldl_lt ds small 0
    rw [zero_add, one_mul] at bound
    rw [same, ← Int.ofNat_lt, Int.natAbs_of_nonneg above]
    exact_mod_cast bound
  cases ds with
  | nil =>
    rw [List.length_nil, pow_zero, Nat.lt_one_iff] at below
    rw [below]
    decide
  | cons d rest => exact (Nat.toDigits_length 10 _ _ (Nat.succ_pos _) below).trans short

end OracleSchema.Numerals
