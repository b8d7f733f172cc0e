import Mathlib.Data.Finset.Sort
import Mathlib.Data.List.DropRight
import Mathlib.Data.List.Lex
import OracleSchema.Casing
import OracleSchema.Joined

/-!
Python strings as lists of code points, lone surrogates included, and the
methods that the program calls on them.
-/
namespace OracleSchema.Strings
open OracleSchema.Casing OracleSchema.Joined

abbrev PyStr := List CodePoint
abbrev Bytes := List UInt8

instance lawfulPyStr : LawfulBEq PyStr := List.instLawfulBEq

/-- The Python string of a Lean literal. -/
def lit (s : String) : PyStr := s.toList.map (fun c => Fin.ofNat _ c.toNat)

/-- Rewriting with this turns a literal into its characters without decoding UTF-8. -/
theorem lit_ofList (cs : List Char) : lit (String.ofList cs) = cs.map (fun c => Fin.ofNat _ c.toNat) := by
  rw [lit, String.toList_ofList]

/-- `str.upper`. -/
def upper (s : PyStr) : PyStr := s.flatMap upperChar

@[simp] theorem upper_nil : upper [] = [] := rfl
@[simp] theorem upper_eq_nil {s : PyStr} : upper s = [] ↔ s = [] := by
  cases s with
  | nil => simp
  | cons c s => simp [upper, upperChar_ne_nil]

private theorem forms_high : ∀ run ∈ forms, 44 < run.2.2.2 := by decide +kernel

/-- Upper-casing makes no comma. -/
theorem comma_mem_upper {s : PyStr} (member : 44 ∈ upper s) : 44 ∈ s := by
  obtain ⟨c, inText, made⟩ := List.mem_flatMap.mp member
  rcases mem_upperChar made with ⟨rfl, _⟩ | capital | ⟨run, inForms, j, _, same⟩
  · exact inText
  · exact absurd capital (by decide)
  · have high := forms_high run inForms
    change 44 = _ at same
    omega

/-- `sorted` of a set of strings. -/
def sorted (s : Finset PyStr) : List PyStr := s.sort

@[simp] theorem mem_sorted {s : Finset PyStr} {a : PyStr} : a ∈ sorted s ↔ a ∈ s := Finset.mem_sort _
@[simp] theorem sorted_eq_nil {s : Finset PyStr} : sorted s = [] ↔ s = ∅ := by
  rw [sorted, ← List.toFinset_eq_empty_iff, Finset.sort_toFinset]

theorem toFinset_sorted (s : Finset PyStr) : (sorted s).toFinset = s := Finset.sort_toFinset _ _

/-- `str.isspace` on one code point. -/
def isSpace (c : CodePoint) : Bool :=
  (9 ≤ c.val ∧ c.val ≤ 13) ∨ (28 ≤ c.val ∧ c.val ≤ 32) ∨ c.val = 0x85 ∨ c.val = 0xA0 ∨ c.val = 0x1680 ∨
    (0x2000 ≤ c.val ∧ c.val ≤ 0x200A) ∨ c.val = 0x2028 ∨ c.val = 0x2029 ∨ c.val = 0x202F ∨
    c.val = 0x205F ∨ c.val = 0x3000

/-- `str.strip` without arguments. -/
def strip (s : PyStr) : PyStr := (s.dropWhile isSpace).rdropWhile isSpace

theorem mem_of_mem_strip {s : PyStr} {c : CodePoint} (member : c ∈ strip s) : c ∈ s :=
  (List.dropWhile_suffix isSpace).mem ((List.rdropWhile_prefix isSpace (s.dropWhile isSpace)).mem member)

/-- The code points of white space. -/
def spaces : List Nat :=
  [9, 10, 11, 12, 13, 28, 29, 30, 31, 32, 0x85, 0xA0, 0x1680, 0x2000, 0x2001, 0x2002, 0x2003, 0x2004, 0x2005, 0x2006,
    0x2007, 0x2008, 0x2009, 0x200A, 0x2028, 0x2029, 0x202F, 0x205F, 0x3000]

theorem mem_spaces {c : CodePoint} (space : isSpace c = true) : c.val ∈ spaces := by
  simp only [isSpace, decide_eq_true_eq] at space
  simp only [spaces, List.mem_cons, List.not_mem_nil, or_false]
  omega

private theorem forms_solid : (forms.all fun run => spaces.all fun space => apart run (space, 1, 1, 0)) = true := by
  decide +kernel

/-- Upper-casing makes no white space. -/
theorem isSpace_upperChar {c d : CodePoint} (solid : isSpace c = false) (member : d ∈ upperChar c) : isSpace d = false := by
  rcases mem_upperChar member with ⟨rfl, _⟩ | capital | ⟨run, inForms, j, inRun, same⟩
  · exact solid
  · simp only [isSpace, decide_eq_false_iff_not]
    omega
  · rw [Bool.eq_false_iff]
    intro space
    have separate := List.all_eq_true.mp (List.all_eq_true.mp forms_solid run inForms) _ (mem_spaces space)
    have differs := ne_of_apart (i := 0) separate inRun Nat.one_pos
    simp only [Nat.zero_mul, Nat.add_zero] at differs
    exact differs same.symm

theorem upper_upper (s : PyStr) : upper (upper s) = upper s := by
  unfold upper
  rw [List.flatMap_assoc]
  refine List.flatMap_congr fun c _ => ?_
  calc (upperChar c).flatMap upperChar = (upperChar c).flatMap (fun d => [d]) :=
        List.flatMap_congr fun d member => upperChar_upperChar member
    _ = upperChar c := List.flatMap_singleton' _

/-- The text has no white space at its ends. -/
def SolidEnds (s : PyStr) : Prop :=
  (∀ c, s.head? = some c → isSpace c = false) ∧ ∀ c, s.getLast? = some c → isSpace c = false

theorem dropWhile_eq_self {s : PyStr} (solid : ∀ c, s.head? = some c → isSpace c = false) : s.dropWhile isSpace = s := by
  cases s with
  | nil => rfl
  | cons c rest => rw [List.dropWhile_cons_of_neg (by simp [solid c rfl])]

theorem strip_of_solidEnds {s : PyStr} (solid : SolidEnds s) : strip s = s := by
  rw [strip, dropWhile_eq_self solid.1, List.rdropWhile_eq_self_iff]
  intro some
  simp [solid.2 _ (List.getLast?_eq_some_getLast some)]

theorem solidEnds_strip (s : PyStr) : SolidEnds (strip s) := by
  constructor
  · intro c first
    have front : (s.dropWhile isSpace).head? = some c := by
      obtain ⟨rest, split⟩ := List.rdropWhile_prefix isSpace (l := s.dropWhile isSpace)
      rw [← split, List.head?_append]
      simp only [strip] at first
      rw [first]
      rfl
    have solid := List.head?_dropWhile_not isSpace s
    rw [front] at solid
    simpa using solid
  · intro c last
    have given : strip s ≠ [] := by
      rintro empty
      rw [empty] at last
      cases last
    have solid := List.rdropWhile_last_not isSpace (s.dropWhile isSpace) given
    rw [List.getLast?_eq_some_getLast given] at last
    rw [← Option.some.inj last]
    exact Bool.eq_false_iff.mpr solid

theorem strip_eq_self_iff {s : PyStr} : strip s = s ↔ SolidEnds s :=
  ⟨fun stripped => stripped ▸ solidEnds_strip s, strip_of_solidEnds⟩

@[simp] theorem strip_strip (s : PyStr) : strip (strip s) = strip s := strip_of_solidEnds (solidEnds_strip s)

theorem solidEnds_upper {s : PyStr} (solid : SolidEnds s) : SolidEnds (upper s) := by
  constructor
  · intro d first
    cases s with
    | nil => cases first
    | cons c rest =>
      refine isSpace_upperChar (solid.1 c rfl) (List.mem_of_mem_head? ?_)
      rw [upper, List.flatMap_cons, List.head?_append_of_ne_nil _ (upperChar_ne_nil c)] at first
      exact first
  · intro d last
    rcases List.eq_nil_or_concat' s with rfl | ⟨rest, c, rfl⟩
    · cases last
    · refine isSpace_upperChar (solid.2 c (by simp)) (List.mem_of_mem_getLast? ?_)
      rw [upper, List.flatMap_append, List.flatMap_singleton, List.getLast?_append_of_ne_nil _ (upperChar_ne_nil c)] at last
      exact last

/-- Normalizing twice is normalizing once. -/
theorem upper_strip_normal (s : PyStr) : upper (strip (upper (strip s))) = upper (strip s) := by
  rw [strip_of_solidEnds (solidEnds_upper (solidEnds_strip s)), upper_upper]

/-- `bytes.strip` without arguments. -/
def stripBytes (b : Bytes) : Bytes :=
  let isSpaceByte : UInt8 → Bool := fun c => (9 ≤ c ∧ c ≤ 13) ∨ c = 32
  (b.dropWhile isSpaceByte).rdropWhile isSpaceByte

/-- `str.split(",")`. -/
def splitComma (s : PyStr) : List PyStr := s.splitOn 44

def isSurrogate (c : CodePoint) : Bool := 0xD800 ≤ c.val ∧ c.val ≤ 0xDFFF

/-- The UTF-8 bytes of one code point, which a surrogate does not have. -/
def utf8Char (c : CodePoint) : Option Bytes :=
  let n := c.val
  if n < 0x80 then some [n.toUInt8]
  else if n < 0x800 then some [(0xC0 + n / 0x40).toUInt8, (0x80 + n % 0x40).toUInt8]
  else if isSurrogate c then none
  else if n < 0x10000 then
    some [(0xE0 + n / 0x1000).toUInt8, (0x80 + n / 0x40 % 0x40).toUInt8, (0x80 + n % 0x40).toUInt8]
  else
    some [(0xF0 + n / 0x40000).toUInt8, (0x80 + n / 0x1000 % 0x40).toUInt8, (0x80 + n / 0x40 % 0x40).toUInt8,
      (0x80 + n % 0x40).toUInt8]

/-- The UTF-8 bytes of a string, if it holds no surrogate. -/
def utf8 (s : PyStr) : Option Bytes := (s.mapM utf8Char).map List.flatten

/-- `str(n)` for an integer. -/
def intText (n : Int) : PyStr :=
  let digits := (Nat.toDigits 10 n.natAbs).map (fun c => Fin.ofNat _ c.toNat)
  if n < 0 then 45 :: digits else digits

def hexDigit (n : Nat) : CodePoint := Fin.ofNat _ (if n < 10 then 48 + n else 87 + n)
/-- The last hexadecimal digits of a number, `width` of them. -/
def hexText (width n : Nat) : PyStr := (List.range width).reverse.map (fun i => hexDigit (n / 16 ^ i % 16))

/-- The zeros of the Unicode decimal digits, each followed by its nine successors. -/
def digitZeros : List Nat :=
  [48, 1632, 1776, 1984, 2406, 2534, 2662, 2790, 2918, 3046, 3174, 3302, 3430, 3558, 3664, 3792, 3872, 4160, 4240,
    6112, 6160, 6470, 6608, 6784, 6800, 6992, 7088, 7232, 7248, 42528, 43216, 43264, 43472, 43504, 43600, 44016,
    65296, 66720, 68912, 69734, 69872, 69942, 70096, 70384, 70736, 70864, 71248, 71360, 71472, 71904, 72016, 72784,
    73040, 73120, 73552, 92768, 92864, 93008, 120782, 120792, 120802, 120812, 120822, 123200, 123632, 124144,
    125264, 130032]

def digit? (c : CodePoint) : Option Nat :=
  (digitZeros.find? (fun start => start ≤ c.val ∧ c.val < start + 10)).map (fun start => c.val - start)

/-- The white space that `int` skips, of ASCII only what the `isspace` of C knows. -/
def isIntSpace (c : CodePoint) : Bool := isSpace c && !(28 ≤ c.val && c.val ≤ 31)

/-- The sign and the digits of a text that `int` takes: white space around, a sign, digits
    with single underscores between them. -/
def intLiteral (s : PyStr) : Option (Bool × List Nat) :=
  let (negative, body) :=
    match (s.dropWhile isIntSpace).rdropWhile isIntSpace with
    | 45 :: rest => (true, rest)
    | 43 :: rest => (false, rest)
    | rest => (false, rest)
  let groups := body.splitOn 95
  if [] ∈ groups then none else (groups.flatten.mapM digit?).map (fun digits => (negative, digits))

/-- `int(s)`, with at most 4300 digits; `none` where it raises ValueError. -/
def pyInt (s : PyStr) : Option Int :=
  match intLiteral s with
  | none => none
  | some (negative, digits) =>
    if 4300 < digits.length then none
    else
      let value : Int := digits.foldl (fun n d => 10 * n + d) 0
      some (if negative then -value else value)

example : pyInt (lit " -1_000 ") = some (-1000) := by decide
example : pyInt (28 :: lit "5") = none := by decide
example : upper (lit "straße") = lit "STRASSE" := by decide

end OracleSchema.Strings
