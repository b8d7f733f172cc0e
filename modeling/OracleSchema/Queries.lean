import Mathlib.Data.List.Basic
import Mathlib.Data.List.Infix
import Mathlib.Data.List.Lex
import Mathlib.Data.List.ProdSigma
import Mathlib.Data.List.Sort
import Mathlib.Data.Prod.Lex
import Mathlib.Order.Defs.LinearOrder
import Mathlib.Tactic.Common

/-!
SQL over lists of rows: equality that a null never satisfies, joins, LIKE (`like_iff`),
and the answers that ORDER BY allows. Rows that the order does not separate may come in
any order, and `mem_take_answer_iff` says which rows can be among the first `n`. Where keys
are unique, a join keeps them so (`atMostOne_join`) and the answer is in strict order.
-/
namespace OracleSchema.Queries
universe u v w
variable {α : Type u} {β : Type v} {κ : Type w}

/-- SQL equality; a comparison with a null does not hold. -/
def sqlEq [DecidableEq α] (a b : Option α) : Bool := a.isSome && a = b

theorem sqlEq_iff [DecidableEq α] {a b : Option α} : sqlEq a b = true ↔ ∃ x, a = some x ∧ b = some x := by
  cases a with
  | none => simp [sqlEq]
  | some x => simp [sqlEq, eq_comm]

theorem sqlEq_some_iff [DecidableEq α] {x : α} {b : Option α} : sqlEq (some x) b = true ↔ b = some x := by
  simp [sqlEq, eq_comm]

/-- `xs JOIN ys ON ..`. -/
def join (on : α → β → Bool) (xs : List α) (ys : List β) : List (α × β) :=
  (xs.product ys).filter (fun row => on row.1 row.2)

/-- `xs LEFT JOIN ys ON ..`. -/
def leftJoin (on : α → β → Bool) (xs : List α) (ys : List β) : List (α × Option β) :=
  xs.flatMap (fun x =>
    match ys.filter (on x) with
    | [] => [(x, none)]
    | found => found.map (fun y => (x, some y)))

/-- `text LIKE pattern` without an escape character: `many` stands for any text and
    `one` for any one character. -/
def like [DecidableEq α] (many one : α) : List α → List α → Bool
  | [], text => text.isEmpty
  | p :: pattern, text =>
    if p = many then text.tails.any (fun rest => like many one pattern rest)
    else
      match text with
      | [] => false
      | c :: rest => (p = one || p = c) && like many one pattern rest

theorem join_eq (on : α → β → Bool) (xs : List α) (ys : List β) :
    join on xs ys = xs.flatMap (fun x => (ys.filter (on x)).map (fun y => (x, y))) := by
  show (xs.flatMap (fun x => ys.map (fun y => (x, y)))).filter _ = _
  rw [List.filter_flatMap]
  refine List.flatMap_congr fun x _ => ?_
  rw [List.filter_map]
  rfl

theorem mem_join {on : α → β → Bool} {xs : List α} {ys : List β} {row : α × β} :
    row ∈ join on xs ys ↔ row.1 ∈ xs ∧ row.2 ∈ ys ∧ on row.1 row.2 = true := by
  have inProduct : row ∈ xs.product ys ↔ row.1 ∈ xs ∧ row.2 ∈ ys := List.mem_product
  rw [join, List.mem_filter, inProduct, and_assoc]

/-- What a character of a LIKE pattern stands for: any text, any character, or itself. -/
def Stands (many one p : α) (part : List α) : Prop := p = many ∨ ∃ c, part = [c] ∧ (p = one ∨ p = c)

/-- A text is like a pattern if it can be cut into what the characters of the pattern stand for. -/
theorem like_iff [DecidableEq α] {many one : α} {pattern text : List α} :
    like many one pattern text = true ↔ ∃ parts, List.Forall₂ (Stands many one) pattern parts ∧ parts.flatten = text := by
  induction pattern generalizing text with
  | nil =>
    rw [like.eq_def, List.isEmpty_iff]
    constructor
    · rintro rfl
      exact ⟨[], .nil, rfl⟩
    · rintro ⟨parts, cut, rfl⟩
      cases cut
      rfl
  | cons p pattern ih =>
    rw [like.eq_def]
    simp only
    split_ifs with isMany
    · simp only [List.any_eq_true, List.mem_tails, ih]
      constructor
      · rintro ⟨_, ⟨part, rfl⟩, parts, cut, rfl⟩
        exact ⟨part :: parts, .cons (.inl isMany) cut, rfl⟩
      · rintro ⟨parts, cut, rfl⟩
        cases cut with
        | @cons _ part _ parts stands cut => exact ⟨parts.flatten, ⟨part, rfl⟩, parts, cut, rfl⟩
    · cases text with
      | nil =>
        refine ⟨nofun, ?_⟩
        rintro ⟨parts, cut, joined⟩
        cases cut with
        | cons stands cut =>
          rcases stands with many | ⟨c, rfl, _⟩
          · exact absurd many isMany
          · cases joined
      | cons c rest =>
        simp only [Bool.and_eq_true, Bool.or_eq_true, decide_eq_true_eq, ih]
        constructor
        · rintro ⟨fits, parts, cut, rfl⟩
          exact ⟨[c] :: parts, .cons (.inr ⟨c, rfl, fits⟩) cut, rfl⟩
        · rintro ⟨parts, cut, joined⟩
          cases cut with
          | @cons _ part _ parts stands cut =>
            rcases stands with many | ⟨c', rfl, fits⟩
            · exact absurd many isMany
            · obtain ⟨rfl, rfl⟩ := List.cons.inj joined
              exact ⟨fits, parts, cut, rfl⟩

/-! ### Keys -/

/-- At most one row has the property. -/
def AtMostOne (p : α → Prop) (rows : List α) : Prop := rows.Pairwise (fun x y => ¬ (p x ∧ p y))

/-- A row is alone if its left part is and nothing else joins to that part. -/
theorem atMostOne_join {on : α → β → Bool} {xs : List α} {ys : List β} {left : α → Prop} (whole : α × β → Prop)
    (part : ∀ x y, on x y = true → whole (x, y) → left x) (alone : AtMostOne left xs)
    (joined : ∀ x ∈ xs, left x → AtMostOne (fun y => on x y = true ∧ whole (x, y)) ys) : AtMostOne whole (join on xs ys) := by
  refine List.pairwise_filter.mpr (List.pairwise_flatMap.mpr ⟨?_, ?_⟩)
  · intro x member
    refine List.pairwise_map.mpr ?_
    by_cases holds : left x
    · refine (joined x member holds).imp ?_
      intro y y' apart onLeft onRight both
      exact apart ⟨⟨onLeft, both.1⟩, onRight, both.2⟩
    · refine List.pairwise_of_forall fun y y' inOn _ both => ?_
      exact holds (part x y inOn both.1)
  · refine alone.imp ?_
    intro x x' apart row inLeft row' inRight onLeft onRight both
    obtain ⟨y, _, rfl⟩ := List.mem_map.mp inLeft
    obtain ⟨y', _, rfl⟩ := List.mem_map.mp inRight
    exact apart ⟨part x y onLeft both.1, part x' y' onRight both.2⟩

theorem AtMostOne.imp {p q : α → Prop} {rows : List α} (alone : AtMostOne q rows) (weaker : ∀ x ∈ rows, p x → q x) :
    AtMostOne p rows :=
  List.Pairwise.imp_of_mem (fun inRows inRows' apart both => apart ⟨weaker _ inRows both.1, weaker _ inRows' both.2⟩) alone

/-- The one row with the property is all that a selection of it gives. -/
theorem AtMostOne.filter_eq {p : α → Prop} [DecidablePred p] {rows : List α} (alone : AtMostOne p rows) {x : α}
    (member : x ∈ rows) (holds : p x) : rows.filter (fun y => p y) = [x] := by
  obtain ⟨before, after, rfl⟩ := List.append_of_mem member
  obtain ⟨_, fromX, across⟩ := List.pairwise_append.mp alone
  have noneBefore : before.filter (fun y => p y) = [] := by
    refine List.filter_eq_nil_iff.mpr fun y inBefore => ?_
    simpa [holds] using across y inBefore x List.mem_cons_self
  have noneAfter : after.filter (fun y => p y) = [] := by
    refine List.filter_eq_nil_iff.mpr fun y inAfter => ?_
    simpa [holds] using (List.pairwise_cons.mp fromX).1 y inAfter
  rw [List.filter_append, noneBefore, List.filter_cons_of_pos (by simpa using holds), noneAfter, List.nil_append]

/-- Where at most one row joins to each, a left join adds it if there is one. -/
theorem leftJoin_alone {on : α → β → Bool} {xs : List α} {ys : List β}
    (alone : ∀ x ∈ xs, AtMostOne (fun y => on x y = true) ys) : leftJoin on xs ys = xs.map (fun x => (x, ys.find? (on x))) := by
  rw [leftJoin, List.map_eq_flatMap]
  refine List.flatMap_congr fun x member => ?_
  cases found : ys.find? (on x) with
  | none =>
    have nothing : ys.filter (on x) = [] := by simpa [List.filter_eq_nil_iff] using found
    rw [nothing]
  | some y =>
    have one : ys.filter (on x) = [y] := by
      simpa using (alone x member).filter_eq (List.mem_of_find?_eq_some found) (List.find?_some found)
    rw [one]
    rfl
/-- Keys are unique when no value is the key of two rows. -/
theorem nodup_keys_iff {key : α → κ} {rows : List α} :
    (rows.map key).Nodup ↔ ∀ k, AtMostOne (fun x => key x = k) rows := by
  rw [List.Nodup, List.pairwise_map]
  constructor
  · intro distinct k
    exact distinct.imp fun differ both => differ (both.1.trans both.2.symm)
  · intro alone
    refine List.pairwise_iff_forall_sublist.mpr fun {x y} inside same => ?_
    exact (alone (key y)).forall_sublist inside ⟨same, rfl⟩

/-! ### ORDER BY -/

section
variable [LinearOrder κ] (key : α → κ)

/-- A list that the database may give for these rows: all of them, in order. -/
def Answers (rows answer : List α) : Prop := answer.Perm rows ∧ answer.Pairwise (fun a b => key a ≤ key b)

/-- The order puts one row before the other. -/
def Precedes (a b : α) : Prop := key a < key b

/-- The number of rows that must come before a row. -/
def preceding (rows : List α) (x : α) : Nat := rows.countP (fun y => key y < key x)

variable {key}

theorem precedes_single {a b : α} : Precedes (fun x => [key x]) a b ↔ Precedes key a b := by
  simp [Precedes, List.cons_lt_cons_iff]

/-- Lists of keys are compared from the first key on. -/
theorem precedes_cons {keys : α → List κ} {a b : α} :
    Precedes (fun x => key x :: keys x) a b ↔ Precedes key a b ∨ key a = key b ∧ Precedes keys a b :=
  List.cons_lt_cons_iff

theorem precedes_toLex {ν : Type} [LinearOrder ν] {second : α → ν} {a b : α} :
    Precedes (fun x => toLex (key x, second x)) a b ↔ Precedes key a b ∨ key a = key b ∧ Precedes second a b :=
  Prod.Lex.toLex_lt_toLex

theorem Answers.mem {rows answer : List α} (answers : Answers key rows answer) {x : α} : x ∈ answer ↔ x ∈ rows :=
  answers.1.mem_iff

/-- With unique keys nothing in the answer is left open. -/
theorem Answers.strict {rows answer : List α} (answers : Answers key rows answer) (unique : (rows.map key).Nodup) :
    answer.Pairwise (Precedes key) := by
  have distinct : (answer.map key).Nodup := (answers.1.map key).nodup_iff.mpr unique
  exact (answers.2.and (List.pairwise_map.mp distinct)).imp fun both => lt_of_le_of_ne both.1 both.2

private theorem insertionSort_pairwise (xs : List α) :
    (xs.insertionSort (fun a b => key a ≤ key b)).Pairwise (fun a b => key a ≤ key b) := by
  have total : Std.Total (fun a b : α => key a ≤ key b) := ⟨fun a b => le_total (key a) (key b)⟩
  have transitive : IsTrans α (fun a b => key a ≤ key b) := ⟨fun _ _ _ => le_trans⟩
  exact List.pairwise_insertionSort _ xs

/-- With unique keys there is one answer. -/
theorem Answers.unique {rows one two : List α} (first : Answers key rows one) (second : Answers key rows two)
    (unique : (rows.map key).Nodup) : one = two := by
  refine List.Perm.eq_of_pairwise ?_ first.2 second.2 (first.1.trans second.1.symm)
  intro a b inOne inTwo below above
  exact List.inj_on_of_nodup_map unique (first.mem.mp inOne) (second.mem.mp inTwo) (le_antisymm below above)

theorem answers_insertionSort (rows : List α) : Answers key rows (rows.insertionSort (fun a b => key a ≤ key b)) :=
  ⟨List.perm_insertionSort _ _, insertionSort_pairwise rows⟩

variable (key) in
/-- Some answer has a given row right after the rows that must come before it. -/
theorem exists_answer_at {rows : List α} {x : α} (member : x ∈ rows) :
    ∃ before after, Answers key rows (before ++ x :: after) ∧ before.length = preceding key rows x := by
  obtain ⟨front, back, rfl⟩ := List.append_of_mem member
  let lower := (front ++ back).filter (fun y => key y < key x)
  let upper := (front ++ back).filter (fun y => !decide (key y < key x))
  let sort := List.insertionSort (fun a b : α => key a ≤ key b)
  have permLower : (sort lower).Perm lower := List.perm_insertionSort _ _
  have permUpper : (sort upper).Perm upper := List.perm_insertionSort _ _
  have below : ∀ y ∈ sort lower, key y < key x := by
    intro y inLower
    simpa using (List.mem_filter.mp (permLower.mem_iff.mp inLower)).2
  have above : ∀ y ∈ sort upper, key x ≤ key y := by
    intro y inUpper
    simpa using (List.mem_filter.mp (permUpper.mem_iff.mp inUpper)).2
  refine ⟨sort lower, sort upper, ⟨?_, ?_⟩, ?_⟩
  · calc (sort lower ++ x :: sort upper).Perm (x :: (sort lower ++ sort upper)) := List.perm_middle
      _ |>.Perm (x :: (lower ++ upper)) := (permLower.append permUpper).cons x
      _ |>.Perm (x :: (front ++ back)) := (List.filter_append_perm _ _).cons x
      _ |>.Perm (front ++ x :: back) := List.perm_middle.symm
  · refine List.pairwise_append.mpr ⟨insertionSort_pairwise lower, ?_, ?_⟩
    · exact List.pairwise_cons.mpr ⟨above, insertionSort_pairwise upper⟩
    · intro y inLower z inRest
      rcases List.mem_cons.mp inRest with rfl | inUpper
      · exact (below y inLower).le
      · exact (below y inLower).le.trans (above z inUpper)
  · rw [permLower.length_eq, ← List.countP_eq_length_filter, preceding]
    simp [List.countP_append]

/-- In every answer a row comes after all rows that must come before it. -/
theorem Answers.countP_le {rows before after : List α} {x : α} (answers : Answers key rows (before ++ x :: after)) :
    preceding key rows x ≤ before.length := by
  have notAfter : (x :: after).countP (fun y => key y < key x) = 0 := by
    rw [List.countP_eq_zero]
    intro y member
    have ordered := (List.pairwise_append.mp answers.2).2.1
    rcases List.mem_cons.mp member with rfl | later
    · simp
    · simpa using (List.pairwise_cons.mp ordered).1 y later
  rw [preceding, ← answers.1.countP_eq, List.countP_append, notAfter]
  exact List.countP_le_length

/-- A row can be among the first `n` of an answer exactly when fewer than `n` rows
    must come before it. -/
theorem mem_take_answer_iff {rows : List α} {x : α} (member : x ∈ rows) (n : Nat) :
    (∃ answer, Answers key rows answer ∧ x ∈ answer.take n) ↔ preceding key rows x < n := by
  constructor
  · rintro ⟨answer, answers, within⟩
    obtain ⟨before, rest, split⟩ := List.append_of_mem within
    have whole : answer = before ++ x :: (rest ++ answer.drop n) := by
      rw [← List.cons_append, ← List.append_assoc, ← split, List.take_append_drop]
    have short : before.length < n := by
      have bound := List.length_take_le n answer
      rw [split, List.length_append, List.length_cons] at bound
      omega
    rw [whole] at answers
    exact lt_of_le_of_lt answers.countP_le short
  · intro few
    obtain ⟨before, after, answers, position⟩ := exists_answer_at key member
    obtain ⟨m, rfl⟩ : ∃ m, n = before.length + (m + 1) := ⟨n - before.length - 1, by omega⟩
    refine ⟨_, answers, ?_⟩
    rw [List.take_length_add_append]
    simp
end
end OracleSchema.Queries
