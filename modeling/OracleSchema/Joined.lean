import Mathlib.Data.List.Basic
import Mathlib.Tactic.Common

/-!
Lists joined with a separator and no escaping. Joining forgets where the parts
ended: two lists of parts have one joined form exactly when cutting every part at
its own separators gives one list of segments (`join_eq_iff`), and parts that do not
hold the separator are their own segments (`segments_of_free`). Last, lists that one
terminator may end (`chomp_eq_iff`).
-/
namespace OracleSchema.Joined
universe u
variable {α : Type u}

/-- The parts with one separator between neighbours. -/
def join (sep : α) (parts : List (List α)) : List α := [sep].intercalate parts

@[simp] theorem join_singleton (sep : α) (part : List α) : join sep [part] = part := by
  simp [join]

theorem join_cons {sep : α} {part : List α} {parts : List (List α)} (more : parts ≠ []) :
    join sep (part :: parts) = part ++ sep :: join sep parts := by
  simp [join, List.intercalate_cons_of_ne_nil more]

theorem join_opening (sep : α) (part : List α) (parts : List (List α)) :
    ∃ more, join sep (part :: parts) = part ++ more := by
  by_cases last : parts = []
  · exact ⟨[], by rw [last, join_singleton, List.append_nil]⟩
  · exact ⟨_, join_cons last⟩

theorem mem_join {sep a : α} {parts : List (List α)} (member : a ∈ join sep parts) :
    a = sep ∨ ∃ part ∈ parts, a ∈ part := by
  induction parts with
  | nil => cases member
  | cons first rest ih =>
    by_cases more : rest = []
    · subst more
      rw [join_singleton] at member
      exact .inr ⟨first, List.mem_cons_self, member⟩
    · rw [join_cons more, List.mem_append, List.mem_cons] at member
      rcases member with here | rfl | there
      · exact .inr ⟨first, List.mem_cons_self, here⟩
      · exact .inl rfl
      · rcases ih there with same | ⟨part, inRest, inPart⟩
        · exact .inl same
        · exact .inr ⟨part, List.mem_cons_of_mem _ inRest, inPart⟩

/-- Every part is within the joined form. -/
theorem infix_join (sep : α) {parts : List (List α)} {part : List α} (member : part ∈ parts) :
    part <:+: join sep parts := by
  induction parts with
  | nil => cases member
  | cons first rest ih =>
    by_cases more : rest = []
    · subst more
      obtain rfl := List.mem_singleton.mp member
      exact ⟨[], [], by simp⟩
    · rw [join_cons more]
      rcases List.mem_cons.mp member with rfl | later
      · exact (List.prefix_append _ _).isInfix
      · exact (ih later).trans ((List.suffix_append_of_suffix (List.suffix_cons _ _)).isInfix)

theorem length_le_join (sep : α) (parts : List (List α)) : parts.length ≤ (join sep parts).length + 1 := by
  induction parts with
  | nil => simp
  | cons first rest ih =>
    by_cases more : rest = []
    · subst more
      simp
    · rw [join_cons more]
      simp
      omega

section
variable [DecidableEq α]

/-- Cutting leaves no separator. -/
theorem free_of_splitOn (sep : α) (whole : List α) : ∀ part ∈ whole.splitOn sep, sep ∉ part := by
  induction whole with
  | nil => simp
  | cons a rest ih =>
    rw [List.splitOn_cons_eq_if_modifyHead]
    split_ifs with here
    · simpa using ih
    · have other : sep ≠ a := fun same => here (by simp [same])
      cases parts : rest.splitOn sep with
      | nil => simp
      | cons first others =>
        rw [parts, List.forall_mem_cons] at ih
        rw [List.modifyHead_cons, List.forall_mem_cons, List.mem_cons, not_or]
        exact ⟨⟨other, ih.1⟩, ih.2⟩

/-- Every part cut at each separator it holds. -/
def segments (sep : α) (parts : List (List α)) : List (List α) := parts.flatMap (fun part => part.splitOn sep)

@[simp] theorem segments_nil (sep : α) : segments sep [] = [] := rfl
@[simp] theorem segments_cons (sep : α) (part : List α) (parts : List (List α)) :
    segments sep (part :: parts) = part.splitOn sep ++ segments sep parts := rfl

/-- Cutting the joined form gives the segments of the parts. -/
theorem splitOn_join (sep : α) {parts : List (List α)} (some : parts ≠ []) :
    (join sep parts).splitOn sep = segments sep parts := by
  induction parts with
  | nil => exact absurd rfl some
  | cons part parts ih =>
    by_cases more : parts = []
    · subst more
      simp
    · rw [join_cons more, List.splitOn_append_cons_self, ih more, segments_cons]

theorem segments_of_free (sep : α) {parts : List (List α)} (free : ∀ part ∈ parts, sep ∉ part) :
    segments sep parts = parts := by
  induction parts with
  | nil => rfl
  | cons part parts ih =>
    have alone : part.splitOn sep = [part] := List.splitOn_eq_singleton (free part (by simp))
    rw [segments_cons, alone, ih (fun other member => free other (List.mem_cons_of_mem part member))]
    rfl

end

/-! ### One terminator -/

section
variable [DecidableEq α]

/-- The list without one terminator at its end, where there is one. -/
def chomp (terminator : α) (s : List α) : List α := if s.getLast? = some terminator then s.dropLast else s

theorem chomp_of_unterminated {terminator : α} {s : List α} (free : s.getLast? ≠ some terminator) : chomp terminator s = s :=
  if_neg free

@[simp] theorem chomp_append (terminator : α) (s : List α) : chomp terminator (s ++ [terminator]) = s := by
  simp [chomp]

/-- What is left without a terminator was there alone or before one. -/
theorem chomp_eq_iff {terminator : α} {s p : List α} (free : p.getLast? ≠ some terminator) :
    chomp terminator s = p ↔ s = p ∨ s = p ++ [terminator] := by
  constructor
  · intro chomped
    by_cases ended : s.getLast? = some terminator
    · right
      rw [chomp, if_pos ended] at chomped
      rw [← chomped]
      exact (List.dropLast_append_getLast? terminator ended).symm
    · left
      rwa [chomp_of_unterminated ended] at chomped
  · rintro (rfl | rfl)
    · exact chomp_of_unterminated free
    · exact chomp_append terminator p
end

end OracleSchema.Joined
