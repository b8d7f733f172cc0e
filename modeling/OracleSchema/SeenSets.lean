import Mathlib.Data.List.Basic
import Mathlib.Data.Option.Basic
import Mathlib.Order.Lattice
import Mathlib.Tactic.Common

/-!
Expiring seen-sets over arbitrary keys and linearly ordered instants. A sighting
is admitted unless its key is remembered with a deadline that has not come; what is
remembered after any sequence of sightings is read off the sequence
(`after_take_eq_some`), whatever order its instants come in.
-/
namespace OracleSchema.SeenSets
universe u v

structure Sighting (κ : Type u) (τ : Type v) where
  key : κ
  deadline : τ
  now : τ
  deriving DecidableEq

/-- The remembered keys, each with its deadline. -/
abbrev Seen (κ : Type u) (τ : Type v) := κ → Option τ

variable {κ : Type u} {τ : Type v} [LinearOrder τ]

/-- What is left of the memory of a key at an instant. -/
def live (seen : Seen κ τ) (now : τ) (key : κ) : Option τ := (seen key).filter (fun deadline => now < deadline)

def admits (seen : Seen κ τ) (s : Sighting κ τ) : Bool := (live seen s.now s.key).isNone

theorem live_of_none {seen : Seen κ τ} {now : τ} {key : κ} (unseen : seen key = none) : live seen now key = none := by
  simp [live, unseen]
theorem live_of_some {seen : Seen κ τ} {now deadline : τ} {key : κ} (remembered : seen key = some deadline) :
    live seen now key = if now < deadline then some deadline else none := by
  simp [live, remembered, Option.filter_some]
theorem live_eq_some {seen : Seen κ τ} {now deadline : τ} {key : κ} :
    live seen now key = some deadline ↔ seen key = some deadline ∧ now < deadline := by
  simp [live, Option.filter_eq_some_iff]
theorem admits_eq_false {seen : Seen κ τ} {s : Sighting κ τ} :
    admits seen s = false ↔ ∃ deadline, seen s.key = some deadline ∧ s.now < deadline := by
  rw [admits, Option.isNone_eq_false_iff, Option.isSome_iff_exists]
  simp only [live_eq_some]

/-- No sighting after the `i`-th and before the `n`-th comes at or after the deadline. -/
def Outlives (sightings : List (Sighting κ τ)) (i n : Nat) (deadline : τ) : Prop :=
  ∀ m s, i < m → m < n → sightings[m]? = some s → s.now < deadline

theorem outlives_succ_iff {sightings : List (Sighting κ τ)} {i n : Nat} {deadline : τ} :
    Outlives sightings i (n + 1) deadline ↔
      Outlives sightings i n deadline ∧ (i < n → ∀ s, sightings[n]? = some s → s.now < deadline) := by
  constructor
  · intro outlives
    refine ⟨fun m s later before => outlives m s later (by omega), ?_⟩
    exact fun earlier s found => outlives n s earlier (by omega) found
  · rintro ⟨outlives, last⟩ m s later before found
    by_cases isLast : m = n
    · subst isLast
      exact last later s found
    · exact outlives m s later (by omega) found

/-- What is live later is what is live now and still live then. -/
theorem live_later {seen : Seen κ τ} {now later : τ} (after_ : now ≤ later) (key : κ) :
    live seen later key = (live seen now key).filter (fun deadline => later < deadline) := by
  cases remembered : seen key with
  | none => simp [live_of_none remembered]
  | some deadline =>
    rw [live_of_some remembered, live_of_some remembered]
    by_cases early : later < deadline
    · rw [if_pos early, if_pos (lt_of_le_of_lt after_ early), Option.filter_some, if_pos (decide_eq_true early)]
    · split_ifs <;> simp [Option.filter_some, early]

/-- Two memories agree on some keys, from an instant on. -/
def AgreeFrom (keys : κ → Prop) (now : τ) (seen seen' : Seen κ τ) : Prop :=
  ∀ key, keys key → live seen now key = live seen' now key

section
variable {keys : κ → Prop} {seen seen' : Seen κ τ}

theorem AgreeFrom.later {now then_ : τ} (agree : AgreeFrom keys now seen seen') (after_ : now ≤ then_) :
    AgreeFrom keys then_ seen seen' := by
  intro key among
  rw [live_later after_, live_later after_, agree key among]

theorem AgreeFrom.admits_eq {s : Sighting κ τ} (agree : AgreeFrom keys s.now seen seen') (among : keys s.key) :
    admits seen s = admits seen' s := by
  rw [admits, admits, agree s.key among]
end

variable [DecidableEq κ]

/-- A sighting drops what has expired and remembers its key if it is admitted. -/
def record (seen : Seen κ τ) (s : Sighting κ τ) : Seen κ τ := fun key =>
  if admits seen s ∧ key = s.key then some s.deadline else live seen s.now key

def after (sightings : List (Sighting κ τ)) : Seen κ τ := sightings.foldl record (fun _ => none)

/-- The `k`-th sighting is admitted. -/
def Accepted (sightings : List (Sighting κ τ)) (k : Nat) (s : Sighting κ τ) : Prop :=
  sightings[k]? = some s ∧ admits (after (sightings.take k)) s = true

theorem record_eq_some {seen : Seen κ τ} {s : Sighting κ τ} {key : κ} {deadline : τ} :
    record seen s key = some deadline ↔
      (admits seen s = true ∧ key = s.key ∧ s.deadline = deadline) ∨ (seen key = some deadline ∧ s.now < deadline) := by
  unfold record
  by_cases fresh : admits seen s = true ∧ key = s.key
  · obtain ⟨admitted, rfl⟩ := fresh
    have gone : ∀ deadline, seen s.key = some deadline → ¬ s.now < deadline := by
      intro deadline remembered early
      have refused := admits_eq_false.mpr ⟨deadline, remembered, early⟩
      rw [admitted] at refused
      cases refused
    simp only [admitted, true_and, if_true, Option.some.injEq]
    constructor
    · exact .inl
    · rintro (same | ⟨remembered, early⟩)
      · exact same
      · exact absurd early (gone deadline remembered)
  · simp only [fresh, if_false, live_eq_some]
    constructor
    · exact .inr
    · rintro (⟨admitted, same, _⟩ | kept)
      · exact absurd ⟨admitted, same⟩ fresh
      · exact kept

theorem after_concat (sightings : List (Sighting κ τ)) (s : Sighting κ τ) :
    after (sightings ++ [s]) = record (after sightings) s := by
  simp [after]

/-- After `n` sightings exactly those admitted ones are remembered whose deadline no
    later sighting has reached. -/
theorem after_take_eq_some (sightings : List (Sighting κ τ)) (n : Nat) {key : κ} {deadline : τ} :
    after (sightings.take n) key = some deadline ↔
      ∃ i s, i < n ∧ Accepted sightings i s ∧ s.key = key ∧ s.deadline = deadline ∧ Outlives sightings i n deadline := by
  induction n with
  | zero => simp [after]
  | succ n ih =>
    simp only [outlives_succ_iff]
    rw [List.take_add_one]
    cases next : sightings[n]? with
    | none =>
      rw [Option.toList_none, List.append_nil, ih]
      constructor
      · rintro ⟨i, s, earlier, accepted, same, due, outlives⟩
        exact ⟨i, s, by omega, accepted, same, due, outlives, by simp⟩
      · rintro ⟨i, s, earlier, accepted, same, due, outlives, _⟩
        have notLast : i ≠ n := by
          rintro rfl
          have found := accepted.1
          rw [next] at found
          cases found
        exact ⟨i, s, by omega, accepted, same, due, outlives⟩
    | some t =>
      rw [Option.toList_some, after_concat, record_eq_some, ih]
      constructor
      · rintro (⟨admitted, same, due⟩ | ⟨⟨i, s, earlier, accepted, same, due, outlives⟩, early⟩)
        · refine ⟨n, t, by omega, ⟨next, admitted⟩, same.symm, due, ?_, fun never => absurd never (lt_irrefl n)⟩
          intro m s later before
          omega
        · refine ⟨i, s, by omega, accepted, same, due, outlives, ?_⟩
          rintro _ r found
          rwa [← Option.some.inj found]
      · rintro ⟨i, s, earlier, accepted, same, due, outlives, last⟩
        by_cases isLast : i = n
        · subst isLast
          obtain rfl : t = s := Option.some.inj (next.symm.trans accepted.1)
          exact .inl ⟨accepted.2, same.symm, due⟩
        · exact .inr ⟨⟨i, s, by omega, accepted, same, due, outlives⟩, last (by omega) t rfl⟩

/-- A sighting is refused exactly when an admitted one of its key is still live. -/
theorem refused_iff {sightings : List (Sighting κ τ)} {k : Nat} {s : Sighting κ τ} (found : sightings[k]? = some s) :
    admits (after (sightings.take k)) s = false ↔
      ∃ i t, i < k ∧ Accepted sightings i t ∧ t.key = s.key ∧ Outlives sightings i (k + 1) t.deadline := by
  simp only [admits_eq_false, after_take_eq_some, outlives_succ_iff]
  constructor
  · rintro ⟨deadline, ⟨i, t, earlier, accepted, same, rfl, outlives⟩, early⟩
    refine ⟨i, t, earlier, accepted, same, outlives, ?_⟩
    rintro _ r found'
    rwa [← Option.some.inj (found.symm.trans found')]
  · rintro ⟨i, t, earlier, accepted, same, outlives, last⟩
    exact ⟨t.deadline, ⟨i, t, earlier, accepted, same, rfl, outlives⟩, last earlier s found⟩

section
variable {keys : κ → Prop} {seen seen' : Seen κ τ} {s : Sighting κ τ}

/-- A sighting of one of the keys keeps the agreement, made on both memories. -/
theorem AgreeFrom.record_both (agree : AgreeFrom keys s.now seen seen') (among : keys s.key) :
    AgreeFrom keys s.now (record seen s) (record seen' s) := by
  intro key inKeys
  have same : record seen s key = record seen' s key := by
    unfold record
    rw [agree.admits_eq among, agree key inKeys]
  rw [live, live, same]

/-- A sighting of another key keeps the agreement, made on one of them. -/
theorem AgreeFrom.record_other (agree : AgreeFrom keys s.now seen seen') (other : ¬ keys s.key) :
    AgreeFrom keys s.now (record seen s) seen' := by
  intro key inKeys
  have unchanged : record seen s key = live seen s.now key := by
    refine if_neg ?_
    rintro ⟨_, rfl⟩
    exact other inKeys
  rw [live, unchanged, ← live_later le_rfl]
  exact agree key inKeys
end

end OracleSchema.SeenSets
