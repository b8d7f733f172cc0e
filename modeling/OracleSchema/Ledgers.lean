import Mathlib.Data.Finset.Insert
import Mathlib.Data.Multiset.ZeroCons
import Mathlib.Logic.Relation
import Mathlib.Tactic.Common

/-!
A ledger of resources of which one at most is current, such as pools or connections
that are replaced by new ones. Closing takes time: a close is called, and later it
returns, which leaves no resource current, or raises. If a close is only ever called
when none is pending and none of the current resource has raised, each resource is
closed at most once and none is lost (`Sound`); any other call closes one twice.
-/
namespace OracleSchema.Ledgers
universe u

structure Ledger (ρ : Type u) where
  current : Option ρ
  created : Finset ρ
  /-- One entry for each call of a close. -/
  called : List ρ
  closed : List ρ
  raised : List ρ
  /-- The pending closes. -/
  closers : Multiset ρ

variable {ρ : Type u}

/-- The first resource. -/
def Ledger.first (p : ρ) : Ledger ρ := ⟨some p, {p}, [], [], [], 0⟩

/-- The call of a close. -/
def Ledger.enter (l : Ledger ρ) (p : ρ) : Ledger ρ := { l with called := l.called ++ [p], closers := p ::ₘ l.closers }

/-- No close is pending, and none of this resource has raised. -/
def MayEnter (l : Ledger ρ) (p : ρ) : Prop := l.closers = 0 ∧ p ∉ l.raised

/-- The moves other than the call of a close. -/
inductive Move [DecidableEq ρ] : Ledger ρ → Ledger ρ → Prop
  | fail {l : Ledger ρ} {p : ρ} {rest : Multiset ρ} (pending : l.closers = p ::ₘ rest) :
      Move l { l with raised := p :: l.raised, closers := rest }
  | finish {l : Ledger ρ} {p : ρ} {rest : Multiset ρ} (pending : l.closers = p ::ₘ rest) :
      Move l { l with current := none, closed := p :: l.closed, closers := rest }
  | create {l : Ledger ρ} {p : ρ} (vacant : l.current = none) (fresh : p ∉ l.created) :
      Move l { l with current := some p, created := insert p l.created }

/-- What an action does that calls the close of the current resource if it `enters`, and
    that may do other moves if it does not. -/
inductive Turn [DecidableEq ρ] (enters : Prop) (l : Ledger ρ) : Ledger ρ → Prop
  | enter {p : ρ} (there : l.current = some p) (entered : enters) : Turn enters l (l.enter p)
  | moves {l' : Ledger ρ} (vacant : enters → l.current = none) (moved : Relation.ReflTransGen Move l l') : Turn enters l l'

/-- Each resource is current or was closed, and nothing was closed twice. -/
structure Sound (l : Ledger ρ) : Prop where
  once : l.called.Nodup
  known : ∀ p ∈ l.created, l.current = some p ∨ p ∈ l.closed
  made : ∀ p, l.current = some p → p ∈ l.created
  calledMade : ∀ p ∈ l.called, p ∈ l.created
  past : ∀ p ∈ l.closed, p ∈ l.called ∧ l.current ≠ some p
  accounted : ∀ p ∈ l.called, p ∈ l.closed ∨ p ∈ l.raised ∨ p ∈ l.closers
  pending : ∀ p ∈ l.closers, l.current = some p ∧ p ∈ l.called ∧ p ∉ l.raised
  single : l.closers.card ≤ 1
  failed : ∀ p ∈ l.raised, l.current = some p ∧ p ∈ l.called

theorem sound_first (p : ρ) : Sound (Ledger.first p) := by
  constructor
  all_goals simp [Ledger.first]

/-- A pending close is the only one, and it is of the current resource. -/
theorem Sound.of_pending {l : Ledger ρ} (sound : Sound l) {p : ρ} {rest : Multiset ρ} (pending : l.closers = p ::ₘ rest) :
    rest = 0 ∧ l.current = some p ∧ p ∈ l.called ∧ l.raised = [] := by
  have single := sound.single
  rw [pending, Multiset.card_cons] at single
  obtain ⟨current, called, fine⟩ := sound.pending p (by rw [pending]; exact Multiset.mem_cons_self p _)
  refine ⟨Multiset.card_eq_zero.mp (by omega), current, called, ?_⟩
  by_contra some
  obtain ⟨q, broken⟩ := List.exists_mem_of_ne_nil _ some
  have same := (sound.failed q broken).1
  rw [current] at same
  exact fine (Option.some.inj same ▸ broken)

/-- Without a current resource no close is pending, and none has raised. -/
theorem Sound.of_vacant {l : Ledger ρ} (sound : Sound l) (vacant : l.current = none) : l.closers = 0 ∧ l.raised = [] := by
  constructor
  · by_contra some
    obtain ⟨q, waiting⟩ := Multiset.exists_mem_of_ne_zero some
    have current := (sound.pending q waiting).1
    rw [vacant] at current
    cases current
  · by_contra some
    obtain ⟨q, broken⟩ := List.exists_mem_of_ne_nil _ some
    have current := (sound.failed q broken).1
    rw [vacant] at current
    cases current

theorem sound_enter {l : Ledger ρ} (sound : Sound l) {p : ρ} (current : l.current = some p) (may : MayEnter l p) :
    Sound (l.enter p) := by
  obtain ⟨idle, fine⟩ := may
  have uncalled : p ∉ l.called := by
    intro called
    rcases sound.accounted p called with shut | broken | waiting
    · exact (sound.past p shut).2 current
    · exact fine broken
    · rw [idle] at waiting
      exact absurd waiting (Multiset.notMem_zero p)
  refine ⟨?_, sound.known, sound.made, ?_, ?_, ?_, ?_, ?_, ?_⟩
  · exact List.nodup_append.mpr ⟨sound.once, List.nodup_singleton p, by
      rintro a called b same rfl
      exact uncalled (List.mem_singleton.mp same ▸ called)⟩
  · intro q called
    rcases List.mem_append.mp called with early | same
    · exact sound.calledMade q early
    · rw [List.mem_singleton.mp same]
      exact sound.made p current
  · intro q shut
    exact ⟨List.mem_append_left _ (sound.past q shut).1, (sound.past q shut).2⟩
  · intro q called
    rcases List.mem_append.mp called with early | same
    · rcases sound.accounted q early with shut | broken | waiting
      · exact .inl shut
      · exact .inr (.inl broken)
      · exact .inr (.inr (Multiset.mem_cons_of_mem waiting))
    · rw [List.mem_singleton.mp same]
      exact .inr (.inr (Multiset.mem_cons_self p _))
  · intro q waiting
    simp only [Ledger.enter, idle] at waiting
    obtain rfl : q = p := by simpa using waiting
    exact ⟨current, List.mem_append_right _ (List.mem_singleton_self q), fine⟩
  · simp [Ledger.enter, idle]
  · intro q broken
    exact ⟨(sound.failed q broken).1, List.mem_append_left _ (sound.failed q broken).2⟩

/-- A call of a close at another moment is a second one. -/
theorem twice_of_not_mayEnter {l : Ledger ρ} (sound : Sound l) {p : ρ} (current : l.current = some p)
    (early : ¬ MayEnter l p) : ¬ (l.enter p).called.Nodup := by
  have called : p ∈ l.called := by
    by_cases idle : l.closers = 0
    · have broken : p ∈ l.raised := by
        by_contra fine
        exact early ⟨idle, fine⟩
      exact (sound.failed p broken).2
    · obtain ⟨q, waiting⟩ := Multiset.exists_mem_of_ne_zero idle
      obtain ⟨same, called, _⟩ := sound.pending q waiting
      rw [current] at same
      rwa [Option.some.inj same]
  intro once
  exact (List.nodup_append.mp once).2.2 p called p (List.mem_singleton_self p) rfl

theorem sound_fail {l : Ledger ρ} (sound : Sound l) {p : ρ} {rest : Multiset ρ} (pending : l.closers = p ::ₘ rest) :
    Sound { l with raised := p :: l.raised, closers := rest } := by
  obtain ⟨rfl, current, called, fine⟩ := sound.of_pending pending
  refine ⟨sound.once, sound.known, sound.made, sound.calledMade, sound.past, ?_, by simp, by simp, ?_⟩
  · intro q calledToo
    rcases sound.accounted q calledToo with shut | broken | waiting
    · exact .inl shut
    · exact .inr (.inl (List.mem_cons_of_mem _ broken))
    · rw [pending] at waiting
      obtain rfl : q = p := by simpa using waiting
      exact .inr (.inl List.mem_cons_self)
  · intro q broken
    obtain rfl : q = p := by simpa [fine] using broken
    exact ⟨current, called⟩

theorem sound_finish {l : Ledger ρ} (sound : Sound l) {p : ρ} {rest : Multiset ρ} (pending : l.closers = p ::ₘ rest) :
    Sound { l with current := none, closed := p :: l.closed, closers := rest } := by
  obtain ⟨rfl, current, called, fine⟩ := sound.of_pending pending
  refine ⟨sound.once, ?_, by simp, sound.calledMade, ?_, ?_, by simp, by simp, by simp [fine]⟩
  · intro q made
    rcases sound.known q made with same | shut
    · rw [current] at same
      rw [Option.some.inj same]
      exact .inr List.mem_cons_self
    · exact .inr (List.mem_cons_of_mem _ shut)
  · intro q shut
    rcases List.mem_cons.mp shut with rfl | earlier
    · exact ⟨called, by simp⟩
    · exact ⟨(sound.past q earlier).1, by simp⟩
  · intro q calledToo
    rcases sound.accounted q calledToo with shut | broken | waiting
    · exact .inl (List.mem_cons_of_mem _ shut)
    · simp [fine] at broken
    · rw [pending] at waiting
      obtain rfl : q = p := by simpa using waiting
      exact .inl List.mem_cons_self

section
variable [DecidableEq ρ]

theorem sound_create {l : Ledger ρ} (sound : Sound l) {p : ρ} (vacant : l.current = none) (fresh : p ∉ l.created) :
    Sound { l with current := some p, created := insert p l.created } := by
  obtain ⟨idle, fine⟩ := sound.of_vacant vacant
  refine ⟨sound.once, ?_, ?_, ?_, ?_, sound.accounted, by simp [idle], sound.single, by simp [fine]⟩
  · intro q made
    rcases Finset.mem_insert.mp made with rfl | earlier
    · exact .inl rfl
    · rcases sound.known q earlier with current | shut
      · rw [vacant] at current
        cases current
      · exact .inr shut
  · intro q current
    rw [← Option.some.inj current]
    exact Finset.mem_insert_self p _
  · intro q called
    exact Finset.mem_insert_of_mem (sound.calledMade q called)
  · intro q shut
    refine ⟨(sound.past q shut).1, ?_⟩
    intro same
    rw [Option.some.inj same] at fresh
    exact fresh (sound.calledMade q (sound.past q shut).1)

theorem sound_move {l l' : Ledger ρ} (sound : Sound l) (move : Move l l') : Sound l' := by
  cases move with
  | fail pending => exact sound_fail sound pending
  | finish pending => exact sound_finish sound pending
  | create vacant fresh => exact sound_create sound vacant fresh

theorem sound_moves {l l' : Ledger ρ} (sound : Sound l) (moves : Relation.ReflTransGen Move l l') : Sound l' := by
  induction moves with
  | refl => exact sound
  | tail _ move ih => exact sound_move ih move

/-- Turns that only call a close when they may keep a ledger sound. -/
theorem sound_turn {enters : Prop} {l l' : Ledger ρ} (sound : Sound l) (turn : Turn enters l l')
    (may : enters → ∀ p, l.current = some p → MayEnter l p) : Sound l' := by
  cases turn with
  | @enter p there entered => exact sound_enter sound there (may entered p there)
  | moves _ moved => exact sound_moves sound moved

/-- Any other turn closes a resource twice. -/
theorem twice_of_turn {enters : Prop} {l l' : Ledger ρ} (sound : Sound l) (turn : Turn enters l l') {p : ρ}
    (there : l.current = some p) (entered : enters) (early : ¬ MayEnter l p) : ¬ l'.called.Nodup := by
  cases turn with
  | @enter q there' _ =>
    rw [there] at there'
    rw [← Option.some.inj there']
    exact twice_of_not_mayEnter sound there early
  | moves vacant _ =>
    rw [vacant entered] at there
    cases there
end

end OracleSchema.Ledgers
