import Mathlib.Data.List.Basic
import Mathlib.Tactic.Common

/-!
Runs of a labelled transition system given by a partial step function, with the
steps they take. `Path.safe_iff` is the rule for a property that guarded steps keep
and that the first unguarded step breaks, and `Path.amortized` the one for costs.
-/
namespace OracleSchema.Runs
universe u v
variable {σ : Type u} {ι : Type v}

/-- From `start` the actions lead to `last`; each is listed with the state before it. -/
inductive Path (step : ι → σ → Option σ) (start : σ) : List (σ × ι) → σ → Prop
  | nil : Path step start [] start
  | snoc {taken : List (σ × ι)} {s s' : σ} {action : ι} (before : Path step start taken s)
      (took : step action s = some s') : Path step start (taken ++ [(s, action)]) s'

/-- The states that a path passes, its last one included. -/
def states (taken : List (σ × ι)) (last : σ) : List σ := taken.map Prod.fst ++ [last]

variable {step : ι → σ → Option σ} {start last : σ} {taken : List (σ × ι)}

theorem states_concat (taken : List (σ × ι)) (s s' : σ) (action : ι) :
    states (taken ++ [(s, action)]) s' = states taken s ++ [s'] := by
  simp [states]

/-- The weights of the actions of a run. -/
def total (weight : ι → Nat) : List (σ × ι) → Nat
  | [] => 0
  | t :: taken => weight t.2 + total weight taken

theorem total_concat (weight : ι → Nat) (taken : List (σ × ι)) (t : σ × ι) :
    total weight (taken ++ [t]) = total weight taken + weight t.2 := by
  induction taken with
  | nil => simp [total]
  | cons first rest ih =>
    rw [List.cons_append, total, ih, total]
    omega

namespace Path

theorem single {s s' : σ} {action : ι} (took : step action s = some s') : Path step s [(s, action)] s' :=
  .snoc .nil took

theorem trans {middle : σ} {more : List (σ × ι)} (first : Path step start taken middle)
    (second : Path step middle more last) : Path step start (taken ++ more) last := by
  induction second with
  | nil => simpa using first
  | snoc _ took ih => simpa [List.append_assoc] using ih.snoc took

/-- A path up to one of its steps. -/
theorem cut (path : Path step start taken last) {s : σ} {action : ι} (member : (s, action) ∈ taken) :
    ∃ earlier, earlier ++ [(s, action)] <+: taken ∧ Path step start earlier s := by
  induction path with
  | nil => simp at member
  | snoc before took ih =>
    rcases List.mem_append.mp member with early | same
    · obtain ⟨earlier, front, path⟩ := ih early
      exact ⟨earlier, front.trans (List.prefix_append _ _), path⟩
    · obtain ⟨rfl, rfl⟩ := Prod.mk.inj (List.mem_singleton.mp same)
      exact ⟨_, List.prefix_rfl, before⟩

/-- The state before a step of a path is reached too. -/
theorem reached (path : Path step start taken last) {s : σ} {action : ι} (member : (s, action) ∈ taken) :
    ∃ earlier, Path step start earlier s := by
  obtain ⟨earlier, _, before⟩ := path.cut member
  exact ⟨earlier, before⟩

/-- Actions that can be taken one after another make a path. -/
theorem exists_of_foldlM {start last : σ} {actions : List ι}
    (took : actions.foldlM (fun s action => step action s) start = some last) : ∃ taken, Path step start taken last := by
  induction actions generalizing start with
  | nil =>
    obtain rfl : start = last := by simpa using took
    exact ⟨[], .nil⟩
  | cons action actions ih =>
    obtain ⟨s, first, rest⟩ := Option.bind_eq_some_iff.mp (by simpa using took)
    obtain ⟨taken, path⟩ := ih rest
    exact ⟨_, (single first).trans path⟩

/-- What guarded steps keep holds at the end of a guarded path. -/
theorem invariant {Inv : σ → Prop} {Guard : ι → σ → Prop} (initially : Inv start)
    (keeps : ∀ {action s s'}, Inv s → Guard action s → step action s = some s' → Inv s')
    (path : Path step start taken last) (guarded : ∀ t ∈ taken, Guard t.2 t.1) : Inv last := by
  induction path with
  | nil => exact initially
  | snoc before took ih =>
    have inv := ih fun t member => guarded t (List.mem_append_left _ member)
    exact keeps inv (guarded (_, _) (List.mem_append_right _ (List.mem_singleton_self _))) took

/-- If the cost of every step is met by its gain and the potential, so is that of a path. -/
theorem amortized {potential : σ → Nat} {cost gain : ι → Nat}
    (pays : ∀ {action s s'}, step action s = some s' → potential s' + cost action ≤ potential s + gain action)
    (path : Path step start taken last) : potential last + total cost taken ≤ potential start + total gain taken := by
  induction path with
  | nil => exact Nat.le_refl _
  | snoc before took ih =>
    have paid := pays took
    simp only [total_concat]
    omega

/-- If no step lowers a measure, the states of a path are in its order. -/
theorem ordered (measure : σ → Nat) (grows : ∀ {action s s'}, step action s = some s' → measure s ≤ measure s')
    (path : Path step start taken last) : (states taken last).Pairwise (fun s s' => measure s ≤ measure s') := by
  induction path with
  | nil => exact List.pairwise_singleton _ _
  | @snoc taken s s' action before took ih =>
    have grown := grows took
    rw [states_concat, List.pairwise_append]
    refine ⟨ih, List.pairwise_singleton _ _, fun earlier member later isLast => ?_⟩
    obtain rfl := List.mem_singleton.mp isLast
    rw [states, List.pairwise_append] at ih
    rcases List.mem_append.mp member with passed | same
    · exact Nat.le_trans (ih.2.2 earlier passed s (List.mem_singleton_self _)) grown
    · obtain rfl := List.mem_singleton.mp same
      exact grown

/-- If guarded steps keep an invariant under which states are safe, and any other step
    from it leads to an unsafe state, then a path is safe throughout exactly when all
    of its steps are guarded. -/
theorem safe_iff {Inv Safe : σ → Prop} {Guard : ι → σ → Prop} (initially : Inv start)
    (keeps : ∀ {action s s'}, Inv s → Guard action s → step action s = some s' → Inv s')
    (safe : ∀ {s}, Inv s → Safe s)
    (breaks : ∀ {action s s'}, Inv s → ¬ Guard action s → step action s = some s' → ¬ Safe s')
    (path : Path step start taken last) :
    (∀ s ∈ states taken last, Safe s) ↔ ∀ t ∈ taken, Guard t.2 t.1 := by
  induction path with
  | nil => simpa [states] using safe initially
  | @snoc taken s s' action before took ih =>
    rw [states_concat]
    constructor
    · intro allSafe t member
      have guarded := ih.mp fun s member => allSafe s (List.mem_append_left _ member)
      rcases List.mem_append.mp member with early | same
      · exact guarded t early
      · obtain rfl := List.mem_singleton.mp same
        by_contra unguarded
        exact breaks (before.invariant initially keeps guarded) unguarded took (allSafe s' (by simp))
    · intro guarded r member
      have earlier : ∀ t ∈ taken, Guard t.2 t.1 := fun t early => guarded t (List.mem_append_left _ early)
      rcases List.mem_append.mp member with early | same
      · exact ih.mpr earlier r early
      · obtain rfl := List.mem_singleton.mp same
        have inv := before.invariant initially keeps earlier
        exact safe (keeps inv (guarded (s, action) (by simp)) took)

end Path
end OracleSchema.Runs
