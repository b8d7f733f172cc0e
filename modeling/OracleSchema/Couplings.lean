import Mathlib.Data.List.Forall2
import OracleSchema.Traced

/-!
Two runs side by side. Coupled computations take related histories to related results and
related histories, and there is one rule for each way of building a computation. What
a run shows of its trace is equal in both if related events show the same
(`Coupled.shown`).
-/
namespace OracleSchema.Couplings
open OracleSchema.Traced

variable {ω ε α β γ δ ζ : Type}

/-! ### Results -/

/-- Both return related values, or both raise related exceptions. -/
inductive Alike (E : ε → ε → Prop) (A : α → β → Prop) : Except ε α → Except ε β → Prop
  | ok {a : α} {b : β} (values : A a b) : Alike E A (.ok a) (.ok b)
  | error {e e' : ε} (raised : E e e') : Alike E A (.error e) (.error e')

namespace Alike
variable {E : ε → ε → Prop} {A : α → β → Prop} {B : γ → δ → Prop}

theorem refl (same : ∀ e, E e e) (result : Except ε α) : Alike E Eq result result := by
  cases result with
  | ok a => exact .ok rfl
  | error e => exact .error (same e)

/-- Results that raise nothing and return the same are the same. -/
theorem eq_of_never {x x' : Except ε α} (results : Alike (fun _ _ => False) Eq x x') : x = x' := by
  cases results with
  | ok same => rw [same]
  | error never => exact never.elim

theorem bind {x : Except ε α} {x' : Except ε β} {f : α → Except ε γ} {f' : β → Except ε δ} (first : Alike E A x x')
    (rest : ∀ a b, A a b → Alike E B (f a) (f' b)) : Alike E B (x >>= f) (x' >>= f') := by
  cases first with
  | ok values => exact rest _ _ values
  | error raised => exact .error raised

theorem map {x : Except ε α} {x' : Except ε β} {f : α → γ} {f' : β → δ} (first : Alike E A x x')
    (rest : ∀ a b, A a b → B (f a) (f' b)) : Alike E B (x.map f) (x'.map f') := by
  cases first with
  | ok values => exact .ok (rest _ _ values)
  | error raised => exact .error raised

theorem mapM {R : α → β → Prop} {f : α → Except ε γ} {f' : β → Except ε δ} {xs : List α} {ys : List β}
    (items : List.Forall₂ R xs ys) (each : ∀ a b, R a b → Alike E B (f a) (f' b)) :
    Alike E (List.Forall₂ B) (xs.mapM f) (ys.mapM f') := by
  induction items with
  | nil => exact .ok .nil
  | cons first _ ih =>
    rw [List.mapM_cons, List.mapM_cons]
    refine (each _ _ first).bind fun c d head => ih.bind fun cs ds tail => .ok (.cons head tail)

theorem foldlM {R : γ → δ → Prop} {f : α → γ → Except ε α} {f' : β → δ → Except ε β} {xs : List γ} {ys : List δ}
    (items : List.Forall₂ R xs ys) (each : ∀ a b c d, A a b → R c d → Alike E A (f a c) (f' b d)) {a : α} {b : β}
    (start : A a b) : Alike E A (xs.foldlM f a) (ys.foldlM f' b) := by
  induction items generalizing a b with
  | nil => exact .ok start
  | cons first _ ih =>
    rw [List.foldlM_cons, List.foldlM_cons]
    exact (each _ _ _ _ start first).bind fun a' b' next => ih next

end Alike

/-! ### Computations -/

/-- From related histories the computations end alike, on related histories. -/
def Coupled (R : ω → ω → Prop) (E : ε → ε → Prop) (A : α → β → Prop) (m : Action ω ε α) (m' : Action ω ε β) : Prop :=
  ∀ trace trace', List.Forall₂ R trace trace' →
    Alike E A (m trace).1 (m' trace').1 ∧ List.Forall₂ R (m trace).2 (m' trace').2

namespace Coupled
variable {R : ω → ω → Prop} {E : ε → ε → Prop} {A : α → β → Prop} {B : γ → δ → Prop}

theorem ofExcept {x : Except ε α} {x' : Except ε β} (results : Alike E A x x') :
    Coupled R E A (ofExcept x) (ofExcept x') :=
  fun _ _ traces => ⟨results, traces⟩

theorem pure {a : α} {b : β} (values : A a b) : Coupled R E A (pure a) (pure b) := .ofExcept (.ok values)

theorem perform {event event' : ω} {outcome : List ω → Except ε α} {outcome' : List ω → Except ε β}
    (events : R event event')
    (outcomes : ∀ trace trace', List.Forall₂ R trace trace' → Alike E A (outcome trace) (outcome' trace')) :
    Coupled R E A (perform event outcome) (perform event' outcome') :=
  fun trace trace' traces => ⟨outcomes trace trace' traces, List.rel_append traces (.cons events .nil)⟩

theorem note {event event' : ω} (events : R event event') : Coupled R E Eq (note event) (note event') :=
  .perform events fun _ _ _ => .ok rfl

theorem bind {m : Action ω ε α} {m' : Action ω ε β} {f : α → Action ω ε γ} {f' : β → Action ω ε δ}
    (first : Coupled R E A m m') (rest : ∀ a b, A a b → Coupled R E B (f a) (f' b)) :
    Coupled R E B (m >>= f) (m' >>= f') := by
  intro trace trace' traces
  rw [bind_run, bind_run]
  obtain ⟨results, later⟩ := first trace trace' traces
  cases run : m trace with
  | mk result middle =>
    cases run' : m' trace' with
    | mk result' middle' =>
      rw [run, run'] at results later
      cases results with
      | ok values => exact rest _ _ values _ _ later
      | error raised => exact ⟨.error raised, later⟩

theorem catching {m : Action ω ε α} {m' : Action ω ε β} {handler : ε → Action ω ε α} {handler' : ε → Action ω ε β}
    {F : ε → ε → Prop} (body : Coupled R E A m m') (rest : ∀ e e', E e e' → Coupled R F A (handler e) (handler' e')) :
    Coupled R F A (catching m handler) (catching m' handler') := by
  intro trace trace' traces
  unfold Traced.catching
  obtain ⟨results, later⟩ := body trace trace' traces
  cases run : m trace with
  | mk result middle =>
    cases run' : m' trace' with
    | mk result' middle' =>
      rw [run, run'] at results later
      cases results with
      | ok values => exact ⟨.ok values, later⟩
      | error raised => exact rest _ _ raised _ _ later

theorem ensuring {m : Action ω ε α} {m' : Action ω ε β} {cleanup cleanup' : Action ω ε Unit} (body : Coupled R E A m m')
    (last : Coupled R E Eq cleanup cleanup') : Coupled R E A (ensuring m cleanup) (ensuring m' cleanup') := by
  intro trace trace' traces
  unfold Traced.ensuring
  obtain ⟨results, later⟩ := body trace trace' traces
  cases run : m trace with
  | mk result middle =>
    cases run' : m' trace' with
    | mk result' middle' =>
      rw [run, run'] at results later
      obtain ⟨closings, final⟩ := last middle middle' later
      cases closing : cleanup middle with
      | mk outcome closed =>
        cases closing' : cleanup' middle' with
        | mk outcome' closed' =>
          rw [closing, closing'] at closings final
          cases closings with
          | ok _ => simpa only [closing, closing'] using ⟨results, final⟩
          | error raised => simpa only [closing, closing'] using ⟨Alike.error raised, final⟩

/-- What both traces show is the same, if related events show the same. -/
theorem shown {view : ω → Option ζ} (events : ∀ event event', R event event' → view event = view event')
    {trace trace' : List ω} (traces : List.Forall₂ R trace trace') : trace.filterMap view = trace'.filterMap view := by
  induction traces with
  | nil => rfl
  | cons first _ ih => rw [List.filterMap_cons, List.filterMap_cons, events _ _ first, ih]

end Coupled
end OracleSchema.Couplings
