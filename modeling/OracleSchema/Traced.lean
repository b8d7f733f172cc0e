import Mathlib.Data.List.Basic
import Mathlib.Tactic.Common

/-!
Computations that append events to a trace and then return or raise. What the
environment answers may depend on the whole trace so far, so nothing is assumed
about it. `Emits` bounds the events a computation can add; it has one rule for
each way of building one.
-/
namespace OracleSchema.Traced
/-- A computation that extends the trace it starts from and returns or raises. -/
def Action (ω ε α : Type) : Type := List ω → Except ε α × List ω

variable {ω ε α β : Type}

instance : Monad (Action ω ε) where
  pure a := fun trace => (.ok a, trace)
  bind m f := fun trace =>
    match m trace with
    | (.ok a, later) => f a later
    | (.error e, later) => (.error e, later)

theorem pure_run (a : α) (trace : List ω) : (pure a : Action ω ε α) trace = (.ok a, trace) := rfl
theorem bind_run (m : Action ω ε α) (f : α → Action ω ε β) (trace : List ω) :
    (m >>= f) trace =
      match m trace with
      | (.ok a, later) => f a later
      | (.error e, later) => (.error e, later) := rfl

/-- A result that touches no trace. -/
def ofExcept (result : Except ε α) : Action ω ε α := fun trace => (result, trace)

/-- One event whose outcome the environment chooses from the trace before it. -/
def perform (event : ω) (outcome : List ω → Except ε α) : Action ω ε α :=
  fun trace => (outcome trace, trace ++ [event])

/-- An event that always succeeds, such as a log record. -/
def note (event : ω) : Action ω ε Unit := perform event (fun _ => .ok ())

/-- `try: m except: handler`. -/
def catching (m : Action ω ε α) (handler : ε → Action ω ε α) : Action ω ε α := fun trace =>
  match m trace with
  | (.ok a, later) => (.ok a, later)
  | (.error e, later) => handler e later

/-- `try: m finally: cleanup`; an exception of the cleanup replaces the outcome. -/
def ensuring (m : Action ω ε α) (cleanup : Action ω ε Unit) : Action ω ε α := fun trace =>
  match m trace with
  | (result, later) =>
    match cleanup later with
    | (.ok _, last) => (result, last)
    | (.error e, last) => (.error e, last)

theorem ofExcept_bind (result : Except ε α) (f : α → Action ω ε β) (trace : List ω) :
    (ofExcept result >>= f) trace =
      match result with
      | .ok a => f a trace
      | .error e => (.error e, trace) := by
  cases result <;> rfl

theorem perform_bind (event : ω) (outcome : List ω → Except ε α) (f : α → Action ω ε β) (trace : List ω) :
    (perform event outcome >>= f) trace =
      match outcome trace with
      | .ok a => f a (trace ++ [event])
      | .error e => (.error e, trace ++ [event]) := by
  rw [bind_run, perform]
  cases outcome trace <;> rfl

/-- The last event is that of the cleanup, whatever either did. -/
theorem ensuring_perform (m : Action ω ε α) (event : ω) (outcome : List ω → Except ε Unit) (trace : List ω) :
    (ensuring m (perform event outcome) trace).2 = (m trace).2 ++ [event] := by
  unfold ensuring perform
  cases m trace with
  | mk result later => cases closing : outcome later <;> simp [closing]

/-- A sequence that returns ran its first part to the end. -/
theorem bind_eq_ok {m : Action ω ε α} {f : α → Action ω ε β} {trace : List ω} {b : β} :
    ((m >>= f) trace).1 = .ok b ↔ ∃ a later, m trace = (.ok a, later) ∧ (f a later).1 = .ok b := by
  rw [bind_run]
  cases run : m trace with
  | mk result later =>
    cases result with
    | ok a => simp
    | error e => simp
theorem ofExcept_bind_eq_ok {result : Except ε α} {f : α → Action ω ε β} {trace : List ω} {b : β} :
    ((ofExcept result >>= f) trace).1 = .ok b ↔ ∃ a, result = .ok a ∧ (f a trace).1 = .ok b := by
  rw [ofExcept_bind]
  cases result with
  | ok a => simp
  | error e => simp

theorem perform_bind_eq_ok {event : ω} {outcome : List ω → Except ε α} {f : α → Action ω ε β} {trace : List ω} {b : β} :
    ((perform event outcome >>= f) trace).1 = .ok b ↔
      ∃ a, outcome trace = .ok a ∧ (f a (trace ++ [event])).1 = .ok b := by
  rw [perform_bind]
  cases outcome trace with
  | ok a => simp
  | error e => simp

/-- What returns through a cleanup was returned before it. -/
theorem ensuring_eq_ok {m : Action ω ε α} {cleanup : Action ω ε Unit} {trace : List ω} {a : α}
    (returned : (ensuring m cleanup trace).1 = .ok a) : (m trace).1 = .ok a := by
  unfold ensuring at returned
  cases run : m trace with
  | mk result later =>
    rw [run] at returned
    simp only at returned
    split at returned
    · exact returned
    · cases returned

/-- What returns was returned by the body or by the handler. -/
theorem catching_eq_ok {m : Action ω ε α} {handler : ε → Action ω ε α} {trace : List ω} {a : α}
    (returned : (catching m handler trace).1 = .ok a) :
    (m trace).1 = .ok a ∨ ∃ e later, m trace = (.error e, later) ∧ (handler e later).1 = .ok a := by
  unfold catching at returned
  cases run : m trace with
  | mk result later =>
    rw [run] at returned
    cases result with
    | ok b => exact .inl returned
    | error e => exact .inr ⟨e, later, rfl, returned⟩

/-- A body that returns leaves its handler alone. -/
theorem catching_of_ok {m : Action ω ε α} {handler : ε → Action ω ε α} {trace : List ω} {a : α}
    (returned : (m trace).1 = .ok a) : catching m handler trace = m trace := by
  unfold catching
  cases ran : m trace with
  | mk result later =>
    rw [ran] at returned
    obtain rfl : result = .ok a := returned
    rfl

/-- The computation returns from this history. -/
def Returns (m : Action ω ε α) (trace : List ω) : Prop := ∃ a, (m trace).1 = .ok a

theorem returns_pure (a : α) (trace : List ω) : Returns (pure a : Action ω ε α) trace := ⟨a, rfl⟩
theorem returns_bind {m : Action ω ε α} {f : α → Action ω ε β} {trace : List ω} :
    Returns (m >>= f) trace ↔ ∃ a later, m trace = (.ok a, later) ∧ Returns (f a) later := by
  constructor
  · rintro ⟨b, returned⟩
    obtain ⟨a, later, first, rest⟩ := bind_eq_ok.mp returned
    exact ⟨a, later, first, b, rest⟩
  · rintro ⟨a, later, first, b, rest⟩
    exact ⟨b, bind_eq_ok.mpr ⟨a, later, first, rest⟩⟩
theorem returns_ofExcept_bind {result : Except ε α} {f : α → Action ω ε β} {trace : List ω} :
    Returns (ofExcept result >>= f) trace ↔ ∃ a, result = .ok a ∧ Returns (f a) trace := by
  constructor
  · rintro ⟨b, returned⟩
    obtain ⟨a, first, rest⟩ := ofExcept_bind_eq_ok.mp returned
    exact ⟨a, first, b, rest⟩
  · rintro ⟨a, first, b, rest⟩
    exact ⟨b, ofExcept_bind_eq_ok.mpr ⟨a, first, rest⟩⟩

/-- A handler that returns makes the whole return. -/
theorem returns_catching {m : Action ω ε α} {handler : ε → Action ω ε α} {trace : List ω}
    (handled : ∀ e later, Returns (handler e) later) : Returns (catching m handler) trace := by
  unfold Returns catching
  cases m trace with
  | mk result later =>
    cases result with
    | ok a => exact ⟨a, rfl⟩
    | error e => exact handled e later

/-- The computation only appends to the trace, and only events with the property. -/
def Emits (P : ω → Prop) (m : Action ω ε α) : Prop :=
  ∀ trace, ∃ added, (m trace).2 = trace ++ added ∧ ∀ event ∈ added, P event

namespace Emits
variable {P Q : ω → Prop}

theorem pure (a : α) : Emits P (pure a : Action ω ε α) :=
  fun trace => ⟨[], by simp [pure_run], by simp⟩

theorem ofExcept (result : Except ε α) : Emits P (ofExcept result : Action ω ε α) :=
  fun trace => ⟨[], by simp [Traced.ofExcept], by simp⟩

theorem perform {event : ω} (allowed : P event) (outcome : List ω → Except ε α) :
    Emits P (perform event outcome) :=
  fun trace => ⟨[event], rfl, by simpa using allowed⟩

theorem note {event : ω} (allowed : P event) : Emits P (note event : Action ω ε Unit) :=
  perform allowed _

private theorem append {trace first second : List ω} (one : ∀ event ∈ first, P event)
    (two : ∀ event ∈ second, P event) :
    ∃ added, trace ++ first ++ second = trace ++ added ∧ ∀ event ∈ added, P event := by
  refine ⟨first ++ second, by simp, ?_⟩
  intro event member
  rcases List.mem_append.mp member with early | late
  · exact one event early
  · exact two event late

theorem bind {m : Action ω ε α} {f : α → Action ω ε β} (first : Emits P m) (rest : ∀ a, Emits P (f a)) :
    Emits P (m >>= f) := by
  intro trace
  obtain ⟨added, extended, all⟩ := first trace
  rw [bind_run]
  cases run : m trace with
  | mk result later =>
    rw [run] at extended
    cases result with
    | error e => exact ⟨added, extended, all⟩
    | ok a =>
      obtain ⟨more, further, allMore⟩ := rest a later
      simp only at extended ⊢
      rw [further, extended]
      exact append all allMore

/-- What follows an event knows the outcome of the event. -/
theorem perform_bind {event : ω} (allowed : P event) {outcome : List ω → Except ε α} {f : α → Action ω ε β}
    (rest : ∀ trace a, outcome trace = .ok a → Emits P (f a)) : Emits P (Traced.perform event outcome >>= f) := by
  intro trace
  rw [Traced.perform_bind]
  cases answer : outcome trace with
  | error e => exact ⟨[event], rfl, by simpa using allowed⟩
  | ok a =>
    obtain ⟨more, further, all⟩ := rest trace a answer (trace ++ [event])
    simp only
    rw [further]
    exact append (by simpa using allowed) all

theorem catching {m : Action ω ε α} {handler : ε → Action ω ε α} (body : Emits P m)
    (rest : ∀ e, Emits P (handler e)) : Emits P (catching m handler) := by
  intro trace
  obtain ⟨added, extended, all⟩ := body trace
  unfold Traced.catching
  cases run : m trace with
  | mk result later =>
    rw [run] at extended
    cases result with
    | ok a => exact ⟨added, extended, all⟩
    | error e =>
      obtain ⟨more, further, allMore⟩ := rest e later
      simp only at extended ⊢
      rw [further, extended]
      exact append all allMore

theorem ensuring {m : Action ω ε α} {cleanup : Action ω ε Unit} (body : Emits P m) (last : Emits P cleanup) :
    Emits P (ensuring m cleanup) := by
  intro trace
  obtain ⟨added, extended, all⟩ := body trace
  unfold Traced.ensuring
  cases run : m trace with
  | mk result later =>
    rw [run] at extended
    simp only at extended ⊢
    obtain ⟨more, further, allMore⟩ := last later
    cases closing : cleanup later with
    | mk outcome final =>
      rw [closing] at further
      simp only at further
      have whole : ∃ more', final = trace ++ more' ∧ ∀ event ∈ more', P event := by
        rw [further, extended]
        exact append all allMore
      cases outcome with
      | ok a => exact whole
      | error e => exact whole

theorem mono {m : Action ω ε α} (emits : Emits P m) (weaker : ∀ event, P event → Q event) : Emits Q m := by
  intro trace
  obtain ⟨added, extended, all⟩ := emits trace
  exact ⟨added, extended, fun event member => weaker event (all event member)⟩

/-- The events a computation adds to a trace. -/
theorem mem {m : Action ω ε α} (emits : Emits P m) {trace : List ω} {event : ω}
    (member : event ∈ (m trace).2) : event ∈ trace ∨ P event := by
  obtain ⟨added, extended, all⟩ := emits trace
  rw [extended] at member
  rcases List.mem_append.mp member with early | late
  · exact .inl early
  · exact .inr (all event late)

end Emits
end OracleSchema.Traced
