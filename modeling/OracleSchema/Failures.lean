import OracleSchema.Session
import OracleSchema.Truncation

/-!
How a run names a failure on an open connection. The stamp's refusal is returned from
inside two cleanups, and the last handler sees whatever they raise, so the two reasons
are told apart exactly if no cleanup fails after a failed stamp and nothing but a step of
the driver fails (`failure_classified_iff`).
-/
namespace OracleSchema.Failures
open OracleSchema.Strings OracleSchema.Errors OracleSchema.Settings OracleSchema.SqlGate OracleSchema.Replay
open OracleSchema.Traced OracleSchema.Execution OracleSchema.Pipeline OracleSchema.Session OracleSchema.Sharing
open OracleSchema.Projection OracleSchema.Truncation

/-! ### Failed steps -/

/-- Whether the environment lets an event succeed after a history. -/
def answer (D : Driver) (history : List Event) : Event → Except PyExc Unit
  | .readCredential path => (D.read_credential history path).map (fun _ => ())
  | .connect user password dsn => D.connect history user password dsn
  | .setCallTimeout milliseconds => D.set_call_timeout history milliseconds
  | .openCursor => D.cursor history
  | .callproc name args => D.callproc history name args
  | .execute sql => (D.execute history sql).map (fun _ => ())
  | .fetchall => (D.fetchall history).map (fun _ => ())
  | .exitCursor => D.exit_cursor history
  | .close => D.close history
  | .log _ => .ok ()

/-- `set_identifier`. -/
def isStamp : Event → Bool
  | .callproc _ _ => true
  | _ => false

/-- A step on an open connection other than the stamp. -/
def isOtherStep : Event → Bool
  | .setCallTimeout _ => true
  | .openCursor => true
  | .execute _ => true
  | .fetchall => true
  | .exitCursor => true
  | .close => true
  | _ => false

/-- Some event of the kind raised. -/
def Raised (D : Driver) (kind : Event → Bool) (trace : List Event) : Prop :=
  ∃ before event after exc, trace = before ++ event :: after ∧ kind event = true ∧ answer D before event = .error exc

/-- The events succeed one after the other. -/
def Succeed (D : Driver) : List Event → List Event → Prop
  | _, [] => True
  | history, event :: rest => answer D history event = .ok () ∧ Succeed D (history ++ [event]) rest

theorem raised_append_singleton {D : Driver} {kind : Event → Bool} {trace : List Event} {event : Event} :
    Raised D kind (trace ++ [event]) ↔
      Raised D kind trace ∨ kind event = true ∧ ∃ exc, answer D trace event = .error exc := by
  constructor
  · rintro ⟨before, raising, after, exc, split, own, raised⟩
    rcases List.eq_nil_or_concat' after with rfl | ⟨middle, last, rfl⟩
    · obtain ⟨rfl, same⟩ := List.append_inj' split rfl
      cases same
      exact .inr ⟨own, exc, raised⟩
    · rw [← List.cons_append, ← List.append_assoc] at split
      exact .inl ⟨before, raising, middle, exc, List.append_inj_left' split rfl, own, raised⟩
  · rintro (⟨before, raising, after, exc, rfl, own, raised⟩ | ⟨own, exc, raised⟩)
    · exact ⟨before, raising, after ++ [event], exc, by simp, own, raised⟩
    · exact ⟨trace, event, [], exc, rfl, own, raised⟩

/-- No event of the kind is in the trace. -/
theorem not_raised {D : Driver} {kind : Event → Bool} {trace : List Event} (absent : ∀ event ∈ trace, kind event = false) :
    ¬ Raised D kind trace := by
  rintro ⟨before, event, after, exc, rfl, own, _⟩
  rw [absent event (by simp)] at own
  cases own

theorem succeed_append {D : Driver} {start first rest : List Event} :
    Succeed D start (first ++ rest) ↔ Succeed D start first ∧ Succeed D (start ++ first) rest := by
  induction first generalizing start with
  | nil => simp [Succeed]
  | cons event first ih => simp [Succeed, ih, and_assoc]

/-- Events that succeed add no failure. -/
theorem Succeed.raised_iff {D : Driver} {kind : Event → Bool} {start events : List Event} (succeeded : Succeed D start events) :
    Raised D kind (start ++ events) ↔ Raised D kind start := by
  induction events generalizing start with
  | nil => rw [List.append_nil]
  | cons event rest ih =>
    rw [List.append_cons, ih succeeded.2, raised_append_singleton]
    simp [succeeded.1]

/-! ### The use of a connection -/

section
variable (D : Driver) (subject_reference bounded_sql : PyStr) (timeout_s : PyReal) (start : List Event)

/-- The steps of a leg that goes well. -/
def steps (ms : Int) : List Event :=
  [.setCallTimeout ms, .openCursor, stampEvent subject_reference, .execute bounded_sql, .fetchall, .exitCursor, .close]

/-- The history right after a stamp that raised. -/
def afterFailedStamp (ms : Int) (exc : PyExc) : List Event :=
  start ++ [.setCallTimeout ms, .openCursor, stampEvent subject_reference,
    .log ⟨lit "readonly_query.identity_stamp_failed", [(lit "exception_class", exc.cls.name)]⟩]

/-- From the history of an open connection: the cleanup after a failed stamp succeeds,
    and where all steps succeed the timeout is a number of milliseconds and the rows
    have a projection. -/
structure OnlyStepsFail : Prop where
  timeout : ∀ exc, milliseconds timeout_s = .error exc → D.close start ≠ .ok ()
  stamp : ∀ ms exc, milliseconds timeout_s = .ok ms → Succeed D start [.setCallTimeout ms, .openCursor] →
    D.callproc (start ++ [.setCallTimeout ms, .openCursor]) setIdentifier [subject_reference] = .error exc →
      Succeed D (afterFailedStamp subject_reference start ms exc) [.exitCursor, .close]
  rows : ∀ ms columns fetched, milliseconds timeout_s = .ok ms → Succeed D start (steps subject_reference bounded_sql ms) →
    D.execute (start ++ (steps subject_reference bounded_sql ms).take 3) bounded_sql = .ok columns →
    D.fetchall (start ++ (steps subject_reference bounded_sql ms).take 4) = .ok fetched →
      ∃ rows, fetched.mapM (rowDict columns) = .ok rows
end

/-- What the use of a connection returns. -/
abbrev Result := Except PyExc (Except Refusal (List PyStr × List (List Cell)))

/-- The leg ends with the last handler. -/
def Fails (result : Result) : Prop :=
  (∃ exc, result = .error exc) ∨
    ∃ columns fetched exc, result = .ok (.ok (columns, fetched)) ∧ fetched.mapM (rowDict columns) = .error exc

theorem not_fails_refusal (refusal : Refusal) : ¬ Fails (.ok (.error refusal)) := by
  rintro (⟨exc, same⟩ | ⟨columns, fetched, exc, same, _⟩)
  · cases same
  · cases same

theorem fails_fetched_iff {columns : List PyStr} {fetched : List (List Cell)} :
    Fails (.ok (.ok (columns, fetched))) ↔ ∃ exc, fetched.mapM (rowDict columns) = .error exc := by
  constructor
  · rintro (⟨exc, same⟩ | ⟨columns', fetched', exc, same, fails⟩)
    · cases same
    · cases same
      exact ⟨exc, fails⟩
  · rintro ⟨exc, fails⟩
    exact .inr ⟨columns, fetched, exc, rfl, fails⟩

/-- The result tells a failed stamp from a failure of another step. -/
def TellsApart (D : Driver) (used : Result × List Event) : Prop :=
  ((∃ refusal, used.1 = .ok (.error refusal)) ↔ Raised D isStamp used.2) ∧
    (Fails used.1 ↔ ¬ Raised D isStamp used.2 ∧ Raised D isOtherStep used.2)

/-- An exception ends the use, the stamp has not raised, and another step has. -/
structure StepFailed (D : Driver) (used : Result × List Event) : Prop where
  raises : ∃ exc, used.1 = .error exc
  stamp : ¬ Raised D isStamp used.2
  step : Raised D isOtherStep used.2

section
variable {D : Driver} {subject_reference bounded_sql : PyStr} {timeout_s : PyReal} {start : List Event}

theorem StepFailed.tellsApart {used : Result × List Event} (failed : StepFailed D used) : TellsApart D used := by
  obtain ⟨exc, raises⟩ := failed.raises
  refine ⟨iff_of_false ?_ failed.stamp, iff_of_true (.inl ⟨exc, raises⟩) ⟨failed.stamp, failed.step⟩⟩
  rintro ⟨refusal, same⟩
  cases raises.symm.trans same

/-- A step that raises ends the rest. -/
theorem StepFailed.perform {α : Type} {event : Event} {outcome : List Event → Except PyExc α}
    {f : α → Action Event PyExc (Except Refusal (List PyStr × List (List Cell)))} {exc : PyExc}
    (own : isOtherStep event = true) (unstamped : ¬ Raised D isStamp start) (raised : answer D start event = .error exc)
    (ends : outcome start = .error exc) : StepFailed D ((Traced.perform event outcome >>= f) start) := by
  have other : isStamp event = false := by
    cases event <;> first | rfl | cases own
  rw [perform_bind, ends]
  refine ⟨⟨exc, rfl⟩, ?_, ?_⟩
  · simp [raised_append_singleton, unstamped, other]
  · exact raised_append_singleton.mpr (.inr ⟨own, exc, raised⟩)

theorem ensuring_run {m : Action Event PyExc (Except Refusal (List PyStr × List (List Cell)))} {event : Event}
    {outcome : List Event → Except PyExc Unit} {later : List Event} {result : Result} (ran : m start = (result, later)) :
    ensuring m (perform event outcome) start =
      (match outcome later with
        | .ok _ => result
        | .error exc => .error exc, later ++ [event]) := by
  unfold ensuring Traced.perform
  rw [ran]
  cases closing : outcome later <;> simp [closing]

/-- A failed step before a cleanup stays the failure. -/
theorem StepFailed.ensuring {m : Action Event PyExc (Except Refusal (List PyStr × List (List Cell)))} (event : Event)
    (outcome : List Event → Except PyExc Unit) (other : isStamp event = false) (failed : StepFailed D (m start)) :
    StepFailed D (Traced.ensuring m (Traced.perform event outcome) start) := by
  obtain ⟨exc, raises⟩ := failed.raises
  rw [ensuring_run (Prod.ext raises rfl)]
  refine ⟨?_, ?_, raised_append_singleton.mpr (.inl failed.step)⟩
  · cases outcome (m start).2 with
    | ok _ => exact ⟨exc, rfl⟩
    | error exc' => exact ⟨exc', rfl⟩
  · simp [raised_append_singleton, failed.stamp, other]

/-- A cleanup that raises is a failed step. -/
theorem StepFailed.cleanup {m : Action Event PyExc (Except Refusal (List PyStr × List (List Cell)))} {event : Event}
    {outcome : List Event → Except PyExc Unit} {result : Result} {later : List Event} {exc : PyExc}
    (ran : m start = (result, later)) (own : isOtherStep event = true) (unstamped : ¬ Raised D isStamp later)
    (raised : answer D later event = .error exc) (ends : outcome later = .error exc) :
    StepFailed D (Traced.ensuring m (Traced.perform event outcome) start) := by
  have other : isStamp event = false := by
    cases event <;> first | rfl | cases own
  rw [ensuring_run ran, ends]
  refine ⟨⟨exc, rfl⟩, ?_, ?_⟩
  · simp [raised_append_singleton, unstamped, other]
  · exact raised_append_singleton.mpr (.inr ⟨own, exc, raised⟩)

/-- The ways through an open cursor: the stamp raises, or it succeeds and a later step
    raises, or all succeed. -/
theorem onCursor_cases (subject_reference bounded_sql : PyStr) (unstamped : ¬ Raised D isStamp start) :
    (∃ exc, D.callproc start setIdentifier [subject_reference] = .error exc ∧
      onCursor D subject_reference bounded_sql start = (.ok (.error stampRefusal),
        start ++ [stampEvent subject_reference,
          .log ⟨lit "readonly_query.identity_stamp_failed", [(lit "exception_class", exc.cls.name)]⟩])) ∨
    D.callproc start setIdentifier [subject_reference] = .ok () ∧
      (StepFailed D (onCursor D subject_reference bounded_sql start) ∧
          ¬ Succeed D (start ++ [stampEvent subject_reference]) [.execute bounded_sql, .fetchall] ∨
        ∃ columns fetched, D.execute (start ++ [stampEvent subject_reference]) bounded_sql = .ok columns ∧
          D.fetchall (start ++ [stampEvent subject_reference, .execute bounded_sql]) = .ok fetched ∧
          onCursor D subject_reference bounded_sql start = (.ok (.ok (columns, fetched)),
            start ++ [stampEvent subject_reference, .execute bounded_sql, .fetchall])) := by
  unfold onCursor
  simp only [bind_run (catching _ _), stamp_run]
  cases stamped : D.callproc start setIdentifier [subject_reference] with
  | error exc => exact .inl ⟨exc, rfl, by simp [pure_run]⟩
  | ok _ =>
    refine .inr ⟨rfl, ?_⟩
    have still : ¬ Raised D isStamp (start ++ [stampEvent subject_reference]) := by
      simp [raised_append_singleton, unstamped, answer, stamped]
    simp only [if_true]
    cases executed : D.execute (start ++ [stampEvent subject_reference]) bounded_sql with
    | error exc =>
      refine .inl ⟨.perform rfl still (by simp [answer, executed, Except.map]) executed, ?_⟩
      simp [Succeed, answer, executed, Except.map]
    | ok columns =>
      simp only [perform_bind (Event.execute bounded_sql), executed]
      cases fetches : D.fetchall (start ++ [stampEvent subject_reference] ++ [.execute bounded_sql]) with
      | error exc =>
        have later : ¬ Raised D isStamp (start ++ [stampEvent subject_reference] ++ [.execute bounded_sql]) := by
          rw [raised_append_singleton]
          simp [still, isStamp]
        have raised : answer D (start ++ [stampEvent subject_reference] ++ [.execute bounded_sql]) .fetchall = .error exc := by
          rw [answer, fetches]
          rfl
        refine .inl ⟨.perform rfl later raised fetches, ?_⟩
        rintro ⟨_, succeeded, _⟩
        cases succeeded.symm.trans raised
      | ok fetched =>
        refine .inr ⟨columns, fetched, rfl, by simpa using fetches, ?_⟩
        rw [perform_bind, fetches]
        simp [pure_run]

/-- The use of a connection between the timeout and the close. -/
abbrev useCursor (D : Driver) (subject_reference bounded_sql : PyStr) (ms : Int) :
    Action Event PyExc (Except Refusal (List PyStr × List (List Cell))) := do
  perform (.setCallTimeout ms) (fun history => D.set_call_timeout history ms)
  perform .openCursor D.cursor
  ensuring (onCursor D subject_reference bounded_sql) (perform .exitCursor D.exit_cursor)

theorem onConnection_converted {ms : Int} (converted : milliseconds timeout_s = .ok ms) :
    onConnection D subject_reference bounded_sql timeout_s start =
      ensuring (useCursor D subject_reference bounded_sql ms) (perform .close D.close) start := by
  unfold onConnection
  rw [converted]
  rfl

theorem onConnection_unconverted {exc : PyExc} (unconverted : milliseconds timeout_s = .error exc) :
    onConnection D subject_reference bounded_sql timeout_s start =
      (match D.close start with
        | .ok _ => .error exc
        | .error exc' => .error exc', start ++ [.close]) := by
  unfold onConnection
  rw [unconverted]
  exact ensuring_run rfl

/-- The ways from an open connection to its close, as on the cursor. -/
theorem useCursor_cases (subject_reference bounded_sql : PyStr) (ms : Int) (unstamped : ¬ Raised D isStamp start) :
    (∃ exc, Succeed D start [.setCallTimeout ms, .openCursor] ∧
      D.callproc (start ++ [.setCallTimeout ms, .openCursor]) setIdentifier [subject_reference] = .error exc ∧
      useCursor D subject_reference bounded_sql ms start =
        (match D.exit_cursor (afterFailedStamp subject_reference start ms exc) with
          | .ok _ => .ok (.error stampRefusal)
          | .error exc' => .error exc', afterFailedStamp subject_reference start ms exc ++ [.exitCursor])) ∨
    (Succeed D start [.setCallTimeout ms, .openCursor] →
        D.callproc (start ++ [.setCallTimeout ms, .openCursor]) setIdentifier [subject_reference] = .ok ()) ∧
      (StepFailed D (useCursor D subject_reference bounded_sql ms start) ∧
          ¬ Succeed D start ((steps subject_reference bounded_sql ms).take 6) ∨
        Succeed D start ((steps subject_reference bounded_sql ms).take 6) ∧ ∃ columns fetched,
          D.execute (start ++ (steps subject_reference bounded_sql ms).take 3) bounded_sql = .ok columns ∧
          D.fetchall (start ++ (steps subject_reference bounded_sql ms).take 4) = .ok fetched ∧
          useCursor D subject_reference bounded_sql ms start = (.ok (.ok (columns, fetched)),
            start ++ (steps subject_reference bounded_sql ms).take 6)) := by
  unfold useCursor
  cases timed : D.set_call_timeout start ms with
  | error exc =>
    refine .inr ⟨fun opened => ?_, .inl ⟨.perform rfl unstamped timed timed, fun succeeded => ?_⟩⟩
    · cases timed.symm.trans opened.1
    · cases timed.symm.trans succeeded.1
  | ok _ =>
    have still : ¬ Raised D isStamp (start ++ [.setCallTimeout ms]) := by
      simp [raised_append_singleton, unstamped, isStamp]
    simp only [perform_bind (Event.setCallTimeout ms), timed]
    cases opens : D.cursor (start ++ [.setCallTimeout ms]) with
    | error exc =>
      refine .inr ⟨fun opened => ?_, .inl ⟨.perform rfl still opens opens, fun succeeded => ?_⟩⟩
      · cases opens.symm.trans opened.2.1
      · cases opens.symm.trans succeeded.2.1
    | ok _ =>
      have opened : Succeed D start [.setCallTimeout ms, .openCursor] := ⟨timed, opens, trivial⟩
      have unraised : ¬ Raised D isStamp (start ++ [.setCallTimeout ms, .openCursor]) := by
        rw [List.append_cons, raised_append_singleton]
        simp [still, isStamp]
      simp only [perform_bind, opens, List.append_assoc, List.cons_append, List.nil_append]
      rcases onCursor_cases subject_reference bounded_sql unraised with
        ⟨exc, raised, ran⟩ | ⟨stamped, ⟨failed, broken⟩ | ⟨columns, fetched, executed, fetches, ran⟩⟩
      · refine .inl ⟨exc, opened, raised, ?_⟩
        rw [ensuring_run ran]
        simp [afterFailedStamp]
      · refine .inr ⟨fun _ => stamped, .inl ⟨failed.ensuring _ _ rfl, fun succeeded => broken ?_⟩⟩
        obtain ⟨_, _, _, executed, fetches, _⟩ := succeeded
        exact ⟨by simpa using executed, by simpa using fetches, trivial⟩
      · refine .inr ⟨fun _ => stamped, ?_⟩
        simp only [List.append_assoc, List.cons_append, List.nil_append] at executed fetches ran
        have five : Succeed D start ((steps subject_reference bounded_sql ms).take 5) := by
          simp [steps, Succeed, answer, timed, opens, stamped, executed, fetches, Except.map]
        cases exits : D.exit_cursor (start ++ (steps subject_reference bounded_sql ms).take 5) with
        | error exc =>
          refine .inl ⟨.cleanup ran rfl (five.raised_iff.not.mpr unstamped) exits exits, fun succeeded => ?_⟩
          have six : Succeed D start ((steps subject_reference bounded_sql ms).take 5 ++ [.exitCursor]) := succeeded
          cases exits.symm.trans (succeed_append.mp six).2.1
        | ok _ =>
          have six : Succeed D start ((steps subject_reference bounded_sql ms).take 5 ++ [.exitCursor]) :=
            succeed_append.mpr ⟨five, exits, trivial⟩
          refine .inr ⟨six, columns, fetched, executed, fetches, ?_⟩
          have exited : D.exit_cursor (start ++ [.setCallTimeout ms, .openCursor, stampEvent subject_reference,
            .execute bounded_sql, .fetchall]) = .ok () := exits
          rw [ensuring_run ran, exited]
          simp [steps]

/-- Where the timeout converts, the conditions are about its milliseconds only. -/
theorem onlyStepsFail_iff {ms : Int} (converted : milliseconds timeout_s = .ok ms) :
    OnlyStepsFail D subject_reference bounded_sql timeout_s start ↔
      (∀ exc, Succeed D start [.setCallTimeout ms, .openCursor] →
        D.callproc (start ++ [.setCallTimeout ms, .openCursor]) setIdentifier [subject_reference] = .error exc →
          Succeed D (afterFailedStamp subject_reference start ms exc) [.exitCursor, .close]) ∧
      ∀ columns fetched, Succeed D start (steps subject_reference bounded_sql ms) →
        D.execute (start ++ (steps subject_reference bounded_sql ms).take 3) bounded_sql = .ok columns →
        D.fetchall (start ++ (steps subject_reference bounded_sql ms).take 4) = .ok fetched →
          ∃ rows, fetched.mapM (rowDict columns) = .ok rows := by
  constructor
  · intro only
    exact ⟨fun exc => only.stamp ms exc converted, fun columns fetched => only.rows ms columns fetched converted⟩
  · rintro ⟨stamp, rows⟩
    refine ⟨fun exc unconverted => ?_, fun ms' exc converted' => ?_, fun ms' columns fetched converted' => ?_⟩
    · cases converted.symm.trans unconverted
    · cases converted.symm.trans converted'
      exact stamp exc
    · cases converted.symm.trans converted'
      exact rows columns fetched

/-- A failed step leaves nothing that the other conditions could fail on. -/
theorem onlyStepsFail_of_stepFailed {ms : Int} (converted : milliseconds timeout_s = .ok ms)
    (stamped : Succeed D start [.setCallTimeout ms, .openCursor] →
      D.callproc (start ++ [.setCallTimeout ms, .openCursor]) setIdentifier [subject_reference] = .ok ())
    (fails : ¬ Succeed D start (steps subject_reference bounded_sql ms)) :
    OnlyStepsFail D subject_reference bounded_sql timeout_s start := by
  refine (onlyStepsFail_iff converted).mpr ⟨fun exc opened raised => ?_, fun columns fetched succeeded => ?_⟩
  · cases (stamped opened).symm.trans raised
  · exact absurd succeeded fails

theorem onlyStepsFail_of_stampRaised {ms : Int} {exc : PyExc} (converted : milliseconds timeout_s = .ok ms)
    (raised : D.callproc (start ++ [.setCallTimeout ms, .openCursor]) setIdentifier [subject_reference] = .error exc)
    (cleaned : Succeed D (afterFailedStamp subject_reference start ms exc) [.exitCursor, .close]) :
    OnlyStepsFail D subject_reference bounded_sql timeout_s start := by
  refine (onlyStepsFail_iff converted).mpr ⟨fun exc' opened raised' => ?_, fun columns fetched succeeded => ?_⟩
  · cases raised.symm.trans raised'
    exact cleaned
  · obtain ⟨_, _, stamped, _⟩ := succeeded
    cases raised.symm.trans (by simpa [answer] using stamped)

/-- After a failed stamp, the refusal is returned exactly if the cleanup succeeds. -/
theorem tellsApart_stampRaised {ms : Int} {exc : PyExc} {m : Action Event PyExc (Except Refusal (List PyStr × List (List Cell)))}
    (unfailed : ¬ Raised D isOtherStep start) (opened : Succeed D start [.setCallTimeout ms, .openCursor])
    (raised : D.callproc (start ++ [.setCallTimeout ms, .openCursor]) setIdentifier [subject_reference] = .error exc)
    (ran : m start =
      (match D.exit_cursor (afterFailedStamp subject_reference start ms exc) with
        | .ok _ => .ok (.error stampRefusal)
        | .error exc' => .error exc', afterFailedStamp subject_reference start ms exc ++ [.exitCursor])) :
    TellsApart D (ensuring m (perform .close D.close) start) ↔
      Succeed D (afterFailedStamp subject_reference start ms exc) [.exitCursor, .close] := by
  have split : afterFailedStamp subject_reference start ms exc = start ++ [.setCallTimeout ms, .openCursor] ++
      [stampEvent subject_reference] ++
        [.log ⟨lit "readonly_query.identity_stamp_failed", [(lit "exception_class", exc.cls.name)]⟩] := by
    simp [afterFailedStamp]
  have stampRaised : Raised D isStamp (afterFailedStamp subject_reference start ms exc) := by
    rw [split, raised_append_singleton, raised_append_singleton]
    exact .inl (.inr ⟨rfl, exc, raised⟩)
  have unraised : ¬ Raised D isOtherStep (afterFailedStamp subject_reference start ms exc) := by
    rw [split, raised_append_singleton, raised_append_singleton, opened.raised_iff]
    simp [unfailed, isOtherStep]
  rw [ensuring_run ran]
  generalize afterFailedStamp subject_reference start ms exc = later at stampRaised unraised
  -- both reasons follow from whether the stamp and the cleanup raised
  have stamped : ∀ more, Raised D isStamp (later ++ more) := by
    intro more
    obtain ⟨before, event, after, exc', rfl, rest⟩ := stampRaised
    exact ⟨before, event, after ++ more, exc', by simp, rest⟩
  have unfit : ∀ exc' (more : List Event), ¬ TellsApart D (.error exc', later ++ more) := by
    intro exc' more tells
    obtain ⟨refusal, same⟩ := tells.1.mpr (stamped more)
    cases same
  cases exits : D.exit_cursor later with
  | error exc' =>
    have broken : ¬ Succeed D later [.exitCursor, .close] := fun succeeded => (nomatch exits.symm.trans succeeded.1)
    rw [List.append_assoc]
    refine iff_of_false ?_ broken
    cases D.close (later ++ [.exitCursor]) with
    | ok _ => exact unfit exc' _
    | error exc'' => exact unfit exc'' _
  | ok _ =>
    simp only [List.append_assoc, List.cons_append, List.nil_append]
    cases closes : D.close (later ++ [.exitCursor]) with
    | error exc' =>
      refine iff_of_false (unfit exc' _) ?_
      rintro ⟨_, closed, _⟩
      cases closes.symm.trans closed
    | ok _ =>
      have cleaned : Succeed D later [.exitCursor, .close] := ⟨exits, closes, trivial⟩
      exact iff_of_true ⟨iff_of_true ⟨_, rfl⟩ (stamped _),
        iff_of_false (not_fails_refusal stampRefusal) fun fails => fails.1 (stamped _)⟩ cleaned

/-- Where every step succeeds, nothing else may fail. -/
theorem tellsApart_finished {columns : List PyStr} {fetched : List (List Cell)} (unstamped : ¬ Raised D isStamp start)
    (unfailed : ¬ Raised D isOtherStep start) :
    TellsApart D (.ok (.ok (columns, fetched)), start) ↔ ∃ rows, fetched.mapM (rowDict columns) = .ok rows := by
  cases projected : fetched.mapM (rowDict columns) with
  | error exc =>
    refine iff_of_false (fun tells => ?_) (by simp)
    exact unfailed (tells.2.mp (fails_fetched_iff.mpr ⟨exc, projected⟩)).2
  | ok rows =>
    refine iff_of_true ⟨iff_of_false ?_ unstamped, iff_of_false ?_ fun both => unfailed both.2⟩ ⟨rows, rfl⟩
    · rintro ⟨refusal, same⟩
      cases same
    · rw [fails_fetched_iff, projected]
      rintro ⟨exc, same⟩
      cases same

/-- On an open connection the reasons tell a failed stamp from other failures exactly if
    nothing but a step fails, and no cleanup after a failed stamp. -/
theorem tellsApart_iff (fresh : ∀ event ∈ start, isStamp event = false ∧ isOtherStep event = false) :
    TellsApart D (onConnection D subject_reference bounded_sql timeout_s start) ↔
      OnlyStepsFail D subject_reference bounded_sql timeout_s start := by
  have unstamped : ¬ Raised D isStamp start := not_raised fun event member => (fresh event member).1
  have unfailed : ¬ Raised D isOtherStep start := not_raised fun event member => (fresh event member).2
  cases converted : milliseconds timeout_s with
  | error exc =>
    rw [onConnection_unconverted converted]
    have only : OnlyStepsFail D subject_reference bounded_sql timeout_s start ↔ D.close start ≠ .ok () :=
      ⟨fun only => only.timeout exc converted, fun fails => ⟨fun _ _ => fails,
        fun ms _ converted' => (nomatch converted.symm.trans converted'),
        fun ms _ _ converted' => (nomatch converted.symm.trans converted')⟩⟩
    rw [only]
    cases closing : D.close start with
    | ok _ => simp [TellsApart, Fails, raised_append_singleton, unstamped, unfailed, isStamp, isOtherStep, answer, closing]
    | error exc' => simp [TellsApart, Fails, raised_append_singleton, unstamped, unfailed, isStamp, isOtherStep, answer, closing]
  | ok ms =>
    rw [onConnection_converted converted]
    rcases useCursor_cases subject_reference bounded_sql ms unstamped with
      ⟨exc, opened, raised, ran⟩ | ⟨stamped, ⟨failed, broken⟩ | ⟨succeeded, columns, fetched, executed, fetches, ran⟩⟩
    · rw [tellsApart_stampRaised unfailed opened raised ran]
      exact ⟨onlyStepsFail_of_stampRaised converted raised, fun only => only.stamp ms exc converted opened raised⟩
    · refine iff_of_true (failed.ensuring .close D.close rfl).tellsApart ?_
      exact onlyStepsFail_of_stepFailed converted stamped fun all => broken (succeed_append.mp all).1
    · have whole : steps subject_reference bounded_sql ms = (steps subject_reference bounded_sql ms).take 6 ++ [.close] := rfl
      cases closes : D.close (start ++ (steps subject_reference bounded_sql ms).take 6) with
      | error exc =>
        have failed : StepFailed D (ensuring (useCursor D subject_reference bounded_sql ms) (perform .close D.close) start) := by
          refine .cleanup ran rfl (succeeded.raised_iff.not.mpr unstamped) ?_ closes
          exact closes
        refine iff_of_true failed.tellsApart (onlyStepsFail_of_stepFailed converted stamped fun all => ?_)
        rw [whole] at all
        cases closes.symm.trans (succeed_append.mp all).2.1
      | ok _ =>
        have all : Succeed D start (steps subject_reference bounded_sql ms) := by
          rw [whole]
          exact succeed_append.mpr ⟨succeeded, closes, trivial⟩
        rw [ensuring_run ran, closes, List.append_assoc, ← whole,
          tellsApart_finished (all.raised_iff.not.mpr unstamped) (all.raised_iff.not.mpr unfailed)]
        refine ⟨fun projects => ?_, fun only => only.rows ms columns fetched converted all executed fetches⟩
        refine (onlyStepsFail_iff converted).mpr ⟨fun exc opened raised => ?_, fun columns' fetched' _ executed' fetches' => ?_⟩
        · cases (stamped opened).symm.trans raised
        · cases executed.symm.trans executed'
          cases fetches.symm.trans fetches'
          exact projects

/-! ### Opening a connection -/

theorem Attempt.fresh {cfg : Config} {user : PyStr} {events : List Event} {result : Except PyExc CredentialRead}
    (attempt : Attempt D cfg user start events result) : ∀ event ∈ events, isStamp event = false ∧ isOtherStep event = false := by
  cases attempt <;> simp [isStamp, isOtherStep]

theorem Opening.fresh {cfg : Config} {user : PyStr} {opening : List Event} {result : Except PyExc CredentialRead}
    (opened : Opening D cfg user start opening result) :
    ∀ event ∈ opening, isStamp event = false ∧ isOtherStep event = false := by
  cases opened with
  | once attempt => exact Attempt.fresh attempt
  | retried failed rotated attempt =>
    rw [List.forall_mem_append]
    exact ⟨by simp [isStamp, isOtherStep], Attempt.fresh attempt⟩

theorem onConnection_refusal {refusal : Refusal}
    (refused : (onConnection D subject_reference bounded_sql timeout_s start).1 = .ok (.error refusal)) : refusal = stampRefusal := by
  obtain ⟨ms, _, rest⟩ := ofExcept_bind_eq_ok.mp (ensuring_eq_ok refused)
  obtain ⟨_, _, rest⟩ := perform_bind_eq_ok.mp rest
  obtain ⟨_, _, rest⟩ := perform_bind_eq_ok.mp rest
  obtain ⟨stamped, later, _, rest⟩ := bind_eq_ok.mp (ensuring_eq_ok rest)
  cases stamped with
  | false => exact (Except.error.inj (Except.ok.inj rest)).symm
  | true =>
    obtain ⟨columns, _, rest⟩ := perform_bind_eq_ok.mp rest
    obtain ⟨fetched, _, rest⟩ := perform_bind_eq_ok.mp rest
    cases Except.ok.inj rest
end

/-! ### The run -/

/-- A run that passes every gate and obtains a connection, with the history at that moment. -/
structure Connected (L : Libraries) (W : Surroundings) (call : Call) (cache : ReplayCache) (plan : Plan) (encoded : Bytes)
    (credential : CredentialRead) (start : List Event) : Prop where
  admitted : (preflight L W call cache).outcome = .ok (.ok plan)
  encodes : encodeUtf8 plan.claims.sub = .ok encoded
  opened : openConnection W.driver call.cfg plan.claims.proxy_db_identity (preflight L W call cache).trace =
    (.ok credential, start)

def HasReason (finished : Finished) (reason : RefusalReason) : Prop :=
  ∃ message, finished.outcome = .ok (.refusal ⟨reason, message⟩)

/-- The reason is the failed stamp exactly if the stamp raised, and the failed execution
    exactly if the stamp did not raise and some other step did. -/
def Classified (D : Driver) (finished : Finished) : Prop :=
  (HasReason finished .query_identity_stamp_failed ↔ Raised D isStamp finished.trace) ∧
    (HasReason finished .query_execution_failed ↔ ¬ Raised D isStamp finished.trace ∧ Raised D isOtherStep finished.trace)

section
variable {L : Libraries} {W : Surroundings} {call : Call} {cache : ReplayCache} {plan : Plan} {encoded : Bytes}
  {credential : CredentialRead} {start : List Event}

theorem Connected.fresh (connected : Connected L W call cache plan encoded credential start) :
    ∀ event ∈ start, isStamp event = false ∧ isOtherStep event = false := by
  obtain ⟨opening, extended, opened⟩ : ∃ opening, (openConnection W.driver call.cfg plan.claims.proxy_db_identity
      (preflight L W call cache).trace).2 = (preflight L W call cache).trace ++ opening ∧ _ := openConnection_opening
  rw [connected.opened] at extended opened
  obtain rfl : start = (preflight L W call cache).trace ++ opening := extended
  rw [List.forall_mem_append]
  refine ⟨fun event member => ?_, Opening.fresh opened⟩
  obtain ⟨record, rfl⟩ := preflight_quiet L W call cache event member
  exact ⟨rfl, rfl⟩

theorem hasReason_refusal {refusal : Refusal} {reason : RefusalReason} {later : List Event} :
    HasReason ⟨.ok (.refusal refusal), cache, later⟩ reason ↔ refusal.reason = reason := by
  constructor
  · rintro ⟨message, same⟩
    cases same
    rfl
  · rintro rfl
    exact ⟨refusal.message, rfl⟩

theorem raised_log {D : Driver} {kind : Event → Bool} {later : List Event} (record : LogRecord) :
    Raised D kind (later ++ [.log record]) ↔ Raised D kind later := by
  rw [raised_append_singleton]
  simp [answer]

/-- The last handler gives every failure of the use its reason. -/
theorem classified_failed {D : Driver} {result : Result} {later : List Event} (message : PyStr) (record : LogRecord)
    (fails : Fails result) : Classified D ⟨.ok (.refusal ⟨.query_execution_failed, message⟩), cache, later ++ [.log record]⟩ ↔
      TellsApart D (result, later) := by
  have unrefused : ¬ ∃ refusal, result = .ok (.error refusal) := by
    rintro ⟨refusal, rfl⟩
    rcases fails with ⟨exc, same⟩ | ⟨columns, fetched, exc, same, _⟩
    · cases same
    · cases same
  unfold Classified TellsApart
  simp [hasReason_refusal, raised_log, fails, unrefused]

/-- The run has the reasons of what the use of its connection returns. -/
theorem classified_iff_tellsApart (connected : Connected L W call cache plan encoded credential start) :
    Classified W.driver (run L W call cache) ↔ TellsApart W.driver
      (onConnection W.driver (L.sha256_hexdigest encoded) plan.bounded_sql plan.timeout_s start) := by
  have refuses : ∀ refusal, (onConnection W.driver (L.sha256_hexdigest encoded) plan.bounded_sql plan.timeout_s start).1 =
    .ok (.error refusal) → refusal = stampRefusal := fun refusal => onConnection_refusal
  rw [run_of_plan connected.admitted]
  unfold databaseLeg execute catching
  simp only [connected.encodes, ofExcept_bind, bind_run (openConnection _ _ _), connected.opened, bind_run (onConnection _ _ _ _)]
  cases used : onConnection W.driver (L.sha256_hexdigest encoded) plan.bounded_sql plan.timeout_s start with
  | mk result later =>
    rw [used] at refuses
    match result with
    | .error exc => exact classified_failed _ _ (.inl ⟨exc, rfl⟩)
    | .ok (.error refusal) =>
      obtain rfl := refuses refusal rfl
      have reason : stampRefusal.reason = .query_identity_stamp_failed := rfl
      show Classified _ ⟨.ok (.refusal stampRefusal), _, later⟩ ↔ _
      unfold Classified TellsApart
      simp [hasReason_refusal, not_fails_refusal, reason]
    | .ok (.ok (columns, fetched)) =>
      simp only [ofExcept_bind]
      cases projected : fetched.mapM (rowDict columns) with
      | error exc => exact classified_failed _ _ (fails_fetched_iff.mpr ⟨exc, projected⟩)
      | ok rows =>
        have succeeded : ∀ reason, ¬ HasReason ⟨.ok (.success rows rows.length (decide (plan.effective ≤ rows.length))
            credential.rotation_ref), (preflight L W call cache).cache, later⟩ reason := by
          rintro reason ⟨message, same⟩
          cases same
        show Classified _ ⟨.ok (.success rows rows.length (decide (plan.effective ≤ rows.length))
            credential.rotation_ref), (preflight L W call cache).cache, later⟩ ↔ _
        unfold Classified TellsApart
        simp [succeeded, fails_fetched_iff, projected]
end

/-- A run on an open connection names its failure by the stamp or by another step exactly
    if nothing else fails: the timeout is a number of milliseconds, the rows have a
    projection, and the cleanup after a failed stamp succeeds. -/
theorem failure_classified_iff (L : Libraries) (W : Surroundings) (call : Call) (cache : ReplayCache) (plan : Plan)
    (encoded : Bytes) (credential : CredentialRead) (start : List Event)
    (connected : Connected L W call cache plan encoded credential start) :
    Classified W.driver (run L W call cache) ↔
      OnlyStepsFail W.driver (L.sha256_hexdigest encoded) plan.bounded_sql plan.timeout_s start := by
  rw [classified_iff_tellsApart connected]
  exact tellsApart_iff connected.fresh

/-- A database that gives one row, and a session that is dead when it is to be stamped. -/
def deadSession : Driver :=
  { answering [lit "DUMMY"] [[.str (lit "X")]] with
    callproc := fun _ _ _ => .error (.ofText .Exception (lit "DPY-1001")),
    close := fun _ => .error (.ofText .Exception (lit "DPY-1001")) }

theorem dual_connected (driver : Driver) (credential : CredentialRead)
    (reads : ∀ history path, driver.read_credential history path = .ok credential)
    (connects : ∀ history user password dsn, driver.connect history user password dsn = .ok ()) :
    ∃ encoded start, Connected dualLibraries { dualSurroundings with driver := driver } sampleCall .fresh
      ⟨sampleClaims, dualText, 100, .finite 30⟩ encoded credential start := by
  obtain ⟨encoded, encodes⟩ : ∃ bytes, encodeUtf8 (lit "user") = .ok bytes := ⟨_, rfl⟩
  obtain ⟨start, opened⟩ : ∃ start, openConnection driver sampleCall.cfg sampleClaims.proxy_db_identity
      (preflight dualLibraries { dualSurroundings with driver := driver } sampleCall .fresh).trace = (.ok credential, start) := by
    unfold openConnection
    simp only [readCredential_bind, readAt, reads, catching, connectAs_run, connectAt, connects]
    exact ⟨_, rfl⟩
  exact ⟨encoded, start, dual_preflight driver, encodes, opened⟩

/-- A database that refuses to be stamped, on a session that closes as it should. -/
def unstamped : Driver :=
  { answering [lit "DUMMY"] [[.str (lit "X")]] with callproc := fun _ _ _ => .error (.ofText .Exception (lit "ORA-01031")) }

/-- A failed stamp keeps its name where the cleanup succeeds. -/
theorem failure_classified_iff_unstamped :
    Classified unstamped (run dualLibraries { dualSurroundings with driver := unstamped } sampleCall .fresh) := by
  obtain ⟨encoded, start, connected⟩ := dual_connected unstamped ⟨[], []⟩ (fun _ _ => rfl) (fun _ _ _ _ => rfl)
  refine (failure_classified_iff dualLibraries { dualSurroundings with driver := unstamped } sampleCall .fresh _ encoded _ start
    connected).mpr ⟨?_, ?_, ?_⟩
  · intro exc unconverted
    cases milliseconds_thirty.symm.trans unconverted
  · intro ms exc _ _ _
    exact ⟨rfl, rfl, trivial⟩
  · intro ms columns fetched _ succeeded
    cases succeeded.2.2.1

/-- The stamp of a dead session raises and so does the close, and the reason is the failed execution. -/
theorem deadSession_misnamed : ∃ encoded start,
    Connected dualLibraries { dualSurroundings with driver := deadSession } sampleCall .fresh
        ⟨sampleClaims, dualText, 100, .finite 30⟩ encoded ⟨[], []⟩ start ∧
      ¬ Classified deadSession (run dualLibraries { dualSurroundings with driver := deadSession } sampleCall .fresh) := by
  obtain ⟨encoded, start, connected⟩ := dual_connected deadSession ⟨[], []⟩ (fun _ _ => rfl) (fun _ _ _ _ => rfl)
  refine ⟨encoded, start, connected, fun classified => ?_⟩
  have only := (tellsApart_iff connected.fresh).mp ((classified_iff_tellsApart connected).mp classified)
  obtain ⟨_, closed, _⟩ := only.stamp 30000 _ milliseconds_thirty ⟨rfl, rfl, trivial⟩ rfl
  cases closed

end OracleSchema.Failures
