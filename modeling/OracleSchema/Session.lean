import OracleSchema.Execution

/-!
The protocol of one database leg, on its events: at most two connection attempts, the
connection closed once, the user SQL once and on a stamped session, and the rotation
reference of the credential that opened the connection (`session_protocol`).
-/
namespace OracleSchema.Session
open OracleSchema.Strings OracleSchema.Errors OracleSchema.Settings OracleSchema.SqlGate OracleSchema.Traced
open OracleSchema.Execution

def setIdentifier : PyStr := lit "dbms_session.set_identifier"

def isConnect : Event → Bool
  | .connect _ _ _ => true
  | _ => false
def isExecute : Event → Bool
  | .execute _ => true
  | _ => false
/-- The event runs SQL in the session. -/
def runsSql : Event → Bool
  | .callproc _ _ => true
  | .execute _ => true
  | _ => false

abbrev readEvent (cfg : Config) : Event := .readCredential cfg.oracle_password_file
abbrev connectEvent (cfg : Config) (user : PyStr) (credential : CredentialRead) : Event :=
  .connect user credential.password cfg.oracle_dsn
abbrev stampEvent (digest : PyStr) : Event := .callproc setIdentifier [digest]

section
variable (D : Driver) (cfg : Config) (user : PyStr)

/-- The answers of the credential file and of the driver after a history. -/
abbrev readAt (history : List Event) : Except PyExc CredentialRead := D.read_credential history cfg.oracle_password_file
abbrev connectAt (history : List Event) (credential : CredentialRead) : Except PyExc Unit :=
  D.connect history user credential.password cfg.oracle_dsn

/-! ### The parts of a session -/

/-- One reading of the credential file and one attempt with it. -/
inductive Attempt (start : List Event) : List Event → Except PyExc CredentialRead → Prop
  | unread {exc : PyExc} (failed : readAt D cfg start = .error exc) : Attempt start [readEvent cfg] (.error exc)
  | refused {c : CredentialRead} {exc : PyExc} (read : readAt D cfg start = .ok c)
      (failed : connectAt D cfg user (start ++ [readEvent cfg]) c = .error exc) :
      Attempt start [readEvent cfg, connectEvent cfg user c] (.error exc)
  | opened {c : CredentialRead} (read : readAt D cfg start = .ok c)
      (connected : connectAt D cfg user (start ++ [readEvent cfg]) c = .ok ()) :
      Attempt start [readEvent cfg, connectEvent cfg user c] (.ok c)

/-- The events up to an open connection, with the credential that opened it, or up to
    the failure to open one. -/
inductive Opening (start : List Event) : List Event → Except PyExc CredentialRead → Prop
  | once {events : List Event} {result : Except PyExc CredentialRead} (attempt : Attempt D cfg user start events result) :
      Opening start events result
  | retried {c : CredentialRead} {exc : PyExc} {events : List Event} {result : Except PyExc CredentialRead}
      (failed : connectAt D cfg user (start ++ [readEvent cfg]) c = .error exc) (rotated : isAuthError exc = true)
      (attempt : Attempt D cfg user (start ++ [readEvent cfg, connectEvent cfg user c]) events result) :
      Opening start ([readEvent cfg, connectEvent cfg user c] ++ events) result

/-- No connection event, and no user SQL. -/
def Quiet (event : Event) : Prop := isConnect event = false ∧ event ≠ .close ∧ isExecute event = false

/-- The events on an open connection before it is closed: no user SQL, or the stamp
    succeeds and the user SQL follows. -/
inductive Use (digest sql : PyStr) (start : List Event) : List Event → Prop
  | unstamped {body : List Event} (quiet : ∀ event ∈ body, Quiet event) : Use digest sql start body
  | stamped {ms : Int} {after : List Event}
      (succeeded : D.callproc (start ++ [.setCallTimeout ms, .openCursor]) setIdentifier [digest] = .ok ())
      (quiet : ∀ event ∈ after, Quiet event) :
      Use digest sql start ([.setCallTimeout ms, .openCursor, stampEvent digest, .execute sql] ++ after)
end

section
variable {D : Driver} {cfg : Config} {proxy_db_identity digest sql : PyStr} {start : List Event}

theorem readCredential_bind {α : Type} (f : CredentialRead → Action Event PyExc α) :
    (readCredential D cfg >>= f) start =
      match readAt D cfg start with
      | .ok c => f c (start ++ [readEvent cfg])
      | .error exc => (.error exc, start ++ [readEvent cfg]) := by
  rw [readCredential, perform_bind, readAt]
  cases D.read_credential start cfg.oracle_password_file <;> rfl

theorem connectAs_run (c : CredentialRead) :
    (do connectAs D cfg proxy_db_identity c; pure c : Action Event PyExc CredentialRead) start =
      match connectAt D cfg (proxyUser cfg proxy_db_identity) start c with
      | .ok _ => (.ok c, start ++ [connectEvent cfg (proxyUser cfg proxy_db_identity) c])
      | .error exc => (.error exc, start ++ [connectEvent cfg (proxyUser cfg proxy_db_identity) c]) := by
  rw [connectAs, perform_bind, connectAt]
  cases D.connect start (proxyUser cfg proxy_db_identity) c.password cfg.oracle_dsn <;> rfl

theorem attempt_run : ∃ events, Attempt D cfg (proxyUser cfg proxy_db_identity) start events
      ((readCredential D cfg >>= fun c => do connectAs D cfg proxy_db_identity c; pure c) start).1 ∧
    ((readCredential D cfg >>= fun c => do connectAs D cfg proxy_db_identity c; pure c) start).2 = start ++ events := by
  rw [readCredential_bind]
  cases read : readAt D cfg start with
  | error exc => exact ⟨_, .unread read, rfl⟩
  | ok c =>
    simp only [connectAs_run]
    cases first : connectAt D cfg (proxyUser cfg proxy_db_identity) (start ++ [readEvent cfg]) c with
    | error exc => exact ⟨_, .refused read first, by simp⟩
    | ok connected => exact ⟨_, .opened read first, by simp⟩

/-- What opening a connection adds to the history and returns. -/
theorem openConnection_opening : ∃ opening, (openConnection D cfg proxy_db_identity start).2 = start ++ opening ∧
    Opening D cfg (proxyUser cfg proxy_db_identity) start opening (openConnection D cfg proxy_db_identity start).1 := by
  unfold openConnection
  rw [readCredential_bind]
  cases read : readAt D cfg start with
  | error exc => exact ⟨_, rfl, .once (.unread read)⟩
  | ok c =>
    simp only [catching, connectAs_run]
    cases first : connectAt D cfg (proxyUser cfg proxy_db_identity) (start ++ [readEvent cfg]) c with
    | ok connected => exact ⟨_, by simp, .once (.opened read first)⟩
    | error exc =>
      simp only
      by_cases rotated : isAuthError exc = true
      · rw [if_pos rotated, List.append_assoc]
        obtain ⟨events, attempt, final⟩ : ∃ events, Attempt D cfg (proxyUser cfg proxy_db_identity)
          (start ++ [readEvent cfg, connectEvent cfg (proxyUser cfg proxy_db_identity) c]) events _ ∧ _ := attempt_run
        exact ⟨_, final.trans (List.append_assoc _ _ _), .retried first rotated attempt⟩
      · rw [if_neg rotated]
        exact ⟨_, by simp [Traced.ofExcept], .once (.refused read first)⟩

/-- The stamp attempt: whether it succeeded, with a log record where it did not. -/
theorem stamp_run : (catching (do
      perform (.callproc (lit "dbms_session.set_identifier") [digest])
        (fun history => D.callproc history (lit "dbms_session.set_identifier") [digest])
      pure true)
    (fun exc => do
      note (.log ⟨lit "readonly_query.identity_stamp_failed", [(lit "exception_class", exc.cls.name)]⟩)
      pure false) : Action Event PyExc Bool) start =
    match D.callproc start setIdentifier [digest] with
    | .ok _ => (.ok true, start ++ [stampEvent digest])
    | .error exc => (.ok false, start ++ [stampEvent digest] ++
        [.log ⟨lit "readonly_query.identity_stamp_failed", [(lit "exception_class", exc.cls.name)]⟩]) := by
  rw [catching, perform_bind]
  show _ = (match D.callproc start (lit "dbms_session.set_identifier") [digest] with
    | .ok _ => _
    | .error exc => _)
  cases D.callproc start (lit "dbms_session.set_identifier") [digest] <;> rfl

theorem onCursor_use : ∃ inner, (onCursor D digest sql start).2 = start ++ inner ∧
    ((∀ event ∈ inner, Quiet event) ∨
      D.callproc start setIdentifier [digest] = .ok () ∧ ∃ after, (∀ event ∈ after, Quiet event) ∧
        inner = [stampEvent digest, .execute sql] ++ after) := by
  unfold onCursor
  rw [bind_run, stamp_run]
  cases succeeded : D.callproc start setIdentifier [digest] with
  | error exc =>
    refine ⟨[stampEvent digest, .log ⟨lit "readonly_query.identity_stamp_failed", [(lit "exception_class", exc.cls.name)]⟩],
      by simp [pure_run], .inl ?_⟩
    simp [Quiet, isConnect, isExecute]
  | ok stamped =>
    simp only [if_true, perform_bind]
    cases D.execute (start ++ [stampEvent digest]) sql with
    | error exc => exact ⟨[stampEvent digest, .execute sql], by simp, .inr ⟨trivial, [], by simp, rfl⟩⟩
    | ok columns =>
      have quiet : ∀ event ∈ [Event.fetchall], Quiet event := by simp [Quiet, isConnect, isExecute]
      refine ⟨[stampEvent digest, .execute sql, .fetchall], ?_, .inr ⟨trivial, [.fetchall], quiet, rfl⟩⟩
      simp only
      cases D.fetchall (start ++ [stampEvent digest] ++ [.execute sql]) <;> simp [pure_run]

/-- What the use of an open connection adds to the history, the close last. -/
theorem onConnection_use (timeout_s : PyReal) :
    ∃ body, (onConnection D digest sql timeout_s start).2 = start ++ body ++ [.close] ∧ Use D digest sql start body := by
  unfold onConnection
  rw [ensuring_perform]
  rw [ofExcept_bind]
  cases milliseconds timeout_s with
  | error exc => exact ⟨[], by simp, .unstamped (by simp)⟩
  | ok ms =>
    simp only [perform_bind]
    cases D.set_call_timeout start ms with
    | error exc => exact ⟨[.setCallTimeout ms], by simp, .unstamped (by simp [Quiet, isConnect, isExecute])⟩
    | ok timed =>
      simp only
      cases D.cursor (start ++ [.setCallTimeout ms]) with
      | error exc =>
        exact ⟨[.setCallTimeout ms, .openCursor], by simp, .unstamped (by simp [Quiet, isConnect, isExecute])⟩
      | ok opened =>
        simp only [ensuring_perform, List.append_assoc, List.cons_append, List.nil_append]
        obtain ⟨inner, final, shape⟩ : ∃ inner, (onCursor D digest sql (start ++ [.setCallTimeout ms, .openCursor])).2 = _ ∧ _ :=
          onCursor_use
        rw [final]
        have first : ∀ event ∈ [Event.setCallTimeout ms, .openCursor], Quiet event := by simp [Quiet, isConnect, isExecute]
        have last : ∀ event ∈ [Event.exitCursor], Quiet event := by simp [Quiet, isConnect, isExecute]
        rcases shape with silent | ⟨succeeded, after, silent, rfl⟩
        · refine ⟨[.setCallTimeout ms, .openCursor] ++ inner ++ [.exitCursor], by simp, .unstamped ?_⟩
          rw [List.forall_mem_append, List.forall_mem_append]
          exact ⟨⟨first, silent⟩, last⟩
        · refine ⟨[.setCallTimeout ms, .openCursor, stampEvent digest, .execute sql] ++ (after ++ [.exitCursor]), by simp,
            .stamped succeeded ?_⟩
          rw [List.forall_mem_append]
          exact ⟨silent, last⟩

/-! ### Opening -/

theorem Attempt.connect {user u p d : PyStr} {events : List Event} {result : Except PyExc CredentialRead} {n : Nat}
    (attempt : Attempt D cfg user start events result) (found : events[n]? = some (.connect u p d)) :
    n = 1 ∧ ∃ c, readAt D cfg start = .ok c ∧ events = [readEvent cfg, connectEvent cfg user c] ∧
      .connect u p d = connectEvent cfg user c := by
  have second : ∀ {c : CredentialRead}, [readEvent cfg, connectEvent cfg user c][n]? = some (.connect u p d) →
      n = 1 ∧ .connect u p d = connectEvent cfg user c := by
    intro c found
    match n with
    | 0 => cases found
    | 1 => exact ⟨rfl, (Option.some.inj found).symm⟩
    | n + 2 => cases found
  cases attempt with
  | unread failed =>
    match n with
    | 0 => cases found
    | n + 1 => cases found
  | refused read failed => exact ⟨(second found).1, _, read, rfl, (second found).2⟩
  | opened read connected => exact ⟨(second found).1, _, read, rfl, (second found).2⟩

/-- A second attempt comes after an authentication error of the first and a new read. -/
theorem Opening.retry {user : PyStr} {opening : List Event} {outcome : Except PyExc CredentialRead}
    (shape : Opening D cfg user start opening outcome) {i j : Nat} {u p d u' p' d' : PyStr} (before : i < j)
    (first : opening[i]? = some (.connect u p d)) (second : opening[j]? = some (.connect u' p' d')) :
    (∃ exc, D.connect (start ++ opening.take i) u p d = .error exc ∧ isAuthError exc = true) ∧
      ∃ k path credential, i < k ∧ k < j ∧ opening[k]? = some (.readCredential path) ∧
        D.read_credential (start ++ opening.take k) path = .ok credential ∧ p' = credential.password := by
  cases shape with
  | once attempt =>
    have atOne := (attempt.connect first).1
    have atOne' := (attempt.connect second).1
    omega
  | @retried c exc events _ failed rotated attempt =>
    match j, second with
    | 0, second => cases second
    | 1, second =>
      obtain rfl : i = 0 := by omega
      cases first
    | j + 2, second =>
      obtain ⟨rfl, c', read, rfl, same⟩ := attempt.connect second
      have atOne : i = 1 := by
        match i, first with
        | 0, first => cases first
        | 1, _ => rfl
        | i + 2, first =>
          have tooLate := (attempt.connect first).1
          omega
      subst atOne
      cases first
      cases same
      exact ⟨⟨exc, failed, rotated⟩, 2, _, c', by decide, by decide, rfl, read, rfl⟩

/-- An attempt that opened a connection ends with the read of its credential and the connect. -/
theorem Attempt.shape {user : PyStr} {events : List Event} {c : CredentialRead}
    (attempt : Attempt D cfg user start events (.ok c)) :
    events = [readEvent cfg, connectEvent cfg user c] ∧ readAt D cfg start = .ok c ∧
      connectAt D cfg user (start ++ [readEvent cfg]) c = .ok () := by
  cases attempt with
  | opened read connected => exact ⟨rfl, read, connected⟩

theorem Opening.shape {user : PyStr} {opening : List Event} {c : CredentialRead}
    (opened : Opening D cfg user start opening (.ok c)) :
    ∃ front, opening = front ++ [readEvent cfg, connectEvent cfg user c] ∧ readAt D cfg (start ++ front) = .ok c ∧
      connectAt D cfg user (start ++ front ++ [readEvent cfg]) c = .ok () := by
  cases opened with
  | once attempt =>
    obtain ⟨rfl, read, connected⟩ := attempt.shape
    exact ⟨[], rfl, by rwa [List.append_nil], by rwa [List.append_nil]⟩
  | @retried c' exc events _ failed rotated attempt =>
    obtain ⟨rfl, read, connected⟩ := attempt.shape
    exact ⟨[readEvent cfg, connectEvent cfg user c'], rfl, read, connected⟩

/-- A connection that was opened is the one that is used. -/
theorem Attempt.connected {user u p d : PyStr} {events : List Event} {result : Except PyExc CredentialRead} {n : Nat}
    (attempt : Attempt D cfg user start events result) (found : events[n]? = some (.connect u p d))
    (succeeded : D.connect (start ++ events.take n) u p d = .ok ()) : ∃ c, result = .ok c := by
  obtain ⟨rfl, c, read, shape, same⟩ := attempt.connect found
  cases same
  cases attempt with
  | unread failed => cases shape
  | refused read' failed =>
    cases read'.symm.trans read
    exact nomatch failed.symm.trans succeeded
  | opened read' connected => exact ⟨_, rfl⟩

theorem Opening.connected {user u p d : PyStr} {opening : List Event} {result : Except PyExc CredentialRead} {n : Nat}
    (shape : Opening D cfg user start opening result) (found : opening[n]? = some (.connect u p d))
    (succeeded : D.connect (start ++ opening.take n) u p d = .ok ()) : ∃ c, result = .ok c := by
  cases shape with
  | once attempt => exact attempt.connected found succeeded
  | @retried c' exc events _ failed rotated attempt =>
    match n, found, succeeded with
    | 0, found, _ => cases found
    | 1, found, succeeded =>
      cases found
      exact nomatch failed.symm.trans succeeded
    | n + 2, found, succeeded =>
      refine attempt.connected found ?_
      rwa [List.append_assoc]

/-- Opening a connection runs no SQL and closes nothing. -/
theorem Attempt.before {user : PyStr} {events : List Event} {result : Except PyExc CredentialRead}
    (attempt : Attempt D cfg user start events result) :
    (∀ event ∈ events, runsSql event = false ∧ event ≠ .close) ∧ events.countP isConnect ≤ 1 := by
  cases attempt <;> simp [runsSql, isConnect, List.countP_cons]

theorem Opening.before {user : PyStr} {opening : List Event} {result : Except PyExc CredentialRead}
    (shape : Opening D cfg user start opening result) :
    (∀ event ∈ opening, runsSql event = false ∧ event ≠ .close) ∧ opening.countP isConnect ≤ 2 := by
  cases shape with
  | once attempt => exact ⟨attempt.before.1, Nat.le_succ_of_le attempt.before.2⟩
  | @retried c' exc events _ failed rotated attempt =>
    constructor
    · rw [List.forall_mem_append]
      exact ⟨by simp [runsSql], attempt.before.1⟩
    · rw [List.countP_append]
      exact Nat.add_le_add (show List.countP isConnect [readEvent cfg, connectEvent cfg user c'] ≤ 1 by
        simp [isConnect, List.countP_cons]) attempt.before.2

/-- Neither the use of a connection nor its close opens another one. -/
theorem Use.connects {body : List Event} (use : Use D digest sql start body) :
    ∀ event ∈ body ++ [.close], isConnect event = false := by
  rw [List.forall_mem_append]
  refine ⟨?_, by simp [isConnect]⟩
  cases use with
  | unstamped quiet => exact fun event member => (quiet event member).1
  | stamped succeeded quiet =>
    rw [List.forall_mem_append]
    exact ⟨by simp [isConnect], fun event member => (quiet event member).1⟩

theorem Use.closes {body : List Event} (use : Use D digest sql start body) : .close ∉ body := by
  intro member
  cases use with
  | unstamped quiet => exact (quiet _ member).2.1 rfl
  | stamped succeeded quiet =>
    rcases List.mem_append.mp member with early | late
    · simp at early
    · exact (quiet _ late).2.1 rfl

theorem countP_quiet {events : List Event} (quiet : ∀ event ∈ events, Quiet event) : events.countP isExecute = 0 := by
  rw [List.countP_eq_zero]
  intro event member
  rw [(quiet event member).2.2]
  decide

theorem Use.executes {body : List Event} (use : Use D digest sql start body) : body.countP isExecute ≤ 1 := by
  cases use with
  | unstamped quiet => exact (countP_quiet quiet).trans_le (Nat.zero_le 1)
  | stamped succeeded quiet =>
    rw [List.countP_append, countP_quiet quiet]
    simp [isExecute, List.countP_cons]

/-- An event that the second part lacks is found in the first. -/
theorem in_front {front rest : List Event} {n : Nat} {event : Event} (found : (front ++ rest)[n]? = some event)
    (absent : event ∉ rest) : front[n]? = some event ∧ (front ++ rest).take n = front.take n := by
  by_cases inside : n < front.length
  · rw [List.getElem?_append_left inside] at found
    exact ⟨found, List.take_append_of_le_length inside.le⟩
  · rw [List.getElem?_append_right (Nat.le_of_not_lt inside)] at found
    exact absurd (List.mem_of_getElem? found) absent

/-! ### The whole leg -/

section
variable (D cfg) (sha256_hexdigest : Bytes → PyStr) (user verified_subject bounded_sql : PyStr)

/-- One leg by its events and its outcome: a subject that has no UTF-8, no connection, or
    a connection that is opened, used and closed. -/
inductive Leg (start : List Event) : List Event → Except PyExc Envelope → Prop
  | unencoded {exc : PyExc} : Leg start [] (.error exc)
  | unopened {opening : List Event} {exc : PyExc} (opened : Opening D cfg user start opening (.error exc)) :
      Leg start opening (.error exc)
  | used {opening body : List Event} {c : CredentialRead} {encoded : Bytes} {outcome : Except PyExc Envelope}
      (encodes : encodeUtf8 verified_subject = .ok encoded) (opened : Opening D cfg user start opening (.ok c))
      (use : Use D (sha256_hexdigest encoded) bounded_sql (start ++ opening) body)
      (ref : ∀ rows row_count truncated rotation_ref,
        outcome = .ok (.success rows row_count truncated rotation_ref) → rotation_ref = c.rotation_ref) :
      Leg start (opening ++ (body ++ [Event.close])) outcome
end

variable {sha256_hexdigest : Bytes → PyStr} {verified_subject bounded_sql : PyStr}

theorem execute_leg (effective : Int) (timeout_s : PyReal) :
    ∃ session, (execute D cfg sha256_hexdigest proxy_db_identity verified_subject bounded_sql effective timeout_s start).2 =
        start ++ session ∧
      Leg D cfg sha256_hexdigest (proxyUser cfg proxy_db_identity) verified_subject bounded_sql start session
        (execute D cfg sha256_hexdigest proxy_db_identity verified_subject bounded_sql effective timeout_s start).1 := by
  unfold execute
  rw [ofExcept_bind]
  cases encodes : encodeUtf8 verified_subject with
  | error exc => exact ⟨[], (List.append_nil _).symm, .unencoded⟩
  | ok encoded =>
    simp only [bind_run (openConnection D cfg proxy_db_identity)]
    obtain ⟨opening, extended, opened⟩ : ∃ opening, (openConnection D cfg proxy_db_identity start).2 = start ++ opening ∧ _ :=
      openConnection_opening
    cases opens : openConnection D cfg proxy_db_identity start with
    | mk result later =>
      rw [opens] at extended opened
      obtain rfl : later = start ++ opening := extended
      cases result with
      | error exc => exact ⟨opening, rfl, .unopened opened⟩
      | ok c =>
        simp only [bind_run (onConnection D (sha256_hexdigest encoded) bounded_sql timeout_s)]
        obtain ⟨body, closed, use⟩ : ∃ body,
          (onConnection D (sha256_hexdigest encoded) bounded_sql timeout_s (start ++ opening)).2 = _ ∧ _ := onConnection_use timeout_s
        cases uses : onConnection D (sha256_hexdigest encoded) bounded_sql timeout_s (start ++ opening) with
        | mk finished last =>
          rw [uses] at closed
          obtain rfl : last = start ++ opening ++ body ++ [.close] := closed
          rw [List.append_assoc, List.append_assoc]
          match finished with
          | .error exc => exact ⟨_, rfl, .used encodes opened use nofun⟩
          | .ok (.error refusal) => exact ⟨_, rfl, .used encodes opened use nofun⟩
          | .ok (.ok (columns, fetched)) =>
            simp only [ofExcept_bind]
            cases fetched.mapM (rowDict columns) with
            | error exc => exact ⟨_, rfl, .used encodes opened use nofun⟩
            | ok rows =>
              refine ⟨_, rfl, .used encodes opened use ?_⟩
              rintro rows' row_count truncated rotation_ref same
              cases same
              rfl

/-! ### The protocol -/

section
variable (D cfg) (sha256_hexdigest : Bytes → PyStr) (verified_subject bounded_sql : PyStr)

/-- The rules of a session by positions in it. What an event answered is what the driver
    answers to the history before the event. -/
structure Protocol (start session : List Event) (outcome : Except PyExc Envelope) : Prop where
  attempts : session.countP isConnect ≤ 2
  /-- A second attempt follows an authentication error, with a credential read after it. -/
  retry : ∀ i j u p d u' p' d', i < j → session[i]? = some (.connect u p d) → session[j]? = some (.connect u' p' d') →
    (∃ exc, D.connect (start ++ session.take i) u p d = .error exc ∧ isAuthError exc = true) ∧
      ∃ k path credential, i < k ∧ k < j ∧ session[k]? = some (.readCredential path) ∧
        D.read_credential (start ++ session.take k) path = .ok credential ∧ p' = credential.password
  /-- A connection that was obtained is closed once, after it was obtained. -/
  closed : ∀ i u p d, session[i]? = some (.connect u p d) → D.connect (start ++ session.take i) u p d = .ok () →
    session.count Event.close = 1 ∧ ∃ k, i < k ∧ session[k]? = some .close
  executes : session.countP isExecute ≤ 1
  /-- The user SQL runs on an open connection whose identifier was set, and no other SQL
      runs before it. -/
  stamped : ∀ j sql, session[j]? = some (.execute sql) → sql = bounded_sql ∧
    ∃ i k u p d encoded, i < k ∧ k < j ∧
      session[i]? = some (.connect u p d) ∧ D.connect (start ++ session.take i) u p d = .ok () ∧
      .close ∉ session.take j ∧
      encodeUtf8 verified_subject = .ok encoded ∧
      session[k]? = some (.callproc setIdentifier [sha256_hexdigest encoded]) ∧
      D.callproc (start ++ session.take k) setIdentifier [sha256_hexdigest encoded] = .ok () ∧
      ∀ n event, n < j → session[n]? = some event → runsSql event = true → n = k
  /-- The reference in a success is that of the credential whose password opened the connection. -/
  rotation : ∀ rows row_count truncated rotation_ref, outcome = .ok (.success rows row_count truncated rotation_ref) →
    ∃ k path credential u d, session[k]? = some (.readCredential path) ∧
      D.read_credential (start ++ session.take k) path = .ok credential ∧
      session[k + 1]? = some (.connect u credential.password d) ∧
      D.connect (start ++ session.take (k + 1)) u credential.password d = .ok () ∧
      rotation_ref = credential.rotation_ref
end

/-- The connects of a used connection are those of its opening. -/
theorem connect_in_front {opening body : List Event} {n : Nat} {u p d : PyStr} (use : Use D digest sql start body)
    (found : (opening ++ (body ++ [Event.close]))[n]? = some (.connect u p d)) :
    opening[n]? = some (.connect u p d) ∧ (opening ++ (body ++ [Event.close])).take n = opening.take n :=
  in_front found fun member => nomatch use.connects _ member

theorem count_close {opening body : List Event} {user : PyStr} {result : Except PyExc CredentialRead}
    (opened : Opening D cfg user start opening result) (use : Use D digest sql (start ++ opening) body) :
    (opening ++ (body ++ [Event.close])).count Event.close = 1 := by
  have early : opening.count Event.close = 0 := List.count_eq_zero.mpr fun member => (opened.before.1 _ member).2 rfl
  have late : body.count Event.close = 0 := List.count_eq_zero.mpr use.closes
  rw [List.count_append, List.count_append, early, late]
  rfl

theorem countP_opening {opening : List Event} {user : PyStr} {result : Except PyExc CredentialRead}
    (opened : Opening D cfg user start opening result) : opening.countP isExecute = 0 := by
  rw [List.countP_eq_zero]
  intro event member executes
  cases event with
  | execute sql => exact nomatch (opened.before.1 _ member).1
  | _ => cases executes

/-- The position of the credential read and of the connect that ends an opening. -/
theorem Opening.positions {user : PyStr} {opening : List Event} {c : CredentialRead}
    (opened : Opening D cfg user start opening (.ok c)) (rest : List Event) :
    ∃ k, opening.length = k + 2 ∧ (opening ++ rest)[k]? = some (readEvent cfg) ∧
      readAt D cfg (start ++ (opening ++ rest).take k) = .ok c ∧
      (opening ++ rest)[k + 1]? = some (connectEvent cfg user c) ∧
      connectAt D cfg user (start ++ (opening ++ rest).take (k + 1)) c = .ok () := by
  obtain ⟨front, rfl, read, connected⟩ := opened.shape
  refine ⟨front.length, by simp, by simp, ?_, by simp, ?_⟩
  · rw [List.append_assoc, List.take_left]
    exact read
  · rw [show front ++ [readEvent cfg, connectEvent cfg user c] ++ rest =
      (front ++ [readEvent cfg]) ++ (connectEvent cfg user c :: rest) by simp, List.take_left' (by simp), ← List.append_assoc]
    exact connected

/-- In a used session the user SQL is the fourth event after the opening, and it comes
    right after a stamp that succeeded. -/
theorem Use.execute_at {opening body : List Event} {user : PyStr} {result : Except PyExc CredentialRead} {j : Nat} {sql' : PyStr}
    (opened : Opening D cfg user start opening result) (use : Use D digest sql (start ++ opening) body)
    (found : (opening ++ (body ++ [Event.close]))[j]? = some (.execute sql')) :
    sql' = sql ∧ j = opening.length + 3 ∧ ∃ ms after, body = [.setCallTimeout ms, .openCursor, stampEvent digest, .execute sql] ++ after ∧
      D.callproc (start ++ opening ++ [.setCallTimeout ms, .openCursor]) setIdentifier [digest] = .ok () := by
  have behind : opening.length ≤ j := by
    by_contra inside
    rw [List.getElem?_append_left (Nat.lt_of_not_le inside)] at found
    exact nomatch (opened.before.1 _ (List.mem_of_getElem? found)).1
  obtain ⟨m, rfl⟩ := Nat.exists_eq_add_of_le behind
  rw [List.getElem?_append_right behind, Nat.add_sub_cancel_left] at found
  cases use with
  | unstamped quiet =>
    rcases List.mem_append.mp (List.mem_of_getElem? found) with inBody | last
    · exact nomatch (quiet _ inBody).2.2
    · simp at last
  | @stamped ms after succeeded quiet =>
    match m, found with
    | 0, found => cases found
    | 1, found => cases found
    | 2, found => cases found
    | 3, found =>
      cases found
      exact ⟨rfl, rfl, ms, after, rfl, succeeded⟩
    | m + 4, found =>
      have later : Event.execute sql' ∈ after ++ [.close] := List.mem_of_getElem? (i := m) found
      rcases List.mem_append.mp later with inAfter | last
      · exact nomatch (quiet _ inAfter).2.2
      · simp at last

/-- Up to the user SQL only the stamp runs SQL, and nothing is closed. -/
theorem Opening.stamp_only {opening : List Event} {user : PyStr} {result : Except PyExc CredentialRead}
    (opened : Opening D cfg user start opening result) (ms : Int) (digest : PyStr) (rest : List Event) :
    .close ∉ (opening ++ ([.setCallTimeout ms, .openCursor, stampEvent digest] ++ rest)).take (opening.length + 3) ∧
      ∀ n event, n < opening.length + 3 →
        (opening ++ ([.setCallTimeout ms, .openCursor, stampEvent digest] ++ rest))[n]? = some event →
        runsSql event = true → n = opening.length + 2 := by
  constructor
  · rw [List.take_length_add_append]
    intro member
    rcases List.mem_append.mp member with early | late
    · exact (opened.before.1 _ early).2 rfl
    · simp at late
  · intro n event below found runs
    by_cases inside : n < opening.length
    · rw [List.getElem?_append_left inside] at found
      exact nomatch (opened.before.1 _ (List.mem_of_getElem? found)).1.symm.trans runs
    · obtain ⟨m, rfl⟩ := Nat.exists_eq_add_of_le (Nat.le_of_not_lt inside)
      rw [List.getElem?_append_right (Nat.le_of_not_lt inside), Nat.add_sub_cancel_left] at found
      match m, found with
      | 0, found =>
        cases found
        exact nomatch runs
      | 1, found =>
        cases found
        exact nomatch runs
      | 2, _ => rfl
      | m + 3, _ => omega

theorem Leg.protocol {session : List Event} {outcome : Except PyExc Envelope} {user : PyStr}
    (leg : Leg D cfg sha256_hexdigest user verified_subject bounded_sql start session outcome) :
    Protocol D sha256_hexdigest verified_subject bounded_sql start session outcome := by
  cases leg with
  | unencoded =>
    exact ⟨by simp, fun _ _ _ _ _ _ _ _ _ found => (nomatch found), fun _ _ _ _ found => (nomatch found), by simp,
      fun _ _ found => (nomatch found), nofun⟩
  | unopened opened =>
    refine ⟨opened.before.2, fun i j u p d u' p' d' before first second => opened.retry before first second,
      fun i u p d found succeeded => ?_, (countP_opening opened).trans_le (Nat.zero_le 1), fun j sql found => ?_, nofun⟩
    · obtain ⟨c, impossible⟩ := opened.connected found succeeded
      cases impossible
    · exact nomatch (opened.before.1 _ (List.mem_of_getElem? found)).1
  | @used opening body c encoded _ encodes opened use ref =>
    refine ⟨?_, fun i j u p d u' p' d' before first second => ?_, fun i u p d found succeeded => ?_, ?_,
      fun j sql found => ?_, fun rows row_count truncated rotation_ref succeeded => ?_⟩
    · have rest : (body ++ [Event.close]).countP isConnect = 0 :=
        List.countP_eq_zero.mpr fun event member => by simp [use.connects event member]
      rw [List.countP_append, rest]
      exact opened.before.2
    · obtain ⟨first, early⟩ := connect_in_front use first
      obtain ⟨second, later⟩ := connect_in_front use second
      obtain ⟨failed, k, path, credential, afterFirst, beforeSecond, found, read, password⟩ := opened.retry before first second
      rw [early]
      have inside : k < opening.length := (List.getElem?_eq_some_iff.mp found).1
      refine ⟨failed, k, path, credential, afterFirst, beforeSecond, ?_, ?_, password⟩
      · rwa [List.getElem?_append_left inside]
      · rwa [List.take_append_of_le_length inside.le]
    · refine ⟨count_close opened use, (opening ++ body).length, ?_, ?_⟩
      · have inside : i < opening.length := (List.getElem?_eq_some_iff.mp (connect_in_front use found).1).1
        rw [List.length_append]
        omega
      · rw [← List.append_assoc, List.getElem?_append_right (Nat.le_refl _), Nat.sub_self]
        rfl
    · rw [List.countP_append, List.countP_append, countP_opening opened, Nat.zero_add]
      exact use.executes
    · obtain ⟨rfl, rfl, ms, after, rfl, stamp⟩ := use.execute_at opened found
      obtain ⟨k, length, -, -, connect, connected⟩ := opened.positions
        ([.setCallTimeout ms, .openCursor, stampEvent (sha256_hexdigest encoded), .execute sql] ++ after ++ [.close])
      obtain ⟨unclosed, only⟩ :=
        opened.stamp_only ms (sha256_hexdigest encoded) (.execute sql :: (after ++ [.close]))
      refine ⟨rfl, k + 1, opening.length + 2, _, _, _, encoded, by omega, by omega, connect, connected, unclosed, encodes,
        ?_, ?_, only⟩
      · rw [List.getElem?_append_right (Nat.le_add_right _ _), Nat.add_sub_cancel_left]
        rfl
      · rw [List.take_length_add_append, ← List.append_assoc]
        exact stamp
    · obtain ⟨k, -, found, read, connect, connected⟩ := opened.positions (body ++ [.close])
      exact ⟨k, _, c, _, _, found, read, connect, connected, ref _ _ _ _ succeeded⟩

end

/-- Every leg of a query keeps the protocol, whatever the driver answers. -/
theorem session_protocol (D : Driver) (cfg : Config) (sha256_hexdigest : Bytes → PyStr)
    (proxy_db_identity verified_subject bounded_sql : PyStr) (effective : Int) (timeout_s : PyReal) (start : List Event) :
    ∃ session, (execute D cfg sha256_hexdigest proxy_db_identity verified_subject bounded_sql effective timeout_s start).2 =
        start ++ session ∧
      Protocol D sha256_hexdigest verified_subject bounded_sql start session
        (execute D cfg sha256_hexdigest proxy_db_identity verified_subject bounded_sql effective timeout_s start).1 := by
  obtain ⟨session, extended, leg⟩ : ∃ session,
      (execute D cfg sha256_hexdigest proxy_db_identity verified_subject bounded_sql effective timeout_s start).2 =
        start ++ session ∧ _ := execute_leg effective timeout_s
  exact ⟨session, extended, leg.protocol⟩

end OracleSchema.Session
