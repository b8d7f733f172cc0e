import OracleSchema.Couplings
import OracleSchema.Truncation

/-!
What a run shows of its secrets: nothing. Two drivers that answer alike up to passwords
and the texts of exceptions lead to the same envelope and the same log records
(`secrets_unobserved`).
-/
namespace OracleSchema.Secrets
open OracleSchema.Strings OracleSchema.Errors OracleSchema.Json OracleSchema.Settings OracleSchema.SqlGate
open OracleSchema.Replay OracleSchema.Traced OracleSchema.Execution OracleSchema.Pipeline OracleSchema.Couplings
open OracleSchema.Sharing OracleSchema.Projection OracleSchema.Truncation

/-! ### What two executions share -/

/-- Exceptions of one class name, both with or both without the code ORA-01017. -/
structure ExcAlike (exc exc' : PyExc) : Prop where
  name : exc.cls.name = exc'.cls.name
  auth : isAuthError exc = isAuthError exc'

theorem ExcAlike.refl (exc : PyExc) : ExcAlike exc exc := ⟨rfl, rfl⟩

/-- Cells that are equal, or whose projections raise. -/
inductive CellAlike : Cell → Cell → Prop
  | same (cell : Cell) : CellAlike cell cell
  | dated {exc exc' : PyExc} (raised : ExcAlike exc exc') : CellAlike (.dated (.error exc)) (.dated (.error exc'))
  | other {exc exc' : PyExc} (raised : ExcAlike exc exc') : CellAlike (.other (.error exc)) (.other (.error exc'))

section
variable (P : PyStr → PyStr → Prop)

/-- One rotation reference, and passwords that correspond. -/
structure CredentialAlike (credential credential' : CredentialRead) : Prop where
  password : P credential.password credential'.password
  rotation_ref : credential.rotation_ref = credential'.rotation_ref

/-- The same event, but for the password of a connect. -/
inductive EventAlike : Event → Event → Prop
  | same (event : Event) : EventAlike event event
  | connect {password password' : PyStr} (user dsn : PyStr) (passwords : P password password') :
      EventAlike (.connect user password dsn) (.connect user password' dsn)

/-- After alike histories the drivers answer alike: they fail at the same steps with alike
    exceptions, and give the same columns and alike rows. -/
structure DriverAlike (D D' : Driver) : Prop where
  read_credential : ∀ history history', List.Forall₂ (EventAlike P) history history' → ∀ path,
    Alike ExcAlike (CredentialAlike P) (D.read_credential history path) (D'.read_credential history' path)
  connect : ∀ history history', List.Forall₂ (EventAlike P) history history' → ∀ user password password' dsn,
    P password password' → Alike ExcAlike Eq (D.connect history user password dsn) (D'.connect history' user password' dsn)
  set_call_timeout : ∀ history history', List.Forall₂ (EventAlike P) history history' → ∀ ms,
    Alike ExcAlike Eq (D.set_call_timeout history ms) (D'.set_call_timeout history' ms)
  cursor : ∀ history history', List.Forall₂ (EventAlike P) history history' →
    Alike ExcAlike Eq (D.cursor history) (D'.cursor history')
  callproc : ∀ history history', List.Forall₂ (EventAlike P) history history' → ∀ name args,
    Alike ExcAlike Eq (D.callproc history name args) (D'.callproc history' name args)
  execute : ∀ history history', List.Forall₂ (EventAlike P) history history' → ∀ sql,
    Alike ExcAlike Eq (D.execute history sql) (D'.execute history' sql)
  fetchall : ∀ history history', List.Forall₂ (EventAlike P) history history' →
    Alike ExcAlike (List.Forall₂ (List.Forall₂ CellAlike)) (D.fetchall history) (D'.fetchall history')
  exit_cursor : ∀ history history', List.Forall₂ (EventAlike P) history history' →
    Alike ExcAlike Eq (D.exit_cursor history) (D'.exit_cursor history')
  close : ∀ history history', List.Forall₂ (EventAlike P) history history' →
    Alike ExcAlike Eq (D.close history) (D'.close history')

/-- The two computations are coupled by what the executions share. -/
abbrev Blind {α β : Type} (A : α → β → Prop) (m : Action Event PyExc α) (m' : Action Event PyExc β) : Prop :=
  Coupled (EventAlike P) ExcAlike A m m'
end

/-! ### The leg -/

section
variable {P : PyStr → PyStr → Prop} {D D' : Driver}

theorem jsonSafe_alike {cell cell' : Cell} (cells : CellAlike cell cell') : Alike ExcAlike Eq (jsonSafe cell) (jsonSafe cell') := by
  cases cells with
  | same => exact .refl ExcAlike.refl _
  | dated raised => exact .error raised
  | other raised => exact .error raised

theorem rowDict_alike (columns : List PyStr) {row row' : List Cell} (cells : List.Forall₂ CellAlike row row') :
    Alike ExcAlike Eq (rowDict columns row) (rowDict columns row') := by
  have zipped : List.Forall₂ (fun c c' => c.1 = c'.1 ∧ CellAlike c.2 c'.2) (columns.zip row) (columns.zip row') := by
    induction cells generalizing columns with
    | nil => simp
    | cons first _ ih =>
      cases columns with
      | nil => exact .nil
      | cons column columns => exact .cons ⟨rfl, first⟩ (ih columns)
  refine .foldlM zipped (fun dict dict' cell cell' dicts cells => ?_) rfl
  subst dicts
  rw [cells.1]
  refine (jsonSafe_alike cells.2).map fun value value' same => ?_
  rw [same]

variable (drivers : DriverAlike P D D') (cfg : Config)
include drivers

theorem readCredential_blind : Blind P (CredentialAlike P) (readCredential D cfg) (readCredential D' cfg) :=
  .perform (.same _) fun history history' alike => drivers.read_credential history history' alike _

theorem connectAs_blind (proxy_db_identity : PyStr) {credential credential' : CredentialRead}
    (credentials : CredentialAlike P credential credential') :
    Blind P Eq (connectAs D cfg proxy_db_identity credential) (connectAs D' cfg proxy_db_identity credential') :=
  .perform (.connect _ _ credentials.password)
    fun history history' alike => drivers.connect history history' alike _ _ _ _ credentials.password

theorem openConnection_blind (proxy_db_identity : PyStr) :
    Blind P (CredentialAlike P) (openConnection D cfg proxy_db_identity) (openConnection D' cfg proxy_db_identity) := by
  have attempt : ∀ credential credential', CredentialAlike P credential credential' → Blind P (CredentialAlike P)
      (do connectAs D cfg proxy_db_identity credential; pure credential)
      (do connectAs D' cfg proxy_db_identity credential'; pure credential') :=
    fun _ _ credentials => .bind (connectAs_blind drivers cfg proxy_db_identity credentials) fun _ _ _ => .pure credentials
  refine .bind (readCredential_blind drivers cfg) fun credential credential' credentials => ?_
  refine .catching (attempt credential credential' credentials) fun exc exc' raised => ?_
  rw [raised.auth]
  split_ifs with rotated
  · exact .bind (readCredential_blind drivers cfg) attempt
  · exact .ofExcept (.error raised)

/-- The results of a cursor: the same refusal, or the same columns with alike rows. -/
def ResultAlike : Except Refusal (List PyStr × List (List Cell)) → Except Refusal (List PyStr × List (List Cell)) → Prop :=
  Alike Eq (fun result result' => result.1 = result'.1 ∧ List.Forall₂ (List.Forall₂ CellAlike) result.2 result'.2)

theorem onCursor_blind (subject_reference bounded_sql : PyStr) :
    Blind P ResultAlike (onCursor D subject_reference bounded_sql) (onCursor D' subject_reference bounded_sql) := by
  refine .bind (A := Eq) ?_ fun stamped stamped' same => ?_
  · refine .catching (.bind (.perform (.same _) fun history history' alike => drivers.callproc history history' alike _ _)
      fun _ _ _ => .pure rfl) fun exc exc' raised => ?_
    rw [raised.name]
    exact .bind (.note (.same _)) fun _ _ _ => .pure rfl
  · subst same
    cases stamped with
    | false => exact .pure (.error rfl)
    | true =>
      refine .bind (.perform (.same _) fun history history' alike => drivers.execute history history' alike _)
        fun columns columns' described => ?_
      exact .bind (.perform (.same _) drivers.fetchall) fun fetched fetched' rows => .pure (.ok ⟨described, rows⟩)

theorem onConnection_blind (subject_reference bounded_sql : PyStr) (timeout_s : PyReal) :
    Blind P ResultAlike (onConnection D subject_reference bounded_sql timeout_s)
      (onConnection D' subject_reference bounded_sql timeout_s) := by
  refine .ensuring ?_ (.perform (.same _) drivers.close)
  refine .bind (.ofExcept (.refl ExcAlike.refl _)) fun ms ms' same => ?_
  subst same
  refine .bind (.perform (.same _) fun history history' alike => drivers.set_call_timeout history history' alike _)
    fun _ _ _ => ?_
  refine .bind (.perform (.same _) drivers.cursor) fun _ _ _ => ?_
  exact .ensuring (onCursor_blind drivers subject_reference bounded_sql) (.perform (.same _) drivers.exit_cursor)

theorem execute_blind (sha256_hexdigest : Bytes → PyStr) (proxy_db_identity verified_subject bounded_sql : PyStr)
    (effective : Int) (timeout_s : PyReal) :
    Blind P Eq (execute D cfg sha256_hexdigest proxy_db_identity verified_subject bounded_sql effective timeout_s)
      (execute D' cfg sha256_hexdigest proxy_db_identity verified_subject bounded_sql effective timeout_s) := by
  refine .bind (.ofExcept (.refl ExcAlike.refl _)) fun encoded encoded' same => ?_
  subst same
  refine .bind (openConnection_blind drivers cfg proxy_db_identity) fun credential credential' credentials => ?_
  refine .bind (onConnection_blind drivers _ bounded_sql timeout_s) fun finished finished' results => ?_
  cases results with
  | error same =>
    subst same
    exact .pure rfl
  | @ok result result' alike =>
    obtain ⟨columns, fetched⟩ := result
    obtain ⟨columns', fetched'⟩ := result'
    obtain ⟨rfl, rows⟩ : columns = columns' ∧ _ := alike
    refine .bind (.ofExcept (.mapM rows fun row row' => rowDict_alike columns)) fun shown shown' same => ?_
    rw [List.forall₂_eq_eq_eq] at same
    subst same
    rw [credentials.rotation_ref]
    exact .pure rfl
end

/-! ### The run -/

section
variable (L : Libraries) (W : Surroundings) (call : Call)

/-- The leg never raises, and neither its envelope nor its log depends on the secrets. -/
theorem databaseLeg_blind {P : PyStr → PyStr → Prop} {D' : Driver} (drivers : DriverAlike P W.driver D') (plan : Plan) :
    Coupled (EventAlike P) (fun _ _ => False) Eq (databaseLeg L W call plan)
      (databaseLeg L { W with driver := D' } call plan) := by
  refine .catching (execute_blind drivers call.cfg _ _ _ _ _ _) fun exc exc' raised => ?_
  rw [raised.name]
  exact .bind (.note (.same _)) fun _ _ _ => .pure rfl

theorem readKeys_driver (D' : Driver) (paths : List PyStr) : readKeys { W with driver := D' } paths = readKeys W paths := by
  induction paths with
  | nil => rfl
  | cons path rest ih =>
    unfold readKeys
    rw [ih]

/-- Nothing before the leg asks the driver. -/
theorem preflight_driver (cache : ReplayCache) (D' : Driver) :
    preflight L { W with driver := D' } call cache = preflight L W call cache := by
  have loads : loadPublicKeys { W with driver := D' } = loadPublicKeys W := by
    unfold loadPublicKeys
    rw [readKeys_driver]
    rfl
  have verifies : verifyContext L { W with driver := D' } call = verifyContext L W call := by
    unfold verifyContext
    rw [loads]
  unfold preflight
  rw [verifies]
  rfl
end

def logged : Event → Option LogRecord
  | .log record => some record
  | _ => none

/-- The log records of a run, in order. -/
def logRecords (trace : List Event) : List LogRecord := trace.filterMap logged

theorem EventAlike.logged {P : PyStr → PyStr → Prop} {event event' : Event} (events : EventAlike P event event') :
    logged event = logged event' := by
  cases events with
  | same => rfl
  | connect user dsn passwords => rfl

/-- Two executions that differ only in passwords and in the texts of the exceptions of the
    credential file and the driver end with the same envelope and the same log. -/
theorem secrets_unobserved (P : PyStr → PyStr → Prop) (L : Libraries) (W : Surroundings) (call : Call) (cache : ReplayCache)
    (D' : Driver) (drivers : DriverAlike P W.driver D') :
    (run L { W with driver := D' } call cache).outcome = (run L W call cache).outcome ∧
      logRecords (run L { W with driver := D' } call cache).trace = logRecords (run L W call cache).trace := by
  have before := preflight_driver L W call cache D'
  cases ended : (preflight L W call cache).outcome with
  | error exc =>
    rw [run_of_error ended, run_of_error (before ▸ ended), before]
    exact ⟨rfl, rfl⟩
  | ok answer =>
    cases answer with
    | error refusal =>
      rw [run_of_refusal ended, run_of_refusal (before ▸ ended), before]
      exact ⟨rfl, rfl⟩
    | ok plan =>
      rw [run_of_plan ended, run_of_plan (before ▸ ended), before]
      have start : List.Forall₂ (EventAlike P) (preflight L W call cache).trace (preflight L W call cache).trace :=
        List.forall₂_same.mpr fun event _ => .same event
      obtain ⟨outcomes, traces⟩ := databaseLeg_blind L W call drivers plan _ _ start
      exact ⟨outcomes.eq_of_never.symm, (Coupled.shown (fun _ _ events => events.logged) traces).symm⟩

/-- A database that refuses the password it is given, and says it. -/
def refusing (password : PyStr) : Driver :=
  { answering [] [] with
    read_credential := fun _ _ => .ok ⟨password, lit "2025-01-01T00:00:00+00:00"⟩
    connect := fun _ _ given _ => .error (.ofText .Exception (lit "ORA-28000: " ++ given)) }

theorem refusing_alike (password password' : PyStr) :
    DriverAlike (fun _ _ => True) (refusing password) (refusing password') where
  read_credential _ _ _ _ := .ok ⟨trivial, rfl⟩
  connect _ _ _ _ _ _ _ _ := .error ⟨rfl, rfl⟩
  set_call_timeout _ _ _ _ := .ok rfl
  cursor _ _ _ := .ok rfl
  callproc _ _ _ _ _ := .ok rfl
  execute _ _ _ _ := .ok rfl
  fetchall _ _ _ := .ok .nil
  exit_cursor _ _ _ := .ok rfl
  close _ _ _ := .ok rfl

/-- Two passwords that reach the text of an exception leave no trace in the answer. -/
theorem secrets_unobserved_password :
    (run dualLibraries { dualSurroundings with driver := refusing (lit "hunter2") } sampleCall .fresh).outcome =
        (run dualLibraries { dualSurroundings with driver := refusing (lit "tiger") } sampleCall .fresh).outcome ∧
      logRecords (run dualLibraries { dualSurroundings with driver := refusing (lit "hunter2") } sampleCall .fresh).trace =
        logRecords (run dualLibraries { dualSurroundings with driver := refusing (lit "tiger") } sampleCall .fresh).trace :=
  secrets_unobserved (fun _ _ => True) dualLibraries { dualSurroundings with driver := refusing (lit "tiger") } sampleCall .fresh
    (refusing (lit "hunter2")) (refusing_alike (lit "tiger") (lit "hunter2"))

end OracleSchema.Secrets
