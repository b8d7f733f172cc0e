import Mathlib.Data.List.AList
import OracleSchema.Traced
import OracleSchema.Settings
import OracleSchema.SqlGate
import OracleSchema.Json
import OracleSchema.Floats

/-!
Arm 7: the Oracle leg of one query, on a dedicated connection under the proxy
identity of the token. Every call of the driver and every log record is an event,
and the driver may answer as it likes on the history so far.
-/
namespace OracleSchema.Execution
open OracleSchema.Strings OracleSchema.Errors OracleSchema.Json OracleSchema.Settings OracleSchema.SqlGate
open OracleSchema.Traced OracleSchema.Floats

structure LogRecord where
  message : PyStr
  extra : List (PyStr × PyStr)
  deriving DecidableEq

inductive Event
  | readCredential (path : PyStr)
  | connect (user password dsn : PyStr)
  | setCallTimeout (milliseconds : Int)
  | openCursor
  | callproc (name : PyStr) (args : List PyStr)
  | execute (sql : PyStr)
  | fetchall
  | exitCursor
  | close
  | log (record : LogRecord)
  deriving DecidableEq

/-- A fetched cell, as far as its projection tells values apart; `isoformat` and
    `str` are methods of the driver's types and may raise. -/
inductive Cell
  | none
  | bool (value : Bool)
  | int (value : Int)
  | str (value : PyStr)
  | float (value : PyFloat)
  | bytes (value : Bytes)
  | dated (isoformat : Except PyExc PyStr)
  | other (text : Except PyExc PyStr)

/-- The driver and the credential file. Each answer may depend on all that
    happened before it in the call. -/
structure Driver where
  read_credential : List Event → PyStr → Except PyExc CredentialRead
  connect : List Event → PyStr → PyStr → PyStr → Except PyExc Unit
  set_call_timeout : List Event → Int → Except PyExc Unit
  cursor : List Event → Except PyExc Unit
  callproc : List Event → PyStr → List PyStr → Except PyExc Unit
  /-- The names in `cur.description` after the statement, none if it has no result. -/
  execute : List Event → PyStr → Except PyExc (List PyStr)
  fetchall : List Event → Except PyExc (List (List Cell))
  exit_cursor : List Event → Except PyExc Unit
  close : List Event → Except PyExc Unit

abbrev Row := AList (fun _ : PyStr => PyValue)

inductive Envelope
  | success (rows : List Row) (row_count : Nat) (truncated : Bool) (credential_rotation_ref : PyStr)
  | refusal (refused : Refusal)

/-! ### Rows -/

/-- `bytes.hex`. -/
def hex (b : Bytes) : PyStr := b.flatMap (fun byte => [hexDigit (byte.toNat / 16), hexDigit (byte.toNat % 16)])

/-- `_json_safe`. -/
def jsonSafe : Cell → Except PyExc PyValue
  | .none => .ok .none
  | .bool value => .ok (.bool value)
  | .int value => .ok (.int value)
  | .str value => .ok (.str value)
  | .float (.finite repr shape) => .ok (.float (.finite repr shape))
  | .float .inf => .ok (.str (lit "inf"))
  | .float .negInf => .ok (.str (lit "-inf"))
  | .float .nan => .ok (.str (lit "nan"))
  | .bytes value => .ok (.str (hex value))
  | .dated isoformat => isoformat.map .str
  | .other text => text.map .str

/-- A row as a dictionary by column name; a later column of a name replaces an
    earlier one, and cells without a column are dropped. -/
def rowDict (columns : List PyStr) (row : List Cell) : Except PyExc Row :=
  (columns.zip row).foldlM (fun dict cell => (jsonSafe cell.2).map (fun value => dict.insert cell.1 value)) ∅

/-! ### Timeouts -/

/-- A Python float, as an exact number where it is one. -/
inductive PyReal
  | finite (value : Rat)
  | inf | negInf | nan
  deriving DecidableEq

def PyReal.positive : PyReal → Bool
  | .finite value => 0 < value
  | .inf => true
  | .negInf => false
  | .nan => false

def defaultTimeoutS : PyReal := .finite 30

/-- `_query_timeout_s`, for the value of the environment variable. -/
def queryTimeoutS (float : PyStr → Except PyExc PyReal) (env : Option PyStr) : Action Event PyExc PyReal :=
  let raw := env.getD []
  if strip raw = [] then pure defaultTimeoutS
  else
    match float raw with
    | .error exc =>
      if exc.isInstance .ValueError then do
        note (.log ⟨lit "readonly_query.timeout_env_invalid", [(lit "raw", raw)]⟩)
        pure defaultTimeoutS
      else ofExcept (.error exc)
    | .ok value => pure (if value.positive then value else defaultTimeoutS)

/-- The float next to an exact number, infinite where there is none. -/
def PyReal.ofExact (exact : Rat) : PyReal :=
  let rounded := binary64.nearest exact
  if 2 ^ binary64.top ≤ rounded then .inf
  else if rounded ≤ -2 ^ binary64.top then .negInf
  else .finite rounded

/-- A float times a positive one. -/
def PyReal.times (factor : Rat) : PyReal → PyReal
  | .finite value => .ofExact (value * factor)
  | value => value

/-- `int` of a float, which truncates. -/
def PyReal.truncate : PyReal → Except PyExc Int
  | .finite value => .ok (value.num.tdiv value.den)
  | .nan => .error (.ofText .ValueError (lit "cannot convert float NaN to integer"))
  | _ => .error (.ofText .OverflowError (lit "cannot convert float infinity to integer"))

/-- `int(timeout_s * 1000)`. -/
def milliseconds (timeout_s : PyReal) : Except PyExc Int := (timeout_s.times 1000).truncate

theorem milliseconds_thirty : milliseconds (.finite 30) = .ok 30000 := by decide +kernel

/-! ### The session -/

section
variable (D : Driver) (cfg : Config)

def readCredential : Action Event PyExc CredentialRead :=
  perform (.readCredential cfg.oracle_password_file) (fun history => D.read_credential history cfg.oracle_password_file)

/-- `APP_USER[proxy_db_identity]`. -/
def proxyUser (proxy_db_identity : PyStr) : PyStr := cfg.oracle_user ++ lit "[" ++ proxy_db_identity ++ lit "]"

def connectAs (proxy_db_identity : PyStr) (credential : CredentialRead) : Action Event PyExc Unit :=
  perform (.connect (proxyUser cfg proxy_db_identity) credential.password cfg.oracle_dsn)
    (fun history => D.connect history (proxyUser cfg proxy_db_identity) credential.password cfg.oracle_dsn)

/-- The connection attempts; the credential is the one that the connection used. -/
def openConnection (proxy_db_identity : PyStr) : Action Event PyExc CredentialRead := do
  let credential ← readCredential D cfg
  catching (do connectAs D cfg proxy_db_identity credential; pure credential)
    (fun exc =>
      if isAuthError exc then do
        -- A rotated password: read the file again and try once more.
        let credential ← readCredential D cfg
        connectAs D cfg proxy_db_identity credential
        pure credential
      else ofExcept (.error exc))

def stampRefusal : Refusal :=
  ⟨.query_identity_stamp_failed,
    lit "the database session could not be stamped with the verified subject; refusing before user SQL"⟩

/-- What happens on an open cursor: the identity stamp, then the user SQL. -/
def onCursor (subject_reference bounded_sql : PyStr) :
    Action Event PyExc (Except Refusal (List PyStr × List (List Cell))) := do
  let stamped ← catching
    (do
      perform (.callproc (lit "dbms_session.set_identifier") [subject_reference])
        (fun history => D.callproc history (lit "dbms_session.set_identifier") [subject_reference])
      pure true)
    (fun exc => do
      note (.log ⟨lit "readonly_query.identity_stamp_failed", [(lit "exception_class", exc.cls.name)]⟩)
      pure false)
  if stamped then do
    let columns ← perform (.execute bounded_sql) (fun history => D.execute history bounded_sql)
    let fetched ← perform .fetchall D.fetchall
    pure (.ok (columns, fetched))
  else pure (.error stampRefusal)

/-- The use of an open connection, which is closed in any case. -/
def onConnection (subject_reference bounded_sql : PyStr) (timeout_s : PyReal) :
    Action Event PyExc (Except Refusal (List PyStr × List (List Cell))) :=
  ensuring
    (do
      let ms ← ofExcept (milliseconds timeout_s)
      perform (.setCallTimeout ms) (fun history => D.set_call_timeout history ms)
      perform .openCursor D.cursor
      ensuring (onCursor D subject_reference bounded_sql) (perform .exitCursor D.exit_cursor))
    (perform .close D.close)

/-- `_execute`. -/
def execute (sha256_hexdigest : Bytes → PyStr) (proxy_db_identity verified_subject bounded_sql : PyStr)
    (effective : Int) (timeout_s : PyReal) : Action Event PyExc Envelope := do
  let encoded ← ofExcept (encodeUtf8 verified_subject)
  let subject_reference := sha256_hexdigest encoded
  let credential ← openConnection D cfg proxy_db_identity
  let finished ← onConnection D subject_reference bounded_sql timeout_s
  match finished with
  | .error refusal => pure (.refusal refusal)
  | .ok (columns, fetched) => do
    let rows ← ofExcept (fetched.mapM (rowDict columns))
    -- The bound is in the SQL, so a full page may have been cut.
    pure (.success rows rows.length (effective ≤ rows.length) credential.rotation_ref)
end

/-! ### Events -/

/-- The event is no connection attempt, or one under this user string. -/
def ConnectsAs (user : PyStr) : Event → Prop
  | .connect u _ _ => u = user
  | _ => True

/-- The event is no connection attempt. -/
def NoConnect (event : Event) : Prop := ∀ user password dsn, event ≠ .connect user password dsn

def IsLog (event : Event) : Prop := ∃ record, event = .log record

theorem IsLog.noConnect {event : Event} (isLog : IsLog event) : NoConnect event := by
  obtain ⟨record, rfl⟩ := isLog
  intro user password dsn same
  cases same

/-- The events of a database leg, with the arguments that they have. -/
inductive LegEvent (cfg : Config) (user bounded_sql : PyStr) (timeout_s : PyReal) : Event → Prop
  | readCredential : LegEvent cfg user bounded_sql timeout_s (.readCredential cfg.oracle_password_file)
  | connect (password : PyStr) : LegEvent cfg user bounded_sql timeout_s (.connect user password cfg.oracle_dsn)
  | setCallTimeout {ms : Int} (converted : milliseconds timeout_s = .ok ms) :
      LegEvent cfg user bounded_sql timeout_s (.setCallTimeout ms)
  | openCursor : LegEvent cfg user bounded_sql timeout_s .openCursor
  | callproc (subject_reference : PyStr) :
      LegEvent cfg user bounded_sql timeout_s (.callproc (lit "dbms_session.set_identifier") [subject_reference])
  | execute : LegEvent cfg user bounded_sql timeout_s (.execute bounded_sql)
  | fetchall : LegEvent cfg user bounded_sql timeout_s .fetchall
  | exitCursor : LegEvent cfg user bounded_sql timeout_s .exitCursor
  | close : LegEvent cfg user bounded_sql timeout_s .close
  | log (record : LogRecord) : LegEvent cfg user bounded_sql timeout_s (.log record)

theorem LegEvent.connectsAs {cfg : Config} {user bounded_sql : PyStr} {timeout_s : PyReal} {event : Event}
    (own : LegEvent cfg user bounded_sql timeout_s event) : ConnectsAs user event := by
  cases own with
  | connect password => rfl
  | _ => trivial

theorem queryTimeoutS_emits (float : PyStr → Except PyExc PyReal) (env : Option PyStr) :
    Emits IsLog (queryTimeoutS float env) := by
  unfold queryTimeoutS
  simp only
  split_ifs with blank
  · exact .pure _
  · cases float (env.getD []) with
    | ok value => exact .pure _
    | error exc =>
      simp only
      split_ifs with caught
      · exact .bind (.note ⟨_, rfl⟩) (fun _ => .pure _)
      · exact .ofExcept _

section
variable (D : Driver) (cfg : Config) (proxy_db_identity bounded_sql : PyStr) (timeout_s : PyReal)

theorem openConnection_emits :
    Emits (LegEvent cfg (proxyUser cfg proxy_db_identity) bounded_sql timeout_s) (openConnection D cfg proxy_db_identity) := by
  have attempt : ∀ credential, Emits (LegEvent cfg (proxyUser cfg proxy_db_identity) bounded_sql timeout_s)
      (do connectAs D cfg proxy_db_identity credential; pure credential) :=
    fun credential => .bind (.perform (.connect _) _) fun _ => .pure _
  refine .bind (.perform .readCredential _) fun credential => .catching (attempt credential) fun exc => ?_
  split_ifs with rotated
  · exact .bind (.perform .readCredential _) attempt
  · exact .ofExcept _

theorem onCursor_emits (subject_reference user : PyStr) :
    Emits (LegEvent cfg user bounded_sql timeout_s) (onCursor D subject_reference bounded_sql) := by
  refine .bind ?_ fun stamped => ?_
  · refine .catching (.bind (.perform (.callproc _) _) fun _ => .pure _) fun exc => ?_
    exact .bind (.note (.log _)) fun _ => .pure _
  · cases stamped with
    | false => exact .pure _
    | true => exact .bind (.perform .execute _) fun _ => .bind (.perform .fetchall _) fun _ => .pure _

theorem onConnection_emits (subject_reference user : PyStr) :
    Emits (LegEvent cfg user bounded_sql timeout_s) (onConnection D subject_reference bounded_sql timeout_s) := by
  have use : ∀ ms, milliseconds timeout_s = .ok ms → Emits (LegEvent cfg user bounded_sql timeout_s)
      (do
        perform (.setCallTimeout ms) (fun history => D.set_call_timeout history ms)
        perform .openCursor D.cursor
        ensuring (onCursor D subject_reference bounded_sql) (perform .exitCursor D.exit_cursor)) := by
    intro ms converted
    refine .bind (.perform (.setCallTimeout converted) _) fun _ => .bind (.perform .openCursor _) fun _ => ?_
    exact .ensuring (onCursor_emits D cfg bounded_sql timeout_s subject_reference user) (.perform .exitCursor _)
  refine .ensuring ?_ (.perform .close _)
  cases converted : milliseconds timeout_s with
  | error exc => exact .ofExcept _
  | ok ms => exact use ms converted

/-- All that a leg does; each attempt is under the proxy identity it was given. -/
theorem execute_emits (sha256_hexdigest : Bytes → PyStr) (verified_subject : PyStr) (effective : Int) :
    Emits (LegEvent cfg (proxyUser cfg proxy_db_identity) bounded_sql timeout_s)
      (execute D cfg sha256_hexdigest proxy_db_identity verified_subject bounded_sql effective timeout_s) := by
  refine .bind (.ofExcept _) fun encoded => ?_
  refine .bind (openConnection_emits D cfg proxy_db_identity bounded_sql timeout_s) fun credential => ?_
  refine .bind (onConnection_emits D cfg bounded_sql timeout_s _ _) fun finished => ?_
  cases finished with
  | error refusal => exact .pure _
  | ok result => exact .bind (.ofExcept _) fun rows => .pure _
end

end OracleSchema.Execution
