import OracleSchema.Keyed
import OracleSchema.Execution

/-!
The rows of a success envelope. A success comes from one execution of the SQL and the
fetch right after it (`execute_success`). A row is a dictionary by column name, so it
keeps all its cells exactly if no two columns share a name (`lossless_iff`).
-/
namespace OracleSchema.Projection
open OracleSchema.Strings OracleSchema.Errors OracleSchema.Json OracleSchema.Settings OracleSchema.SqlGate
open OracleSchema.Traced OracleSchema.Execution OracleSchema.Keyed

/-! ### Success -/

section
variable {D : Driver} {cfg : Config} {sha256_hexdigest : Bytes → PyStr} {sql : PyStr}

/-- The columns and the rows that an executed statement gave. -/
def Fetched (D : Driver) (sql : PyStr) (columns : List PyStr) (fetched : List (List Cell)) : Prop :=
  ∃ history, D.execute history sql = .ok columns ∧ D.fetchall (history ++ [.execute sql]) = .ok fetched

theorem onCursor_fetched {subject_reference : PyStr} {start : List Event} {columns : List PyStr} {fetched : List (List Cell)}
    (returned : (onCursor D subject_reference sql start).1 = .ok (.ok (columns, fetched))) : Fetched D sql columns fetched := by
  obtain ⟨stamped, later, _, rest⟩ := bind_eq_ok.mp returned
  cases stamped with
  | false => cases Except.ok.inj rest
  | true =>
    obtain ⟨names, executed, rest⟩ := perform_bind_eq_ok.mp rest
    obtain ⟨rows, fetches, rest⟩ := perform_bind_eq_ok.mp rest
    cases Except.ok.inj (Except.ok.inj rest)
    exact ⟨later, executed, fetches⟩

theorem onConnection_fetched {subject_reference : PyStr} {timeout_s : PyReal} {start : List Event} {columns : List PyStr}
    {fetched : List (List Cell)}
    (returned : (onConnection D subject_reference sql timeout_s start).1 = .ok (.ok (columns, fetched))) :
    Fetched D sql columns fetched := by
  obtain ⟨ms, _, rest⟩ := ofExcept_bind_eq_ok.mp (ensuring_eq_ok returned)
  obtain ⟨_, _, rest⟩ := perform_bind_eq_ok.mp rest
  obtain ⟨_, _, rest⟩ := perform_bind_eq_ok.mp rest
  exact onCursor_fetched (ensuring_eq_ok rest)

/-- Where a success envelope comes from. -/
theorem execute_success {proxy_db_identity verified_subject : PyStr} {effective : Int} {timeout_s : PyReal}
    {start : List Event} {rows : List Row} {row_count : Nat} {truncated : Bool} {credential_rotation_ref : PyStr}
    (succeeded : (execute D cfg sha256_hexdigest proxy_db_identity verified_subject sql effective timeout_s start).1 =
      .ok (.success rows row_count truncated credential_rotation_ref)) :
    ∃ columns fetched, Fetched D sql columns fetched ∧ fetched.mapM (rowDict columns) = .ok rows ∧
      row_count = rows.length ∧ truncated = decide (effective ≤ rows.length) := by
  obtain ⟨encoded, _, rest⟩ := ofExcept_bind_eq_ok.mp succeeded
  obtain ⟨credential, connected, _, rest⟩ := bind_eq_ok.mp rest
  obtain ⟨finished, last, used, rest⟩ := bind_eq_ok.mp rest
  match finished, rest with
  | .error refusal, rest => cases Except.ok.inj rest
  | .ok (columns, fetched), rest =>
    obtain ⟨projected, projects, rest⟩ := ofExcept_bind_eq_ok.mp rest
    cases Except.ok.inj rest
    exact ⟨columns, fetched, onConnection_fetched (by rw [used]), projects, rfl, rfl⟩
end

/-! ### Cells -/

/-- The entry of a row has a cell for every column, and each is found by its column. -/
structure Kept (columns : List PyStr) (row : List Cell) (entry : Row) : Prop where
  size : entry.keys.length = columns.length
  recoverable : ∀ (i : Nat) column cell, columns[i]? = some column → row[i]? = some cell →
    ∃ value, jsonSafe cell = .ok value ∧ entry.lookup column = some value

/-- The rows of the envelope are the fetched ones, in order and with all their cells. -/
def Lossless (columns : List PyStr) (fetched : List (List Cell)) (rows : List Row) : Prop :=
  List.Forall₂ (Kept columns) fetched rows

theorem kept_iff {columns : List PyStr} {row : List Cell} {entry : Row} (wide : row.length = columns.length)
    (projected : rowDict columns row = .ok entry) : Kept columns row entry ↔ columns.Nodup := by
  have filled : fill jsonSafe ∅ (columns.zip row) = .ok entry := projected
  have names : (columns.zip row).map Prod.fst = columns := List.map_fst_zip (by omega)
  have length : (columns.zip row).length = columns.length := by rw [List.length_zip, wide, min_self]
  constructor
  · intro kept
    have full := (card_fill_iff filled).mp (by rw [length, kept.size])
    rwa [names] at full
  · intro distinct
    rw [← names] at distinct
    refine ⟨by rw [(card_fill_iff filled).mpr distinct, length], fun i column cell atColumn atCell => ?_⟩
    have member : (column, cell) ∈ columns.zip row := by
      apply List.mem_of_getElem? (i := i)
      rw [List.getElem?_zip_eq_some]
      exact ⟨atColumn, atCell⟩
    exact lookup_fill filled distinct member

theorem lossless_of_nodup {columns : List PyStr} {fetched : List (List Cell)} {rows : List Row}
    (pairs : List.Forall₂ (fun row entry => rowDict columns row = .ok entry) fetched rows)
    (wide : ∀ row ∈ fetched, row.length = columns.length) (distinct : columns.Nodup) : Lossless columns fetched rows := by
  induction pairs with
  | nil => exact .nil
  | @cons row entry others entries first _ ih =>
    have here := (kept_iff (wide row List.mem_cons_self) first).mpr distinct
    exact .cons here (ih fun other member => wide other (List.mem_cons_of_mem row member))

/-- A success envelope keeps every cell if and only if there is no row or the columns
    have different names. -/
theorem lossless_iff (D : Driver) (cfg : Config) (sha256_hexdigest : Bytes → PyStr)
    (proxy_db_identity verified_subject bounded_sql : PyStr) (effective : Int) (timeout_s : PyReal) (start : List Event)
    (columns : List PyStr) (fetched : List (List Cell))
    (described : ∀ history names, D.execute history bounded_sql = .ok names → names = columns)
    (returned : ∀ history answer, D.fetchall history = .ok answer → answer = fetched)
    (wide : ∀ row ∈ fetched, row.length = columns.length)
    (rows : List Row) (row_count : Nat) (truncated : Bool) (credential_rotation_ref : PyStr)
    (succeeded : (execute D cfg sha256_hexdigest proxy_db_identity verified_subject bounded_sql effective timeout_s start).1 =
      .ok (.success rows row_count truncated credential_rotation_ref)) :
    Lossless columns fetched rows ↔ fetched = [] ∨ columns.Nodup := by
  obtain ⟨names, answer, ⟨history, executed, fetches⟩, projected, _, _⟩ := execute_success succeeded
  obtain rfl := described _ _ executed
  obtain rfl := returned _ _ fetches
  have pairs := forall₂_of_mapM projected
  constructor
  · intro lossless
    cases pairs with
    | nil => exact .inl rfl
    | @cons row entry others entries first rest =>
      cases lossless with
      | cons kept _ => exact .inr ((kept_iff (wide row List.mem_cons_self) first).mp kept)
  · rintro (rfl | distinct)
    · cases pairs
      exact .nil
    · exact lossless_of_nodup pairs wide distinct

/-- A driver whose statement gives these columns and rows. -/
def answering (columns : List PyStr) (fetched : List (List Cell)) : Driver where
  read_credential _ _ := .ok ⟨[], []⟩
  connect _ _ _ _ := .ok ()
  set_call_timeout _ _ := .ok ()
  cursor _ := .ok ()
  callproc _ _ _ := .ok ()
  execute _ _ := .ok columns
  fetchall _ := .ok fetched
  exit_cursor _ := .ok ()
  close _ := .ok ()

/-- Such a driver runs a statement to success if its rows have a projection. -/
theorem execute_answering {columns : List PyStr} {fetched : List (List Cell)} {rows : List Row} {timeout_s : PyReal} {ms : Int}
    {verified_subject : PyStr} {encoded : Bytes} (encodes : encodeUtf8 verified_subject = .ok encoded)
    (timed : milliseconds timeout_s = .ok ms) (projected : fetched.mapM (rowDict columns) = .ok rows) (cfg : Config)
    (sha256_hexdigest : Bytes → PyStr) (proxy_db_identity sql : PyStr) (effective : Int) (start : List Event) :
    (execute (answering columns fetched) cfg sha256_hexdigest proxy_db_identity verified_subject sql effective timeout_s start).1 =
      .ok (.success rows rows.length (effective ≤ rows.length) []) := by
  obtain ⟨opened, connects⟩ : ∃ opened, openConnection (answering columns fetched) cfg proxy_db_identity start =
      (.ok ⟨[], []⟩, opened) := ⟨_, rfl⟩
  obtain ⟨closed, uses⟩ : ∃ closed, onConnection (answering columns fetched) (sha256_hexdigest encoded) sql timeout_s opened =
      (.ok (.ok (columns, fetched)), closed) := by
    simp only [onConnection, timed]
    exact ⟨_, rfl⟩
  unfold execute
  rw [encodes, ofExcept_bind]
  simp only [bind_run (openConnection _ _ _), connects, bind_run (onConnection _ _ _ _), uses, projected]
  rfl

def sampleConfig : Config := ⟨lit "db", lit "APP", lit "pw", ∅, 200, 4, .dev_insecure, none, none, none, ∅⟩

/-- A run of a statement with these columns and rows, bounded to 100. -/
def sampleExecution (columns : List PyStr) (fetched : List (List Cell)) : Except PyExc Envelope :=
  (execute (answering columns fetched) sampleConfig (fun _ => []) (lit "APP_RO") (lit "user") (lit "SELECT") 100
    (.finite 30) []).1

/-- `SELECT 1 AS A, 2 AS B FROM dual`. -/
theorem lossless_iff_distinct :
    Lossless [lit "A", lit "B"] [[.int 1, .int 2]]
      [((∅ : Row).insert (lit "A") (.int 1)).insert (lit "B") (.int 2)] := by
  have succeeded : sampleExecution [lit "A", lit "B"] [[.int 1, .int 2]] =
      .ok (.success [((∅ : Row).insert (lit "A") (.int 1)).insert (lit "B") (.int 2)] 1 false []) :=
    execute_answering rfl milliseconds_thirty rfl _ _ _ _ _ _
  refine (lossless_iff (answering [lit "A", lit "B"] [[.int 1, .int 2]]) sampleConfig (fun _ => []) (lit "APP_RO")
    (lit "user") (lit "SELECT") 100 (.finite 30) [] [lit "A", lit "B"] [[.int 1, .int 2]] ?_ ?_ ?_ _ _ _ _ succeeded).mpr
    (.inr (by decide))
  · intro history names executed
    exact (Except.ok.inj executed).symm
  · intro history answer fetches
    exact (Except.ok.inj fetches).symm
  · simp

/-- `SELECT 1 AS A, 2 AS A FROM dual`: the second column replaces the first. -/
theorem sameName_collapses :
    sampleExecution [lit "A", lit "A"] [[.int 1, .int 2]] =
        .ok (.success [(∅ : Row).insert (lit "A") (.int 2)] 1 false []) ∧
      ¬ Lossless [lit "A", lit "A"] [[.int 1, .int 2]] [(∅ : Row).insert (lit "A") (.int 2)] := by
  refine ⟨execute_answering rfl milliseconds_thirty rfl _ _ _ _ _ _, fun lossless => ?_⟩
  cases lossless with
  | cons kept _ => exact absurd kept.size (by decide)

end OracleSchema.Projection
