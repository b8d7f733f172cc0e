import OracleSchema.Capping
import OracleSchema.Projection
import OracleSchema.Digests

/-!
The truncation flag of a success envelope. A run that succeeds has executed the bounded
text of the admitted statement (`run_success`), so a page that is not full holds all rows
of the author's own statement (`truncated_honest`).
-/
namespace OracleSchema.Truncation
open OracleSchema.Strings OracleSchema.Errors OracleSchema.Json OracleSchema.Settings OracleSchema.SqlTree
open OracleSchema.SqlGate OracleSchema.RowBound OracleSchema.QueryContext OracleSchema.Replay OracleSchema.Traced
open OracleSchema.Execution OracleSchema.Pipeline OracleSchema.Sharing OracleSchema.Capping OracleSchema.Projection
open OracleSchema.Cuts OracleSchema.Keyed OracleSchema.Digests OracleSchema.RowLimits

section
variable {L : Libraries} {W : Surroundings} {call : Call} {cache : ReplayCache} {claims : QueryContextClaims}

/-! ### The plan of a run -/

/-- The plan runs the bounded text of the admitted statement. -/
def Bounds (L : Libraries) (call : Call) (plan : Plan) : Prop :=
  ∃ stmt, analyze L.sqlglot call.sql = .ok (.ok stmt) ∧
    applyRowBound L.sqlglot stmt call.max_rows = .ok (plan.bounded_sql, plan.effective)

theorem planFor_plan {stmt : Expression} {plan : Plan} {trace : List Event}
    (planned : (planFor L W call claims stmt trace).1 = .ok (.ok plan)) :
    applyRowBound L.sqlglot stmt call.max_rows = .ok (plan.bounded_sql, plan.effective) := by
  obtain ⟨referenced, _, rest⟩ := ofExcept_bind_eq_ok.mp planned
  by_cases outside : outOfScopeObjects referenced claims.objects ≠ []
  · rw [if_pos outside] at rest
    cases Except.ok.inj rest
  · rw [if_neg outside] at rest
    obtain ⟨bounded, applied, rest⟩ := ofExcept_bind_eq_ok.mp rest
    obtain ⟨timeout_s, later, _, rest⟩ := bind_eq_ok.mp rest
    by_cases valid : isProxyIdentity claims.proxy_db_identity = true
    · rw [if_pos valid] at rest
      cases Except.ok.inj rest
      exact applied
    · rw [if_neg valid] at rest
      cases Except.ok.inj rest

theorem gates_plan {plan : Plan} {trace : List Event} (planned : (gates L W call claims trace).1 = .ok (.ok plan)) :
    Bounds L call plan := by
  obtain ⟨digest, _, rest⟩ := ofExcept_bind_eq_ok.mp planned
  by_cases mismatch : digest ≠ claims.args_sha256
  · rw [if_pos mismatch] at rest
    cases Except.ok.inj rest
  · rw [if_neg mismatch] at rest
    obtain ⟨verdict, analyzed, rest⟩ := ofExcept_bind_eq_ok.mp rest
    cases verdict with
    | error refusal => cases Except.ok.inj rest
    | ok stmt => exact ⟨stmt, analyzed, planFor_plan rest⟩

theorem preflight_plan {plan : Plan} (planned : (preflight L W call cache).outcome = .ok (.ok plan)) : Bounds L call plan := by
  unfold preflight at planned
  split at planned
  · cases planned
  · cases planned
  · split at planned
    · cases planned
    · exact gates_plan planned

/-- A run that succeeds has fetched right after the bounded text of the admitted statement. -/
theorem run_success {rows : List Row} {row_count : Nat} {truncated : Bool} {credential_rotation_ref : PyStr}
    (succeeded : (run L W call cache).outcome = .ok (.success rows row_count truncated credential_rotation_ref)) :
    ∃ stmt text columns fetched, analyze L.sqlglot call.sql = .ok (.ok stmt) ∧
      applyRowBound L.sqlglot stmt call.max_rows = .ok (text, effectiveBound stmt call.max_rows) ∧
      Fetched W.driver text columns fetched ∧ fetched.mapM (rowDict columns) = .ok rows ∧
      row_count = rows.length ∧ truncated = decide (effectiveBound stmt call.max_rows ≤ rows.length) := by
  cases ended : (preflight L W call cache).outcome with
  | error exc =>
    rw [run_of_error ended] at succeeded
    cases succeeded
  | ok answer =>
    cases answer with
    | error refusal =>
      rw [run_of_refusal ended] at succeeded
      cases Except.ok.inj succeeded
    | ok plan =>
      rw [run_of_plan ended] at succeeded
      rcases catching_eq_ok succeeded with executed | ⟨exc, later, _, handled⟩
      · obtain ⟨stmt, analyzed, applied⟩ := preflight_plan ended
        have effective : plan.effective = effectiveBound stmt call.max_rows := by
          unfold applyRowBound at applied
          split at applied
          · cases applied
          · split at applied
            · cases applied
            · exact (Prod.mk.inj (Except.ok.inj applied)).2.symm
        obtain ⟨columns, fetched, ran, projected, counted, flagged⟩ := execute_success executed
        rw [effective] at applied flagged
        exact ⟨stmt, plan.bounded_sql, columns, fetched, analyzed, applied, ran, projected, counted, flagged⟩
      · cases Except.ok.inj handled
end

/-! ### The flag -/

/-- For the bounded text of the statement the database gives the first rows, up to the
    bound, of those that the statement has without its outer limit. -/
def FetchesFirst (D : Driver) (S : Sqlglot) (DB : Database (List Cell)) (stmt : Expression) (max_rows : Option Int) : Prop :=
  ∀ text columns fetched, applyRowBound S stmt max_rows = .ok (text, effectiveBound stmt max_rows) →
    Fetched D text columns fetched → fetched = (freeRows DB stmt).take (effectiveBound stmt max_rows).toNat

/-- A run that succeeds without the flag shows all rows of the author's statement, in
    order, and an author's statement with more rows than the bound sets the flag. -/
theorem truncated_honest (L : Libraries) (W : Surroundings) (call : Call) (cache : ReplayCache) (DB : Database (List Cell))
    (stmt : Expression) (admitted : analyze L.sqlglot call.sql = .ok (.ok stmt))
    (database : FetchesFirst W.driver L.sqlglot DB stmt call.max_rows)
    (rows : List Row) (row_count : Nat) (truncated : Bool) (credential_rotation_ref : PyStr)
    (succeeded : (run L W call cache).outcome = .ok (.success rows row_count truncated credential_rotation_ref)) :
    row_count = rows.length ∧
      (truncated = false → (row_count : Int) < effectiveBound stmt call.max_rows ∧
        ∃ text columns fetched shown, Fetched W.driver text columns fetched ∧ shown <+: rows ∧
          List.Forall₂ (fun row entry => rowDict columns row = .ok entry) (answer DB stmt) shown) ∧
      (effectiveBound stmt call.max_rows < (answer DB stmt).length → truncated = true) := by
  obtain ⟨stmt', text, columns, fetched, analyzed, applied, ran, projected, counted, flagged⟩ := run_success succeeded
  obtain rfl := Except.ok.inj (Except.ok.inj (analyzed.symm.trans admitted))
  have first := database text columns fetched applied ran
  have pairs := forall₂_of_mapM projected
  have length : rows.length = min (effectiveBound stmt' call.max_rows).toNat (freeRows DB stmt').length := by
    rw [← pairs.length_eq, first, List.length_take]
  have own : answer DB stmt' <+: freeRows DB stmt' := apply_prefix _ _ _
  refine ⟨counted, fun notFull => ?_, fun more => ?_⟩
  · rw [flagged, decide_eq_false_iff_not, not_le] at notFull
    have all : fetched = freeRows DB stmt' := by
      rw [first]
      apply List.take_of_length_le
      omega
    have front := List.forall₂_take (answer DB stmt').length pairs
    rw [all, ← List.prefix_iff_eq_take.mp own] at front
    exact ⟨by omega, text, columns, fetched, _, ran, List.take_prefix _ _, front⟩
  · have longer := own.length_le
    rw [flagged, decide_eq_true_iff]
    omega

/-! ### Sample runs -/

section
variable (stmt : Expression) (sql text : PyStr)

/-- sqlglot knows one statement, and the emitted text. -/
def oneStatement : Libraries := { sampleLibraries with sqlglot := sampleSqlglot [(sql, stmt)] text }
def callOf (max_rows : Option Int) : Call := { sampleCall with sql := sql, max_rows := max_rows }
def withDriver (driver : Driver) : Surroundings := { sampleSurroundings (some (lit "key.pem")) 5 with driver := driver }

theorem oneStatement_admitted (plain : PlainSelect stmt) : analyze (oneStatement stmt sql text).sqlglot sql = .ok (.ok stmt) :=
  (analyze_admits_iff _ _ _).mpr ⟨⟨[some stmt], by simp [oneStatement, sampleSqlglot], rfl⟩, plain, _, rfl⟩

variable {stmt sql text} {max_rows : Option Int} (plain : PlainSelect stmt)
  (inScope : outOfScopeObjects (objectsOf stmt) sampleClaims.objects = [])
  (written : ∃ bytes, canonicalBytes (.dict (ofCall (callOf sql max_rows)).authored) = .ok bytes)
include plain inScope written

theorem oneStatement_gates (driver : Driver) (trace : List Event) :
    gates (oneStatement stmt sql text) (withDriver driver) (callOf sql max_rows) sampleClaims trace =
      (.ok (.ok ⟨sampleClaims, text, effectiveBound stmt max_rows, .finite 30⟩), trace) := by
  have digest : recomputeArgsSha256 (oneStatement stmt sql text) (callOf sql max_rows) = .ok (lit "digest") := by
    obtain ⟨bytes, written⟩ := written
    exact recompute_eq_ok.mpr ⟨bytes, by rw [argsBasis_eq, written], rfl⟩
  have referenced : referencedObjects (oneStatement stmt sql text).sqlglot stmt = .ok (objectsOf stmt) :=
    referencedObjects_walked rfl
  have applied : applyRowBound (oneStatement stmt sql text).sqlglot stmt (callOf sql max_rows).max_rows =
      .ok (text, effectiveBound stmt max_rows) := rfl
  have timed : queryTimeoutS (oneStatement stmt sql text).float ((withDriver driver).environ timeoutEnv) = pure (.finite 30) := rfl
  have planned : planFor (oneStatement stmt sql text) (withDriver driver) (callOf sql max_rows) sampleClaims stmt trace =
      (.ok (.ok ⟨sampleClaims, text, effectiveBound stmt max_rows, .finite 30⟩), trace) := by
    unfold planFor
    rw [referenced, ofExcept_bind, applied, timed]
    simp only [inScope, ne_eq, not_true_eq_false, if_false]
    rfl
  unfold gates
  rw [digest, ofExcept_bind, show (callOf sql max_rows).sql = sql from rfl, oneStatement_admitted stmt sql text plain]
  exact planned

/-- The sample call reaches its database leg, whatever the driver. -/
theorem oneStatement_preflight (driver : Driver) :
    (preflight (oneStatement stmt sql text) (withDriver driver) (callOf sql max_rows) .fresh).outcome =
      .ok (.ok ⟨sampleClaims, text, effectiveBound stmt max_rows, .finite 30⟩) := by
  have context : (verifyContext (oneStatement stmt sql text) (withDriver driver) (callOf sql max_rows) []).1 =
    .ok (.ok sampleClaims) := sampleContext_verified
  unfold preflight
  cases verified : verifyContext (oneStatement stmt sql text) (withDriver driver) (callOf sql max_rows) [] with
  | mk result trace =>
    rw [verified] at context
    obtain rfl : result = .ok (.ok sampleClaims) := context
    simp only
    have fresh : (ReplayCache.fresh.checkAndInsert sampleClaims.jti sampleClaims.exp (withDriver driver).now).1 = true := rfl
    cases checked : ReplayCache.fresh.checkAndInsert sampleClaims.jti sampleClaims.exp (withDriver driver).now with
    | mk answer cache =>
      rw [checked] at fresh
      obtain rfl : answer = true := fresh
      simp only [oneStatement_gates plain inScope written]
end

/-- `SELECT * FROM dual`. -/
def dual : Expression := selectFrom (tableNamed "dual") []
def dualText : PyStr := lit "SELECT * FROM dual FETCH FIRST 100 ROWS ONLY"

def dualLibraries : Libraries := oneStatement dual sampleCall.sql dualText
def dualSurroundings : Surroundings := withDriver (answering [lit "DUMMY"] [[.str (lit "X")]])

/-- The arguments of a sample call have a canonical form. -/
theorem sample_written (sql : PyStr) (max_rows : Option Int) (clean : sql.all (fun c => !isSurrogate c) = true)
    (small : ∀ n, max_rows = some n → (Nat.toDigits 10 n.natAbs).length ≤ 4300) :
    ∃ bytes, canonicalBytes (.dict (ofCall (callOf sql max_rows)).authored) = .ok bytes := by
  refine canonicalBytes_authored.mpr ⟨fun c member => ?_, fun n given => ?_⟩
  · rcases List.mem_append.mp member with scope | inSql
    · have plain : sampleCall.scope_id.all (fun c => !isSurrogate c) = true := by decide
      simpa using List.all_eq_true.mp plain c scope
    · simpa using List.all_eq_true.mp clean c inSql
  · cases max_rows with
    | none => cases given
    | some m =>
      obtain rfl : m = n := WireMaxRows.int.inj given
      exact small m rfl

theorem dual_plain : PlainSelect dual := ⟨rfl, by decide, by decide, by decide⟩

theorem dual_preflight (driver : Driver) :
    (preflight dualLibraries { dualSurroundings with driver := driver } sampleCall .fresh).outcome =
      .ok (.ok ⟨sampleClaims, dualText, 100, .finite 30⟩) :=
  oneStatement_preflight dual_plain (outOfScope_eq_nil.mpr (by decide)) (sample_written _ none rfl nofun) driver

/-- Two rows, for any statement. -/
def twoRows : Database (List Cell) := ⟨fun _ => [[.str (lit "X")], [.str (lit "Y")]], fun _ _ _ => false, fun _ => 0⟩
def twoEntries : List Row := [(∅ : Row).insert (lit "DUMMY") (.str (lit "X")), (∅ : Row).insert (lit "DUMMY") (.str (lit "Y"))]

def sevenText : PyStr := lit "SELECT * FROM dual FETCH FIRST 7 ROWS ONLY"
def sevenLibraries : Libraries := oneStatement fetchSeven sevenText sevenText

theorem seven_plain : PlainSelect fetchSeven := ⟨rfl, by decide, by decide, by decide⟩

/-- A run whose statement gives these rows. -/
theorem seven_run (max_rows : Option Int) (fetched : List (List Cell)) {rows : List Row}
    (small : ∀ n, max_rows = some n → (Nat.toDigits 10 n.natAbs).length ≤ 4300)
    (projected : fetched.mapM (rowDict [lit "DUMMY"]) = .ok rows) :
    (run sevenLibraries (withDriver (answering [lit "DUMMY"] fetched)) (callOf sevenText max_rows) .fresh).outcome =
      .ok (.success rows rows.length (decide (effectiveBound fetchSeven max_rows ≤ rows.length)) []) := by
  have planned : (preflight sevenLibraries (withDriver (answering [lit "DUMMY"] fetched)) (callOf sevenText max_rows) .fresh).outcome =
      .ok (.ok ⟨sampleClaims, sevenText, effectiveBound fetchSeven max_rows, .finite 30⟩) :=
    oneStatement_preflight seven_plain (outOfScope_eq_nil.mpr (by decide)) (sample_written sevenText max_rows rfl small) _
  rw [run_of_plan planned]
  have executed : ∀ effective start, (execute (answering [lit "DUMMY"] fetched) sampleCall.cfg sevenLibraries.sha256_hexdigest
      sampleClaims.proxy_db_identity sampleClaims.sub sevenText effective (.finite 30) start).1 =
      .ok (.success rows rows.length (decide (effective ≤ rows.length)) []) := fun effective start =>
    execute_answering rfl milliseconds_thirty projected _ _ _ _ _ _
  exact (congrArg Prod.fst (catching_of_ok (executed _ _))).trans (executed _ _)

/-- Two rows are all that the author's bound of seven leaves; bounded to one by the caller,
    the page says that it may have been cut. -/
theorem truncated_honest_seven :
    ((2 : Int) < effectiveBound fetchSeven none ∧ ∃ text columns fetched shown,
        Fetched (answering [lit "DUMMY"] (freeRows twoRows fetchSeven)) text columns fetched ∧ shown <+: twoEntries ∧
          List.Forall₂ (fun row entry => rowDict columns row = .ok entry) (answer twoRows fetchSeven) shown) ∧
      (run sevenLibraries (withDriver (answering [lit "DUMMY"] ((freeRows twoRows fetchSeven).take 1)))
        (callOf sevenText (some 1)) .fresh).outcome = .ok (.success (twoEntries.take 1) 1 true []) := by
  have admitted : analyze sevenLibraries.sqlglot sevenText = .ok (.ok fetchSeven) := oneStatement_admitted _ _ _ seven_plain
  constructor
  · have database : FetchesFirst (answering [lit "DUMMY"] (freeRows twoRows fetchSeven)) sevenLibraries.sqlglot twoRows
        fetchSeven none := by
      rintro text columns fetched _ ⟨history, _, fetches⟩
      exact (Except.ok.inj fetches).symm
    have honest := truncated_honest sevenLibraries (withDriver (answering [lit "DUMMY"] (freeRows twoRows fetchSeven)))
      (callOf sevenText none) .fresh twoRows fetchSeven admitted database _ _ _ _
      (seven_run none _ (fun _ given => nomatch given) rfl)
    exact honest.2.1 (by decide)
  · have database : FetchesFirst (answering [lit "DUMMY"] ((freeRows twoRows fetchSeven).take 1)) sevenLibraries.sqlglot twoRows
        fetchSeven (some 1) := by
      rintro text columns fetched _ ⟨history, _, fetches⟩
      exact (Except.ok.inj fetches).symm
    have small : ∀ n, some (1 : Int) = some n → (Nat.toDigits 10 n.natAbs).length ≤ 4300 := by
      rintro n same
      obtain rfl := Option.some.inj same
      decide
    have succeeded := seven_run (some 1) ((freeRows twoRows fetchSeven).take 1) small rfl
    have honest := truncated_honest sevenLibraries (withDriver (answering [lit "DUMMY"] ((freeRows twoRows fetchSeven).take 1)))
      (callOf sevenText (some 1)) .fresh twoRows fetchSeven admitted database _ _ _ _ succeeded
    rw [succeeded, honest.2.2 (by decide)]
    rfl

end OracleSchema.Truncation
