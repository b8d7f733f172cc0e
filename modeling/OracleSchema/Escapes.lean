import OracleSchema.Digests

/-!
Which runs end with an envelope. Arms 4 and 7 have handlers; arms 3, 5 and 6 and the walk
of arm 4 have none, so that an exception of theirs reaches the caller (`run_answers_iff`).
-/
namespace OracleSchema.Escapes
open OracleSchema.Casing OracleSchema.Strings OracleSchema.Errors OracleSchema.Json OracleSchema.SqlTree OracleSchema.SqlGate
open OracleSchema.RowBound OracleSchema.QueryContext OracleSchema.SeenSets OracleSchema.Replay OracleSchema.Traced
open OracleSchema.Execution OracleSchema.Pipeline OracleSchema.Sharing OracleSchema.Values OracleSchema.Canonical
open OracleSchema.Digests

/-! ### What must return -/

/-- Reading the key files raises nothing but OSError, up to the first file that is
    unreadable or empty. -/
def KeysReadable (W : Surroundings) : Prop :=
  ∀ before path after, keyPaths W = before ++ path :: after →
    (∀ p ∈ before, ∃ pem, W.read_bytes p = .ok pem ∧ stripBytes pem ≠ []) →
      ∀ exc, W.read_bytes path = .error exc → exc.isInstance .OSError = true

/-- The arguments have canonical bytes. -/
def ArgsEncodable (call : Call) : Prop :=
  (∀ c ∈ call.scope_id ++ call.sql, isSurrogate c = false) ∧
    ∀ n, call.max_rows = some n → (Nat.toDigits 10 n.natAbs).length ≤ 4300

/-- The walk of a SELECT without locks and target returns. -/
def WalkReturns (S : Sqlglot) (sql : PyStr) : Prop :=
  ∀ stmt, ParsesTo S sql stmt → nodeType stmt = .Select → truthy .locks stmt = false → truthy .into stmt = false →
    ∃ visited, S.walk stmt = .ok visited

/-- The wrap of an admitted statement returns. -/
def WrapReturns (S : Sqlglot) (call : Call) (claims : QueryContextClaims) : Prop :=
  ∀ stmt, ParsesTo S call.sql stmt → Admitted stmt claims.objects →
    ∃ bounded text, S.limit stmt (effectiveBound stmt call.max_rows) = .ok bounded ∧ S.sql bounded = .ok text

/-- The steps without a handler that the run reaches all return. -/
structure StepsReturn (L : Libraries) (W : Surroundings) (call : Call) (cache : ReplayCache) : Prop where
  keys : KeysReadable W
  args : ∀ claims, ContextVerified L W call claims → live cache.lookup W.now claims.jti = none → ArgsEncodable call
  walk : ∀ claims, ContextVerified L W call claims → live cache.lookup W.now claims.jti = none →
    DigestMatches L call claims → WalkReturns L.sqlglot call.sql
  wrap : ∀ claims, ContextVerified L W call claims → live cache.lookup W.now claims.jti = none →
    DigestMatches L call claims → WrapReturns L.sqlglot call claims

section
variable {L : Libraries} {W : Surroundings} {call : Call} {cache : ReplayCache} {claims : QueryContextClaims}

/-! ### Arm 1 -/

/-- A demand on every item that the scan reaches: on the first, and on those after it if
    the first lets the scan pass. -/
theorem forall_reached_cons {α : Type} {Passed Fine : α → Prop} {first : α} {rest : List α} :
    (∀ before x after, first :: rest = before ++ x :: after → (∀ p ∈ before, Passed p) → Fine x) ↔
      Fine first ∧ (Passed first → ∀ before x after, rest = before ++ x :: after → (∀ p ∈ before, Passed p) → Fine x) := by
  constructor
  · intro all
    refine ⟨all [] first rest rfl (by simp), fun good before x after split passed => ?_⟩
    exact all (first :: before) x after (by rw [split]; rfl) (List.forall_mem_cons.mpr ⟨good, passed⟩)
  · rintro ⟨here, there⟩ before x after split passed
    cases before with
    | nil =>
      obtain ⟨rfl, _⟩ := List.cons.inj split
      exact here
    | cons p before =>
      obtain ⟨rfl, splitRest⟩ := List.cons.inj split
      obtain ⟨good, passedRest⟩ := List.forall_mem_cons.mp passed
      exact there good before x after splitRest passedRest

theorem readKeys_returns_iff {paths : List PyStr} {trace : List Event} : Returns (readKeys W paths) trace ↔
    ∀ before path after, paths = before ++ path :: after →
      (∀ p ∈ before, ∃ pem, W.read_bytes p = .ok pem ∧ stripBytes pem ≠ []) →
        ∀ exc, W.read_bytes path = .error exc → exc.isInstance .OSError = true := by
  induction paths with
  | nil =>
    refine iff_of_true (returns_pure _ _) fun before path after split => ?_
    simp at split
  | cons first rest ih =>
    -- the first file decides, or the rest after it
    rw [forall_reached_cons, ← ih, readKeys]
    cases content : W.read_bytes first with
    | error exc =>
      simp only
      split_ifs with caught
      · exact iff_of_true ⟨none, rfl⟩ ⟨fun exc' same => Except.error.inj same ▸ caught, fun ⟨pem, same, _⟩ => (nomatch same)⟩
      · refine iff_of_false ?_ fun both => caught (both.1 exc rfl)
        rintro ⟨keys, returned⟩
        cases returned
    | ok pem =>
      simp only
      split_ifs with blank
      · refine iff_of_true ⟨none, rfl⟩ ⟨fun exc same => (nomatch same), ?_⟩
        rintro ⟨pem', same, given⟩
        exact absurd (Except.ok.inj same ▸ blank) given
      · rw [returns_bind]
        constructor
        · rintro ⟨keys, later, read, _⟩
          exact ⟨fun exc same => (nomatch same), fun _ => ⟨keys, by rw [read]⟩⟩
        · rintro ⟨_, rest⟩
          obtain ⟨keys, read⟩ := rest ⟨pem, rfl, blank⟩
          exact ⟨keys, _, Prod.ext read rfl, returns_pure _ _⟩

/-- Arm 1 returns if the key files can be read and the verifier lets nothing escape. -/
theorem verifyContext_returns_iff
    (verifies : ∀ keys, ConfiguredKeys W keys → call.token ≠ [] →
      ∀ exc, verifyQueryContext L.joserfc L.loads call.token keys expectedAud W.now ≠ .error (.escaped exc))
    {trace : List Event} : Returns (verifyContext L W call) trace ↔ KeysReadable W := by
  have loads : Returns (loadPublicKeys W) trace ↔ KeysReadable W := by
    unfold loadPublicKeys KeysReadable
    split_ifs with none
    · rw [none]
      refine iff_of_true (returns_pure _ _) fun before path after split => ?_
      simp at split
    · exact readKeys_returns_iff
  rw [← loads, verifyContext, returns_bind]
  constructor
  · rintro ⟨found, later, loaded, _⟩
    exact ⟨found, by rw [loaded]⟩
  · rintro ⟨found, loaded⟩
    refine ⟨found, _, Prod.ext loaded rfl, ?_⟩
    cases found with
    | none => exact returns_pure _ _
    | some keys =>
      simp only
      split_ifs with absent
      · exact returns_pure _ _
      · have handled := verifies keys (loadPublicKeys_some loaded) absent
        cases verdict : verifyQueryContext L.joserfc L.loads call.token keys expectedAud W.now with
        | ok claims => exact returns_pure _ _
        | error e =>
          cases e with
          | escaped exc => exact absurd verdict (handled exc)
          | refused refusal => exact ⟨_, rfl⟩

/-! ### Arms 3 to 6 -/

theorem recompute_returns_iff : (∃ digest, recomputeArgsSha256 L call = .ok digest) ↔ ArgsEncodable call := by
  have written : (∃ digest, recomputeArgsSha256 L call = .ok digest) ↔ ∃ bytes, canonicalBytes (argsBasis call) = .ok bytes := by
    simp only [recompute_eq_ok]
    exact ⟨fun ⟨_, bytes, written, _⟩ => ⟨bytes, written⟩, fun ⟨bytes, written⟩ => ⟨_, bytes, written, rfl⟩⟩
  rw [written, argsBasis_eq, canonicalBytes_authored, ArgsEncodable]
  refine and_congr_right fun _ => ?_
  unfold ofCall
  cases call.max_rows with
  | none => simp
  | some n => simp

theorem analyze_returns_iff {S : Sqlglot} {sql : PyStr} : (∃ verdict, analyze S sql = .ok verdict) ↔ WalkReturns S sql := by
  unfold analyze WalkReturns
  cases parsed : S.parse sql with
  | error exc =>
    have none : ∀ stmt, ¬ ParsesTo S sql stmt := by
      rintro stmt ⟨statements, same, _⟩
      rw [parsed] at same
      cases same
    simp only
    split_ifs
    · exact iff_of_true ⟨_, rfl⟩ fun stmt parses => absurd parses (none stmt)
    · exact iff_of_true ⟨_, rfl⟩ fun stmt parses => absurd parses (none stmt)
  | ok statements =>
    simp only [parsesTo_iff parsed]
    split
    · rename_i empty
      exact iff_of_true ⟨_, rfl⟩ fun stmt single => by rw [empty] at single; cases single
    · rename_i several
      exact iff_of_true ⟨_, rfl⟩ fun stmt single => by rw [several] at single; cases single
    · rename_i stmt single
      simp only [single, List.cons.injEq, and_true, forall_eq']
      split_ifs with other locks into
      · exact iff_of_true ⟨_, rfl⟩ fun select => absurd select other
      · exact iff_of_true ⟨_, rfl⟩ fun _ unlocked => by rw [unlocked] at locks; cases locks
      · exact iff_of_true ⟨_, rfl⟩ fun _ _ noTarget => by rw [noTarget] at into; cases into
      · have select := not_not.mp other
        cases walked : S.walk stmt with
        | error exc => simp [select, locks, into]
        | ok visited =>
          refine iff_of_true ?_ fun _ _ _ => ⟨visited, rfl⟩
          simp only
          split
          · exact ⟨_, rfl⟩
          · exact ⟨_, rfl⟩

theorem applyRowBound_returns_iff {S : Sqlglot} {stmt : Expression} {max_rows : Option Int} :
    (∃ result, applyRowBound S stmt max_rows = .ok result) ↔
      ∃ bounded text, S.limit stmt (effectiveBound stmt max_rows) = .ok bounded ∧ S.sql bounded = .ok text := by
  unfold applyRowBound
  cases S.limit stmt (effectiveBound stmt max_rows) with
  | error exc => simp
  | ok bounded => cases printed : S.sql bounded <;> simp [printed]

theorem queryTimeoutS_returns {float : PyStr → Except PyExc PyReal}
    (floats : ∀ raw exc, float raw = .error exc → exc.isInstance .ValueError = true) (env : Option PyStr) (trace : List Event) :
    Returns (queryTimeoutS float env) trace := by
  unfold queryTimeoutS
  simp only
  split_ifs with blank
  · exact returns_pure _ _
  · cases read : float (env.getD []) with
    | ok value => exact returns_pure _ _
    | error exc =>
      simp only [floats _ exc read, if_true]
      exact ⟨_, rfl⟩

theorem planFor_returns_iff (floats : ∀ raw exc, L.float raw = .error exc → exc.isInstance .ValueError = true)
    {stmt visited} (walked : L.sqlglot.walk stmt = .ok visited) {trace : List Event} :
    Returns (planFor L W call claims stmt) trace ↔ (outOfScopeObjects (objectsOf stmt) claims.objects = [] →
      ∃ bounded text, L.sqlglot.limit stmt (effectiveBound stmt call.max_rows) = .ok bounded ∧ L.sqlglot.sql bounded = .ok text) := by
  rw [planFor, returns_ofExcept_bind, ← applyRowBound_returns_iff]
  simp only [referencedObjects_walked walked, Except.ok.injEq, exists_eq_left']
  by_cases inScope : outOfScopeObjects (objectsOf stmt) claims.objects = []
  · rw [if_neg (not_not.mpr inScope), returns_ofExcept_bind, forall_prop_of_true inScope]
    refine exists_congr fun bounded => and_iff_left ?_
    obtain ⟨timeout_s, timed⟩ := queryTimeoutS_returns floats (W.environ timeoutEnv) trace
    refine returns_bind.mpr ⟨timeout_s, _, Prod.ext timed rfl, ?_⟩
    split_ifs
    · exact returns_pure _ _
    · exact returns_pure _ _
  · rw [if_pos inScope]
    exact iff_of_true (returns_pure _ _) fun none => absurd none inScope

theorem gates_returns_iff (floats : ∀ raw exc, L.float raw = .error exc → exc.isInstance .ValueError = true)
    {trace : List Event} : Returns (gates L W call claims) trace ↔ ArgsEncodable call ∧
      (DigestMatches L call claims → WalkReturns L.sqlglot call.sql ∧ WrapReturns L.sqlglot call claims) := by
  rw [gates, returns_ofExcept_bind, ← recompute_returns_iff, digestMatches_iff]
  cases computed : recomputeArgsSha256 L call with
  | error exc => simp
  | ok digest =>
    simp only [Except.ok.injEq, exists_eq_left', exists_eq', true_and]
    by_cases same : digest = claims.args_sha256
    · rw [if_neg (not_not.mpr same), returns_ofExcept_bind, forall_prop_of_true same, ← analyze_returns_iff]
      cases analyzed : analyze L.sqlglot call.sql with
      | error exc => simp
      | ok verdict =>
        simp only [Except.ok.injEq, exists_eq_left', exists_eq', true_and]
        cases verdict with
        | error refusal =>
          refine iff_of_true (returns_pure _ _) fun stmt parses admitted => ?_
          rcases analyze_refuses analyzed with ⟨unparseable, _⟩ | ⟨_, notPlain, _⟩
          · exact absurd unparseable (parseable_of_parsesTo parses)
          · exact absurd admitted.1 (notPlain stmt parses)
        | ok stmt =>
          obtain ⟨parses, plain, visited, walked⟩ := (analyze_admits_iff _ _ _).mp analyzed
          rw [planFor_returns_iff floats walked]
          constructor
          · intro wrap stmt' parses' admitted
            obtain rfl := parsesTo_unique parses parses'
            exact wrap admitted.2
          · intro wrap inScope
            exact wrap stmt parses ⟨plain, inScope⟩
    · rw [if_pos same]
      exact iff_of_true (returns_pure _ _) fun match' => absurd match' same

/-! ### The run -/

theorem preflight_returns_iff
    (verifies : ∀ keys, ConfiguredKeys W keys → call.token ≠ [] →
      ∀ exc, verifyQueryContext L.joserfc L.loads call.token keys expectedAud W.now ≠ .error (.escaped exc))
    (floats : ∀ raw exc, L.float raw = .error exc → exc.isInstance .ValueError = true) :
    (∃ answer, (preflight L W call cache).outcome = .ok answer) ↔ StepsReturn L W call cache := by
  have arm1 : Returns (verifyContext L W call) [] ↔ KeysReadable W := verifyContext_returns_iff verifies
  unfold preflight
  cases verified : verifyContext L W call [] with
  | mk result trace =>
    cases result with
    | error exc =>
      refine iff_of_false (fun ⟨answer, same⟩ => nomatch same) fun steps => ?_
      obtain ⟨answer, returned⟩ := arm1.mpr steps.keys
      rw [verified] at returned
      cases returned
    | ok early =>
      have keys : KeysReadable W := arm1.mp ⟨early, by rw [verified]⟩
      rcases verifyContext_returns (by rw [verified]) with ⟨claims, rfl, context⟩ | ⟨refusal, rfl, _, none⟩
      · have answers := check_fst cache ⟨claims.jti, claims.exp, W.now⟩
        cases checked : cache.checkAndInsert claims.jti claims.exp W.now with
        | mk fresh cache' =>
          simp only [ReplayCache.check, checked] at answers
          simp only [checked]
          cases fresh with
          | false =>
            have seen : ∀ claims', ContextVerified L W call claims' → live cache.lookup W.now claims'.jti ≠ none := by
              intro claims' context' unseen
              obtain rfl := context.unique context'
              simp [admits, unseen] at answers
            exact iff_of_true ⟨_, rfl⟩ ⟨keys, fun c v unseen => absurd unseen (seen c v), fun c v unseen => absurd unseen (seen c v),
              fun c v unseen => absurd unseen (seen c v)⟩
          | true =>
            have unseen : live cache.lookup W.now claims.jti = none := by
              simpa [admits] using answers.symm
            have later : Returns (gates L W call claims) trace ↔ _ := gates_returns_iff floats
            simp only
            constructor
            · rintro ⟨answer, returned⟩
              obtain ⟨args, statement⟩ := later.mp ⟨answer, returned⟩
              refine ⟨keys, fun _ _ _ => args, fun claims' context' _ digest => ?_, fun claims' context' _ digest => ?_⟩
              · obtain rfl := context.unique context'
                exact (statement digest).1
              · obtain rfl := context.unique context'
                exact (statement digest).2
            · intro steps
              exact later.mpr ⟨steps.args claims context unseen, fun digest =>
                ⟨steps.walk claims context unseen digest, steps.wrap claims context unseen digest⟩⟩
      · exact iff_of_true ⟨_, rfl⟩ ⟨keys, fun c v => absurd v (none c), fun c v => absurd v (none c), fun c v => absurd v (none c)⟩

/-- The last handler lets nothing through. -/
theorem databaseLeg_returns (plan : Plan) (trace : List Event) : Returns (databaseLeg L W call plan) trace := by
  exact returns_catching fun exc trace => returns_bind.mpr ⟨(), _, rfl, returns_pure _ _⟩

theorem answers_iff_preflight : (∃ envelope, (run L W call cache).outcome = .ok envelope) ↔
    ∃ answer, (preflight L W call cache).outcome = .ok answer := by
  cases ended : (preflight L W call cache).outcome with
  | error exc => simp [run_of_error ended]
  | ok answer =>
    cases answer with
    | error refusal => simp [run_of_refusal ended]
    | ok plan =>
      obtain ⟨envelope, returned⟩ : Returns (databaseLeg L W call plan) (preflight L W call cache).trace :=
        databaseLeg_returns plan _
      exact iff_of_true ⟨envelope, by rw [run_of_plan ended]; exact returned⟩ ⟨_, rfl⟩
end

/-- For a token whose verification gives claims or a refusal, the run ends with an
    envelope exactly if the steps without a handler that it reaches return. -/
theorem run_answers_iff (L : Libraries) (W : Surroundings) (call : Call) (cache : ReplayCache)
    (verifies : ∀ keys, ConfiguredKeys W keys → call.token ≠ [] →
      ∀ exc, verifyQueryContext L.joserfc L.loads call.token keys expectedAud W.now ≠ .error (.escaped exc))
    (floats : ∀ raw exc, L.float raw = .error exc → exc.isInstance .ValueError = true) :
    (∃ envelope, (run L W call cache).outcome = .ok envelope) ↔ StepsReturn L W call cache := by
  rw [answers_iff_preflight]
  exact preflight_returns_iff verifies floats

/-- The sample call with a lone surrogate for its statement. -/
def surrogateCall : Call := { sampleCall with sql := [0xD800] }

theorem sample_verifies (keys : List Bytes) (exc : PyExc) : verifyQueryContext sampleLibraries.joserfc sampleLibraries.loads
    surrogateCall.token keys expectedAud 5 ≠ .error (.escaped exc) := by
  have parsed : parseClaims sampleLibraries.loads [] = .ok sampleClaims :=
    parseClaims_ok_iff.mpr ⟨_, rfl, wireForm_wireItems rfl⟩
  intro same
  cases keys with
  | nil => cases same
  | cons pem rest =>
    have signed : firstVerified sampleLibraries.joserfc surrogateCall.token (pem :: rest) = .ok (some []) := rfl
    simp only [verifyQueryContext, signed, parsed] at same
    cases same

theorem sample_floats (raw : PyStr) (exc : PyExc) (failed : sampleLibraries.float raw = .error exc) :
    exc.isInstance .ValueError = true := nomatch failed

theorem run_answers_iff_surrogate :
    (∃ envelope, (run sampleLibraries (sampleSurroundings (some (lit "key.pem")) 5) surrogateCall .fresh).outcome = .ok envelope) ↔
      StepsReturn sampleLibraries (sampleSurroundings (some (lit "key.pem")) 5) surrogateCall .fresh :=
  run_answers_iff sampleLibraries (sampleSurroundings (some (lit "key.pem")) 5) surrogateCall .fresh
    (fun keys _ _ exc => sample_verifies keys exc) sample_floats

/-- The digest of a lone surrogate is not computed, and nothing catches that. -/
theorem surrogate_escapes :
    ¬ ∃ envelope, (run sampleLibraries (sampleSurroundings (some (lit "key.pem")) 5) surrogateCall .fresh).outcome = .ok envelope := by
  rw [answers_iff_preflight]
  intro answered
  have steps := (preflight_returns_iff (fun keys _ _ exc => sample_verifies keys exc) sample_floats).mp answered
  have context : ContextVerified sampleLibraries (sampleSurroundings (some (lit "key.pem")) 5) surrogateCall sampleClaims := by
    rcases verifyContext_returns (show (verifyContext sampleLibraries _ surrogateCall []).1 = _ from sampleContext_verified) with ⟨claims, same, context⟩ | ⟨_, same, _⟩
    · rw [Except.ok.inj same]
      exact context
    · cases same
  have clean := (steps.args sampleClaims context rfl).1 0xD800 (by simp [surrogateCall])
  cases clean

end OracleSchema.Escapes
