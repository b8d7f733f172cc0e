import OracleSchema.QueryContext
import OracleSchema.Replay
import OracleSchema.Execution
import OracleSchema.RowBound

/-!
The seven arms of one governed query. `preflight` is everything before the database
leg and runs without suspension; `run` adds the leg. A connection is attempted only
in a run whose gates have all passed, and a refusal names the first gate that failed
(`run_gated`).
-/
namespace OracleSchema.Pipeline
open OracleSchema.Strings OracleSchema.Errors OracleSchema.Json OracleSchema.Settings OracleSchema.SqlTree
open OracleSchema.SqlGate OracleSchema.RowBound OracleSchema.QueryContext OracleSchema.SeenSets OracleSchema.Replay
open OracleSchema.Traced OracleSchema.Execution

def expectedAud : PyStr := lit "cognic-tool-oracle-schema/run_readonly_query"
def publicKeysEnv : PyStr := lit "COGNIC_QUERY_CONTEXT_PUBLIC_KEYS"
def timeoutEnv : PyStr := lit "COGNIC_ORACLE_QUERY_TIMEOUT_S"

/-- The functions outside the program that a run calls. -/
structure Libraries where
  joserfc : Joserfc
  loads : Bytes → Except PyExc PyValue
  sha256_hexdigest : Bytes → PyStr
  sqlglot : Sqlglot
  float : PyStr → Except PyExc PyReal

/-- What one run finds: the environment, the files, the clock and the driver. -/
structure Surroundings where
  environ : PyStr → Option PyStr
  read_bytes : PyStr → Except PyExc Bytes
  now : Int
  driver : Driver

structure Call where
  cfg : Config
  scope_id : PyStr
  sql : PyStr
  max_rows : Option Int
  token : PyStr

def refuse {α : Type} (reason : RefusalReason) (message : String) : Except Refusal α := .error ⟨reason, lit message⟩

/-! ### Arm 1 -/

/-- The file names in the environment variable for the public keys. -/
def keyPaths (W : Surroundings) : List PyStr :=
  ((splitComma ((W.environ publicKeysEnv).getD [])).filter (fun path => strip path ≠ [])).map strip

/-- The files in order; the first unreadable or empty one ends the reading. -/
def readKeys (W : Surroundings) : List PyStr → Action Event PyExc (Option (List Bytes))
  | [] => pure (some [])
  | path :: rest =>
    match W.read_bytes path with
    | .error exc =>
      if exc.isInstance .OSError then do
        note (.log ⟨lit "readonly_query.public_key_unreadable", [(lit "key_path", path)]⟩)
        pure none
      else ofExcept (.error exc)
    | .ok pem =>
      if stripBytes pem = [] then do
        note (.log ⟨lit "readonly_query.public_key_empty", [(lit "key_path", path)]⟩)
        pure none
      else do
        let keys ← readKeys W rest
        pure (keys.map (fun keys => pem :: keys))

/-- `_load_public_keys`. -/
def loadPublicKeys (W : Surroundings) : Action Event PyExc (Option (List Bytes)) :=
  if keyPaths W = [] then pure none else readKeys W (keyPaths W)

def verifyContext (L : Libraries) (W : Surroundings) (call : Call) :
    Action Event PyExc (Except Refusal QueryContextClaims) := do
  match ← loadPublicKeys W with
  | none =>
    pure (refuse .query_context_missing_or_invalid
      "query-context verification keys are not configured on this server (COGNIC_QUERY_CONTEXT_PUBLIC_KEYS); governed queries cannot run")
  | some keys =>
    if call.token = [] then
      pure (refuse .query_context_missing_or_invalid
        "a kernel-signed query-context token is required (this tool only runs on the governed agent dispatch path)")
    else
      match verifyQueryContext L.joserfc L.loads call.token keys expectedAud W.now with
      | .ok claims => pure (.ok claims)
      | .error (.escaped exc) => ofExcept (.error exc)
      | .error (.refused refusal) => do
        note (.log ⟨lit "readonly_query.query_context_refused", [(lit "internal_reason", reasonText refusal.reason)]⟩)
        pure (refuse .query_context_missing_or_invalid
          "the query-context token did not verify (missing, invalid, expired, or for another audience)")

/-! ### Arms 3 to 6 and the identity check -/

/-- The received arguments without the token; `max_rows` only if it was given. -/
def argsBasis (call : Call) : PyValue :=
  .dict ([(.str (lit "scope_id"), .str call.scope_id), (.str (lit "sql"), .str call.sql)] ++
    match call.max_rows with
    | none => []
    | some n => [(.str (lit "max_rows"), .int n)])

/-- `_recompute_args_sha256`. -/
def recomputeArgsSha256 (L : Libraries) (call : Call) : Except PyExc PyStr :=
  (canonicalBytes (argsBasis call)).map L.sha256_hexdigest

/-- A full match of `[A-Za-z][A-Za-z0-9_$#]{0,127}`. -/
def isProxyIdentity (s : PyStr) : Bool :=
  let isLetter : Casing.CodePoint → Bool := fun c => (65 ≤ c.val ∧ c.val ≤ 90) ∨ (97 ≤ c.val ∧ c.val ≤ 122)
  match s with
  | [] => false
  | first :: rest =>
    isLetter first ∧ rest.length ≤ 127 ∧ rest.all (fun c => isLetter c || isDigit c || c ∈ [95, 36, 35])

/-- What the database leg is started with. -/
structure Plan where
  claims : QueryContextClaims
  bounded_sql : PyStr
  effective : Int
  timeout_s : PyReal

/-- Arms 5 and 6 and the identity check, for an admitted statement. -/
def planFor (L : Libraries) (W : Surroundings) (call : Call) (claims : QueryContextClaims) (stmt : Expression) :
    Action Event PyExc (Except Refusal Plan) := do
  let referenced ← ofExcept (referencedObjects L.sqlglot stmt)
  if outOfScopeObjects referenced claims.objects ≠ [] then
    pure (.error ⟨.agent_sql_object_out_of_scope,
      lit "the query references objects outside the entitled data scope: " ++
        List.intercalate (lit ", ") (outOfScopeObjects referenced claims.objects)⟩)
  else do
    let bounded ← ofExcept (applyRowBound L.sqlglot stmt call.max_rows)
    let timeout_s ← queryTimeoutS L.float (W.environ timeoutEnv)
    if isProxyIdentity claims.proxy_db_identity then pure (.ok ⟨claims, bounded.1, bounded.2, timeout_s⟩)
    else
      pure (refuse .query_execution_failed "the token's proxy database identity is not a valid Oracle identifier")

def gates (L : Libraries) (W : Surroundings) (call : Call) (claims : QueryContextClaims) :
    Action Event PyExc (Except Refusal Plan) := do
  let digest ← ofExcept (recomputeArgsSha256 L call)
  if digest ≠ claims.args_sha256 then
    pure (refuse .query_context_args_mismatch
      "the call arguments do not match the arguments this query context was minted for")
  else do
    match ← ofExcept (analyze L.sqlglot call.sql) with
    | .error refusal => pure (.error refusal)
    | .ok stmt => planFor L W call claims stmt

/-! ### The run -/

structure Preflight where
  outcome : Except PyExc (Except Refusal Plan)
  cache : ReplayCache
  trace : List Event

/-- Arms 1 to 6 and the identity check. -/
def preflight (L : Libraries) (W : Surroundings) (call : Call) (cache : ReplayCache) : Preflight :=
  match verifyContext L W call [] with
  | (.error exc, trace) => ⟨.error exc, cache, trace⟩
  | (.ok (.error refusal), trace) => ⟨.ok (.error refusal), cache, trace⟩
  | (.ok (.ok claims), trace) =>
    match cache.checkAndInsert claims.jti claims.exp W.now with
    | (false, checked) =>
      ⟨.ok (refuse .query_context_replayed "this query-context token was already used (replay refused)"), checked, trace⟩
    | (true, checked) =>
      match gates L W call claims trace with
      | (outcome, later) => ⟨outcome, checked, later⟩

/-- Arm 7, with the last handler. -/
def databaseLeg (L : Libraries) (W : Surroundings) (call : Call) (plan : Plan) : Action Event PyExc Envelope :=
  catching
    (execute W.driver call.cfg L.sha256_hexdigest plan.claims.proxy_db_identity plan.claims.sub plan.bounded_sql
      plan.effective plan.timeout_s)
    (fun exc => do
      note (.log ⟨lit "readonly_query.execution_failed", [(lit "exception_class", exc.cls.name)]⟩)
      pure (.refusal ⟨.query_execution_failed, lit "query execution failed (" ++ exc.cls.name ++ lit ")"⟩))

structure Finished where
  outcome : Except PyExc Envelope
  cache : ReplayCache
  trace : List Event

/-- `run`, on the cache that it finds. -/
def run (L : Libraries) (W : Surroundings) (call : Call) (cache : ReplayCache) : Finished :=
  let before := preflight L W call cache
  match before.outcome with
  | .error exc => ⟨.error exc, before.cache, before.trace⟩
  | .ok (.error refusal) => ⟨.ok (.refusal refusal), before.cache, before.trace⟩
  | .ok (.ok plan) =>
    match databaseLeg L W call plan before.trace with
    | (outcome, trace) => ⟨outcome, before.cache, trace⟩

/-! ### What the gates ask -/

/-- The environment configures these keys: every listed file is readable and not empty. -/
def ConfiguredKeys (W : Surroundings) (keys : List Bytes) : Prop :=
  keyPaths W ≠ [] ∧ List.Forall₂ (fun path pem => W.read_bytes path = .ok pem ∧ stripBytes pem ≠ []) (keyPaths W) keys

/-- A configured key verifies the token, which carries live claims of the kernel
    for this tool. -/
structure ContextVerified (L : Libraries) (W : Surroundings) (call : Call) (claims : QueryContextClaims) : Prop where
  given : call.token ≠ []
  verified : ∃ keys, ConfiguredKeys W keys ∧ Verified L.joserfc L.loads call.token keys expectedAud W.now claims

/-- The received arguments have the digest that the token was minted for. -/
def DigestMatches (L : Libraries) (call : Call) (claims : QueryContextClaims) : Prop :=
  ∃ bytes, canonicalBytes (argsBasis call) = .ok bytes ∧ L.sha256_hexdigest bytes = claims.args_sha256

/-- The gates in their documented order. -/
inductive Gate
  | context | replay | args | parse | selectOnly | objects | identity
  deriving DecidableEq

def Gate.position : Gate → Nat
  | .context => 1
  | .replay => 2
  | .args => 3
  | .parse => 4
  | .selectOnly => 5
  | .objects => 6
  | .identity => 7

/-- The reason that a refusal at the gate carries. -/
def Gate.reason : Gate → RefusalReason
  | .context => .query_context_missing_or_invalid
  | .replay => .query_context_replayed
  | .args => .query_context_args_mismatch
  | .parse => .sql_parse_failed
  | .selectOnly => .sql_not_select_only
  | .objects => .agent_sql_object_out_of_scope
  | .identity => .query_execution_failed

section
variable (L : Libraries) (W : Surroundings) (call : Call) (cache : ReplayCache)

/-- What each gate asks, on its own. -/
def Passes : Gate → Prop
  | .context => ∃ claims, ContextVerified L W call claims
  | .replay => ∃ claims, ContextVerified L W call claims ∧ live cache.lookup W.now claims.jti = none
  | .args => ∃ claims, ContextVerified L W call claims ∧ DigestMatches L call claims
  | .parse => ¬ Unparseable L.sqlglot call.sql
  | .selectOnly => ∃ stmt, ParsesTo L.sqlglot call.sql stmt ∧ PlainSelect stmt
  | .objects => ∃ claims stmt, ContextVerified L W call claims ∧ ParsesTo L.sqlglot call.sql stmt ∧
      outOfScopeObjects (objectsOf stmt) claims.objects = []
  | .identity => ∃ claims, ContextVerified L W call claims ∧ isProxyIdentity claims.proxy_db_identity = true

/-- The gate fails and all gates before it pass. -/
def FirstFails (gate : Gate) : Prop :=
  ¬ Passes L W call cache gate ∧ ∀ earlier, earlier.position < gate.position → Passes L W call cache earlier

/-- All that holds of a run that starts its database leg. -/
structure AllPassed (claims : QueryContextClaims) : Prop where
  context : ContextVerified L W call claims
  unseen : live cache.lookup W.now claims.jti = none
  digest : DigestMatches L call claims
  statement : ∃ stmt, ParsesTo L.sqlglot call.sql stmt ∧ PlainSelect stmt ∧
    outOfScopeObjects (objectsOf stmt) claims.objects = []
  identity : isProxyIdentity claims.proxy_db_identity = true
end

section
variable {L : Libraries} {W : Surroundings} {call : Call} {cache : ReplayCache} {claims : QueryContextClaims}

theorem ContextVerified.unique {claims' : QueryContextClaims} (one : ContextVerified L W call claims)
    (two : ContextVerified L W call claims') : claims = claims' := by
  obtain ⟨keys, _, verified⟩ := one.verified
  obtain ⟨keys', _, verified'⟩ := two.verified
  exact verified.unique verified'

theorem digestMatches_iff : DigestMatches L call claims ↔ recomputeArgsSha256 L call = .ok claims.args_sha256 := by
  unfold DigestMatches recomputeArgsSha256
  cases canonicalBytes (argsBasis call) with
  | error exc => simp [Except.map]
  | ok bytes => simp [Except.map]

/-- A run that passed everything passes each gate. -/
theorem AllPassed.passes (all : AllPassed L W call cache claims) (gate : Gate) : Passes L W call cache gate := by
  obtain ⟨stmt, parses, plain, inScope⟩ := all.statement
  cases gate with
  | context => exact ⟨claims, all.context⟩
  | replay => exact ⟨claims, all.context, all.unseen⟩
  | args => exact ⟨claims, all.context, all.digest⟩
  | parse => exact parseable_of_parsesTo parses
  | selectOnly => exact ⟨stmt, parses, plain⟩
  | objects => exact ⟨claims, stmt, all.context, parses, inScope⟩
  | identity => exact ⟨claims, all.context, all.identity⟩

theorem Gate.position_injective : Function.Injective Gate.position := by
  intro gate gate' same
  revert same
  cases gate <;> cases gate' <;> decide

theorem FirstFails.unique {gate gate' : Gate} (one : FirstFails L W call cache gate)
    (two : FirstFails L W call cache gate') : gate = gate' := by
  apply Gate.position_injective
  by_contra different
  rcases Nat.lt_or_gt_of_ne different with before | behind
  · exact one.1 (two.2 gate before)
  · exact two.1 (one.2 gate' behind)

/-- The gates up to the next one pass. -/
theorem passes_upTo (gate : Gate) (earlier : ∀ g : Gate, g.position < gate.position → Passes L W call cache g)
    (here : Passes L W call cache gate) (g : Gate) (upTo : g.position < gate.position + 1) : Passes L W call cache g := by
  by_cases before : g.position < gate.position
  · exact earlier g before
  · obtain rfl : g = gate := Gate.position_injective (by omega)
    exact here

/-- Where some gate fails, one is the first to. -/
theorem exists_firstFails {gate : Gate} (fails : ¬ Passes L W call cache gate) : ∃ first, FirstFails L W call cache first := by
  classical
  have some : ∃ n, ∃ g : Gate, g.position = n ∧ ¬ Passes L W call cache g := ⟨_, gate, rfl, fails⟩
  obtain ⟨first, atFirst, failsFirst⟩ := Nat.find_spec some
  refine ⟨first, failsFirst, fun earlier before => ?_⟩
  by_contra failsEarlier
  exact Nat.find_min some (atFirst ▸ before) ⟨earlier, rfl, failsEarlier⟩

/-! ### Arm 1 -/

theorem readKeys_some {paths : List PyStr} {keys : List Bytes} {trace : List Event}
    (read : (readKeys W paths trace).1 = .ok (some keys)) :
    List.Forall₂ (fun path pem => W.read_bytes path = .ok pem ∧ stripBytes pem ≠ []) paths keys := by
  induction paths generalizing keys with
  | nil =>
    obtain rfl : [] = keys := Option.some.inj (Except.ok.inj read)
    exact .nil
  | cons path rest ih =>
    unfold readKeys at read
    cases content : W.read_bytes path with
    | error exc => rw [content] at read; simp only at read; split_ifs at read <;> cases read
    | ok pem =>
      rw [content] at read
      simp only at read
      split_ifs at read with blank
      · cases read
      · obtain ⟨found, later, reads, returns⟩ := bind_eq_ok.mp read
        cases found with
        | none => cases returns
        | some others =>
          obtain rfl : pem :: others = keys := Option.some.inj (Except.ok.inj returns)
          exact .cons ⟨content, blank⟩ (ih (by rw [reads]))

theorem readKeys_none {paths : List PyStr} {trace : List Event} (read : (readKeys W paths trace).1 = .ok none)
    (keys : List Bytes) :
    ¬ List.Forall₂ (fun path pem => W.read_bytes path = .ok pem ∧ stripBytes pem ≠ []) paths keys := by
  induction paths generalizing keys with
  | nil => cases read
  | cons path rest ih =>
    intro all
    cases all with
    | cons here others =>
      obtain ⟨content, given⟩ := here
      unfold readKeys at read
      rw [content] at read
      simp only [given, if_false] at read
      obtain ⟨found, later, reads, returns⟩ := bind_eq_ok.mp read
      cases found with
      | none => exact ih (by rw [reads]) _ others
      | some keys => cases returns

theorem readKeys_emits (W : Surroundings) (paths : List PyStr) : Emits IsLog (readKeys W paths) := by
  induction paths with
  | nil => exact .pure _
  | cons path rest ih =>
    unfold readKeys
    cases W.read_bytes path with
    | error exc =>
      simp only
      split_ifs with caught
      · exact .bind (.note ⟨_, rfl⟩) fun _ => .pure _
      · exact .ofExcept _
    | ok pem =>
      simp only
      split_ifs with blank
      · exact .bind (.note ⟨_, rfl⟩) fun _ => .pure _
      · exact .bind ih fun _ => .pure _

theorem loadPublicKeys_some {keys : List Bytes} {trace : List Event}
    (loaded : (loadPublicKeys W trace).1 = .ok (some keys)) : ConfiguredKeys W keys := by
  unfold loadPublicKeys at loaded
  split_ifs at loaded with unset
  · cases loaded
  · exact ⟨unset, readKeys_some loaded⟩
theorem loadPublicKeys_none {trace : List Event} (loaded : (loadPublicKeys W trace).1 = .ok none) (keys : List Bytes) :
    ¬ ConfiguredKeys W keys := by
  rintro ⟨given, all⟩
  unfold loadPublicKeys at loaded
  rw [if_neg given] at loaded
  exact readKeys_none loaded keys all

/-- The keys that the environment configures are the ones that were read. -/
theorem ConfiguredKeys.unique {keys keys' : List Bytes} (one : ConfiguredKeys W keys) (two : ConfiguredKeys W keys') :
    keys = keys' := by
  have same : ∀ paths keys keys', List.Forall₂ (fun path pem => W.read_bytes path = .ok pem ∧ stripBytes pem ≠ []) paths keys →
      List.Forall₂ (fun path pem => W.read_bytes path = .ok pem ∧ stripBytes pem ≠ []) paths keys' → keys = keys' := by
    intro paths keys keys' first
    induction first generalizing keys' with
    | nil => intro second; cases second; rfl
    | cons here _ ih =>
      intro second
      cases second with
      | cons there others =>
        obtain rfl := Except.ok.inj (here.1.symm.trans there.1)
        rw [ih _ others]
  exact same _ _ _ one.2 two.2

theorem verifyContext_emits (L : Libraries) (W : Surroundings) (call : Call) :
    Emits IsLog (verifyContext L W call) := by
  have loads : Emits IsLog (loadPublicKeys W) := by
    unfold loadPublicKeys
    split_ifs
    · exact .pure _
    · exact readKeys_emits W _
  refine .bind loads fun loaded => ?_
  cases loaded with
  | none => exact .pure _
  | some keys =>
    simp only
    split_ifs with absent
    · exact .pure _
    · cases verifyQueryContext L.joserfc L.loads call.token keys expectedAud W.now with
      | ok claims => exact .pure _
      | error e =>
        cases e with
        | escaped exc => exact .ofExcept _
        | refused refusal => exact .bind (.note ⟨_, rfl⟩) fun _ => .pure _

/-- What arm 1 returns: verified claims, or a refusal because there are none. -/
theorem verifyContext_returns {answer : Except Refusal QueryContextClaims} {trace : List Event}
    (returned : (verifyContext L W call trace).1 = .ok answer) :
    (∃ claims, answer = .ok claims ∧ ContextVerified L W call claims) ∨
      ∃ refusal, answer = .error refusal ∧ refusal.reason = .query_context_missing_or_invalid ∧
        ∀ claims, ¬ ContextVerified L W call claims := by
  unfold verifyContext at returned
  obtain ⟨found, later, loaded, returned⟩ := bind_eq_ok.mp returned
  cases found with
  | none =>
    obtain rfl := Except.ok.inj returned
    refine .inr ⟨_, rfl, rfl, ?_⟩
    rintro claims ⟨_, keys, configured, _⟩
    exact loadPublicKeys_none (by rw [loaded]) keys configured
  | some keys =>
    have configured : ConfiguredKeys W keys := loadPublicKeys_some (by rw [loaded])
    simp only at returned
    split_ifs at returned with absent
    · obtain rfl := Except.ok.inj returned
      exact .inr ⟨_, rfl, rfl, fun claims verified => verified.given absent⟩
    · cases outcome : verifyQueryContext L.joserfc L.loads call.token keys expectedAud W.now with
      | ok claims =>
        rw [outcome] at returned
        obtain rfl := Except.ok.inj returned
        exact .inl ⟨claims, rfl, absent, keys, configured, verifyQueryContext_ok outcome⟩
      | error e =>
        rw [outcome] at returned
        cases e with
        | escaped exc => cases returned
        | refused refusal =>
          obtain rfl := Except.ok.inj returned
          refine .inr ⟨_, rfl, rfl, ?_⟩
          rintro claims ⟨_, keys', configured', verified⟩
          obtain rfl := configured'.unique configured
          exact verifyQueryContext_refused outcome verified

/-! ### The later arms -/

theorem planFor_emits (L : Libraries) (W : Surroundings) (call : Call) (claims : QueryContextClaims) (stmt : Expression) :
    Emits IsLog (planFor L W call claims stmt) := by
  refine .bind (.ofExcept _) fun referenced => ?_
  by_cases inScope : outOfScopeObjects referenced claims.objects = []
  · rw [if_neg (not_not.mpr inScope)]
    refine .bind (.ofExcept _) fun bounded => .bind (queryTimeoutS_emits _ _) fun timeout_s => ?_
    split_ifs with valid
    · exact .pure _
    · exact .pure _
  · rw [if_pos inScope]
    exact .pure _

theorem gates_emits (L : Libraries) (W : Surroundings) (call : Call) (claims : QueryContextClaims) :
    Emits IsLog (gates L W call claims) := by
  refine .bind (.ofExcept _) fun digest => ?_
  split_ifs with mismatch
  · exact .pure _
  · refine .bind (.ofExcept _) fun analyzed => ?_
    cases analyzed with
    | error refusal => exact .pure _
    | ok stmt => exact planFor_emits L W call claims stmt

/-- What arms 5 and 6 and the identity check return for an admitted statement. -/
theorem planFor_returns {stmt : Expression} {visited : List Expression} (walked : L.sqlglot.walk stmt = .ok visited)
    {answer : Except Refusal Plan} {trace : List Event} (returned : (planFor L W call claims stmt trace).1 = .ok answer) :
    (∃ plan, answer = .ok plan ∧ plan.claims = claims ∧ outOfScopeObjects (objectsOf stmt) claims.objects = [] ∧
        isProxyIdentity claims.proxy_db_identity = true) ∨
      ∃ refusal, answer = .error refusal ∧
        ((outOfScopeObjects (objectsOf stmt) claims.objects ≠ [] ∧ refusal.reason = .agent_sql_object_out_of_scope) ∨
          (outOfScopeObjects (objectsOf stmt) claims.objects = [] ∧ isProxyIdentity claims.proxy_db_identity = false ∧
            refusal.reason = .query_execution_failed)) := by
  unfold planFor at returned
  obtain ⟨referenced, found, returned⟩ := ofExcept_bind_eq_ok.mp returned
  obtain rfl : objectsOf stmt = referenced := Except.ok.inj ((referencedObjects_walked walked).symm.trans found)
  by_cases inScope : outOfScopeObjects (objectsOf stmt) claims.objects = []
  · rw [if_neg (not_not.mpr inScope)] at returned
    obtain ⟨bound, bounded, returned⟩ := ofExcept_bind_eq_ok.mp returned
    obtain ⟨timeout_s, later, timed, returned⟩ := bind_eq_ok.mp returned
    cases valid : isProxyIdentity claims.proxy_db_identity with
    | true =>
      rw [if_pos valid] at returned
      obtain rfl := Except.ok.inj returned
      exact .inl ⟨_, rfl, rfl, inScope, rfl⟩
    | false =>
      rw [if_neg (by simp [valid])] at returned
      obtain rfl := Except.ok.inj returned
      exact .inr ⟨_, rfl, .inr ⟨inScope, rfl, rfl⟩⟩
  · rw [if_pos inScope] at returned
    obtain rfl := Except.ok.inj returned
    exact .inr ⟨_, rfl, .inl ⟨inScope, rfl⟩⟩

/-- What the later arms return for verified claims that were not seen before: the
    plan of a run that passed everything, or the refusal of the first failing gate. -/
theorem gates_returns (context : ContextVerified L W call claims) (unseen : live cache.lookup W.now claims.jti = none)
    {answer : Except Refusal Plan} {trace : List Event} (returned : (gates L W call claims trace).1 = .ok answer) :
    (∃ plan, answer = .ok plan ∧ plan.claims = claims ∧ AllPassed L W call cache claims) ∨
      ∃ refusal gate, answer = .error refusal ∧ FirstFails L W call cache gate ∧ refusal.reason = gate.reason := by
  have beforeContext : ∀ g : Gate, g.position < Gate.context.position → Passes L W call cache g := by
    intro g before
    cases g <;> simp [Gate.position] at before
  have beforeReplay := passes_upTo .context beforeContext ⟨claims, context⟩
  have beforeArgs := passes_upTo .replay beforeReplay ⟨claims, context, unseen⟩
  unfold gates at returned
  obtain ⟨digest, computed, returned⟩ := ofExcept_bind_eq_ok.mp returned
  by_cases same : digest = claims.args_sha256
  · have digestMatches : DigestMatches L call claims := by rw [digestMatches_iff, computed, same]
    have beforeParse := passes_upTo .args beforeArgs ⟨claims, context, digestMatches⟩
    rw [if_neg (not_not.mpr same)] at returned
    obtain ⟨verdict, analyzed, returned⟩ := ofExcept_bind_eq_ok.mp returned
    cases verdict with
    | error refusal =>
      obtain rfl := Except.ok.inj returned
      rcases analyze_refuses analyzed with ⟨unparseable, reason⟩ | ⟨parseable, notPlain, reason⟩
      · exact .inr ⟨refusal, .parse, rfl, ⟨not_not.mpr unparseable, beforeParse⟩, reason⟩
      · refine .inr ⟨refusal, .selectOnly, rfl, ⟨?_, passes_upTo .parse beforeParse parseable⟩, reason⟩
        rintro ⟨stmt, parses, plain⟩
        exact notPlain stmt parses plain
    | ok stmt =>
      obtain ⟨parses, plain, visited, walked⟩ := (analyze_admits_iff _ _ _).mp analyzed
      have beforeSelect := passes_upTo .parse beforeParse (parseable_of_parsesTo parses)
      have beforeObjects := passes_upTo .selectOnly beforeSelect ⟨stmt, parses, plain⟩
      rcases planFor_returns walked returned with ⟨plan, rfl, own, inScope, valid⟩ | ⟨refusal, rfl, failure⟩
      · exact .inl ⟨plan, rfl, own, context, unseen, digestMatches, ⟨stmt, parses, plain, inScope⟩, valid⟩
      · rcases failure with ⟨outside, reason⟩ | ⟨inScope, invalid, reason⟩
        · refine .inr ⟨refusal, .objects, rfl, ⟨?_, beforeObjects⟩, reason⟩
          rintro ⟨claims', stmt', context', parses', inScope⟩
          obtain rfl := context.unique context'
          obtain rfl := parsesTo_unique parses parses'
          exact outside inScope
        · have beforeIdentity := passes_upTo .objects beforeObjects ⟨claims, stmt, context, parses, inScope⟩
          refine .inr ⟨refusal, .identity, rfl, ⟨?_, beforeIdentity⟩, reason⟩
          rintro ⟨claims', context', valid⟩
          obtain rfl := context.unique context'
          rw [invalid] at valid
          cases valid
  · rw [if_pos same] at returned
    obtain rfl := Except.ok.inj returned
    refine .inr ⟨_, .args, rfl, ⟨?_, beforeArgs⟩, rfl⟩
    rintro ⟨claims', context', matching⟩
    obtain rfl := context.unique context'
    rw [digestMatches_iff, computed] at matching
    exact same (Except.ok.inj matching)

/-! ### The run -/

theorem preflight_quiet (L : Libraries) (W : Surroundings) (call : Call) (cache : ReplayCache) :
    ∀ event ∈ (preflight L W call cache).trace, IsLog event := by
  have fromEmpty : ∀ event ∈ (verifyContext L W call []).2, IsLog event := by
    intro event member
    rcases (verifyContext_emits L W call).mem member with early | quiet
    · cases early
    · exact quiet
  unfold preflight
  cases verified : verifyContext L W call [] with
  | mk result trace =>
    rw [verified] at fromEmpty
    cases result with
    | error exc => exact fromEmpty
    | ok answer =>
      cases answer with
      | error refusal => exact fromEmpty
      | ok claims =>
        cases checked : cache.checkAndInsert claims.jti claims.exp W.now with
        | mk fresh cache' =>
          cases fresh with
          | false => simpa [checked] using fromEmpty
          | true =>
            simp only [checked]
            intro event member
            rcases (gates_emits L W call claims).mem member with early | quiet
            · exact fromEmpty event early
            · exact quiet

/-- What a preflight returns: the plan of a run that passed everything, whose token
    is recorded, or the refusal of the first failing gate. -/
theorem preflight_returns {answer : Except Refusal Plan} (returned : (preflight L W call cache).outcome = .ok answer) :
    (∃ plan, answer = .ok plan ∧ AllPassed L W call cache plan.claims ∧
        (preflight L W call cache).cache.lookup plan.claims.jti = some plan.claims.exp) ∨
      ∃ refusal gate, answer = .error refusal ∧ FirstFails L W call cache gate ∧ refusal.reason = gate.reason := by
  unfold preflight at returned ⊢
  cases verified : verifyContext L W call [] with
  | mk result trace =>
    rw [verified] at returned
    cases result with
    | error exc => cases returned
    | ok early =>
      rcases verifyContext_returns (by rw [verified]) with ⟨claims, rfl, context⟩ | ⟨refusal, rfl, reason, none⟩
      · have answers := check_fst cache ⟨claims.jti, claims.exp, W.now⟩
        have remembers := check_lookup cache ⟨claims.jti, claims.exp, W.now⟩
        cases checked : cache.checkAndInsert claims.jti claims.exp W.now with
        | mk fresh cache' =>
          simp only [ReplayCache.check, checked] at answers remembers
          simp only [checked] at returned ⊢
          cases fresh with
          | false =>
            obtain rfl := Except.ok.inj returned
            refine .inr ⟨_, .replay, rfl, ⟨?_, ?_⟩, rfl⟩
            · rintro ⟨claims', context', unseen⟩
              obtain rfl := context.unique context'
              simp [admits, unseen] at answers
            · intro earlier before
              cases earlier with
              | context => exact ⟨claims, context⟩
              | _ => simp [Gate.position] at before
          | true =>
            have unseen : live cache.lookup W.now claims.jti = none := by
              simpa [admits] using answers.symm
            rcases gates_returns context unseen returned with ⟨plan, rfl, own, all⟩ | refused
            · subst own
              refine .inl ⟨plan, rfl, all, ?_⟩
              rw [remembers, record_eq_some]
              exact .inl ⟨answers.symm, rfl, rfl⟩
            · exact .inr refused
      · obtain rfl := Except.ok.inj returned
        refine .inr ⟨refusal, .context, rfl, ⟨?_, ?_⟩, reason⟩
        · rintro ⟨claims, context⟩
          exact none claims context
        · intro earlier before
          cases earlier <;> simp [Gate.position] at before

theorem databaseLeg_emits (L : Libraries) (W : Surroundings) (call : Call) (plan : Plan) :
    Emits (LegEvent call.cfg (proxyUser call.cfg plan.claims.proxy_db_identity) plan.bounded_sql plan.timeout_s)
      (databaseLeg L W call plan) :=
  .catching (execute_emits _ _ _ _ _ _ _ _) fun _ => .bind (.note (.log _)) fun _ => .pure _

theorem run_of_error {exc : PyExc} (ended : (preflight L W call cache).outcome = .error exc) :
    run L W call cache = ⟨.error exc, (preflight L W call cache).cache, (preflight L W call cache).trace⟩ := by
  simp [run, ended]
theorem run_of_refusal {refusal : Refusal} (ended : (preflight L W call cache).outcome = .ok (.error refusal)) :
    run L W call cache =
      ⟨.ok (.refusal refusal), (preflight L W call cache).cache, (preflight L W call cache).trace⟩ := by
  simp [run, ended]
theorem run_of_plan {plan : Plan} (ended : (preflight L W call cache).outcome = .ok (.ok plan)) :
    run L W call cache =
      ⟨(databaseLeg L W call plan (preflight L W call cache).trace).1, (preflight L W call cache).cache,
        (databaseLeg L W call plan (preflight L W call cache).trace).2⟩ := by
  simp [run, ended]

/-- A run connects only in a leg, after a preflight that made a plan. -/
theorem connect_of_leg {user password dsn : PyStr} (connects : .connect user password dsn ∈ (run L W call cache).trace) :
    ∃ plan, (preflight L W call cache).outcome = .ok (.ok plan) ∧
      ∀ P : Event → Prop, Emits P (databaseLeg L W call plan) → P (.connect user password dsn) := by
  have unconnected : .connect user password dsn ∉ (preflight L W call cache).trace := by
    intro member
    exact absurd rfl ((preflight_quiet L W call cache _ member).noConnect user password dsn)
  cases ended : (preflight L W call cache).outcome with
  | error exc =>
    rw [run_of_error ended] at connects
    exact absurd connects unconnected
  | ok answer =>
    cases answer with
    | error refusal =>
      rw [run_of_refusal ended] at connects
      exact absurd connects unconnected
    | ok plan =>
      rw [run_of_plan ended] at connects
      exact ⟨plan, rfl, fun P emits => (emits.mem connects).resolve_left unconnected⟩
end

/-- A connection is attempted only in a run that passed every gate and recorded its
    token, and only under the proxy identity of that token. When a gate fails, a run
    that returns gives the reason of the first failing gate. -/
theorem run_gated (L : Libraries) (W : Surroundings) (call : Call) (cache : ReplayCache) :
    ((∃ user password dsn, .connect user password dsn ∈ (run L W call cache).trace) →
      ∃ claims, AllPassed L W call cache claims ∧ (run L W call cache).cache.lookup claims.jti = some claims.exp ∧
        ∀ user password dsn, .connect user password dsn ∈ (run L W call cache).trace →
          user = proxyUser call.cfg claims.proxy_db_identity) ∧
    ∀ gate, ¬ Passes L W call cache gate → ∃ first, FirstFails L W call cache first ∧
      ∀ envelope, (run L W call cache).outcome = .ok envelope →
        ∃ message, envelope = .refusal ⟨first.reason, message⟩ := by
  constructor
  · rintro ⟨user, password, dsn, connects⟩
    obtain ⟨plan, ended, _⟩ := connect_of_leg connects
    rcases preflight_returns ended with ⟨_, same, all, recorded⟩ | ⟨_, _, impossible, _⟩
    · obtain rfl := Except.ok.inj same
      refine ⟨plan.claims, all, ?_, fun user password dsn again => ?_⟩
      · rw [run_of_plan ended]
        exact recorded
      · obtain ⟨plan', ended', own⟩ := connect_of_leg again
        obtain rfl := Except.ok.inj (Except.ok.inj (ended.symm.trans ended'))
        exact (own _ (databaseLeg_emits L W call plan)).connectsAs
    · cases impossible
  · intro gate fails
    cases ended : (preflight L W call cache).outcome with
    | error exc =>
      rw [run_of_error ended]
      obtain ⟨first, isFirst⟩ := exists_firstFails fails
      exact ⟨first, isFirst, fun envelope returned => by cases returned⟩
    | ok answer =>
      rcases preflight_returns ended with ⟨plan, rfl, all, _⟩ | ⟨refusal, first, rfl, isFirst, reason⟩
      · exact absurd (all.passes gate) fails
      · rw [run_of_refusal ended]
        refine ⟨first, isFirst, fun envelope returned => ?_⟩
        obtain rfl := Except.ok.inj returned
        exact ⟨refusal.message, by rw [← reason]⟩

end OracleSchema.Pipeline
