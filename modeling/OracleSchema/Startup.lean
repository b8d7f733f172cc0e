import OracleSchema.Settings

/-!
`Config.from_env`. Every variable is checked in a fixed order and refused with ConfigError,
but for the size of the pool and for an allow-list without entries; `failClosed_iff` says
for which environments that is enough.
-/
namespace OracleSchema.Startup
open OracleSchema.Strings OracleSchema.Errors OracleSchema.Settings OracleSchema.Printing

def hardMaxRows : Int := 1000

abbrev Environ := PyStr → Option PyStr

def passwordEnv : PyStr := lit "COGNIC_ORACLE_PASSWORD"
def authModeEnv : PyStr := lit "COGNIC_AUTH_MODE"
def cognicEnv : PyStr := lit "COGNIC_ENV"
def ownersEnv : PyStr := lit "COGNIC_ORACLE_ALLOWED_OWNERS"
def maxRowsEnv : PyStr := lit "COGNIC_ORACLE_MAX_ROWS"
def issuerEnv : PyStr := lit "COGNIC_OAUTH_ISSUER"
def jwksEnv : PyStr := lit "COGNIC_OAUTH_JWKS_URI"
def audienceEnv : PyStr := lit "COGNIC_OAUTH_AUDIENCE"
def scopesEnv : PyStr := lit "COGNIC_REQUIRED_SCOPES"
def dsnEnv : PyStr := lit "COGNIC_ORACLE_DSN"
def userEnv : PyStr := lit "COGNIC_ORACLE_USER"
def passwordFileEnv : PyStr := lit "COGNIC_ORACLE_PASSWORD_FILE"
def poolMaxEnv : PyStr := lit "COGNIC_ORACLE_POOL_MAX"

def configError {α : Type} (message : PyStr) : Except PyExc α := .error (.ofText .ConfigError message)

section
variable (environ : Environ)

/-- `_req`. -/
def req (k : PyStr) : Except PyExc PyStr :=
  match environ k with
  | none => configError (lit "missing required env " ++ k)
  | some v => if v = [] then configError (lit "missing required env " ++ k) else .ok v

def refusePassword : Except PyExc Unit :=
  match environ passwordEnv with
  | none => .ok ()
  | some _ =>
    configError (lit "COGNIC_ORACLE_PASSWORD was removed in v0.5.0; mount a credential file and set COGNIC_ORACLE_PASSWORD_FILE (spec section 5: the store injects; the plaintext env channel is retired)")

def authMode : Except PyExc AuthMode :=
  let auth_mode := (environ authModeEnv).getD (lit "jwt")
  if auth_mode = lit "dev_insecure" ∧ environ cognicEnv ≠ some (lit "dev") then
    configError (lit "COGNIC_AUTH_MODE=dev_insecure requires COGNIC_ENV=dev")
  else if auth_mode = lit "jwt" then .ok .jwt
  else if auth_mode = lit "dev_insecure" then .ok .dev_insecure
  else configError (lit "invalid COGNIC_AUTH_MODE " ++ pyRepr auth_mode)

/-- The entries of a comma-separated list that are not blank. -/
def entries (raw : PyStr) : List PyStr := (splitComma raw).filter (fun entry => strip entry ≠ [])

def allowedOwners : Finset PyStr := ((entries ((environ ownersEnv).getD [])).map (fun o => upper (strip o))).toFinset

def maxRows : Except PyExc Int :=
  match pyInt ((environ maxRowsEnv).getD (lit "200")) with
  | none => configError (lit "COGNIC_ORACLE_MAX_ROWS must be an integer")
  | some max_rows => .ok (max 1 (min max_rows hardMaxRows))

/-- The variable is set and not empty. -/
def Given (k : PyStr) : Prop := ∃ v, environ k = some v ∧ v ≠ []

instance (k : PyStr) : Decidable (Given environ k) :=
  decidable_of_iff ((environ k).getD [] ≠ []) (by cases h : environ k <;> simp [Given, h])

def checkOauth (auth_mode : AuthMode) : Except PyExc Unit :=
  if auth_mode = .jwt ∧ ¬ (Given environ issuerEnv ∧ Given environ jwksEnv ∧ Given environ audienceEnv) then
    configError (lit "COGNIC_AUTH_MODE=jwt requires COGNIC_OAUTH_ISSUER, COGNIC_OAUTH_JWKS_URI, COGNIC_OAUTH_AUDIENCE")
  else .ok ()

def scopeEntries : List PyStr := entries ((environ scopesEnv).getD (lit "oracle_schema.read"))

def requiredScopes : Except PyExc (Finset PyStr) :=
  if scopeEntries environ = [] then configError (lit "COGNIC_REQUIRED_SCOPES must contain at least one scope")
  else .ok ((scopeEntries environ).map strip).toFinset

/-- The text of the ValueError that `int` raises. -/
def intError (s : PyStr) : PyStr :=
  match intLiteral s with
  | none => lit "invalid literal for int() with base 10: " ++ (pyRepr s).take 200
  | some (_, digits) =>
    lit "Exceeds the limit (4300 digits) for integer string conversion: value has " ++ intText digits.length ++
      lit " digits; use sys.set_int_max_str_digits() to increase the limit"

/-- `int` of the variable; nothing catches its ValueError. -/
def poolMax : Except PyExc Int :=
  let raw := (environ poolMaxEnv).getD (lit "4")
  match pyInt raw with
  | none => .error (.ofText .ValueError (intError raw))
  | some pool_max => .ok pool_max

/-- `Config.from_env`. -/
def fromEnv : Except PyExc Config := do
  refusePassword environ
  let auth_mode ← authMode environ
  let max_rows ← maxRows environ
  checkOauth environ auth_mode
  let required_scopes ← requiredScopes environ
  let oracle_dsn ← req environ dsnEnv
  let oracle_user ← req environ userEnv
  let oracle_password_file ← req environ passwordFileEnv
  let pool_max ← poolMax environ
  pure
    { oracle_dsn, oracle_user, oracle_password_file, allowed_owners := allowedOwners environ, max_rows, pool_max,
      auth_mode, oauth_issuer := environ issuerEnv, oauth_jwks_uri := environ jwksEnv,
      oauth_audience := environ audienceEnv, required_scopes }

/-! ### What startup promises -/

/-- A configuration that the environment may start the server with. -/
structure Admissible (cfg : Config) : Prop where
  oracle_dsn : cfg.oracle_dsn ≠ []
  oracle_user : cfg.oracle_user ≠ []
  oracle_password_file : cfg.oracle_password_file ≠ []
  max_rows : 1 ≤ cfg.max_rows ∧ cfg.max_rows ≤ 1000
  pool_max : 1 ≤ cfg.pool_max
  auth_mode : (cfg.auth_mode = .jwt ∧ (∃ issuer, cfg.oauth_issuer = some issuer ∧ issuer ≠ []) ∧
      (∃ uri, cfg.oauth_jwks_uri = some uri ∧ uri ≠ []) ∧ ∃ audience, cfg.oauth_audience = some audience ∧ audience ≠ []) ∨
    cfg.auth_mode = .dev_insecure ∧ environ cognicEnv = some (lit "dev")
  required_scopes : cfg.required_scopes.Nonempty ∧ ∀ scope ∈ cfg.required_scopes, scope ≠ [] ∧ strip scope = scope
  /-- Owners are listed as `guardOwner` compares them. -/
  normal : ∀ owner ∈ cfg.allowed_owners, guardOwner owner cfg = .ok owner ∧ upper (strip owner) = owner
  listed : (∃ c ∈ (environ ownersEnv).getD [], isSpace c = false) → cfg.allowed_owners.Nonempty

/-- The environment is refused with ConfigError or gives an admissible configuration, and
    one with the retired password is refused. -/
def FailClosed : Prop :=
  ((∃ exc, fromEnv environ = .error exc ∧ exc.isInstance .ConfigError = true) ∨
      ∃ cfg, fromEnv environ = .ok cfg ∧ Admissible environ cfg) ∧
    (environ passwordEnv ≠ none → ∃ exc, fromEnv environ = .error exc ∧ exc.isInstance .ConfigError = true)

/-- All that is refused with ConfigError. -/
structure Accepted : Prop where
  password : environ passwordEnv = none
  auth : ((environ authModeEnv).getD (lit "jwt") = lit "jwt" ∧
      Given environ issuerEnv ∧ Given environ jwksEnv ∧ Given environ audienceEnv) ∨
    environ authModeEnv = some (lit "dev_insecure") ∧ environ cognicEnv = some (lit "dev")
  max_rows : pyInt ((environ maxRowsEnv).getD (lit "200")) ≠ none
  scopes : scopeEntries environ ≠ []
  required : Given environ dsnEnv ∧ Given environ userEnv ∧ Given environ passwordFileEnv

/-- The size of the pool is a positive integer, and an allow-list that is not blank has an entry. -/
structure Usable : Prop where
  pool_max : ∃ n, pyInt ((environ poolMaxEnv).getD (lit "4")) = some n ∧ 1 ≤ n
  owners : (∃ c ∈ (environ ownersEnv).getD [], isSpace c = false) → entries ((environ ownersEnv).getD []) ≠ []
end

section
variable {environ : Environ}

/-- All checks but that of the size of the pool, which the configuration is built with. -/
def beforePool (environ : Environ) : Except PyExc (Int → Config) := do
  refusePassword environ
  let auth_mode ← authMode environ
  let max_rows ← maxRows environ
  checkOauth environ auth_mode
  let required_scopes ← requiredScopes environ
  let oracle_dsn ← req environ dsnEnv
  let oracle_user ← req environ userEnv
  let oracle_password_file ← req environ passwordFileEnv
  pure fun pool_max =>
    { oracle_dsn, oracle_user, oracle_password_file, allowed_owners := allowedOwners environ, max_rows, pool_max,
      auth_mode, oauth_issuer := environ issuerEnv, oauth_jwks_uri := environ jwksEnv,
      oauth_audience := environ audienceEnv, required_scopes }

theorem fromEnv_eq (environ : Environ) : fromEnv environ = (do
    let build ← beforePool environ
    let pool_max ← poolMax environ
    pure (build pool_max)) := by
  simp only [fromEnv, beforePool, bind_assoc, pure_bind]

/-! ### The checks -/

/-- A check raises nothing but ConfigError. -/
def RaisesConfigError {α : Type} (x : Except PyExc α) : Prop := ∀ exc, x = .error exc → exc.isInstance .ConfigError = true

theorem raisesConfigError_configError {α : Type} (message : PyStr) :
    RaisesConfigError (configError message : Except PyExc α) := by
  intro exc same
  obtain rfl := Except.error.inj same
  rfl

theorem raisesConfigError_ok {α : Type} (a : α) : RaisesConfigError (.ok a) := fun _ same => nomatch same

theorem RaisesConfigError.bind {α β : Type} {x : Except PyExc α} {f : α → Except PyExc β} (first : RaisesConfigError x)
    (rest : ∀ a, RaisesConfigError (f a)) : RaisesConfigError (x >>= f) := by
  intro exc raised
  rcases bind_eq_error.mp raised with early | ⟨a, _, late⟩
  · exact first exc early
  · exact rest a exc late

theorem req_raises (k : PyStr) : RaisesConfigError (req environ k) := by
  unfold req
  split
  · exact raisesConfigError_configError _
  · split_ifs
    · exact raisesConfigError_configError _
    · exact raisesConfigError_ok _

theorem req_eq_ok {k v : PyStr} : req environ k = .ok v ↔ environ k = some v ∧ v ≠ [] := by
  unfold req
  cases given : environ k with
  | none => simp [configError]
  | some w =>
    by_cases empty : w = []
    · simp only [empty, if_true, configError]
      constructor
      · intro same
        cases same
      · rintro ⟨same, full⟩
        exact absurd (Option.some.inj same).symm full
    · simp only [empty, if_false, Except.ok.injEq, Option.some.injEq]
      exact ⟨fun same => ⟨same, same ▸ empty⟩, And.left⟩

theorem refusePassword_raises : RaisesConfigError (refusePassword environ) := by
  unfold refusePassword
  split
  · exact raisesConfigError_ok _
  · exact raisesConfigError_configError _

theorem refusePassword_eq_ok : refusePassword environ = .ok () ↔ environ passwordEnv = none := by
  unfold refusePassword
  cases environ passwordEnv with
  | none => simp
  | some v => simp [configError]

theorem authMode_raises : RaisesConfigError (authMode environ) := by
  unfold authMode
  simp only
  split_ifs
  · exact raisesConfigError_configError _
  · exact raisesConfigError_ok _
  · exact raisesConfigError_ok _
  · exact raisesConfigError_configError _

theorem authMode_eq_ok {mode : AuthMode} : authMode environ = .ok mode ↔
    mode = .jwt ∧ (environ authModeEnv).getD (lit "jwt") = lit "jwt" ∨
      mode = .dev_insecure ∧ environ authModeEnv = some (lit "dev_insecure") ∧ environ cognicEnv = some (lit "dev") := by
  have different : lit "jwt" ≠ lit "dev_insecure" := by decide
  have given : (environ authModeEnv).getD (lit "jwt") = lit "dev_insecure" ↔ environ authModeEnv = some (lit "dev_insecure") := by
    cases environ authModeEnv with
    | none => simp [different]
    | some value => simp
  rw [← given]
  unfold authMode
  simp only
  by_cases jwt : (environ authModeEnv).getD (lit "jwt") = lit "jwt"
  · simp [jwt, different, eq_comm]
  · by_cases dev : (environ authModeEnv).getD (lit "jwt") = lit "dev_insecure"
    · by_cases allowed : environ cognicEnv = some (lit "dev")
      · simp [dev, different.symm, allowed, eq_comm]
      · simp [dev, different.symm, allowed, configError]
    · simp [jwt, dev, configError]

theorem maxRows_raises : RaisesConfigError (maxRows environ) := by
  unfold maxRows
  split
  · exact raisesConfigError_configError _
  · exact raisesConfigError_ok _

theorem maxRows_eq_ok {n : Int} : maxRows environ = .ok n ↔
    ∃ read, pyInt ((environ maxRowsEnv).getD (lit "200")) = some read ∧ n = max 1 (min read hardMaxRows) := by
  unfold maxRows
  cases pyInt ((environ maxRowsEnv).getD (lit "200")) with
  | none => simp [configError]
  | some read => simp [eq_comm]

theorem checkOauth_raises (auth_mode : AuthMode) : RaisesConfigError (checkOauth environ auth_mode) := by
  unfold checkOauth
  split_ifs
  · exact raisesConfigError_configError _
  · exact raisesConfigError_ok _

theorem checkOauth_eq_ok {auth_mode : AuthMode} : checkOauth environ auth_mode = .ok () ↔
    (auth_mode = .jwt → Given environ issuerEnv ∧ Given environ jwksEnv ∧ Given environ audienceEnv) := by
  unfold checkOauth
  split_ifs with refused
  · simp only [configError, reduceCtorEq, false_iff]
    exact fun all => refused.2 (all refused.1)
  · simp only [true_iff]
    exact fun jwt => not_not.mp fun missing => refused ⟨jwt, missing⟩

theorem requiredScopes_raises : RaisesConfigError (requiredScopes environ) := by
  unfold requiredScopes
  split_ifs
  · exact raisesConfigError_configError _
  · exact raisesConfigError_ok _

theorem requiredScopes_eq_ok {scopes : Finset PyStr} : requiredScopes environ = .ok scopes ↔
    scopeEntries environ ≠ [] ∧ scopes = ((scopeEntries environ).map strip).toFinset := by
  unfold requiredScopes
  split_ifs with none
  · simp [configError, none]
  · simp [none, eq_comm]

theorem beforePool_raises : RaisesConfigError (beforePool environ) :=
  refusePassword_raises.bind fun _ => authMode_raises.bind fun auth_mode => maxRows_raises.bind fun _ =>
    (checkOauth_raises auth_mode).bind fun _ => requiredScopes_raises.bind fun _ => (req_raises dsnEnv).bind fun _ =>
      (req_raises userEnv).bind fun _ => (req_raises passwordFileEnv).bind fun _ => raisesConfigError_ok _

/-! ### The configuration -/

/-- What the checks before the size of the pool have found. -/
structure Checked (environ : Environ) (build : Int → Config) : Prop where
  accepted : Accepted environ
  pool_max : ∀ n, (build n).pool_max = n
  allowed_owners : ∀ n, (build n).allowed_owners = allowedOwners environ
  oracle_dsn : ∀ n, (build n).oracle_dsn ≠ []
  oracle_user : ∀ n, (build n).oracle_user ≠ []
  oracle_password_file : ∀ n, (build n).oracle_password_file ≠ []
  max_rows : ∀ n, 1 ≤ (build n).max_rows ∧ (build n).max_rows ≤ 1000
  auth_mode : ∀ n, ((build n).auth_mode = .jwt ∧ (∃ issuer, (build n).oauth_issuer = some issuer ∧ issuer ≠ []) ∧
      (∃ uri, (build n).oauth_jwks_uri = some uri ∧ uri ≠ []) ∧
        ∃ audience, (build n).oauth_audience = some audience ∧ audience ≠ []) ∨
    (build n).auth_mode = .dev_insecure ∧ environ cognicEnv = some (lit "dev")
  required_scopes : ∀ n, (build n).required_scopes = ((scopeEntries environ).map strip).toFinset

theorem beforePool_ok {build : Int → Config} (returned : beforePool environ = .ok build) : Checked environ build := by
  obtain ⟨_, password, returned⟩ := bind_eq_ok.mp returned
  obtain ⟨mode, auth, returned⟩ := bind_eq_ok.mp returned
  obtain ⟨rows, read, returned⟩ := bind_eq_ok.mp returned
  obtain ⟨_, oauth, returned⟩ := bind_eq_ok.mp returned
  obtain ⟨scopes, granted, returned⟩ := bind_eq_ok.mp returned
  obtain ⟨dsn, givenDsn, returned⟩ := bind_eq_ok.mp returned
  obtain ⟨user, givenUser, returned⟩ := bind_eq_ok.mp returned
  obtain ⟨file, givenFile, returned⟩ := bind_eq_ok.mp returned
  obtain rfl := Except.ok.inj returned
  rw [authMode_eq_ok] at auth
  rw [checkOauth_eq_ok] at oauth
  obtain ⟨n, readable, rfl⟩ := maxRows_eq_ok.mp read
  obtain ⟨someScope, rfl⟩ := requiredScopes_eq_ok.mp granted
  rw [req_eq_ok] at givenDsn givenUser givenFile
  refine ⟨⟨refusePassword_eq_ok.mp password, ?_, by rw [readable]; simp, someScope, ⟨dsn, givenDsn⟩, ⟨user, givenUser⟩,
    ⟨file, givenFile⟩⟩, fun _ => rfl, fun _ => rfl, fun _ => givenDsn.2, fun _ => givenUser.2, fun _ => givenFile.2,
    fun _ => ?_, fun _ => ?_, fun _ => rfl⟩
  · rcases auth with ⟨rfl, jwt⟩ | ⟨_, dev⟩
    · exact .inl ⟨jwt, oauth rfl⟩
    · exact .inr dev
  · simp only [hardMaxRows]
    omega
  · rcases auth with ⟨rfl, jwt⟩ | ⟨rfl, dev⟩
    · exact .inl ⟨rfl, oauth rfl⟩
    · exact .inr ⟨rfl, dev.2⟩

theorem returns_bind {α β : Type} {x : Except PyExc α} {f : α → Except PyExc β} {a : α} (first : x = .ok a)
    (rest : ∃ b, f a = .ok b) : ∃ b, x >>= f = .ok b := by
  obtain ⟨b, returned⟩ := rest
  exact ⟨b, bind_eq_ok.mpr ⟨a, first, returned⟩⟩

theorem beforePool_of_accepted (accepted : Accepted environ) : ∃ build, beforePool environ = .ok build := by
  obtain ⟨mode, auth, oauth⟩ : ∃ mode, authMode environ = .ok mode ∧ checkOauth environ mode = .ok () := by
    rcases accepted.auth with ⟨jwt, given⟩ | dev
    · exact ⟨.jwt, authMode_eq_ok.mpr (.inl ⟨rfl, jwt⟩), checkOauth_eq_ok.mpr fun _ => given⟩
    · exact ⟨.dev_insecure, authMode_eq_ok.mpr (.inr ⟨rfl, dev⟩), checkOauth_eq_ok.mpr nofun⟩
  obtain ⟨n, read⟩ := Option.ne_none_iff_exists'.mp accepted.max_rows
  obtain ⟨⟨dsn, givenDsn⟩, ⟨user, givenUser⟩, file, givenFile⟩ := accepted.required
  refine returns_bind (refusePassword_eq_ok.mpr accepted.password) (returns_bind auth ?_)
  refine returns_bind (maxRows_eq_ok.mpr ⟨n, read, rfl⟩) (returns_bind oauth ?_)
  refine returns_bind (requiredScopes_eq_ok.mpr ⟨accepted.scopes, rfl⟩) (returns_bind (req_eq_ok.mpr givenDsn) ?_)
  exact returns_bind (req_eq_ok.mpr givenUser) (returns_bind (req_eq_ok.mpr givenFile) ⟨_, rfl⟩)

theorem allowedOwners_nonempty : (allowedOwners environ).Nonempty ↔ entries ((environ ownersEnv).getD []) ≠ [] := by
  rw [allowedOwners, List.toFinset_nonempty_iff, ne_eq, List.map_eq_nil_iff]

/-- The listed owners are normal, so that each passes its own check. -/
theorem guardOwner_listed {cfg : Config} (own : cfg.allowed_owners = allowedOwners environ) :
    ∀ owner ∈ cfg.allowed_owners, guardOwner owner cfg = .ok owner ∧ upper (strip owner) = owner := by
  intro owner member
  have normal : upper (strip owner) = owner := by
    rw [own, allowedOwners, List.mem_toFinset, List.mem_map] at member
    obtain ⟨entry, _, rfl⟩ := member
    exact upper_strip_normal entry
  refine ⟨?_, normal⟩
  simp only [guardOwner, normal]
  rw [if_neg fun refused => refused.2 member]

theorem required_scopes_trimmed {cfg : Config} (own : cfg.required_scopes = ((scopeEntries environ).map strip).toFinset) :
    ∀ scope ∈ cfg.required_scopes, scope ≠ [] ∧ strip scope = scope := by
  intro scope member
  rw [own, List.mem_toFinset, List.mem_map] at member
  obtain ⟨entry, listed, rfl⟩ := member
  rw [scopeEntries, entries, List.mem_filter] at listed
  exact ⟨by simpa using listed.2, strip_strip entry⟩

/-- A configuration that passed the other checks is admissible if the size of its pool is
    positive and its allow-list is not emptied. -/
theorem Checked.admissible_iff {build : Int → Config} (checked : Checked environ build) (n : Int) :
    Admissible environ (build n) ↔
      1 ≤ n ∧ ((∃ c ∈ (environ ownersEnv).getD [], isSpace c = false) → entries ((environ ownersEnv).getD []) ≠ []) := by
  have owners := checked.allowed_owners n
  have scopes := checked.required_scopes n
  rw [← allowedOwners_nonempty, ← owners]
  constructor
  · intro admissible
    refine ⟨?_, admissible.listed⟩
    rw [← checked.pool_max n]
    exact admissible.pool_max
  · rintro ⟨positive, listed⟩
    refine ⟨checked.oracle_dsn n, checked.oracle_user n, checked.oracle_password_file n, checked.max_rows n, ?_,
      checked.auth_mode n, ⟨?_, required_scopes_trimmed scopes⟩, guardOwner_listed owners, listed⟩
    · rw [checked.pool_max n]
      exact positive
    · rw [scopes, List.toFinset_nonempty_iff, ne_eq, List.map_eq_nil_iff]
      exact checked.accepted.scopes

/-- Where no other check refuses, the size of the pool and the allow-list decide. -/
theorem failClosed_of_accepted (accepted : Accepted environ) : FailClosed environ ↔ Usable environ := by
  obtain ⟨build, before⟩ := beforePool_of_accepted accepted
  have checked := beforePool_ok before
  cases read : pyInt ((environ poolMaxEnv).getD (lit "4")) with
  | none =>
    have raised : fromEnv environ = .error (.ofText .ValueError (intError ((environ poolMaxEnv).getD (lit "4")))) := by
      rw [fromEnv_eq, before, poolMax, read]
      rfl
    refine iff_of_false ?_ fun usable => ?_
    · rintro ⟨⟨exc, same, refused⟩ | ⟨cfg, same, _⟩, _⟩
      · cases raised.symm.trans same
        cases refused
      · cases raised.symm.trans same
    · obtain ⟨n, same, _⟩ := usable.pool_max
      cases read.symm.trans same
  | some n =>
    have returned : fromEnv environ = .ok (build n) := by
      rw [fromEnv_eq, before, poolMax, read]
      rfl
    have closed : FailClosed environ ↔ Admissible environ (build n) := by
      constructor
      · rintro ⟨⟨exc, same, _⟩ | ⟨cfg, same, admissible⟩, _⟩
        · cases returned.symm.trans same
        · cases returned.symm.trans same
          exact admissible
      · exact fun admissible => ⟨.inr ⟨build n, returned, admissible⟩, fun set => absurd accepted.password set⟩
    rw [closed, checked.admissible_iff]
    constructor
    · rintro ⟨positive, listed⟩
      exact ⟨⟨n, read, positive⟩, listed⟩
    · rintro ⟨⟨n', same, positive⟩, listed⟩
      cases read.symm.trans same
      exact ⟨positive, listed⟩
end

/-- Startup is fail-closed exactly for the environments that another check refuses and for
    those with a positive size of the pool and an entry in an allow-list that is not blank. -/
theorem failClosed_iff (environ : Environ) : FailClosed environ ↔ (Accepted environ → Usable environ) := by
  by_cases accepted : Accepted environ
  · rw [failClosed_of_accepted accepted]
    exact ⟨fun usable _ => usable, fun usable => usable accepted⟩
  · refine iff_of_true ?_ fun now => absurd now accepted
    cases before : beforePool environ with
    | ok build => exact absurd (beforePool_ok before).accepted accepted
    | error exc =>
      have raised : fromEnv environ = .error exc := by
        rw [fromEnv_eq, before]
        rfl
      have refused := beforePool_raises exc before
      exact ⟨.inl ⟨exc, raised, refused⟩, fun _ => ⟨exc, raised, refused⟩⟩

/-- A development environment with these values of two variables. -/
def sampleEnviron (pool_max owners : Option PyStr) : Environ := fun k =>
  if k = dsnEnv then some (lit "localhost:1521/XEPDB1")
  else if k = userEnv then some (lit "ro_user")
  else if k = passwordFileEnv then some (lit "/run/secrets/oracle-password")
  else if k = authModeEnv then some (lit "dev_insecure")
  else if k = cognicEnv then some (lit "dev")
  else if k = poolMaxEnv then pool_max
  else if k = ownersEnv then owners
  else none

theorem sampleEnviron_accepted (pool_max owners : Option PyStr) : Accepted (sampleEnviron pool_max owners) where
  password := rfl
  auth := .inr ⟨rfl, rfl⟩
  max_rows := (by decide : pyInt (lit "200") ≠ none)
  scopes := (by decide : entries (lit "oracle_schema.read") ≠ [])
  required := ⟨⟨_, rfl, by decide⟩, ⟨_, rfl, by decide⟩, _, rfl, by decide⟩

/-- A size of the pool that is no number escapes as ValueError, a size of zero is taken, and
    an allow-list of one comma allows every owner. -/
theorem unusable_taken : ¬ FailClosed (sampleEnviron (some (lit "many")) none) ∧
    ¬ FailClosed (sampleEnviron (some (lit "0")) none) ∧ ¬ FailClosed (sampleEnviron none (some (lit ","))) := by
  refine ⟨?_, ?_, ?_⟩
  · rw [failClosed_of_accepted (sampleEnviron_accepted _ _)]
    rintro ⟨⟨n, read, _⟩, _⟩
    have unread : pyInt (lit "many") = none := by decide
    cases unread.symm.trans read
  · rw [failClosed_of_accepted (sampleEnviron_accepted _ _)]
    rintro ⟨⟨n, read, positive⟩, _⟩
    have zero : pyInt (lit "0") = some 0 := by decide
    cases zero.symm.trans read
    exact absurd positive (by decide)
  · rw [failClosed_of_accepted (sampleEnviron_accepted _ _)]
    rintro ⟨_, listed⟩
    exact listed ⟨44, by decide, by decide⟩ (by decide)

end OracleSchema.Startup
