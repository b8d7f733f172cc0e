import OracleSchema.Bearer
import OracleSchema.Startup

/-!
Who is let in. `build_server` reads the configuration from the environment and selects the
verifier of bearer tokens by its mode. `admits` follows a token through all of it, in every
environment that starts: who gets an access token, with which scopes, and what raises.
-/
namespace OracleSchema.Admission
open OracleSchema.Strings OracleSchema.Errors OracleSchema.Json OracleSchema.Numerals OracleSchema.QueryContext
open OracleSchema.Settings OracleSchema.Bearer OracleSchema.Startup

/-- What the verifiers take from outside: the decoder for a set of keys, an issuer and an
    audience, the constructor of access tokens, and the order in which a set is listed. -/
structure Provider where
  decode : Option PyStr → Option PyStr → Option PyStr → PyStr → Except PyExc Claims
  accessToken : PyStr → PyStr → List PyStr → PyValue → Option PyStr → Except PyExc AccessToken
  listing : Finset PyStr → List PyStr
  listing_mem : ∀ s a, a ∈ listing s ↔ a ∈ s

section
variable (P : Provider)

/-- The library as `JwtTokenVerifier` uses it under this configuration. -/
def Provider.library (cfg : Config) : Library where
  decode := P.decode cfg.oauth_jwks_uri cfg.oauth_issuer cfg.oauth_audience
  accessToken := P.accessToken

/-- `DevTokenVerifier.verify_token`. -/
def devVerifyToken (cfg : Config) (token : PyStr) : Except PyExc (Option AccessToken) :=
  if token = [] then .ok none
  else
    (P.accessToken token (lit "dev") (P.listing cfg.required_scopes) .none (some (cfg.oauth_audience.getD []))).map some

/-- `select_token_verifier`, by the `verify_token` of what it selects. -/
def selectTokenVerifier (cfg : Config) : PyStr → Except PyExc (Option AccessToken) :=
  if cfg.auth_mode = .dev_insecure then devVerifyToken P cfg else verifyToken (P.library cfg) cfg

/-- The `token_verifier` that `build_server` passes on. -/
def serverVerifier (environ : Environ) : Except PyExc (PyStr → Except PyExc (Option AccessToken)) := do
  let cfg ← fromEnv environ
  pure (selectTokenVerifier P cfg)

/-- What is documented of the constructor: of the numbers it takes these, all of them
    integral, and it takes none at all. -/
structure TakesExpiry (takes : PyValue → Prop) : Prop where
  expiry : ∀ cfg, IntegralExpiry (P.library cfg) takes
  endless : ∀ token client_id scopes resource,
    P.accessToken token client_id scopes .none resource = .ok ⟨token, client_id, scopes, none, resource⟩
end

/-! ### What the environment says -/

/-- The scopes that the environment requires. -/
def scopesOfEnv (environ : Environ) : Finset PyStr := ((scopeEntries environ).map strip).toFinset

def JwtMode (environ : Environ) : Prop := (environ authModeEnv).getD (lit "jwt") = lit "jwt"

def DevMode (environ : Environ) : Prop := environ authModeEnv = some (lit "dev_insecure") ∧ environ cognicEnv = some (lit "dev")

section
variable (P : Provider) (takes : PyValue → Prop) (environ : Environ) (token : PyStr)

/-- The token is decoded, against what the environment names, to claims with well-formed
    scopes that cover the required ones. -/
structure Covers (claims : Claims) : Prop where
  given : token ≠ []
  decoded : P.decode (environ jwksEnv) (environ issuerEnv) (environ audienceEnv) token = .ok claims
  wellFormed : WellFormed claims.items
  covered : scopesOfEnv environ ⊆ granted claims.items

/-- Who is let in, and with which access token. -/
inductive Admitted : AccessToken → Prop
  | dev (mode : DevMode environ) (given : token ≠ []) :
      Admitted ⟨token, lit "dev", P.listing (scopesOfEnv environ), none, some ((environ audienceEnv).getD [])⟩
  | jwt {claims : Claims} {client_id : PyStr} {n : Int} (mode : JwtMode environ) (covers : Covers P environ token claims)
      (named : clientId claims.items = .ok client_id) (taken : takes (claim claims.items (lit "exp")))
      (expires : number? (claim claims.items (lit "exp")) = some (n : Rat)) :
      Admitted ⟨token, client_id, sorted (granted claims.items), some n, environ audienceEnv⟩

/-- What a verifier does with a token in the environment. -/
structure Admits (verify : PyStr → Except PyExc (Option AccessToken)) : Prop where
  accepts : ∀ access, verify token = .ok (some access) ↔ Admitted P takes environ token access
  /-- No less than the required scopes. -/
  scopes : ∀ access, verify token = .ok (some access) → ∀ scope ∈ scopesOfEnv environ, scope ∈ access.scopes
  /-- Outside of development only what is decoded, and it expires. -/
  guarded : environ cognicEnv ≠ some (lit "dev") → ∀ access, verify token = .ok (some access) →
    (∃ claims, Covers P environ token claims) ∧ access.expires_at ≠ none ∧
      Given environ issuerEnv ∧ Given environ jwksEnv ∧ Given environ audienceEnv
  raises : (∃ exc, verify token = .error exc) ↔
    JwtMode environ ∧ ∃ claims, Covers P environ token claims ∧ ¬ takes (claim claims.items (lit "exp"))
  /-- Such as any fraction of a second. -/
  fractional : ∀ claims, JwtMode environ → Covers P environ token claims →
    (∀ n : Int, number? (claim claims.items (lit "exp")) ≠ some (n : Rat)) → ∃ exc, verify token = .error exc
end

/-! ### The configuration of an environment -/

section
variable {P : Provider} {takes : PyValue → Prop} {environ : Environ} {token : PyStr} {cfg : Config}

/-- What the verifiers read of the configuration. -/
structure Configured (environ : Environ) (cfg : Config) : Prop where
  mode : (cfg.auth_mode = .jwt ∧ JwtMode environ ∧ Given environ issuerEnv ∧ Given environ jwksEnv ∧ Given environ audienceEnv) ∨
    cfg.auth_mode = .dev_insecure ∧ DevMode environ
  issuer : cfg.oauth_issuer = environ issuerEnv
  jwks_uri : cfg.oauth_jwks_uri = environ jwksEnv
  audience : cfg.oauth_audience = environ audienceEnv
  scopes : cfg.required_scopes = scopesOfEnv environ

theorem configured_of_fromEnv (started : fromEnv environ = .ok cfg) : Configured environ cfg := by
  obtain ⟨_, _, started⟩ := bind_eq_ok.mp started
  obtain ⟨mode, auth, started⟩ := bind_eq_ok.mp started
  obtain ⟨_, _, started⟩ := bind_eq_ok.mp started
  obtain ⟨_, oauth, started⟩ := bind_eq_ok.mp started
  obtain ⟨scopes, required, started⟩ := bind_eq_ok.mp started
  obtain ⟨_, _, started⟩ := bind_eq_ok.mp started
  obtain ⟨_, _, started⟩ := bind_eq_ok.mp started
  obtain ⟨_, _, started⟩ := bind_eq_ok.mp started
  obtain ⟨_, _, started⟩ := bind_eq_ok.mp started
  obtain rfl := Except.ok.inj started
  refine ⟨?_, rfl, rfl, rfl, (requiredScopes_eq_ok.mp required).2⟩
  rcases authMode_eq_ok.mp auth with ⟨rfl, jwt⟩ | ⟨rfl, dev⟩
  · exact .inl ⟨rfl, jwt, checkOauth_eq_ok.mp oauth rfl⟩
  · exact .inr ⟨rfl, dev⟩

theorem modes_differ (jwt : JwtMode environ) (dev : DevMode environ) : False := by
  have different : lit "dev_insecure" ≠ lit "jwt" := by decide
  rw [JwtMode, dev.1, Option.getD_some] at jwt
  exact different jwt

/-! ### The two verifiers -/

theorem devVerifyToken_eq (library : TakesExpiry P takes) (configured : Configured environ cfg) (given : token ≠ []) :
    devVerifyToken P cfg token = .ok (some ⟨token, lit "dev", P.listing (scopesOfEnv environ), none,
      some ((environ audienceEnv).getD [])⟩) := by
  rw [devVerifyToken, if_neg given, library.endless, configured.scopes, configured.audience]
  rfl

theorem dev_accepts (library : TakesExpiry P takes) (configured : Configured environ cfg) (dev : DevMode environ)
    (access : AccessToken) : devVerifyToken P cfg token = .ok (some access) ↔ Admitted P takes environ token access := by
  constructor
  · intro accepted
    by_cases given : token = []
    · rw [devVerifyToken, if_pos given] at accepted
      cases accepted
    · rw [devVerifyToken_eq library configured given] at accepted
      obtain rfl := Option.some.inj (Except.ok.inj accepted)
      exact .dev dev given
  · intro admitted
    cases admitted with
    | dev _ given => exact devVerifyToken_eq library configured given
    | jwt mode => exact (modes_differ mode dev).elim

theorem dev_returns (library : TakesExpiry P takes) (configured : Configured environ cfg) :
    ∃ answer, devVerifyToken P cfg token = .ok answer := by
  by_cases given : token = []
  · exact ⟨none, by rw [devVerifyToken, if_pos given]⟩
  · exact ⟨_, devVerifyToken_eq library configured given⟩

/-- What is not covered is not authorized. -/
theorem jwt_refuses (configured : Configured environ cfg) (uncovered : ¬ ∃ claims, Covers P environ token claims) :
    verifyToken (P.library cfg) cfg token = .ok none := by
  by_cases given : token = []
  · exact verifyToken_undecoded (.inl given)
  · cases decoded : (P.library cfg).decode token with
    | error exc => exact verifyToken_undecoded (.inr ⟨exc, decoded⟩)
    | ok claims =>
      by_cases wellFormed : WellFormed claims.items
      · refine verifyToken_uncovered decoded wellFormed fun covered => uncovered ⟨claims, given, ?_, wellFormed, ?_⟩
        · rw [← configured.jwks_uri, ← configured.issuer, ← configured.audience]
          exact decoded
        · rwa [← configured.scopes]
      · exact verifyToken_malformed decoded wellFormed

theorem Covers.decodes {claims : Claims} (covers : Covers P environ token claims) (configured : Configured environ cfg) :
    (P.library cfg).decode token = .ok claims := by
  rw [Provider.library, configured.jwks_uri, configured.issuer, configured.audience]
  exact covers.decoded

theorem Covers.unique {claims claims' : Claims} (covers : Covers P environ token claims) (again : Covers P environ token claims') :
    claims = claims' := Except.ok.inj (covers.decoded.symm.trans again.decoded)

/-- What is covered is handed to the constructor, with the name of its client. -/
theorem jwt_constructs (configured : Configured environ cfg) {claims : Claims} (covers : Covers P environ token claims) :
    ∃ client_id, clientId claims.items = .ok client_id ∧ verifyToken (P.library cfg) cfg token =
      (P.accessToken token client_id (sorted (granted claims.items)) (claim claims.items (lit "exp"))
        (environ audienceEnv)).map some := by
  obtain ⟨client_id, named⟩ := clientId_ok claims
  refine ⟨client_id, named, ?_⟩
  rw [verifyToken, if_neg covers.given, covers.decodes configured]
  have covered : cfg.required_scopes ⊆ granted claims.items := by
    rw [configured.scopes]
    exact covers.covered
  simp only [scopesFromClaims_ok covers.wellFormed, covered, named, bind, Except.bind, if_true, configured.audience]
  rfl

theorem jwt_accepts (library : TakesExpiry P takes) (configured : Configured environ cfg) (jwt : JwtMode environ)
    (access : AccessToken) : verifyToken (P.library cfg) cfg token = .ok (some access) ↔ Admitted P takes environ token access := by
  constructor
  · intro accepted
    by_cases covered : ∃ claims, Covers P environ token claims
    · obtain ⟨claims, covers⟩ := covered
      obtain ⟨client_id, named, constructs⟩ := jwt_constructs configured covers
      have taken := taken_of_returns (library.expiry cfg) covers.given (covers.decodes configured) covers.wellFormed
        (by rw [configured.scopes]; exact covers.covered) ⟨_, accepted⟩
      obtain ⟨q, isNumber⟩ := number?_exp claims
      obtain ⟨n, rfl⟩ := (library.expiry cfg).integral _ q isNumber taken
      have built : P.accessToken token client_id _ _ _ = _ :=
        (library.expiry cfg).taken token client_id (sorted (granted claims.items)) _ (environ audienceEnv) n isNumber taken
      rw [constructs, built] at accepted
      obtain rfl := Option.some.inj (Except.ok.inj accepted)
      exact .jwt jwt covers named taken isNumber
    · rw [jwt_refuses configured covered] at accepted
      cases accepted
  · intro admitted
    cases admitted with
    | dev dev => exact (modes_differ jwt dev).elim
    | @jwt claims client_id n _ covers named taken expires =>
      obtain ⟨client_id', named', constructs⟩ := jwt_constructs configured covers
      obtain rfl := Except.ok.inj (named.symm.trans named')
      have built : P.accessToken token client_id _ _ _ = _ :=
        (library.expiry cfg).taken token client_id (sorted (granted claims.items)) _ (environ audienceEnv) n expires taken
      rw [constructs, built]
      rfl

theorem jwt_raises_iff (library : TakesExpiry P takes) (configured : Configured environ cfg) :
    (∃ exc, verifyToken (P.library cfg) cfg token = .error exc) ↔
      ∃ claims, Covers P environ token claims ∧ ¬ takes (claim claims.items (lit "exp")) := by
  constructor
  · rintro ⟨exc, raised⟩
    by_cases covered : ∃ claims, Covers P environ token claims
    · obtain ⟨claims, covers⟩ := covered
      refine ⟨claims, covers, fun taken => ?_⟩
      obtain ⟨client_id, n, _, accepts⟩ := verifyToken_taken (library.expiry cfg) covers.given (covers.decodes configured)
        covers.wellFormed (by rw [configured.scopes]; exact covers.covered) taken
      rw [accepts] at raised
      cases raised
    · rw [jwt_refuses configured covered] at raised
      cases raised
  · rintro ⟨claims, covers, refused⟩
    cases result : verifyToken (P.library cfg) cfg token with
    | error exc => exact ⟨exc, rfl⟩
    | ok answer =>
      exact absurd (taken_of_returns (library.expiry cfg) covers.given (covers.decodes configured) covers.wellFormed
        (by rw [configured.scopes]; exact covers.covered) ⟨answer, result⟩) refused

/-- The constructor takes no fraction. -/
theorem not_taken_of_fractional (library : TakesExpiry P takes) {claims : Claims}
    (fractional : ∀ n : Int, number? (claim claims.items (lit "exp")) ≠ some (n : Rat)) : ¬ takes (claim claims.items (lit "exp")) := by
  intro taken
  obtain ⟨q, isNumber⟩ := number?_exp claims
  obtain ⟨n, rfl⟩ := (library.expiry ⟨[], [], [], ∅, 0, 0, .jwt, none, none, none, ∅⟩).integral _ q isNumber taken
  exact fractional n isNumber

/-! ### Who is let in -/

theorem Admitted.scopes {access : AccessToken} (admitted : Admitted P takes environ token access) :
    ∀ scope ∈ scopesOfEnv environ, scope ∈ access.scopes := by
  intro scope required
  cases admitted with
  | dev mode given => exact (P.listing_mem _ _).mpr required
  | jwt mode covers named taken expires => exact mem_sorted.mpr (covers.covered required)

theorem Admitted.guarded {access : AccessToken} (admitted : Admitted P takes environ token access)
    (deployed : environ cognicEnv ≠ some (lit "dev")) :
    (∃ claims, Covers P environ token claims) ∧ access.expires_at ≠ none := by
  cases admitted with
  | dev mode given => exact absurd mode.2 deployed
  | @jwt claims client_id n mode covers named taken expires => exact ⟨⟨claims, covers⟩, Option.some_ne_none n⟩
end

/-- In every environment that starts, the selected verifier lets in exactly who is to be
    admitted, never with fewer scopes than required; outside of development this takes
    decoded claims that expire, and only an expiry that the constructor does not take, as
    any fraction, makes it raise. -/
theorem admits (P : Provider) (takes : PyValue → Prop) (library : TakesExpiry P takes) (environ : Environ)
    (verify : PyStr → Except PyExc (Option AccessToken)) (starts : serverVerifier P environ = .ok verify) (token : PyStr) :
    Admits P takes environ token verify := by
  obtain ⟨cfg, started, selected⟩ := bind_eq_ok.mp starts
  obtain rfl : selectTokenVerifier P cfg = verify := Except.ok.inj selected
  have configured := configured_of_fromEnv started
  rcases configured.mode with ⟨isJwt, jwt, given⟩ | ⟨isDev, dev⟩
  · have own : selectTokenVerifier P cfg = verifyToken (P.library cfg) cfg := by
      rw [selectTokenVerifier, if_neg (by rw [isJwt]; decide)]
    have accepts : ∀ access, verifyToken (P.library cfg) cfg token = .ok (some access) ↔ Admitted P takes environ token access :=
      jwt_accepts library configured jwt
    rw [own]
    refine ⟨accepts, fun access accepted => ((accepts access).mp accepted).scopes, ?_, ?_, ?_⟩
    · intro deployed access accepted
      obtain ⟨decoded, expires⟩ := ((accepts access).mp accepted).guarded deployed
      exact ⟨decoded, expires, given⟩
    · rw [jwt_raises_iff library configured]
      exact (and_iff_right jwt).symm
    · intro claims _ covers fractional
      exact (jwt_raises_iff library configured).mpr ⟨claims, covers, not_taken_of_fractional library fractional⟩
  · have own : selectTokenVerifier P cfg = devVerifyToken P cfg := by
      rw [selectTokenVerifier, if_pos isDev]
    have accepts : ∀ access, devVerifyToken P cfg token = .ok (some access) ↔ Admitted P takes environ token access :=
      dev_accepts library configured dev
    rw [own]
    refine ⟨accepts, fun access accepted => ((accepts access).mp accepted).scopes, ?_, ?_, ?_⟩
    · intro deployed
      exact absurd dev.2 deployed
    · refine iff_of_false ?_ fun both => modes_differ both.1 dev
      rintro ⟨exc, raised⟩
      obtain ⟨answer, returned⟩ : ∃ answer, devVerifyToken P cfg token = .ok answer := dev_returns library configured
      rw [returned] at raised
      cases raised
    · exact fun _ jwt => (modes_differ jwt dev).elim

/-- A provider whose decoder gives these claims. -/
def sampleProvider (claims : Claims) : Provider where
  decode _ _ _ _ := .ok claims
  accessToken := (sampleLibrary claims).accessToken
  listing := sorted
  listing_mem _ _ := mem_sorted

theorem sampleProvider_takesExpiry (claims : Claims) : TakesExpiry (sampleProvider claims) (fun exp => sampleTakes exp = true) where
  expiry _ := ⟨(sampleLibrary_integral claims).integral, (sampleLibrary_integral claims).taken, (sampleLibrary_integral claims).refused⟩
  endless _ _ _ _ := rfl

/-- An environment that no check refuses starts with the default size of the pool. -/
theorem starts_of_accepted {environ : Environ} (accepted : Accepted environ) (unset : environ poolMaxEnv = none) :
    ∃ cfg, fromEnv environ = .ok cfg := by
  obtain ⟨build, before⟩ := beforePool_of_accepted accepted
  have four : pyInt (lit "4") = some 4 := by decide
  refine ⟨build 4, ?_⟩
  rw [fromEnv_eq, before]
  simp only [bind, Except.bind, poolMax, unset, Option.getD_none, four]
  rfl

/-- A deployment with an authorization server. -/
def jwtEnviron : Environ := fun k =>
  if k = issuerEnv then some (lit "https://as")
  else if k = jwksEnv then some (lit "https://as/jwks")
  else if k = audienceEnv then some (lit "mcp")
  else if k = authModeEnv ∨ k = cognicEnv then none
  else sampleEnviron none none k

theorem jwtEnviron_accepted : Accepted jwtEnviron where
  password := by decide
  auth := .inl ⟨by decide, by decide, by decide, by decide⟩
  max_rows := by decide
  scopes := by decide
  required := ⟨by decide, by decide, by decide⟩

/-- A deployment whose tokens expire at a full second, and a development server. -/
theorem admits_modes :
    (∃ verify, serverVerifier (sampleProvider fullSecond) jwtEnviron = .ok verify ∧
      Admits (sampleProvider fullSecond) (fun exp => sampleTakes exp = true) jwtEnviron (lit "t") verify ∧
      ∃ access, verify (lit "t") = .ok (some access)) ∧
    ∃ verify, serverVerifier (sampleProvider falseScope) (sampleEnviron none none) = .ok verify ∧
      Admits (sampleProvider falseScope) (fun exp => sampleTakes exp = true) (sampleEnviron none none) (lit "t") verify := by
  obtain ⟨cfg, started⟩ := starts_of_accepted jwtEnviron_accepted (by decide)
  have starts : serverVerifier (sampleProvider fullSecond) jwtEnviron =
      .ok (selectTokenVerifier (sampleProvider fullSecond) cfg) := bind_eq_ok.mpr ⟨cfg, started, rfl⟩
  have admitted := admits _ _ (sampleProvider_takesExpiry _) _ _ starts (lit "t")
  obtain ⟨dev, startedDev⟩ := starts_of_accepted (sampleEnviron_accepted none none) rfl
  have startsDev : serverVerifier (sampleProvider falseScope) (sampleEnviron none none) =
      .ok (selectTokenVerifier (sampleProvider falseScope) dev) := bind_eq_ok.mpr ⟨dev, startedDev, rfl⟩
  refine ⟨⟨_, starts, admitted, ?_⟩, _, startsDev, admits _ _ (sampleProvider_takesExpiry _) _ _ startsDev (lit "t")⟩
  have covers : Covers (sampleProvider fullSecond) jwtEnviron (lit "t") fullSecond :=
    ⟨by decide, rfl, fun _ => .str _, by decide +kernel⟩
  obtain ⟨client_id, named⟩ := clientId_ok fullSecond
  have second : number? (claim fullSecond.items (lit "exp")) = some ((1 : Int) : Rat) := by decide +kernel
  exact ⟨_, (admitted.accepts _).mpr (.jwt (by unfold JwtMode; decide) covers named (by decide +kernel) second)⟩

end OracleSchema.Admission
