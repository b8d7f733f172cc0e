import OracleSchema.Startup
import OracleSchema.Numerals

/-!
Environments as a format of configurations. `render` writes a configuration back into
variables, `Startable` says which configurations `Config.from_env` can return at all, and
`starts_iff` that each of these, and no other, is read back from its own variables.
-/
namespace OracleSchema.Rendering
open OracleSchema.Casing OracleSchema.Joined OracleSchema.Strings OracleSchema.Numerals OracleSchema.Errors
  OracleSchema.Settings OracleSchema.Printing OracleSchema.Startup

/-! ### Texts that a comma-separated list keeps -/

/-- The text is an entry of a comma-separated list as the reader keeps it. -/
structure IsEntry (s : PyStr) : Prop where
  full : s ≠ []
  trimmed : strip s = s
  free : 44 ∉ s

/-- What is left of an entry. -/
theorem isEntry_strip {raw entry : PyStr} (listed : entry ∈ entries raw) : IsEntry (strip entry) := by
  rw [entries, List.mem_filter] at listed
  refine ⟨by simpa using listed.2, strip_strip entry, fun comma => ?_⟩
  exact free_of_splitOn 44 raw entry listed.1 (mem_of_mem_strip comma)

theorem IsEntry.upper {s : PyStr} (entry : IsEntry s) : IsEntry (upper s) :=
  ⟨fun empty => entry.full (upper_eq_nil.mp empty),
    strip_of_solidEnds (solidEnds_upper (strip_eq_self_iff.mp entry.trimmed)), fun comma => entry.free (comma_mem_upper comma)⟩

/-- Entries joined with commas are the entries read. -/
theorem entries_join {parts : List PyStr} (all : ∀ part ∈ parts, IsEntry part) : entries (join 44 parts) = parts := by
  by_cases none : parts = []
  · subst none
    decide
  · rw [entries, splitComma, splitOn_join 44 none, segments_of_free 44 fun part member => (all part member).free]
    refine List.filter_eq_self.mpr fun part member => ?_
    rw [(all part member).trimmed]
    exact decide_eq_true (all part member).full

/-- A map that keeps every entry of the list does nothing to it. -/
theorem map_sorted {s : Finset PyStr} {f : PyStr → PyStr} (keeps : ∀ part ∈ s, f part = part) :
    (sorted s).map f = sorted s :=
  calc (sorted s).map f = (sorted s).map id := List.map_congr_left fun part member => keeps part (mem_sorted.mp member)
    _ = sorted s := List.map_id _

/-! ### Rendering -/

def modeText : AuthMode → PyStr
  | .jwt => lit "jwt"
  | .dev_insecure => lit "dev_insecure"

/-- Variables that give a configuration. -/
def render (cfg : Config) : Environ := fun k =>
  if k = dsnEnv then some cfg.oracle_dsn
  else if k = userEnv then some cfg.oracle_user
  else if k = passwordFileEnv then some cfg.oracle_password_file
  else if k = ownersEnv then some (join 44 (sorted cfg.allowed_owners))
  else if k = maxRowsEnv then some (intText cfg.max_rows)
  else if k = poolMaxEnv then some (intText cfg.pool_max)
  else if k = authModeEnv then some (modeText cfg.auth_mode)
  else if k = cognicEnv then some (lit "dev")
  else if k = issuerEnv then cfg.oauth_issuer
  else if k = jwksEnv then cfg.oauth_jwks_uri
  else if k = audienceEnv then cfg.oauth_audience
  else if k = scopesEnv then some (join 44 (sorted cfg.required_scopes))
  else none

/-- The configurations that startup may return. -/
structure Startable (cfg : Config) : Prop where
  oracle_dsn : cfg.oracle_dsn ≠ []
  oracle_user : cfg.oracle_user ≠ []
  oracle_password_file : cfg.oracle_password_file ≠ []
  allowed_owners : ∀ owner ∈ cfg.allowed_owners, IsEntry owner ∧ upper owner = owner
  max_rows : 1 ≤ cfg.max_rows ∧ cfg.max_rows ≤ 1000
  /-- `int` takes no more digits; the sign and the size are not checked. -/
  pool_max : (Nat.toDigits 10 cfg.pool_max.natAbs).length ≤ 4300
  oauth : cfg.auth_mode = .jwt → (∃ issuer, cfg.oauth_issuer = some issuer ∧ issuer ≠ []) ∧
    (∃ uri, cfg.oauth_jwks_uri = some uri ∧ uri ≠ []) ∧ ∃ audience, cfg.oauth_audience = some audience ∧ audience ≠ []
  required_scopes : cfg.required_scopes.Nonempty ∧ ∀ scope ∈ cfg.required_scopes, IsEntry scope

section
variable {cfg : Config}

theorem startable_of_fromEnv {environ : Environ} (started : fromEnv environ = .ok cfg) : Startable cfg := by
  rw [fromEnv_eq] at started
  obtain ⟨build, before, started⟩ := bind_eq_ok.mp started
  obtain ⟨n, read, started⟩ := bind_eq_ok.mp started
  obtain rfl := Except.ok.inj started
  have checked := beforePool_ok before
  have scopes := checked.required_scopes n
  refine ⟨checked.oracle_dsn n, checked.oracle_user n, checked.oracle_password_file n, ?_, checked.max_rows n, ?_, ?_, ?_, ?_⟩
  · intro owner member
    rw [checked.allowed_owners n, allowedOwners, List.mem_toFinset, List.mem_map] at member
    obtain ⟨entry, listed, rfl⟩ := member
    exact ⟨(isEntry_strip listed).upper, upper_upper _⟩
  · rw [checked.pool_max n]
    unfold poolMax at read
    simp only at read
    split at read
    · cases read
    · rename_i m readable
      obtain rfl := Except.ok.inj read
      exact pyInt_short readable
  · intro jwt
    rcases checked.auth_mode n with ⟨_, given⟩ | ⟨dev, _⟩
    · exact given
    · cases jwt.symm.trans dev
  · rw [scopes, List.toFinset_nonempty_iff, ne_eq, List.map_eq_nil_iff]
    exact checked.accepted.scopes
  · intro scope member
    rw [scopes, List.mem_toFinset, List.mem_map] at member
    obtain ⟨entry, listed, rfl⟩ := member
    exact isEntry_strip listed

/-! ### Reading the rendered variables back -/

theorem authMode_render : authMode (render cfg) = .ok cfg.auth_mode := by
  rw [authMode_eq_ok]
  cases mode : cfg.auth_mode with
  | jwt =>
    refine .inl ⟨rfl, ?_⟩
    change modeText cfg.auth_mode = _
    rw [mode]
    rfl
  | dev_insecure =>
    refine .inr ⟨rfl, ?_, rfl⟩
    change some (modeText cfg.auth_mode) = _
    rw [mode]
    rfl

theorem maxRows_render (bounds : 1 ≤ cfg.max_rows ∧ cfg.max_rows ≤ 1000) : maxRows (render cfg) = .ok cfg.max_rows := by
  have few : cfg.max_rows.natAbs < 10 ^ 4 := by omega
  have short := (Nat.toDigits_length 10 _ 4 (by decide) few).trans (show 4 ≤ 4300 by decide)
  refine maxRows_eq_ok.mpr ⟨cfg.max_rows, pyInt_intText short, ?_⟩
  simp only [hardMaxRows]
  omega

theorem poolMax_render (short : (Nat.toDigits 10 cfg.pool_max.natAbs).length ≤ 4300) : poolMax (render cfg) = .ok cfg.pool_max := by
  have read : pyInt (((render cfg) poolMaxEnv).getD (lit "4")) = some cfg.pool_max := pyInt_intText short
  rw [poolMax, read]

theorem allowedOwners_render (all : ∀ owner ∈ cfg.allowed_owners, IsEntry owner ∧ upper owner = owner) :
    allowedOwners (render cfg) = cfg.allowed_owners := by
  change ((entries (join 44 (sorted cfg.allowed_owners))).map (fun o => upper (strip o))).toFinset = cfg.allowed_owners
  rw [entries_join fun owner member => (all owner (mem_sorted.mp member)).1, map_sorted, toFinset_sorted]
  intro owner member
  obtain ⟨entry, normal⟩ := all owner member
  rw [entry.trimmed, normal]

theorem requiredScopes_render (some : cfg.required_scopes.Nonempty) (all : ∀ scope ∈ cfg.required_scopes, IsEntry scope) :
    requiredScopes (render cfg) = .ok cfg.required_scopes := by
  have read : scopeEntries (render cfg) = sorted cfg.required_scopes :=
    entries_join fun scope member => all scope (mem_sorted.mp member)
  rw [requiredScopes_eq_ok, read]
  refine ⟨fun none => some.ne_empty (sorted_eq_nil.mp none), ?_⟩
  rw [map_sorted fun scope member => (all scope member).trimmed, toFinset_sorted]

/-- What was rendered is read back. -/
theorem fromEnv_render (startable : Startable cfg) : fromEnv (render cfg) = .ok cfg := by
  have owners := allowedOwners_render startable.allowed_owners
  unfold fromEnv
  refine bind_eq_ok.mpr ⟨(), rfl, ?_⟩
  refine bind_eq_ok.mpr ⟨_, authMode_render, ?_⟩
  refine bind_eq_ok.mpr ⟨_, maxRows_render startable.max_rows, ?_⟩
  refine bind_eq_ok.mpr ⟨(), checkOauth_eq_ok.mpr startable.oauth, ?_⟩
  refine bind_eq_ok.mpr ⟨_, requiredScopes_render startable.required_scopes.1 startable.required_scopes.2, ?_⟩
  refine bind_eq_ok.mpr ⟨cfg.oracle_dsn, req_eq_ok.mpr ⟨rfl, startable.oracle_dsn⟩, ?_⟩
  refine bind_eq_ok.mpr ⟨cfg.oracle_user, req_eq_ok.mpr ⟨rfl, startable.oracle_user⟩, ?_⟩
  refine bind_eq_ok.mpr ⟨cfg.oracle_password_file, req_eq_ok.mpr ⟨rfl, startable.oracle_password_file⟩, ?_⟩
  refine bind_eq_ok.mpr ⟨_, poolMax_render startable.pool_max, ?_⟩
  rw [owners]
  rfl
end

/-- A configuration is returned by startup in some environment exactly when it is startable,
    and exactly then it is read back from its own rendering. -/
theorem starts_iff (cfg : Config) :
    ((∃ environ, fromEnv environ = .ok cfg) ↔ Startable cfg) ∧ (fromEnv (render cfg) = .ok cfg ↔ Startable cfg) := by
  refine ⟨⟨?_, ?_⟩, startable_of_fromEnv, fromEnv_render⟩
  · rintro ⟨environ, started⟩
    exact startable_of_fromEnv started
  · intro startable
    exact ⟨render cfg, fromEnv_render startable⟩

end OracleSchema.Rendering
