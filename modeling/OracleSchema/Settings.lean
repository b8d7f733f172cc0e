import OracleSchema.Errors
import OracleSchema.Printing

/-!
The configuration, the credential, and the allow-list of owners: what passes
`guardOwner` under an allow-list is in it (`guardOwner_mem`).
-/
namespace OracleSchema.Settings
open OracleSchema.Strings OracleSchema.Errors OracleSchema.Printing

inductive AuthMode
  | jwt | dev_insecure
  deriving DecidableEq

/-- The startup configuration; an empty `allowed_owners` trusts the database grant. -/
structure Config where
  oracle_dsn : PyStr
  oracle_user : PyStr
  oracle_password_file : PyStr
  allowed_owners : Finset PyStr
  max_rows : Int
  pool_max : Int
  auth_mode : AuthMode
  oauth_issuer : Option PyStr
  oauth_jwks_uri : Option PyStr
  oauth_audience : Option PyStr
  required_scopes : Finset PyStr

/-- What one read of the credential file gives. -/
structure CredentialRead where
  password : PyStr
  rotation_ref : PyStr

/-- `guard_owner`: the normalized owner, refused when an allow-list is configured
    and does not hold it. -/
def guardOwner (owner : PyStr) (cfg : Config) : Except PyExc PyStr :=
  let norm := upper (strip owner)
  if cfg.allowed_owners.Nonempty ∧ norm ∉ cfg.allowed_owners then
    .error (.ofText .OwnerNotAllowed (lit "owner " ++ pyRepr norm ++ lit " not in COGNIC_ORACLE_ALLOWED_OWNERS"))
  else .ok norm

/-- What passes is the normalized owner. -/
theorem guardOwner_ok {owner norm : PyStr} {cfg : Config} (passed : guardOwner owner cfg = .ok norm) :
    norm = upper (strip owner) := by
  simp only [guardOwner] at passed
  split_ifs at passed
  exact (Except.ok.inj passed).symm

/-- An owner that passes a non-empty allow-list is in it. -/
theorem guardOwner_mem {owner norm : PyStr} {cfg : Config} (listed : cfg.allowed_owners.Nonempty)
    (passed : guardOwner owner cfg = .ok norm) : norm ∈ cfg.allowed_owners := by
  simp only [guardOwner] at passed
  split_ifs at passed with refused
  obtain rfl : upper (strip owner) = norm := Except.ok.inj passed
  by_contra absent
  exact refused ⟨listed, absent⟩

end OracleSchema.Settings
