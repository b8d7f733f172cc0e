import OracleSchema.Printing
import OracleSchema.Json

/-!
The tool-side verifier of query-context tokens: signature, then the shape of the
claims, then expiry, then audience. `verifyQueryContext_ok` says what an accepted
token has shown, and `parseClaims_ok_iff` which payloads carry which claims.
-/
namespace OracleSchema.QueryContext
open OracleSchema.Strings OracleSchema.Errors OracleSchema.Json OracleSchema.Printing

/-- The fixed kernel issuer. -/
def issuer : PyStr := lit "cognic-agentos"

structure QueryContextClaims where
  iss : PyStr
  aud : PyStr
  sub : PyStr
  act : PyStr
  tenant_id : PyStr
  scope_id : PyStr
  objects : List PyStr
  proxy_db_identity : PyStr
  args_sha256 : PyStr
  jti : PyStr
  iat : Int
  exp : Int
  deriving DecidableEq

inductive QueryContextRefusalReason
  | query_context_signature_invalid | query_context_expired
  | query_context_audience_mismatch | query_context_claims_malformed
  deriving DecidableEq

/-- What the detail of a refusal prints. -/
inductive RefusalDetail
  | noKeyVerified (keys : Nat)
  | notJson (exc : PyExc)
  | rootNotObject (type : PyStr)
  | keySetMismatch (missing extra : List PyStr)
  | notStr (claim type : PyStr)
  | notInt (claim type : PyStr)
  | objectsNotStrs
  | wrongIssuer (iss : PyStr)
  | expired (now exp : Int)
  | wrongAudience (aud expected : PyStr)
  deriving DecidableEq

def RefusalDetail.text : RefusalDetail → PyStr
  | .noKeyVerified keys => lit "token did not verify under any of the " ++ intText keys ++ lit " configured public key(s)"
  | .notJson exc => lit "payload is not valid JSON: " ++ exc.text
  | .rootNotObject type => lit "payload JSON root is not an object (got " ++ type ++ lit ")"
  | .keySetMismatch missing extra =>
    lit "claims key-set mismatch: missing=" ++ pyReprs missing ++ lit " extra=" ++ pyReprs extra
  | .notStr claim type => lit "claim " ++ pyRepr claim ++ lit " must be str (got " ++ type ++ lit ")"
  | .notInt claim type => lit "claim " ++ pyRepr claim ++ lit " must be int (got " ++ type ++ lit ")"
  | .objectsNotStrs => lit "claim 'objects' must be a list of str"
  | .wrongIssuer iss => lit "claim 'iss' must equal " ++ pyRepr issuer ++ lit " (got " ++ pyRepr iss ++ lit ")"
  | .expired now exp => lit "now=" ++ intText now ++ lit " >= exp=" ++ intText exp
  | .wrongAudience aud expected => lit "aud=" ++ pyRepr aud ++ lit " != expected_aud=" ++ pyRepr expected

def reasonText : QueryContextRefusalReason → PyStr
  | .query_context_signature_invalid => lit "query_context_signature_invalid"
  | .query_context_expired => lit "query_context_expired"
  | .query_context_audience_mismatch => lit "query_context_audience_mismatch"
  | .query_context_claims_malformed => lit "query_context_claims_malformed"

structure QueryContextRefusal where
  reason : QueryContextRefusalReason
  detail : RefusalDetail
  deriving DecidableEq

/-- How the verifier fails: by its own refusal, or by an exception that it does
    not catch. -/
inductive VerifyError
  | refused (refusal : QueryContextRefusal)
  | escaped (exc : PyExc)
  deriving DecidableEq

def claimStrFields : List PyStr :=
  [lit "iss", lit "aud", lit "sub", lit "act", lit "tenant_id", lit "scope_id", lit "proxy_db_identity",
    lit "args_sha256", lit "jti"]
def claimIntFields : List PyStr := [lit "iat", lit "exp"]
def claimKeys : Finset PyStr := (claimStrFields ++ [lit "objects"] ++ claimIntFields).toFinset

/-- What the verifier calls of joserfc. -/
structure Joserfc where
  /-- The payload of `jws.deserialize_compact(token, RSAKey.import_key(pem), algorithms=["RS256"])`. -/
  deserialize : PyStr → Bytes → Except PyExc Bytes
  /-- The payload is a segment of the token, whichever key verifies it. -/
  payload_of_token : ∀ token pem pem' payload payload',
    deserialize token pem = .ok payload → deserialize token pem' = .ok payload' → payload = payload'

/-- The payload under the first key that verifies the token. -/
def firstVerified (J : Joserfc) (token : PyStr) : List Bytes → Except PyExc (Option Bytes)
  | [] => .ok none
  | pem :: rest =>
    match J.deserialize token pem with
    | .ok payload => .ok (some payload)
    | .error exc =>
      if exc.isInstance .JoseError ∨ exc.isInstance .ValueError ∨ exc.isInstance .TypeError then
        firstVerified J token rest
      else .error exc

/-! ### Claims -/

def keyText : PyValue → Option PyStr
  | .str key => some key
  | _ => none

/-- `parsed[key]`. -/
def get? (key : PyStr) : List (PyValue × PyValue) → Option PyValue
  | [] => none
  | (k, value) :: rest => if keyText k = some key then some value else get? key rest

/-- The string under a key, or the type of what is there. -/
def strAt (items : List (PyValue × PyValue)) (key : PyStr) : Except PyStr PyStr :=
  match get? key items with
  | some (.str text) => .ok text
  | some value => .error value.typeName
  | none => .error []

/-- The integer under a key; a bool is not an integer here. -/
def intAt (items : List (PyValue × PyValue)) (key : PyStr) : Except PyStr Int :=
  match get? key items with
  | some (.int n) => .ok n
  | some value => .error value.typeName
  | none => .error []

/-- All strings of a list of strings. -/
def strings : List PyValue → Option (List PyStr)
  | [] => some []
  | .str text :: rest => (strings rest).map (fun texts => text :: texts)
  | _ :: _ => none

def malformed (detail : RefusalDetail) : VerifyError := .refused ⟨.query_context_claims_malformed, detail⟩

/-- The first field whose check fails, as the two loops over the fields find it. -/
def fieldError (items : List (PyValue × PyValue)) : Option RefusalDetail :=
  (claimStrFields.findSome? fun key =>
      match strAt items key with
      | .ok _ => none
      | .error type => some (.notStr key type)).or
    (claimIntFields.findSome? fun key =>
      match intAt items key with
      | .ok _ => none
      | .error type => some (.notInt key type))

def objectsAt (items : List (PyValue × PyValue)) : Option (List PyStr) :=
  match get? (lit "objects") items with
  | some (.list values) => strings values
  | _ => none

def strOr (items : List (PyValue × PyValue)) (key : PyStr) : PyStr := (strAt items key).toOption.getD []
def intOr (items : List (PyValue × PyValue)) (key : PyStr) : Int := (intAt items key).toOption.getD 0

/-- The claims of a dictionary whose fields have passed their checks. -/
def claimsAt (items : List (PyValue × PyValue)) (objects : List PyStr) : QueryContextClaims :=
  let str := strOr items
  let int := intOr items
  { iss := str (lit "iss"), aud := str (lit "aud"), sub := str (lit "sub"), act := str (lit "act"),
    tenant_id := str (lit "tenant_id"), scope_id := str (lit "scope_id"), objects := objects,
    proxy_db_identity := str (lit "proxy_db_identity"), args_sha256 := str (lit "args_sha256"),
    jti := str (lit "jti"), iat := int (lit "iat"), exp := int (lit "exp") }

/-- `_parse_claims`. -/
def parseClaims (loads : Bytes → Except PyExc PyValue) (payload : Bytes) : Except VerifyError QueryContextClaims :=
  match loads payload with
  | .error exc =>
    if exc.isInstance .JSONDecodeError ∨ exc.isInstance .UnicodeDecodeError then .error (malformed (.notJson exc))
    else .error (.escaped exc)
  | .ok (.dict items) =>
    if (items.map (fun item => keyText item.1)).toFinset ≠ claimKeys.image some then
      let given := (items.filterMap (fun item => keyText item.1)).toFinset
      .error (malformed (.keySetMismatch (sorted (claimKeys \ given)) (sorted (given \ claimKeys))))
    else
      match fieldError items with
      | some detail => .error (malformed detail)
      | none =>
        match objectsAt items with
        | none => .error (malformed .objectsNotStrs)
        | some objects =>
          let claims := claimsAt items objects
          if claims.iss ≠ issuer then .error (malformed (.wrongIssuer claims.iss))
          else .ok claims
  | .ok parsed => .error (malformed (.rootNotObject parsed.typeName))

/-- `verify_query_context`. -/
def verifyQueryContext (J : Joserfc) (loads : Bytes → Except PyExc PyValue) (token : PyStr)
    (public_keys_pem : List Bytes) (expected_aud : PyStr) (now : Int) : Except VerifyError QueryContextClaims :=
  match firstVerified J token public_keys_pem with
  | .error exc => .error (.escaped exc)
  | .ok none => .error (.refused ⟨.query_context_signature_invalid, .noKeyVerified public_keys_pem.length⟩)
  | .ok (some payload) =>
    match parseClaims loads payload with
    | .error e => .error e
    | .ok claims =>
      if now ≥ claims.exp then .error (.refused ⟨.query_context_expired, .expired now claims.exp⟩)
      else if claims.aud ≠ expected_aud then
        .error (.refused ⟨.query_context_audience_mismatch, .wrongAudience claims.aud expected_aud⟩)
      else .ok claims

/-! ### What an accepted token has shown -/

def strClaims (claims : QueryContextClaims) : List (PyStr × PyStr) :=
  [(lit "iss", claims.iss), (lit "aud", claims.aud), (lit "sub", claims.sub), (lit "act", claims.act),
    (lit "tenant_id", claims.tenant_id), (lit "scope_id", claims.scope_id),
    (lit "proxy_db_identity", claims.proxy_db_identity), (lit "args_sha256", claims.args_sha256),
    (lit "jti", claims.jti)]
def intClaims (claims : QueryContextClaims) : List (PyStr × Int) :=
  [(lit "iat", claims.iat), (lit "exp", claims.exp)]

/-- The dictionary is the wire form of the claims, and the kernel issued them. -/
structure WireForm (items : List (PyValue × PyValue)) (claims : QueryContextClaims) : Prop where
  keys : (items.map (fun item => keyText item.1)).toFinset = claimKeys.image some
  strs : ∀ entry ∈ strClaims claims, get? entry.1 items = some (.str entry.2)
  ints : ∀ entry ∈ intClaims claims, get? entry.1 items = some (.int entry.2)
  objects : get? (lit "objects") items = some (.list (claims.objects.map .str))
  issued : claims.iss = issuer

theorem strAt_eq_ok {items : List (PyValue × PyValue)} {key text : PyStr} :
    strAt items key = .ok text ↔ get? key items = some (.str text) := by
  unfold strAt
  cases get? key items with
  | none => simp
  | some value => cases value <;> simp
theorem intAt_eq_ok {items : List (PyValue × PyValue)} {key : PyStr} {n : Int} :
    intAt items key = .ok n ↔ get? key items = some (.int n) := by
  unfold intAt
  cases get? key items with
  | none => simp
  | some value => cases value <;> simp
theorem strOr_of {items : List (PyValue × PyValue)} {key text : PyStr}
    (found : get? key items = some (.str text)) : strOr items key = text := by
  rw [strOr, strAt_eq_ok.mpr found]
  rfl
theorem intOr_of {items : List (PyValue × PyValue)} {key : PyStr} {n : Int}
    (found : get? key items = some (.int n)) : intOr items key = n := by
  rw [intOr, intAt_eq_ok.mpr found]
  rfl

theorem strings_eq_some {values : List PyValue} {texts : List PyStr} :
    strings values = some texts ↔ values = texts.map .str := by
  induction values generalizing texts with
  | nil => cases texts <;> simp [strings]
  | cons value rest ih =>
    cases value with
    | str text =>
      cases texts with
      | nil => simp [strings]
      | cons first others =>
        simp only [strings, Option.map_eq_some_iff, List.cons.injEq, List.map_cons, PyValue.str.injEq]
        constructor
        · rintro ⟨texts, found, rfl, rfl⟩
          exact ⟨rfl, ih.mp found⟩
        · rintro ⟨rfl, same⟩
          exact ⟨others, ih.mpr same, rfl, rfl⟩
    | _ => cases texts <;> simp [strings]

theorem objectsAt_eq_some {items : List (PyValue × PyValue)} {objects : List PyStr} :
    objectsAt items = some objects ↔ get? (lit "objects") items = some (.list (objects.map .str)) := by
  unfold objectsAt
  cases get? (lit "objects") items with
  | none => simp
  | some value =>
    cases value with
    | list values => simp [strings_eq_some]
    | _ => simp

theorem fieldError_eq_none {items : List (PyValue × PyValue)} :
    fieldError items = none ↔
      (∀ key ∈ claimStrFields, ∃ text, get? key items = some (.str text)) ∧
        ∀ key ∈ claimIntFields, ∃ n, get? key items = some (.int n) := by
  have strs : ∀ key, (match strAt items key with
      | .ok _ => none
      | .error type => some (RefusalDetail.notStr key type)) = none ↔ ∃ text, get? key items = some (.str text) := by
    intro key
    simp only [← strAt_eq_ok]
    cases strAt items key <;> simp
  have ints : ∀ key, (match intAt items key with
      | .ok _ => none
      | .error type => some (RefusalDetail.notInt key type)) = none ↔ ∃ n, get? key items = some (.int n) := by
    intro key
    simp only [← intAt_eq_ok]
    cases intAt items key <;> simp
  simp only [fieldError, Option.or_eq_none_iff, List.findSome?_eq_none_iff, strs, ints]

theorem pyRepr_claim {key : PyStr} (isClaim : key ∈ claimStrFields ++ claimIntFields) : pyRepr key = [39] ++ key ++ [39] := by
  have plain : ∀ key ∈ claimStrFields ++ claimIntFields, key.all (fun c => Plain c) = true := by decide
  exact pyRepr_plain (by simpa using plain key isClaim)

/-- The refusal of a field with a wrong type names the field and the type it must have. -/
theorem fieldError_names {items : List (PyValue × PyValue)} {detail : RefusalDetail} (failed : fieldError items = some detail) :
    ∃ key ∈ claimStrFields ++ claimIntFields, ∃ must ∈ [lit "str", lit "int"], ∃ type,
      detail.text = lit "claim '" ++ key ++ lit "' must be " ++ must ++ lit " (got " ++ type ++ lit ")" := by
  rcases Option.or_eq_some_iff.mp failed with notStr | ⟨_, notInt⟩
  · obtain ⟨key, member, here⟩ := List.exists_of_findSome?_eq_some notStr
    have isClaim : key ∈ claimStrFields ++ claimIntFields := List.mem_append_left _ member
    cases found : strAt items key with
    | ok text => simp [found] at here
    | error type =>
      obtain rfl : RefusalDetail.notStr key type = detail := by simpa [found] using here
      refine ⟨key, isClaim, _, List.mem_cons_self, type, ?_⟩
      rw [RefusalDetail.text, pyRepr_claim isClaim]
      simp only [List.append_assoc]
      rfl
  · obtain ⟨key, member, here⟩ := List.exists_of_findSome?_eq_some notInt
    have isClaim : key ∈ claimStrFields ++ claimIntFields := List.mem_append_right _ member
    cases found : intAt items key with
    | ok n => simp [found] at here
    | error type =>
      obtain rfl : RefusalDetail.notInt key type = detail := by simpa [found] using here
      refine ⟨key, isClaim, _, List.mem_cons_of_mem _ List.mem_cons_self, type, ?_⟩
      rw [RefusalDetail.text, pyRepr_claim isClaim]
      simp only [List.append_assoc]
      rfl

theorem claimsAt_wireForm {items : List (PyValue × PyValue)} {objects : List PyStr}
    (keys : (items.map (fun item => keyText item.1)).toFinset = claimKeys.image some)
    (typed : fieldError items = none) (listed : objectsAt items = some objects)
    (issued : (claimsAt items objects).iss = issuer) : WireForm items (claimsAt items objects) := by
  obtain ⟨strs, ints⟩ := fieldError_eq_none.mp typed
  have strAtKey : ∀ key ∈ claimStrFields, get? key items = some (.str (strOr items key)) := by
    intro key member
    obtain ⟨text, found⟩ := strs key member
    rw [strOr_of found, found]
  have intAtKey : ∀ key ∈ claimIntFields, get? key items = some (.int (intOr items key)) := by
    intro key member
    obtain ⟨n, found⟩ := ints key member
    rw [intOr_of found, found]
  refine ⟨keys, ?_, ?_, objectsAt_eq_some.mp listed, issued⟩
  · simpa [claimStrFields, strClaims, claimsAt] using strAtKey
  · simpa [claimIntFields, intClaims, claimsAt] using intAtKey

theorem WireForm.claimsAt_eq {items : List (PyValue × PyValue)} {claims : QueryContextClaims}
    (form : WireForm items claims) : claimsAt items claims.objects = claims := by
  have strs : ∀ entry ∈ strClaims claims, strOr items entry.1 = entry.2 :=
    fun entry member => strOr_of (form.strs entry member)
  have ints : ∀ entry ∈ intClaims claims, intOr items entry.1 = entry.2 :=
    fun entry member => intOr_of (form.ints entry member)
  simp only [strClaims, List.forall_mem_cons, List.not_mem_nil, false_implies, implies_true, and_true] at strs
  simp only [intClaims, List.forall_mem_cons, List.not_mem_nil, false_implies, implies_true, and_true] at ints
  simp only [claimsAt, strs, ints]

theorem WireForm.fieldError_eq {items : List (PyValue × PyValue)} {claims : QueryContextClaims}
    (form : WireForm items claims) : fieldError items = none := by
  refine fieldError_eq_none.mpr ⟨?_, ?_⟩
  · have strs := form.strs
    simp only [strClaims, List.forall_mem_cons] at strs
    simp [claimStrFields, strs]
  · have ints := form.ints
    simp only [intClaims, List.forall_mem_cons] at ints
    simp [claimIntFields, ints]

/-- The claims as the kernel writes them. -/
def wireItems (claims : QueryContextClaims) : List (PyValue × PyValue) :=
  (strClaims claims).map (fun entry => (.str entry.1, .str entry.2)) ++
    [(.str (lit "objects"), .list (claims.objects.map .str))] ++
    (intClaims claims).map (fun entry => (.str entry.1, .int entry.2))

theorem wireForm_wireItems {claims : QueryContextClaims} (issued : claims.iss = issuer) :
    WireForm (wireItems claims) claims := by
  have keys : (wireItems claims).map (fun item => keyText item.1) =
      (claimStrFields ++ [lit "objects"] ++ claimIntFields).map some := rfl
  refine ⟨?_, ?_, ?_, rfl, issued⟩
  · ext key
    rw [keys, claimKeys]
    simp only [List.mem_toFinset, List.mem_map, Finset.mem_image]
  · simp only [strClaims, List.forall_mem_cons, List.not_mem_nil, false_implies, implies_true, and_true]
    exact ⟨rfl, rfl, rfl, rfl, rfl, rfl, rfl, rfl, rfl⟩
  · simp only [intClaims, List.forall_mem_cons, List.not_mem_nil, false_implies, implies_true, and_true]
    exact ⟨rfl, rfl⟩

/-- A dictionary is the wire form of at most one value. -/
theorem WireForm.unique {items : List (PyValue × PyValue)} {claims claims' : QueryContextClaims}
    (form : WireForm items claims) (form' : WireForm items claims') : claims = claims' := by
  have listed : some claims.objects = some claims'.objects :=
    (objectsAt_eq_some.mpr form.objects).symm.trans (objectsAt_eq_some.mpr form'.objects)
  rw [← form.claimsAt_eq, ← form'.claimsAt_eq, Option.some.inj listed]

/-- The parser accepts exactly the wire forms. -/
theorem parseClaims_ok_iff {loads : Bytes → Except PyExc PyValue} {payload : Bytes} {claims : QueryContextClaims} :
    parseClaims loads payload = .ok claims ↔ ∃ items, loads payload = .ok (.dict items) ∧ WireForm items claims := by
  constructor
  · intro parsed
    unfold parseClaims at parsed
    cases decoded : loads payload with
    | error exc => rw [decoded] at parsed; simp only at parsed; split_ifs at parsed
    | ok value =>
      rw [decoded] at parsed
      cases value with
      | dict items =>
        simp only at parsed
        split_ifs at parsed with mismatch
        have keys := not_not.mp mismatch
        cases typed : fieldError items with
        | some detail => rw [typed] at parsed; cases parsed
        | none =>
          rw [typed] at parsed
          cases listed : objectsAt items with
          | none => rw [listed] at parsed; cases parsed
          | some objects =>
            rw [listed] at parsed
            simp only at parsed
            split_ifs at parsed with foreign
            obtain rfl := Except.ok.inj parsed
            exact ⟨items, rfl, claimsAt_wireForm keys typed listed (not_not.mp foreign)⟩
      | _ => cases parsed
  · rintro ⟨items, decoded, form⟩
    simp only [parseClaims, decoded, form.keys, ne_eq, not_true_eq_false, if_false, form.fieldError_eq,
      objectsAt_eq_some.mpr form.objects, form.claimsAt_eq, form.issued]

/-- A key of the list verifies the token and its payload is the wire form of live
    claims for the audience. -/
structure Verified (J : Joserfc) (loads : Bytes → Except PyExc PyValue) (token : PyStr) (public_keys_pem : List Bytes)
    (expected_aud : PyStr) (now : Int) (claims : QueryContextClaims) : Prop where
  signed : ∃ pem ∈ public_keys_pem, ∃ payload items, J.deserialize token pem = .ok payload ∧
    loads payload = .ok (.dict items) ∧ WireForm items claims
  live : now < claims.exp
  audience : claims.aud = expected_aud

section
variable {J : Joserfc} {loads : Bytes → Except PyExc PyValue} {token expected_aud : PyStr} {public_keys_pem : List Bytes}
  {now : Int} {claims : QueryContextClaims}

theorem firstVerified_some {payload : Bytes} (found : firstVerified J token public_keys_pem = .ok (some payload)) :
    ∃ pem ∈ public_keys_pem, J.deserialize token pem = .ok payload := by
  induction public_keys_pem with
  | nil => cases found
  | cons pem rest ih =>
    unfold firstVerified at found
    cases read : J.deserialize token pem with
    | ok payload' =>
      rw [read] at found
      obtain rfl := Option.some.inj (Except.ok.inj found)
      exact ⟨pem, List.mem_cons_self, read⟩
    | error exc =>
      rw [read] at found
      simp only at found
      split_ifs at found
      obtain ⟨other, member, verified⟩ := ih found
      exact ⟨other, List.mem_cons_of_mem _ member, verified⟩

theorem firstVerified_none (found : firstVerified J token public_keys_pem = .ok none) :
    ∀ pem ∈ public_keys_pem, ∀ payload, J.deserialize token pem ≠ .ok payload := by
  induction public_keys_pem with
  | nil => simp
  | cons pem rest ih =>
    unfold firstVerified at found
    cases read : J.deserialize token pem with
    | ok payload => rw [read] at found; cases found
    | error exc =>
      rw [read] at found
      simp only at found
      split_ifs at found
      intro other member payload verified
      rcases List.mem_cons.mp member with rfl | later
      · rw [read] at verified; cases verified
      · exact ih found other later payload verified

theorem verifyQueryContext_ok (accepted : verifyQueryContext J loads token public_keys_pem expected_aud now = .ok claims) :
    Verified J loads token public_keys_pem expected_aud now claims := by
  unfold verifyQueryContext at accepted
  cases signature : firstVerified J token public_keys_pem with
  | error exc => rw [signature] at accepted; cases accepted
  | ok found =>
    rw [signature] at accepted
    cases found with
    | none => cases accepted
    | some payload =>
      cases parsed : parseClaims loads payload with
      | error e => simp only [parsed] at accepted; cases accepted
      | ok claims' =>
        simp only [parsed] at accepted
        split_ifs at accepted with dead foreign
        obtain rfl := Except.ok.inj accepted
        obtain ⟨pem, member, verified⟩ := firstVerified_some signature
        obtain ⟨items, decoded, form⟩ := parseClaims_ok_iff.mp parsed
        exact ⟨⟨pem, member, payload, items, verified, decoded, form⟩, not_le.mp dead, not_not.mp foreign⟩

/-- A token that the verifier refuses shows no claims. -/
theorem verifyQueryContext_refused {refusal : QueryContextRefusal}
    (refused : verifyQueryContext J loads token public_keys_pem expected_aud now = .error (.refused refusal)) :
    ¬ Verified J loads token public_keys_pem expected_aud now claims := by
  rintro ⟨⟨pem, member, payload, items, verified, decoded, form⟩, live, audience⟩
  unfold verifyQueryContext at refused
  cases signature : firstVerified J token public_keys_pem with
  | error exc => rw [signature] at refused; cases refused
  | ok found =>
    rw [signature] at refused
    cases found with
    | none => exact firstVerified_none signature pem member payload verified
    | some payload' =>
      obtain ⟨pem', _, verified'⟩ := firstVerified_some signature
      obtain rfl := J.payload_of_token token pem' pem payload' payload verified' verified
      have parsed := parseClaims_ok_iff.mpr ⟨items, decoded, form⟩
      simp [parsed, not_le.mpr live, audience] at refused

/-- The claims of a token are the same under every key list and clock. -/
theorem Verified.unique {public_keys_pem' : List Bytes} {expected_aud' : PyStr} {now' : Int} {claims' : QueryContextClaims}
    (one : Verified J loads token public_keys_pem expected_aud now claims)
    (two : Verified J loads token public_keys_pem' expected_aud' now' claims') : claims = claims' := by
  obtain ⟨pem, _, payload, items, verified, decoded, form⟩ := one.signed
  obtain ⟨pem', _, payload', items', verified', decoded', form'⟩ := two.signed
  obtain rfl := J.payload_of_token token pem pem' payload payload' verified verified'
  obtain rfl := PyValue.dict.inj (Except.ok.inj (decoded.symm.trans decoded'))
  exact form.unique form'
end

end OracleSchema.QueryContext
