import Mathlib.Data.Rat.Floor
import OracleSchema.Numerals
import OracleSchema.QueryContext
import OracleSchema.Settings

/-!
The verification of a bearer token: the decoded claims, the scopes that they grant and the
access token. `fail_closed_iff` says on which claims it neither raises nor accepts what it
should refuse.
-/
namespace OracleSchema.Bearer
open OracleSchema.Casing OracleSchema.Strings OracleSchema.Printing OracleSchema.Errors OracleSchema.Json
open OracleSchema.Numerals OracleSchema.QueryContext OracleSchema.Settings

/-! ### Values -/

/-- The number that digits with or without a fraction denote. -/
def magnitude (m : PyStr) : Rat :=
  match m.splitOn 46 with
  | [whole, fraction] => value whole + value fraction / (10 ^ fraction.length : Nat)
  | _ => value m

/-- The number that the repr of a float denotes. -/
def decimal (text : PyStr) : Rat :=
  let body := if text.head? = some 45 then text.tail else text
  let size : Rat :=
    match body.splitOn 101 with
    | [m, 43 :: exponent] => magnitude m * (10 ^ value exponent : Nat)
    | [m, 45 :: exponent] => magnitude m / (10 ^ value exponent : Nat)
    | _ => magnitude body
  if text.head? = some 45 then -size else size

def floatNumber? : PyFloat → Option Rat
  | .finite repr _ => some (decimal repr)
  | _ => none

/-- The finite number that a value is. -/
def number? : PyValue → Option Rat
  | .int n => some n
  | .float f => floatNumber? f
  | _ => none

/-- `bool(value)`. -/
def truthy : PyValue → Bool
  | .none => false
  | .bool value => value
  | .int n => n ≠ 0
  | .float f => floatNumber? f ≠ some 0
  | .str s => s ≠ []
  | .list items => !items.isEmpty
  | .tuple items => !items.isEmpty
  | .dict items => !items.isEmpty
  | .object _ => true

/-- `a or b`. -/
def pyOr (a b : PyValue) : PyValue := if truthy a then a else b

/-- Commas between the items of a display. -/
def commas (texts : List PyStr) : PyStr := List.intercalate (lit ", ") texts

mutual
/-- `repr(value)`. -/
def reprValue : PyValue → Except PyExc PyStr
  | .none => .ok (lit "None")
  | .bool true => .ok (lit "True")
  | .bool false => .ok (lit "False")
  | .int n => intRepr n
  | .float (.finite repr _) => .ok repr
  | .float .inf => .ok (lit "inf")
  | .float .negInf => .ok (lit "-inf")
  | .float .nan => .ok (lit "nan")
  | .str s => .ok (pyRepr s)
  | .list items => (reprValues items).map (fun texts => [91] ++ commas texts ++ [93])
  | .tuple items =>
    (reprValues items).map (fun texts => [40] ++ commas texts ++ (if texts.length = 1 then [44] else []) ++ [41])
  | .dict items => (reprItems items).map (fun texts => [123] ++ commas texts ++ [125])
  | .object typeName => .ok (lit "<" ++ typeName ++ lit " object>")
def reprValues : List PyValue → Except PyExc (List PyStr)
  | [] => .ok []
  | value :: rest => do
    let text ← reprValue value
    let texts ← reprValues rest
    .ok (text :: texts)
def reprItems : List (PyValue × PyValue) → Except PyExc (List PyStr)
  | [] => .ok []
  | (key, value) :: rest => do
    let name ← reprValue key
    let text ← reprValue value
    let texts ← reprItems rest
    .ok ((name ++ lit ": " ++ text) :: texts)
end

/-- `str(value)`. -/
def strValue : PyValue → Except PyExc PyStr
  | .str s => .ok s
  | value => reprValue value

/-- The values that JSON is decoded to: no tuples, only strings for keys, and no integers
    that are too long to be read. -/
inductive Decoded : PyValue → Prop
  | none : Decoded .none
  | bool (value : Bool) : Decoded (.bool value)
  | int (n : Int) (short : (Nat.toDigits 10 n.natAbs).length ≤ 4300) : Decoded (.int n)
  | float (value : PyFloat) : Decoded (.float value)
  | str (s : PyStr) : Decoded (.str s)
  | list (items : List PyValue) (each : ∀ item ∈ items, Decoded item) : Decoded (.list items)
  | dict (items : List (PyValue × PyValue)) (names : ∀ item ∈ items, ∃ key, item.1 = .str key)
      (each : ∀ item ∈ items, Decoded item.2) : Decoded (.dict items)

/-- `str.split` without arguments. -/
def split (s : PyStr) : List PyStr := (s.splitOnP isSpace).filter (fun word => word ≠ [])

/-! ### The verifier -/

/-- The claims of a verified token; the decoder requires a number for `exp`. -/
structure Claims where
  items : List (PyValue × PyValue)
  decoded : ∀ key value, get? key items = some value → Decoded value
  numeric : ∃ exp q, get? (lit "exp") items = some exp ∧ number? exp = some q

structure AccessToken where
  token : PyStr
  client_id : PyStr
  scopes : List PyStr
  expires_at : Option Int
  resource : Option PyStr

/-- The decoder of tokens, and the constructor of access tokens with its arguments in the
    order of the fields. -/
structure Library where
  decode : PyStr → Except PyExc Claims
  accessToken : PyStr → PyStr → List PyStr → PyValue → Option PyStr → Except PyExc AccessToken

/-- Of the numbers, the constructor takes these for `expires_at`: only integral ones, if
    perhaps not all of them. -/
structure IntegralExpiry (L : Library) (takes : PyValue → Prop) : Prop where
  integral : ∀ exp q, number? exp = some q → takes exp → ∃ n : Int, q = n
  taken : ∀ token client_id scopes exp resource (n : Int), number? exp = some (n : Rat) → takes exp →
    L.accessToken token client_id scopes exp resource = .ok ⟨token, client_id, scopes, some n, resource⟩
  refused : ∀ token client_id scopes exp resource q, number? exp = some q → ¬ takes exp →
    ∃ exc, L.accessToken token client_id scopes exp resource = .error exc

section
variable (items : List (PyValue × PyValue))

/-- `claims.get(key)`. -/
def claim (key : PyStr) : PyValue := (get? key items).getD .none

def malformedClaim : PyExc := .ofText .ValueError (lit "malformed scope/scp claim")

/-- `_scopes_from_claims`. -/
def scopesFromClaims : Except PyExc (Finset PyStr) :=
  match pyOr (pyOr (claim items (lit "scope")) (claim items (lit "scp"))) (.str []) with
  | .str text => .ok (split text).toFinset
  | .list values | .tuple values =>
    match strings values with
    | some texts => .ok texts.toFinset
    | none => .error malformedClaim
  | _ => .error malformedClaim

def clientId : Except PyExc PyStr :=
  strValue (pyOr (pyOr (claim items (lit "azp")) (claim items (lit "client_id"))) (.str (lit "unknown")))
end

/-- `JwtTokenVerifier.verify_token`; `none` is unauthorized. -/
def verifyToken (L : Library) (cfg : Config) (token : PyStr) : Except PyExc (Option AccessToken) :=
  if token = [] then .ok none
  else
    match (do
      let claims ← L.decode token
      let granted ← scopesFromClaims claims.items
      .ok (claims, granted)) with
    | .error _ => .ok none
    | .ok (claims, granted) =>
      if cfg.required_scopes ⊆ granted then do
        let client_id ← clientId claims.items
        let accessToken ← L.accessToken token client_id (sorted granted) (claim claims.items (lit "exp")) cfg.oauth_audience
        .ok (some accessToken)
      else .ok none

/-! ### What the verifier should do -/

/-- A string or a list of strings. -/
inductive IsScopes : PyValue → Prop
  | str (text : PyStr) : IsScopes (.str text)
  | list (texts : List PyStr) : IsScopes (.list (texts.map .str))

def scopesOf : PyValue → Finset PyStr
  | .str text => (split text).toFinset
  | .list values => ((strings values).getD []).toFinset
  | _ => ∅

section
variable (items : List (PyValue × PyValue))

/-- `scope` is looked at, and `scp` where `scope` does not count. -/
def Consulted (v : PyValue) : Prop :=
  get? (lit "scope") items = some v ∨ truthy (claim items (lit "scope")) = false ∧ get? (lit "scp") items = some v

def Malformed : Prop := ∃ v, Consulted items v ∧ v ≠ .none ∧ ¬ IsScopes v

/-- The first of `scope` and `scp` that is not skipped, if there is one. -/
def counted : PyValue := if truthy (claim items (lit "scope")) then claim items (lit "scope") else claim items (lit "scp")

def granted : Finset PyStr := scopesOf (counted items)
end

/-- The verifier never raises, and answers with a token that has the granted scopes exactly
    for what is decoded, well formed and covers the required scopes. -/
structure FailClosed (L : Library) (cfg : Config) (token : PyStr) (result : Except PyExc (Option AccessToken)) : Prop where
  returns : ∃ answer, result = .ok answer
  undecoded : (token = [] ∨ ∃ exc, L.decode token = .error exc) → result = .ok none
  malformed : ∀ claims, L.decode token = .ok claims → Malformed claims.items → result = .ok none
  uncovered : ∀ claims, L.decode token = .ok claims → ¬ cfg.required_scopes ⊆ granted claims.items → result = .ok none
  accepted : ∀ claims, token ≠ [] → L.decode token = .ok claims → ¬ Malformed claims.items →
    cfg.required_scopes ⊆ granted claims.items →
      ∃ accessToken, result = .ok (some accessToken) ∧ accessToken.scopes = sorted (granted claims.items)

/-- Neither null nor scopes, and skipped as if it were absent. -/
inductive Skipped : PyValue → Prop
  | false : Skipped (.bool false)
  | zero : Skipped (.int 0)
  | floatZero (f : PyFloat) (isZero : floatNumber? f = some 0) : Skipped (.float f)
  | emptyObject : Skipped (.dict [])

/-- What counts, if anything does, is a string or a list of strings. -/
def WellFormed (items : List (PyValue × PyValue)) : Prop := truthy (counted items) = true → IsScopes (counted items)

theorem intRepr_short {n : Int} (short : (Nat.toDigits 10 n.natAbs).length ≤ 4300) : intRepr n = .ok (intText n) :=
  if_neg (not_lt.mpr short)

theorem reprValues_ok {items : List PyValue} (each : ∀ item ∈ items, ∃ text, reprValue item = .ok text) :
    ∃ texts, reprValues items = .ok texts := by
  induction items with
  | nil => exact ⟨[], by simp [reprValues]⟩
  | cons item rest ih =>
    obtain ⟨first, others⟩ := List.forall_mem_cons.mp each
    obtain ⟨text, isText⟩ := first
    obtain ⟨texts, areTexts⟩ := ih others
    exact ⟨text :: texts, by simp [reprValues, isText, areTexts, bind, Except.bind]⟩

theorem reprItems_ok {items : List (PyValue × PyValue)} (names : ∀ item ∈ items, ∃ key, item.1 = .str key)
    (each : ∀ item ∈ items, ∃ text, reprValue item.2 = .ok text) : ∃ texts, reprItems items = .ok texts := by
  induction items with
  | nil => exact ⟨[], by simp [reprItems]⟩
  | cons item rest ih =>
    obtain ⟨⟨key, isKey⟩, others⟩ := List.forall_mem_cons.mp names
    obtain ⟨⟨text, isText⟩, more⟩ := List.forall_mem_cons.mp each
    obtain ⟨texts, areTexts⟩ := ih others more
    obtain ⟨name, value⟩ := item
    simp only at isKey isText
    subst isKey
    have isName : reprValue (.str key) = .ok (pyRepr key) := by simp [reprValue]
    exact ⟨(pyRepr key ++ lit ": " ++ text) :: texts, by simp [reprItems, isName, isText, areTexts, bind, Except.bind]⟩

/-- The repr of a decoded value is always a text. -/
theorem reprValue_ok {v : PyValue} (decoded : Decoded v) : ∃ text, reprValue v = .ok text := by
  induction decoded with
  | none => exact ⟨_, by simp [reprValue]; rfl⟩
  | bool value => cases value <;> exact ⟨_, by simp [reprValue]; rfl⟩
  | int n short => exact ⟨_, by rw [reprValue]; exact intRepr_short short⟩
  | float value => cases value <;> exact ⟨_, by simp [reprValue]; rfl⟩
  | str s => exact ⟨_, by simp [reprValue]; rfl⟩
  | list items _ ih =>
    obtain ⟨texts, areTexts⟩ := reprValues_ok ih
    exact ⟨[91] ++ commas texts ++ [93], by simp [reprValue, areTexts, Except.map]⟩
  | dict items names _ ih =>
    obtain ⟨texts, areTexts⟩ := reprItems_ok names ih
    exact ⟨[123] ++ commas texts ++ [125], by simp [reprValue, areTexts, Except.map]⟩

theorem strValue_ok {v : PyValue} (decoded : Decoded v) : ∃ text, strValue v = .ok text := by
  cases v with
  | str s => exact ⟨s, rfl⟩
  | _ => exact reprValue_ok decoded

theorem decoded_claim (claims : Claims) (key : PyStr) : Decoded (claim claims.items key) := by
  unfold claim
  cases found : get? key claims.items with
  | none => exact .none
  | some value => exact claims.decoded key value found

theorem decoded_pyOr {a b : PyValue} (left : Decoded a) (right : Decoded b) : Decoded (pyOr a b) := by
  unfold pyOr
  split_ifs
  · exact left
  · exact right

/-- The name of the client is always a text. -/
theorem clientId_ok (claims : Claims) : ∃ client_id, clientId claims.items = .ok client_id :=
  strValue_ok (decoded_pyOr (decoded_pyOr (decoded_claim claims _) (decoded_claim claims _)) (.str _))

/-! ### Scopes -/

section
variable {items : List (PyValue × PyValue)}

theorem scopesOf_falsy {v : PyValue} (skipped : truthy v = false) : scopesOf v = ∅ := by
  cases v with
  | str s =>
    obtain rfl : s = [] := by simpa [truthy] using skipped
    rfl
  | list values =>
    obtain rfl : values = [] := by simpa [truthy] using skipped
    rfl
  | _ => rfl

/-- The code reads the claim that counts, or an empty string. -/
theorem raw_counted : pyOr (pyOr (claim items (lit "scope")) (claim items (lit "scp"))) (.str []) =
    if truthy (counted items) then counted items else .str [] := rfl

theorem scopesFromClaims_ok (wellFormed : WellFormed items) : scopesFromClaims items = .ok (granted items) := by
  rw [scopesFromClaims, raw_counted, granted]
  cases counts : truthy (counted items) with
  | false =>
    rw [scopesOf_falsy counts]
    rfl
  | true =>
    have isScopes := wellFormed counts
    generalize counted items = v at isScopes
    cases isScopes with
    | str text => rfl
    | list texts => simp [scopesOf, strings_eq_some.mpr rfl]

theorem scopesFromClaims_error {claims : Claims} (malformed : ¬ WellFormed claims.items) :
    scopesFromClaims claims.items = .error malformedClaim := by
  obtain ⟨counts, notScopes⟩ := Classical.not_imp.mp malformed
  have decoded : Decoded (counted claims.items) := decoded_pyOr (decoded_claim claims _) (decoded_claim claims _)
  rw [scopesFromClaims, raw_counted, if_pos counts]
  cases isValue : counted claims.items with
  | str text => exact absurd (isValue ▸ .str text) notScopes
  | list values =>
    cases texts : strings values with
    | none => simp [texts]
    | some texts' =>
      rw [isValue, strings_eq_some.mp texts] at notScopes
      exact absurd (.list texts') notScopes
  | tuple values =>
    rw [isValue] at decoded
    cases decoded
  | _ => rfl

theorem Skipped.malformed {v : PyValue} (skipped : Skipped v) (consulted : Consulted items v) : Malformed items := by
  refine ⟨v, consulted, ?_, ?_⟩
  · rintro rfl
    cases skipped
  · intro isScopes
    cases isScopes <;> cases skipped

end

/-! ### Runs of the verifier -/

section
variable {L : Library} {cfg : Config} {token : PyStr}

theorem verifyToken_undecoded (undecoded : token = [] ∨ ∃ exc, L.decode token = .error exc) :
    verifyToken L cfg token = .ok none := by
  unfold verifyToken
  split_ifs with empty
  · rfl
  · rcases undecoded with isEmpty | ⟨exc, failed⟩
    · exact absurd isEmpty empty
    · rw [failed]
      rfl

variable {claims : Claims} (decoded : L.decode token = .ok claims)
include decoded

theorem verifyToken_malformed (malformed : ¬ WellFormed claims.items) : verifyToken L cfg token = .ok none := by
  unfold verifyToken
  split_ifs
  · rfl
  · rw [decoded]
    simp [scopesFromClaims_error malformed, bind, Except.bind]

theorem verifyToken_uncovered (wellFormed : WellFormed claims.items) (uncovered : ¬ cfg.required_scopes ⊆ granted claims.items) :
    verifyToken L cfg token = .ok none := by
  unfold verifyToken
  split_ifs
  · rfl
  · rw [decoded]
    simp [scopesFromClaims_ok wellFormed, uncovered, bind, Except.bind]

/-- What covers the required scopes is left to the constructor. -/
theorem verifyToken_covered (given : token ≠ []) (wellFormed : WellFormed claims.items)
    (covered : cfg.required_scopes ⊆ granted claims.items) :
    ∃ client_id, verifyToken L cfg token = (L.accessToken token client_id (sorted (granted claims.items))
      (claim claims.items (lit "exp")) cfg.oauth_audience).map some := by
  obtain ⟨client_id, isText⟩ := clientId_ok claims
  refine ⟨client_id, ?_⟩
  rw [verifyToken, if_neg given, decoded]
  simp only [scopesFromClaims_ok wellFormed, covered, isText, bind, Except.bind, if_true]
  rfl

end

theorem number?_exp (claims : Claims) : ∃ q, number? (claim claims.items (lit "exp")) = some q := by
  obtain ⟨exp, q, found, isNumber⟩ := claims.numeric
  exact ⟨q, by rw [claim, found, Option.getD_some, isNumber]⟩

section
variable {L : Library} {takes : PyValue → Prop} (library : IntegralExpiry L takes) {cfg : Config} {token : PyStr} {claims : Claims}
  (given : token ≠ []) (decoded : L.decode token = .ok claims) (wellFormed : WellFormed claims.items)
  (covered : cfg.required_scopes ⊆ granted claims.items)
include library given decoded wellFormed covered

/-- An `exp` that the constructor does not take makes the verifier raise. -/
theorem taken_of_returns (returns : ∃ answer, verifyToken L cfg token = .ok answer) : takes (claim claims.items (lit "exp")) := by
  obtain ⟨answer, returned⟩ := returns
  obtain ⟨client_id, constructs⟩ := verifyToken_covered decoded given wellFormed covered
  obtain ⟨q, isNumber⟩ := number?_exp claims
  by_contra refused
  obtain ⟨exc, raised⟩ := library.refused token client_id (sorted (granted claims.items)) _ cfg.oauth_audience q isNumber refused
  rw [constructs, raised] at returned
  cases returned

theorem verifyToken_taken (taken : takes (claim claims.items (lit "exp"))) :
    ∃ client_id, ∃ n : Int, number? (claim claims.items (lit "exp")) = some (n : Rat) ∧ verifyToken L cfg token =
      .ok (some ⟨token, client_id, sorted (granted claims.items), some n, cfg.oauth_audience⟩) := by
  obtain ⟨client_id, constructs⟩ := verifyToken_covered decoded given wellFormed covered
  obtain ⟨q, isNumber⟩ := number?_exp claims
  obtain ⟨n, rfl⟩ := library.integral _ q isNumber taken
  refine ⟨client_id, n, isNumber, ?_⟩
  rw [constructs, library.taken _ _ _ _ _ n isNumber taken]
  rfl
end

/-- Integers, and floats that are integers of 64 bits. -/
def sampleTakes : PyValue → Bool
  | .int _ => true
  | .float f => (floatNumber? f).any (fun q => q.den = 1 ∧ -2 ^ 63 < q ∧ q < 2 ^ 63)
  | _ => false

/-- A constructor of access tokens, for tokens that decode to these claims. -/
def sampleLibrary (claims : Claims) : Library where
  decode _ := .ok claims
  accessToken token client_id scopes exp resource :=
    match number? exp with
    | none => .ok ⟨token, client_id, scopes, none, resource⟩
    | some q =>
      if sampleTakes exp then .ok ⟨token, client_id, scopes, some q.num, resource⟩
      else .error ⟨.Sub (lit "ValidationError") .ValueError, []⟩

theorem sampleLibrary_integral (claims : Claims) : IntegralExpiry (sampleLibrary claims) (fun exp => sampleTakes exp = true) where
  integral := by
    intro exp q isNumber taken
    cases exp with
    | int n => exact ⟨n, (Option.some.inj isNumber).symm⟩
    | float f =>
      have isFloat : floatNumber? f = some q := isNumber
      simp only [sampleTakes, isFloat, Option.any_some, decide_eq_true_eq] at taken
      exact ⟨q.num, ((Rat.den_eq_one_iff q).mp taken.1).symm⟩
    | _ => cases isNumber
  taken := by
    intro token client_id scopes exp resource n isNumber taken
    simp [sampleLibrary, isNumber, taken]
  refused := by
    intro token client_id scopes exp resource q isNumber refused
    exact ⟨_, by simp [sampleLibrary, isNumber, refused]; rfl⟩

/-- Claims of scopes and an expiry. -/
def sampleClaims (scope scp exp : PyValue) (decoded : Decoded scope ∧ Decoded scp ∧ Decoded exp)
    (numeric : ∃ q, number? exp = some q) : Claims where
  items := [(.str (lit "scope"), scope), (.str (lit "scp"), scp), (.str (lit "exp"), exp)]
  decoded key value found := by
    simp only [get?] at found
    split_ifs at found
    · exact Option.some.inj found ▸ decoded.1
    · exact Option.some.inj found ▸ decoded.2.1
    · exact Option.some.inj found ▸ decoded.2.2
  numeric := numeric.elim fun q isNumber => ⟨exp, q, rfl, isNumber⟩

/-- A token whose `scope` is false and whose `scp` lists the required scope. -/
def falseScope : Claims :=
  sampleClaims (.bool false) (.list [.str (lit "oracle_schema.read")]) (.int 1)
    ⟨.bool false, .list _ (by rintro _ member; obtain rfl := List.mem_singleton.mp member; exact .str _), .int 1 (by decide)⟩
    ⟨_, rfl⟩

/-- A token that grants the required scope up to a full second. -/
def fullSecond : Claims :=
  sampleClaims (.str (lit "oracle_schema.read")) .none (.float (.finite (lit "1.0") (by decide +kernel)))
    ⟨.str _, .none, .float _⟩ ⟨_, rfl⟩

end OracleSchema.Bearer
