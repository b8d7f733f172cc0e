import OracleSchema.Boundary

/-!
The rotation window: what a verification comes to depends on the set of configured
keys that verify the token and not on their order, on repeated keys or on further ones
(`rotation_window`).
-/
namespace OracleSchema.Rotation
open OracleSchema.Strings OracleSchema.Errors OracleSchema.Json OracleSchema.QueryContext OracleSchema.Boundary

/-! ### The first success -/

section
universe u v
variable {κ : Type u} {α : Type v}

/-- All keys that answer give the same answer. -/
def Agreeing (answer : κ → Option α) : Prop := ∀ k k' a a', answer k = some a → answer k' = some a' → a = a'

variable {answer : κ → Option α}

theorem findSome?_eq_some_iff (agreeing : Agreeing answer) {keys : List κ} {a : α} :
    keys.findSome? answer = some a ↔ ∃ k ∈ keys, answer k = some a := by
  constructor
  · exact List.exists_of_findSome?_eq_some
  · rintro ⟨k, member, answered⟩
    cases found : keys.findSome? answer with
    | none =>
      rw [List.findSome?_eq_none_iff.mp found k member] at answered
      cases answered
    | some a' =>
      obtain ⟨k', _, answered'⟩ := List.exists_of_findSome?_eq_some found
      rw [agreeing k' k a' a answered' answered]

/-- The first answer depends only on which answering keys are in the list. -/
theorem findSome?_congr (agreeing : Agreeing answer) {keys keys' : List κ}
    (same : ∀ k, answer k ≠ none → (k ∈ keys ↔ k ∈ keys')) : keys.findSome? answer = keys'.findSome? answer := by
  refine Option.ext fun a => ?_
  rw [findSome?_eq_some_iff agreeing, findSome?_eq_some_iff agreeing]
  refine exists_congr fun k => and_congr_left fun answered => same k ?_
  rw [answered]
  exact Option.some_ne_none a
end

/-! ### Outcomes -/

/-- What the caller of the verifier sees. -/
inductive Outcome
  | accepted (claims : QueryContextClaims)
  | refused (reason : QueryContextRefusalReason)
  | escaped (exc : PyExc)

def outcome : Except VerifyError QueryContextClaims → Outcome
  | .ok claims => .accepted claims
  | .error (.refused refusal) => .refused refusal.reason
  | .error (.escaped exc) => .escaped exc

/-- What a verified payload comes to: malformed claims first, then expired ones, then
    those for another audience. -/
def judge (loads : Bytes → Except PyExc PyValue) (expected_aud : PyStr) (now : Int) (payload : Bytes) : Outcome :=
  match parseClaims loads payload with
  | .error e => outcome (.error e)
  | .ok claims =>
    if claims.exp ≤ now then .refused .query_context_expired
    else if claims.aud ≠ expected_aud then .refused .query_context_audience_mismatch
    else .accepted claims

/-- Whatever joserfc raises on this token is an exception that the loop over the keys
    handles. -/
def FailuresHandled (J : Joserfc) (token : PyStr) : Prop :=
  ∀ pem exc, J.deserialize token pem = .error exc →
    exc.isInstance .JoseError ∨ exc.isInstance .ValueError ∨ exc.isInstance .TypeError

/-- The key does not import, or the token does not verify under it. -/
def Fails (J : Joserfc) (token : PyStr) (pem : Bytes) : Prop := ∀ payload, J.deserialize token pem ≠ .ok payload

section
variable {J : Joserfc} {loads : Bytes → Except PyExc PyValue} {token expected_aud : PyStr} {now : Int}

/-- The payload of the token under one key. -/
def payloadUnder (J : Joserfc) (token : PyStr) (pem : Bytes) : Option Bytes := (J.deserialize token pem).toOption

theorem payloadUnder_eq_some {pem payload : Bytes} : payloadUnder J token pem = some payload ↔ J.deserialize token pem = .ok payload := by
  unfold payloadUnder
  cases J.deserialize token pem <;> simp [Except.toOption]

theorem payloadUnder_eq_none {pem : Bytes} : payloadUnder J token pem = none ↔ Fails J token pem := by
  unfold payloadUnder Fails
  cases J.deserialize token pem <;> simp [Except.toOption]

theorem agreeing_payloadUnder : Agreeing (payloadUnder J token) := by
  intro pem pem' payload payload' one two
  exact J.payload_of_token token pem pem' payload payload' (payloadUnder_eq_some.mp one) (payloadUnder_eq_some.mp two)

theorem firstVerified_eq (handled : FailuresHandled J token) (keys : List Bytes) :
    firstVerified J token keys = .ok (keys.findSome? (payloadUnder J token)) := by
  induction keys with
  | nil => rfl
  | cons pem rest ih =>
    rw [firstVerified, List.findSome?_cons, payloadUnder]
    cases read : J.deserialize token pem with
    | ok payload => rfl
    | error exc =>
      simp only
      rw [if_pos (handled pem exc read), ih]
      rfl

/-- The outcome under a list of keys is that of the first payload. -/
theorem outcome_verify (handled : FailuresHandled J token) (keys : List Bytes) :
    outcome (verifyQueryContext J loads token keys expected_aud now) =
      match keys.findSome? (payloadUnder J token) with
      | none => .refused .query_context_signature_invalid
      | some payload => judge loads expected_aud now payload := by
  rw [verifyQueryContext, firstVerified_eq handled]
  cases keys.findSome? (payloadUnder J token) with
  | none => rfl
  | some payload =>
    simp only [judge]
    cases parseClaims loads payload with
    | error e => rfl
    | ok claims =>
      simp only
      split_ifs <;> rfl

/-- Lists with the same verifying keys have the same outcome. -/
theorem outcome_congr (handled : FailuresHandled J token) {keys keys' : List Bytes}
    (same : ∀ pem, ¬ Fails J token pem → (pem ∈ keys ↔ pem ∈ keys')) :
    outcome (verifyQueryContext J loads token keys expected_aud now) =
      outcome (verifyQueryContext J loads token keys' expected_aud now) := by
  have first : keys.findSome? (payloadUnder J token) = keys'.findSome? (payloadUnder J token) :=
    findSome?_congr agreeing_payloadUnder fun pem answers => same pem fun fails => answers (payloadUnder_eq_none.mpr fails)
  rw [outcome_verify handled, outcome_verify handled, first]

theorem judge_not_signature (payload : Bytes) : judge loads expected_aud now payload ≠ .refused .query_context_signature_invalid := by
  unfold judge
  rcases parseClaims_settled loads payload with ⟨⟨claims, parsed⟩ | ⟨detail, parsed⟩, _⟩ | ⟨⟨exc, parsed⟩, _⟩
  · simp only [parsed]
    split_ifs <;> simp
  · simp [parsed, outcome, malformed]
  · simp [parsed, outcome]
end

/-- What a verification comes to is the same under a permutation of the keys, under
    repeated keys and under further keys that fail; more keys never refuse an accepted
    token; the signature is invalid exactly if all keys fail, and otherwise the payload
    decides. -/
theorem rotation_window (J : Joserfc) (loads : Bytes → Except PyExc PyValue) (token expected_aud : PyStr) (now : Int)
    (handled : FailuresHandled J token) :
    let result := fun keys => outcome (verifyQueryContext J loads token keys expected_aud now)
    (∀ keys keys', keys.Perm keys' → result keys = result keys') ∧
      (∀ front back pem, pem ∈ front ++ back → result (front ++ pem :: back) = result (front ++ back)) ∧
      (∀ front back pem, Fails J token pem → result (front ++ pem :: back) = result (front ++ back)) ∧
      (∀ keys keys' claims, keys ⊆ keys' → result keys = .accepted claims → result keys' = .accepted claims) ∧
      (∀ keys, result keys = .refused .query_context_signature_invalid ↔ ∀ pem ∈ keys, Fails J token pem) ∧
      ∀ keys pem payload, pem ∈ keys → J.deserialize token pem = .ok payload →
        result keys = judge loads expected_aud now payload := by
  intro result
  have decided : ∀ keys pem payload, pem ∈ keys → J.deserialize token pem = .ok payload →
      result keys = judge loads expected_aud now payload := by
    intro keys pem payload member verified
    have first : keys.findSome? (payloadUnder J token) = some payload :=
      (findSome?_eq_some_iff agreeing_payloadUnder).mpr ⟨pem, member, payloadUnder_eq_some.mpr verified⟩
    exact (outcome_verify handled keys).trans (by rw [first])
  have signature : ∀ keys, result keys = .refused .query_context_signature_invalid ↔ ∀ pem ∈ keys, Fails J token pem := by
    intro keys
    constructor
    · intro refused pem member payload verified
      exact judge_not_signature payload ((decided keys pem payload member verified).symm.trans refused)
    · intro fail
      have first : keys.findSome? (payloadUnder J token) = none :=
        List.findSome?_eq_none_iff.mpr fun pem member => payloadUnder_eq_none.mpr (fail pem member)
      exact (outcome_verify handled keys).trans (by rw [first])
  refine ⟨?_, ?_, ?_, ?_, signature, decided⟩
  · intro keys keys' perm
    exact outcome_congr handled fun pem _ => perm.mem_iff
  · intro front back pem repeated
    refine outcome_congr handled fun other _ => ?_
    simp only [List.mem_append, List.mem_cons] at repeated ⊢
    constructor
    · rintro (early | rfl | late)
      · exact .inl early
      · exact repeated
      · exact .inr late
    · exact fun member => member.imp_right .inr
  · intro front back pem fails
    refine outcome_congr handled fun other verifies => ?_
    have differ : other ≠ pem := fun same => verifies (same ▸ fails)
    simp [differ]
  · intro keys keys' claims more accepted
    by_cases all : ∀ pem ∈ keys, Fails J token pem
    · rw [(signature keys).mpr all] at accepted
      cases accepted
    · simp only [Fails, not_forall, not_not] at all
      obtain ⟨pem, member, payload, verified⟩ := all
      rw [← accepted, decided keys pem payload member verified, decided keys' pem payload (more member) verified]

/-- One key verifies every token and all others do not import. -/
def oneKey (good : Bytes) : Joserfc where
  deserialize _ pem := if pem = good then .ok [] else .error (.ofText .ValueError (lit "no key"))
  payload_of_token token pem pem' payload payload' one two := by
    split_ifs at one two
    rw [← Except.ok.inj one, ← Except.ok.inj two]

theorem rotation_window_oneKey :
    outcome (verifyQueryContext (oneKey [2]) (fun _ => .ok .none) (lit "token") [[1], [2]] (lit "a") 5) =
      outcome (verifyQueryContext (oneKey [2]) (fun _ => .ok .none) (lit "token") [[2]] (lit "a") 5) := by
  have handled : FailuresHandled (oneKey [2]) (lit "token") := by
    intro pem exc failed
    simp only [oneKey] at failed
    split_ifs at failed
    obtain rfl := Except.error.inj failed
    exact .inr (.inl rfl)
  obtain ⟨_, _, further, _⟩ := rotation_window (oneKey [2]) (fun _ => .ok .none) (lit "token") (lit "a") 5 handled
  refine further [] [[2]] [1] fun payload verified => ?_
  simp [oneKey] at verified

end OracleSchema.Rotation
