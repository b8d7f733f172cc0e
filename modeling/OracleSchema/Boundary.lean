import OracleSchema.Nesting
import OracleSchema.QueryContext

/-!
The boundary of the claims: a verified payload of any bytes either gives claims or is
refused as malformed, unless `json.loads` raises an exception that the parser does not
name (`claims_boundary_iff`).
-/
namespace OracleSchema.Boundary
open OracleSchema.Casing OracleSchema.Strings OracleSchema.Errors OracleSchema.Json OracleSchema.Decoding
open OracleSchema.JsonReader OracleSchema.Nesting OracleSchema.QueryContext

/-- Claims, or the refusal of malformed claims. -/
def Settled (result : Except VerifyError QueryContextClaims) : Prop :=
  (∃ claims, result = .ok claims) ∨ ∃ detail, result = .error (malformed detail)

/-- The payload is no text, or a text whose reading does not come to a long integer or to
    one container too many. -/
def Readable (float : PyStr → PyFloat) (limit : Nat) (payload : Bytes) : Prop :=
  ∀ doc, decode payload = .ok doc → ¬ Overruns float limit (skipBlank doc)

section
variable {float : PyStr → PyFloat} {limit : Nat} {payload : Bytes}

/-- `json.loads` raises a foreign exception exactly on the payloads that are not readable. -/
theorem nestedLoads_foreign_iff :
    (∃ exc, nestedLoads float limit payload = .error exc ∧ Foreign exc) ↔ ¬ Readable float limit payload := by
  unfold nestedLoads Readable
  cases decoded : decode payload with
  | error exc =>
    have unicode : exc.isInstance .UnicodeDecodeError = true := by
      unfold decode at decoded
      split at decoded
      · cases decoded
      · obtain rfl := Except.error.inj decoded
        rfl
    refine iff_of_false ?_ (not_not.mpr fun doc same => nomatch same)
    rintro ⟨exc', same, _, notUnicode⟩
    obtain rfl := Except.error.inj same
    rw [unicode] at notUnicode
    cases notUnicode
  | ok doc =>
    simp only [Except.ok.injEq, forall_eq', not_not, ← raises_scanNestedDocument]
    simp only [bind, Except.bind]
    cases read : scanNestedDocument float limit doc with
    | ok value => exact iff_of_false (fun ⟨exc, same, _⟩ => nomatch same) (not_raises_ok _)
    | error stop =>
      cases stop with
      | raised exc =>
        constructor
        · rintro ⟨exc', same, foreign⟩
          obtain rfl : exc = exc' := Except.error.inj same
          exact ⟨exc, rfl, foreign⟩
        · rintro ⟨exc', same, foreign⟩
          obtain rfl := Stop.raised.inj (Except.error.inj same)
          exact ⟨exc, rfl, foreign⟩
      | decodeError message rest =>
        refine iff_of_false ?_ fun ⟨exc, same, _⟩ => nomatch same
        rintro ⟨exc, same, notJson, _⟩
        obtain rfl := Except.error.inj same
        cases notJson
      | exhausted => exact absurd read (scanNestedDocument_not_exhausted limit doc)

/-- The parser settles a payload unless the decoder raises a foreign exception, which
    it then hands on. -/
theorem parseClaims_settled (loads : Bytes → Except PyExc PyValue) (payload : Bytes) :
    Settled (parseClaims loads payload) ∧ (∀ exc, parseClaims loads payload ≠ .error (.escaped exc)) ∧
        ¬ (∃ exc, loads payload = .error exc ∧ Foreign exc) ∨
      (∃ exc, parseClaims loads payload = .error (.escaped exc)) ∧ ∃ exc, loads payload = .error exc ∧ Foreign exc := by
  unfold parseClaims
  cases loads payload with
  | error exc =>
    simp only
    split_ifs with caught
    · refine .inl ⟨.inr ⟨_, rfl⟩, (fun exc' same => nomatch same), ?_⟩
      rintro ⟨exc', same, notJson, notUnicode⟩
      obtain rfl := Except.error.inj same
      rcases caught with json | unicode
      · rw [json] at notJson
        cases notJson
      · rw [unicode] at notUnicode
        cases notUnicode
    · simp only [not_or, Bool.not_eq_true] at caught
      exact .inr ⟨⟨exc, rfl⟩, exc, rfl, caught⟩
  | ok value =>
    have none : ¬ ∃ exc, (.ok value : Except PyExc PyValue) = .error exc ∧ Foreign exc := fun ⟨exc, same, _⟩ => nomatch same
    refine .inl (and_assoc.mp ⟨?_, none⟩)
    cases value with
    | dict items =>
      simp only
      split_ifs with mismatch
      · exact ⟨.inr ⟨_, rfl⟩, fun exc same => nomatch same⟩
      · cases fieldError items with
        | some detail => exact ⟨.inr ⟨_, rfl⟩, fun exc same => nomatch same⟩
        | none =>
          cases objectsAt items with
          | none => exact ⟨.inr ⟨_, rfl⟩, fun exc same => nomatch same⟩
          | some objects =>
            simp only
            split_ifs with foreignIssuer
            · exact ⟨.inr ⟨_, rfl⟩, fun exc same => nomatch same⟩
            · exact ⟨.inl ⟨_, rfl⟩, fun exc same => nomatch same⟩
    | _ => exact ⟨.inr ⟨_, rfl⟩, fun exc same => nomatch same⟩

theorem settled_iff_readable : Settled (parseClaims (nestedLoads float limit) payload) ↔ Readable float limit payload := by
  rw [← not_iff_not, ← nestedLoads_foreign_iff]
  rcases parseClaims_settled (nestedLoads float limit) payload with ⟨settled, _, none⟩ | ⟨⟨exc, escapes⟩, foreign⟩
  · exact iff_of_false (not_not.mpr settled) none
  · refine iff_of_true ?_ foreign
    rintro (⟨claims, same⟩ | ⟨detail, same⟩)
    · rw [escapes] at same
      cases same
    · rw [escapes] at same
      cases same

/-- The verifier of a verified payload lets an exception escape exactly if the parser does. -/
theorem verify_escapes_iff {J : Joserfc} {loads : Bytes → Except PyExc PyValue} {token expected_aud : PyStr} {keys : List Bytes}
    {now : Int} (verified : firstVerified J token keys = .ok (some payload)) :
    (∃ exc, verifyQueryContext J loads token keys expected_aud now = .error (.escaped exc)) ↔
      ∃ exc, parseClaims loads payload = .error (.escaped exc) := by
  simp only [verifyQueryContext, verified]
  cases parseClaims loads payload with
  | error e => exact Iff.rfl
  | ok claims =>
    simp only
    refine iff_of_false ?_ fun ⟨exc, same⟩ => nomatch same
    split_ifs
    · exact fun ⟨exc, same⟩ => nomatch same
    · exact fun ⟨exc, same⟩ => nomatch same
    · exact fun ⟨exc, same⟩ => nomatch same
end

/-- The parser settles a payload, and the verifier then returns or refuses, exactly if
    reading the payload comes neither to an integer of more than 4300 digits nor to more
    open containers than the interpreter allows. -/
theorem claims_boundary_iff (float : PyStr → PyFloat) (limit : Nat) (payload : Bytes) :
    (Settled (parseClaims (nestedLoads float limit) payload) ↔ Readable float limit payload) ∧
      ∀ (J : Joserfc) (token expected_aud : PyStr) (keys : List Bytes) (now : Int),
        firstVerified J token keys = .ok (some payload) →
          ((∀ exc, verifyQueryContext J (nestedLoads float limit) token keys expected_aud now ≠ .error (.escaped exc)) ↔
            Readable float limit payload) := by
  refine ⟨settled_iff_readable, fun J token expected_aud keys now verified => ?_⟩
  rw [← not_exists, verify_escapes_iff verified, not_iff_comm, ← nestedLoads_foreign_iff]
  rcases parseClaims_settled (nestedLoads float limit) payload with ⟨_, stays, none⟩ | ⟨escapes, foreign⟩
  · exact iff_of_false none fun ⟨exc, same⟩ => stays exc same
  · exact iff_of_true foreign escapes

/-- The digit one, a number of times. -/
def ones (n : Nat) : Bytes := List.replicate n 49

theorem decode_ones (n : Nat) : decode (ones (n + 1)) = .ok (List.replicate (n + 1) 49) := by
  have encoded : ∀ n : Nat, utf8 (List.replicate n 49) = some (ones n) := by
    intro n
    induction n with
    | zero => rfl
    | succ n ih => exact utf8_cons.mpr ⟨[49], _, rfl, ih, rfl⟩
  refine decode_utf8 (c := 49) (s := List.replicate n 49) (by decide) (fun d member => ?_) (encoded (n + 1))
  rw [← List.replicate_succ] at member
  rw [List.eq_of_mem_replicate member]
  decide

theorem overruns_ones (float : PyStr → PyFloat) (limit n : Nat) (long : 4300 ≤ n) :
    Overruns float limit (List.replicate (n + 1) 49) := by
  have one : isDigit 49 = true := by decide
  have run : digitRun (List.replicate (n + 1) 49) = (List.replicate (n + 1) 49, []) := by
    rw [digitRun, List.takeWhile_replicate, List.dropWhile_replicate, if_pos one, if_pos one]
  have whole : matchWhole (List.replicate (n + 1) 49) = some (List.replicate (n + 1) 49, []) := by
    rw [List.replicate_succ] at run ⊢
    show (if (digitRun (49 :: List.replicate n 49)).1 = [] then none else some (digitRun (49 :: List.replicate n 49))) = _
    rw [run, if_neg (List.cons_ne_nil _ _)]
  have number : matchNumber (List.replicate (n + 1) 49) = some (List.replicate (n + 1) 49, false, []) := by
    rw [matchNumber, whole]
    simp [matchFraction, matchExponent]
  refine .digits number ?_
  rw [List.filter_replicate_of_pos one, List.length_replicate]
  omega

/-- A payload that is one long integer is neither parsed nor refused. -/
theorem manyOnes_escapes : ¬ Settled (parseClaims (nestedLoads (fun _ => .nan) 1000) (ones 4301)) := by
  rw [settled_iff_readable]
  intro readable
  have blank : skipBlank (List.replicate 4301 49) = List.replicate 4301 49 := by
    rw [skipBlank, List.dropWhile_replicate, if_neg (by decide)]
  refine readable _ (decode_ones 4300) ?_
  rw [blank]
  exact overruns_ones _ 1000 4300 le_rfl

/-- Key files under which every token verifies with this payload. -/
def signing (payload : Bytes) : Joserfc :=
  ⟨fun _ _ => .ok payload, fun _ _ _ _ _ one two => by rw [← Except.ok.inj one, ← Except.ok.inj two]⟩

theorem claims_boundary_iff_ones :
    (Settled (parseClaims (nestedLoads (fun _ => .nan) 1000) (ones 4301)) ↔ Readable (fun _ => .nan) 1000 (ones 4301)) ∧
      ((∀ exc, verifyQueryContext (signing (ones 4301)) (nestedLoads (fun _ => .nan) 1000) (lit "token") [[1]] (lit "a") 5 ≠
          .error (.escaped exc)) ↔ Readable (fun _ => .nan) 1000 (ones 4301)) := by
  obtain ⟨parser, verifier⟩ := claims_boundary_iff (fun _ => .nan) 1000 (ones 4301)
  exact ⟨parser, verifier (signing (ones 4301)) (lit "token") (lit "a") [[1]] 5 rfl⟩

end OracleSchema.Boundary
