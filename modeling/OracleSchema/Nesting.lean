import OracleSchema.JsonReader
import OracleSchema.Numerals

/-!
`json.loads` in an interpreter that allows only so many open arrays and objects. It
differs from the reader without a bound by a RecursionError only, and `Overruns` says
on which texts it raises that, or the ValueError of a long integer.
-/
namespace OracleSchema.Nesting
open OracleSchema.Casing OracleSchema.Strings OracleSchema.Errors OracleSchema.Json OracleSchema.Numerals
open OracleSchema.Decoding OracleSchema.JsonReader

def tooDeep (container : String) : PyExc :=
  .ofText .RecursionError (lit "maximum recursion depth exceeded while decoding a JSON " ++ lit container ++
    lit " from a unicode string")

section
variable (float : PyStr → PyFloat)

/-- `scan_once` on a text that opens no array and no object. -/
def scanLeaf : Scan PyValue := fun s =>
  match s with
  | [] => expecting "Expecting value" s
  | 34 :: rest => (scanString s rest).map (fun found => (.str found.1, found.2))
  | _ => scanAtom float s

/-- `scan_once`, where so many more arrays and objects may be opened. -/
def scanNested : Nat → Scan PyValue
  | 0, s =>
    match s with
    | 91 :: _ => .error (.raised (tooDeep "array"))
    | 123 :: _ => .error (.raised (tooDeep "object"))
    | _ => scanLeaf float s
  | n + 1, s =>
    match s with
    | 91 :: rest =>
      match skipBlank rest with
      | 93 :: rest => .ok (.list [], rest)
      | rest => do
        let (items, rest) ← scanItems (scanNested n) (rest.length + 1) rest
        .ok (.list items, rest)
    | 123 :: rest =>
      match skipBlank rest with
      | 125 :: rest => .ok (.dict [], rest)
      | rest => do
        let (members, rest) ← scanMembers (scanNested n) (rest.length + 1) rest
        .ok (dictOf members, rest)
    | _ => scanLeaf float s

def scanNestedDocument (limit : Nat) (doc : PyStr) : Except Stop PyValue := do
  let (value, rest) ← scanNested float limit (skipBlank doc)
  match skipBlank rest with
  | [] => .ok value
  | rest => expecting "Extra data" rest

/-- `json.loads` where `limit` arrays and objects may be open at a time. -/
def nestedLoads (limit : Nat) (payload : Bytes) : Except PyExc PyValue := do
  let doc ← decode payload
  match scanNestedDocument float limit doc with
  | .ok value => .ok value
  | .error stop => .error (stop.exc doc)
end

/-! ### Where reading overruns -/

/-- From the text at an item of an array to the text at this item or at a later one. -/
inductive ItemAt (value : Scan PyValue) : PyStr → PyStr → Prop
  | here (s : PyStr) : ItemAt value s s
  | later {s rest more t : PyStr} {v : PyValue} (read : value s = .ok (v, rest)) (comma : skipBlank rest = 44 :: more)
      (others : ItemAt value (skipBlank more) t) : ItemAt value s t

/-- From the text at a member of an object to the text at its value. -/
inductive ValueAt : PyStr → PyStr → Prop
  | named {s rest more key : PyStr} (name : scanString (34 :: s) s = .ok (key, rest)) (colon : skipBlank rest = 58 :: more) :
      ValueAt (34 :: s) (skipBlank more)

/-- From the text at a member of an object to the text at the value of this member or of
    a later one. -/
inductive MemberAt (value : Scan PyValue) : PyStr → PyStr → Prop
  | here {s t : PyStr} (reached : ValueAt s t) : MemberAt value s t
  | later {s u rest more t : PyStr} {v : PyValue} (reached : ValueAt s u) (read : value u = .ok (v, rest))
      (comma : skipBlank rest = 44 :: more) (others : MemberAt value (skipBlank more) t) : MemberAt value s t

/-- Reading the text comes to an integer of more than 4300 digits, or to an array or an
    object when no more may be opened. -/
inductive Overruns (float : PyStr → PyFloat) : Nat → PyStr → Prop
  | digits {n : Nat} {s text rest : PyStr} (number : matchNumber s = some (text, false, rest))
      (long : 4300 < (text.filter isDigit).length) : Overruns float n s
  | array {s : PyStr} : Overruns float 0 (91 :: s)
  | object {s : PyStr} : Overruns float 0 (123 :: s)
  | item {n : Nat} {s t : PyStr} (some : ∀ rest, skipBlank s ≠ 93 :: rest) (reached : ItemAt (scanNested float n) (skipBlank s) t)
      (overruns : Overruns float n t) : Overruns float (n + 1) (91 :: s)
  | member {n : Nat} {s t : PyStr} (reached : MemberAt (scanNested float n) (skipBlank s) t) (overruns : Overruns float n t) :
      Overruns float (n + 1) (123 :: s)

section
variable {float : PyStr → PyFloat}

theorem scanLeaf_progress (s : PyStr) : Progress s (scanLeaf float s) := by
  unfold scanLeaf
  split
  · trivial
  · rename_i rest
    exact (scanString_progress (34 :: rest) rest).map.mono (by simp)
  · exact scanAtom_progress s

theorem scanNested_progress (n : Nat) (s : PyStr) : Progress s (scanNested float n s) := by
  induction n generalizing s with
  | zero =>
    unfold scanNested
    split
    · trivial
    · trivial
    · exact scanLeaf_progress s
  | succ n ih =>
    unfold scanNested
    split
    · rename_i rest0
      have blanks := length_skipBlank_le rest0
      split
      · rename_i rest found
        rw [found, List.length_cons] at blanks
        show rest.length < rest0.length + 1
        omega
      · have items := scanItems_progress (fun s (_ : s.length ≤ rest0.length) => ih s)
          ((skipBlank rest0).length + 1) (skipBlank rest0) (Nat.lt_succ_self _) blanks
        refine (Progress.bind items fun items rest shorter => ?_).mono (by simp; omega)
        exact shorter
    · rename_i rest0
      have blanks := length_skipBlank_le rest0
      split
      · rename_i rest found
        rw [found, List.length_cons] at blanks
        show rest.length < rest0.length + 1
        omega
      · have members := scanMembers_progress (fun s (_ : s.length ≤ rest0.length) => ih s)
          ((skipBlank rest0).length + 1) (skipBlank rest0) (Nat.lt_succ_self _) blanks
        refine (Progress.bind members fun members rest shorter => ?_).mono (by simp; omega)
        exact shorter
    · exact scanLeaf_progress s

/-! ### What raises -/

/-- The exception does not say that the payload is no JSON or no text. -/
def Foreign (exc : PyExc) : Prop := exc.isInstance .JSONDecodeError = false ∧ exc.isInstance .UnicodeDecodeError = false

/-- Reading stops with a foreign exception. -/
def Raises {α : Type} (result : Except Stop α) : Prop := ∃ exc, result = .error (.raised exc) ∧ Foreign exc

theorem not_raises_ok {α : Type} (a : α) : ¬ Raises (.ok a : Except Stop α) := fun ⟨_, same, _⟩ => nomatch same

theorem not_raises_expecting {α : Type} (message : String) (rest : PyStr) :
    ¬ Raises (expecting message rest : Except Stop α) := by
  rintro ⟨exc, same, _⟩
  exact Stop.noConfusion (Except.error.inj same)

theorem raises_tooDeep {α : Type} (container : String) : Raises (.error (.raised (tooDeep container)) : Except Stop α) :=
  ⟨_, rfl, rfl, rfl⟩

theorem raises_bind {α β : Type} {result : Except Stop α} {f : α → Except Stop β} :
    Raises (result >>= f) ↔ Raises result ∨ ∃ a, result = .ok a ∧ Raises (f a) := by
  simp only [Raises, bind_eq_error]
  constructor
  · rintro ⟨exc, early | ⟨a, first, late⟩, foreign⟩
    · exact .inl ⟨exc, early, foreign⟩
    · exact .inr ⟨a, first, exc, late, foreign⟩
  · rintro (⟨exc, early, foreign⟩ | ⟨a, first, exc, late, foreign⟩)
    · exact ⟨exc, .inl early, foreign⟩
    · exact ⟨exc, .inr ⟨a, first, late⟩, foreign⟩

theorem raises_map {α β : Type} {result : Except Stop α} {f : α → β} : Raises (result.map f) ↔ Raises result := by
  cases result with
  | ok a => exact iff_of_false (not_raises_ok _) (not_raises_ok _)
  | error stop => simp [Raises, Except.map]

theorem not_raises_scanUnits (opening s : PyStr) : ¬ Raises (scanUnits opening s) := by
  fun_induction scanUnits opening s with
  | case1 => exact not_raises_expecting _ _
  | case2 rest => exact not_raises_ok _
  | case3 => exact not_raises_expecting _ _
  | case4 a b c d e rest n isHex ih => exact raises_map.not.mpr ih
  | case5 => exact not_raises_expecting _ _
  | case6 => exact not_raises_expecting _ _
  | case7 c rest _ _ plain _ ih => exact raises_map.not.mpr ih
  | case8 => exact not_raises_expecting _ _
  | case9 => exact not_raises_expecting _ _
  | case10 c rest _ _ _ _ _ _ ih => exact raises_map.not.mpr ih

theorem not_raises_scanString (opening s : PyStr) : ¬ Raises (scanString opening s) :=
  raises_map.not.mpr (not_raises_scanUnits opening s)

theorem matchUnsigned_digits {s text rest : PyStr} (found : matchUnsigned s = some (text, rest)) : isDigits text = true := by
  unfold matchUnsigned at found
  split at found
  · obtain ⟨rfl, rfl⟩ := Prod.mk.inj (Option.some.inj found)
    decide
  · split_ifs at found with none
    obtain ⟨rfl, rfl⟩ := Prod.mk.inj (Option.some.inj found)
    simp only [isDigits, decide_eq_true_eq]
    exact ⟨none, List.all_takeWhile⟩

/-- An integer numeral is digits, perhaps after a minus sign. -/
theorem matchNumber_integer {s text rest : PyStr} (found : matchNumber s = some (text, false, rest)) :
    ∃ digits, isDigits digits = true ∧ (text = digits ∨ text = 45 :: digits) := by
  obtain ⟨⟨whole, others⟩, matched, same⟩ := Option.map_eq_some_iff.mp found
  simp only [Prod.mk.injEq, decide_eq_false_iff_not, not_or, not_not] at same
  obtain ⟨rfl, ⟨noFraction, noExponent⟩, rfl⟩ := same
  rw [noFraction, noExponent, List.append_nil, List.append_nil]
  unfold matchWhole at matched
  split at matched
  · obtain ⟨⟨digits, rest'⟩, unsigned, same⟩ := Option.map_eq_some_iff.mp matched
    exact ⟨digits, matchUnsigned_digits unsigned, .inr (Prod.mk.inj same).1.symm⟩
  · exact ⟨whole, matchUnsigned_digits matched, .inl rfl⟩

theorem filter_digits {digits : PyStr} (isNumber : isDigits digits = true) : digits.filter isDigit = digits := by
  simp only [isDigits, decide_eq_true_eq] at isNumber
  exact List.filter_eq_self.mpr (List.all_eq_true.mp isNumber.2)

/-- `int` refuses an integer numeral exactly when it has more than 4300 digits. -/
theorem pyInt_integer {s text rest : PyStr} (found : matchNumber s = some (text, false, rest)) :
    pyInt text = none ↔ 4300 < (text.filter isDigit).length := by
  obtain ⟨digits, isNumber, rfl | rfl⟩ := matchNumber_integer found
  · rw [pyInt_digits_eq isNumber, filter_digits isNumber]
    split_ifs with long
    · exact iff_of_true rfl long
    · exact iff_of_false (by simp) long
  · have sign : isDigit 45 = false := by decide
    rw [pyInt_minus_eq isNumber, List.filter_cons_of_neg (by simp [sign]), filter_digits isNumber]
    split_ifs with long
    · exact iff_of_true rfl long
    · exact iff_of_false (by simp) long

/-- The text begins with an integer of more than 4300 digits. -/
def LongInteger (s : PyStr) : Prop :=
  ∃ text rest, matchNumber s = some (text, false, rest) ∧ 4300 < (text.filter isDigit).length

theorem raises_scanNumber (s : PyStr) : Raises (scanNumber float s) ↔ LongInteger s := by
  unfold scanNumber LongInteger
  cases found : matchNumber s with
  | none => exact iff_of_false (not_raises_expecting _ _) (by simp)
  | some numeral =>
    obtain ⟨text, real, rest⟩ := numeral
    cases real with
    | true => exact iff_of_false (not_raises_ok _) (by simp)
    | false =>
      have refused := pyInt_integer found
      have long : (∃ text' rest', some (text, false, rest) = some (text', false, rest') ∧ 4300 < (text'.filter isDigit).length) ↔
          pyInt text = none := by
        rw [refused]
        constructor
        · rintro ⟨text', rest', same, long⟩
          cases same
          exact long
        · exact fun long => ⟨text, rest, rfl, long⟩
      rw [long]
      cases read : pyInt text with
      | none =>
        simp only [read]
        exact iff_of_true ⟨_, rfl, rfl, rfl⟩ trivial
      | some n =>
        simp only [read]
        exact iff_of_false (not_raises_ok _) (by simp)

theorem matchNumber_opening {s text rest : PyStr} {real : Bool} (found : matchNumber s = some (text, real, rest)) :
    ∃ d more, isDigit d = true ∧ (s = d :: more ∨ s = 45 :: d :: more) := by
  have unsigned : ∀ {s text rest : PyStr}, matchUnsigned s = some (text, rest) → ∃ d more, isDigit d = true ∧ s = d :: more := by
    intro s text rest found
    have isNumber := matchUnsigned_digits found
    obtain ⟨_, rfl⟩ := matchUnsigned_append found
    simp only [isDigits, decide_eq_true_eq] at isNumber
    cases text with
    | nil => exact absurd rfl isNumber.1
    | cons d more => exact ⟨d, more ++ rest, List.all_eq_true.mp isNumber.2 d List.mem_cons_self, rfl⟩
  obtain ⟨⟨whole, others⟩, matched, _⟩ := Option.map_eq_some_iff.mp found
  unfold matchWhole at matched
  split at matched
  · obtain ⟨⟨digits, rest'⟩, matched', _⟩ := Option.map_eq_some_iff.mp matched
    obtain ⟨d, more, digit, rfl⟩ := unsigned matched'
    exact ⟨d, more, digit, .inr rfl⟩
  · obtain ⟨d, more, digit, rfl⟩ := unsigned matched
    exact ⟨d, more, digit, .inl rfl⟩

/-- A text that opens no container raises exactly for a long integer. -/
theorem raises_scanLeaf {s : PyStr} : Raises (scanLeaf float s) ↔ LongInteger s := by
  have opens : LongInteger s → ∃ d more, isDigit d = true ∧ (s = d :: more ∨ s = 45 :: d :: more) := by
    rintro ⟨text, rest, found, _⟩
    exact matchNumber_opening found
  unfold scanLeaf
  split
  · refine iff_of_false (not_raises_expecting _ _) fun long => ?_
    obtain ⟨d, more, _, same | same⟩ := opens long
    · cases same
    · cases same
  · refine iff_of_false (raises_map.not.mpr (not_raises_scanString _ _)) fun long => ?_
    obtain ⟨d, more, digit, same | same⟩ := opens long
    · rw [← (List.cons.inj same).1] at digit
      cases digit
    · exact absurd (List.cons.inj same).1 (by decide)
  · by_cases number : ∃ d more, isDigit d = true ∧ (s = d :: more ∨ s = 45 :: d :: more)
    · rw [scanAtom_number number]
      exact raises_scanNumber s
    · refine iff_of_false ?_ fun long => number (opens long)
      unfold scanAtom
      split
      · exact not_raises_ok _
      · rw [raises_scanNumber]
        exact fun long => number (opens long)

/-! ### Items and members -/

/-- An array raises exactly when one of the items that it comes to does. -/
theorem raises_scanItems {value : Scan PyValue} (values : ∀ s, Progress s (value s)) (n : Nat) (s : PyStr)
    (enough : s.length < n) : Raises (scanItems value n s) ↔ ∃ t, ItemAt value s t ∧ Raises (value t) := by
  induction n generalizing s with
  | zero => omega
  | succ n ih =>
    have step : (∃ t, ItemAt value s t ∧ Raises (value t)) ↔ Raises (value s) ∨
        ∃ v rest more, value s = .ok (v, rest) ∧ skipBlank rest = 44 :: more ∧
          ∃ t, ItemAt value (skipBlank more) t ∧ Raises (value t) := by
      constructor
      · rintro ⟨t, reached, raises⟩
        cases reached with
        | here => exact .inl raises
        | later read comma others => exact .inr ⟨_, _, _, read, comma, t, others, raises⟩
      · rintro (raises | ⟨v, rest, more, read, comma, t, others, raises⟩)
        · exact ⟨s, .here s, raises⟩
        · exact ⟨t, .later read comma others, raises⟩
    rw [step, scanItems, raises_bind]
    refine or_congr_right ?_
    constructor
    · rintro ⟨⟨v, rest⟩, read, raises⟩
      have shorter : rest.length < s.length := by
        have progress := values s
        rw [read] at progress
        exact progress
      have blanks := length_skipBlank_le rest
      simp only at raises
      split at raises
      · exact absurd raises (not_raises_ok _)
      · rename_i more comma
        rw [comma, List.length_cons] at blanks
        have blanks' := length_skipBlank_le more
        rcases raises_bind.mp raises with others | ⟨found, _, after⟩
        · exact ⟨v, rest, more, read, comma, (ih (skipBlank more) (by omega)).mp others⟩
        · exact absurd after (not_raises_ok _)
      · exact absurd raises (not_raises_expecting _ _)
    · rintro ⟨v, rest, more, read, comma, others⟩
      have shorter : rest.length < s.length := by
        have progress := values s
        rw [read] at progress
        exact progress
      have blanks := length_skipBlank_le rest
      rw [comma, List.length_cons] at blanks
      have blanks' := length_skipBlank_le more
      refine ⟨(v, rest), read, ?_⟩
      simp only [comma]
      exact raises_bind.mpr (.inl ((ih (skipBlank more) (by omega)).mpr others))

theorem ValueAt.shorter {s t : PyStr} (reached : ValueAt s t) : t.length < s.length := by
  cases reached with
  | @named s rest more key name colon =>
    have progress := scanString_progress (34 :: s) s
    rw [name] at progress
    have blanks := length_skipBlank_le rest
    have blanks' := length_skipBlank_le more
    rw [colon, List.length_cons] at blanks
    have left : rest.length < s.length := progress
    rw [List.length_cons]
    omega

/-- What a scan of members does, by where its first value is. -/
theorem raises_scanMembers_succ {value : Scan PyValue} {n : Nat} {s : PyStr} : Raises (scanMembers value (n + 1) s) ↔
    ∃ u, ValueAt s u ∧ (Raises (value u) ∨ ∃ v rest more, value u = .ok (v, rest) ∧ skipBlank rest = 44 :: more ∧
      Raises (scanMembers value n (skipBlank more))) := by
  conv_lhs => unfold scanMembers
  split
  · rename_i rest0
    rw [raises_bind]
    simp only [not_raises_scanString, false_or]
    constructor
    · rintro ⟨⟨key, rest⟩, name, raises⟩
      simp only at raises
      split at raises
      · rename_i more colon
        refine ⟨_, .named name colon, ?_⟩
        rcases raises_bind.mp raises with first | ⟨⟨v, rest'⟩, read, raises'⟩
        · exact .inl first
        · simp only at raises'
          split at raises'
          · exact absurd raises' (not_raises_ok _)
          · rename_i more' comma
            rcases raises_bind.mp raises' with others | ⟨found, _, after⟩
            · exact .inr ⟨v, rest', more', read, comma, others⟩
            · exact absurd after (not_raises_ok _)
          · exact absurd raises' (not_raises_expecting _ _)
      · exact absurd raises (not_raises_expecting _ _)
    · rintro ⟨u, reached, raises⟩
      cases reached with
      | @named _ rest more key name colon =>
        refine ⟨(key, rest), name, ?_⟩
        simp only [colon]
        rw [raises_bind]
        refine raises.imp_right ?_
        rintro ⟨v, rest', more', read, comma, others⟩
        refine ⟨(v, rest'), read, ?_⟩
        simp only [comma]
        exact raises_bind.mpr (.inl others)
  · rename_i other
    refine iff_of_false (not_raises_expecting _ _) ?_
    rintro ⟨u, reached, _⟩
    cases reached with
    | named name colon => exact other _ rfl

/-- An object raises exactly when one of the values that it comes to does. -/
theorem raises_scanMembers {value : Scan PyValue} (values : ∀ s, Progress s (value s)) (n : Nat) (s : PyStr)
    (enough : s.length < n) : Raises (scanMembers value n s) ↔ ∃ t, MemberAt value s t ∧ Raises (value t) := by
  induction n generalizing s with
  | zero => omega
  | succ n ih =>
    have shorter : ∀ {u v rest more}, ValueAt s u → value u = .ok (v, rest) → skipBlank rest = 44 :: more →
        (skipBlank more).length < n := by
      intro u v rest more reached read comma
      have progress := values u
      rw [read] at progress
      have left : rest.length < u.length := progress
      have blanks := length_skipBlank_le rest
      have blanks' := length_skipBlank_le more
      rw [comma, List.length_cons] at blanks
      have below := reached.shorter
      omega
    rw [raises_scanMembers_succ]
    constructor
    · rintro ⟨u, reached, first | ⟨v, rest, more, read, comma, others⟩⟩
      · exact ⟨u, .here reached, first⟩
      · obtain ⟨t, later, raises⟩ := (ih _ (shorter reached read comma)).mp others
        exact ⟨t, .later reached read comma later, raises⟩
    · rintro ⟨t, member, raises⟩
      cases member with
      | here reached => exact ⟨t, reached, .inl raises⟩
      | later reached read comma others =>
        exact ⟨_, reached, .inr ⟨_, _, _, read, comma, (ih _ (shorter reached read comma)).mpr ⟨t, others, raises⟩⟩⟩

/-! ### Values -/

theorem matchNumber_ne {c : CodePoint} {s text rest : PyStr} {real : Bool} (notDigit : isDigit c = false) (notMinus : c ≠ 45) :
    matchNumber (c :: s) ≠ some (text, real, rest) := by
  intro found
  obtain ⟨d, more, digit, same | same⟩ := matchNumber_opening found
  · rw [← (List.cons.inj same).1, notDigit] at digit
    cases digit
  · exact notMinus (List.cons.inj same).1

/-- A text that opens no container overruns only with a long integer. -/
theorem overruns_leaf_iff {n : Nat} {s : PyStr} (noArray : ∀ rest, s ≠ 91 :: rest) (noObject : ∀ rest, s ≠ 123 :: rest) :
    Overruns float n s ↔ LongInteger s := by
  constructor
  · intro overruns
    cases overruns with
    | digits number long => exact ⟨_, _, number, long⟩
    | array => exact absurd rfl (noArray _)
    | object => exact absurd rfl (noObject _)
    | item some reached overruns => exact absurd rfl (noArray _)
    | member reached overruns => exact absurd rfl (noObject _)
  · rintro ⟨text, rest, number, long⟩
    exact .digits number long

theorem overruns_array_iff {n : Nat} {s : PyStr} : Overruns float (n + 1) (91 :: s) ↔
    (∀ rest, skipBlank s ≠ 93 :: rest) ∧ ∃ t, ItemAt (scanNested float n) (skipBlank s) t ∧ Overruns float n t := by
  constructor
  · intro overruns
    cases overruns with
    | digits number long => exact absurd number (matchNumber_ne (by decide) (by decide))
    | item some reached overruns => exact ⟨some, _, reached, overruns⟩
  · rintro ⟨some, t, reached, overruns⟩
    exact .item some reached overruns

theorem overruns_object_iff {n : Nat} {s : PyStr} : Overruns float (n + 1) (123 :: s) ↔
    ∃ t, MemberAt (scanNested float n) (skipBlank s) t ∧ Overruns float n t := by
  constructor
  · intro overruns
    cases overruns with
    | digits number long => exact absurd number (matchNumber_ne (by decide) (by decide))
    | member reached overruns => exact ⟨_, reached, overruns⟩
  · rintro ⟨t, reached, overruns⟩
    exact .member reached overruns

/-- The end of an object opens no member. -/
theorem not_memberAt_closing {value : Scan PyValue} {rest t : PyStr} : ¬ MemberAt value (125 :: rest) t := by
  have opening : ∀ {u}, ¬ ValueAt (125 :: rest) u := fun named => nomatch named
  intro reached
  cases reached with
  | here named => exact opening named
  | later named read comma others => exact opening named

/-- Reading a value raises exactly on the texts that overrun. -/
theorem raises_scanNested (n : Nat) (s : PyStr) : Raises (scanNested float n s) ↔ Overruns float n s := by
  induction n generalizing s with
  | zero =>
    unfold scanNested
    split
    · exact iff_of_true (raises_tooDeep _) .array
    · exact iff_of_true (raises_tooDeep _) .object
    · rename_i noArray noObject
      rw [raises_scanLeaf, overruns_leaf_iff noArray noObject]
  | succ n ih =>
    unfold scanNested
    split
    · rename_i rest0
      rw [overruns_array_iff]
      split
      · rename_i rest closing
        exact iff_of_false (not_raises_ok _) fun overruns => overruns.1 rest closing
      · rename_i some
        rw [raises_bind, or_iff_left fun ⟨found, _, after⟩ => not_raises_ok _ after,
          raises_scanItems (scanNested_progress n) _ _ (Nat.lt_succ_self _)]
        simp only [ih]
        exact (and_iff_right some).symm
    · rename_i rest0
      rw [overruns_object_iff]
      split
      · rename_i rest closing
        rw [closing]
        exact iff_of_false (not_raises_ok _) fun ⟨t, reached, _⟩ => not_memberAt_closing reached
      · rw [raises_bind, or_iff_left fun ⟨found, _, after⟩ => not_raises_ok _ after,
          raises_scanMembers (scanNested_progress n) _ _ (Nat.lt_succ_self _)]
        simp only [ih]
    · rename_i noArray noObject
      rw [raises_scanLeaf, overruns_leaf_iff noArray noObject]

/-- The reading of a document raises exactly if its value overruns. -/
theorem raises_scanNestedDocument (limit : Nat) (doc : PyStr) :
    Raises (scanNestedDocument float limit doc) ↔ Overruns float limit (skipBlank doc) := by
  rw [scanNestedDocument, raises_bind, raises_scanNested]
  refine or_iff_left ?_
  rintro ⟨found, _, after⟩
  simp only at after
  split at after
  · exact not_raises_ok _ after
  · exact not_raises_expecting _ _ after

theorem scanNestedDocument_not_exhausted (limit : Nat) (doc : PyStr) :
    scanNestedDocument float limit doc ≠ .error .exhausted := by
  intro stopped
  have progress : Progress (skipBlank doc) (scanNested float limit (skipBlank doc)) := scanNested_progress _ _
  rcases bind_eq_error.mp stopped with exhausted | ⟨found, _, more⟩
  · rw [exhausted] at progress
    exact progress
  · simp only at more
    split at more
    · cases more
    · cases more

/-! ### The reader without a bound -/

/-- The first result is the second, or a RecursionError. -/
def Bounded {α : Type} (bounded free : Except Stop α) : Prop :=
  bounded = free ∨ ∃ container, bounded = .error (.raised (tooDeep container))

theorem Bounded.bind {α β : Type} {a b : Except Stop α} {f g : α → Except Stop β} (first : Bounded a b)
    (more : ∀ x, b = .ok x → Bounded (f x) (g x)) : Bounded (a >>= f) (b >>= g) := by
  rcases first with rfl | ⟨container, rfl⟩
  · cases a with
    | error stop => exact .inl rfl
    | ok x => exact more x rfl
  · exact .inr ⟨container, rfl⟩

theorem scanItems_bounded {value free : Scan PyValue} {bound : Nat} (progress : ∀ s, s.length ≤ bound → Progress s (free s))
    (values : ∀ s, s.length ≤ bound → Bounded (value s) (free s)) (n : Nat) (s : PyStr) (within : s.length ≤ bound) :
    Bounded (scanItems value n s) (scanItems free n s) := by
  induction n generalizing s with
  | zero => exact .inl rfl
  | succ n ih =>
    refine (values s within).bind fun found read => ?_
    have shorter := progress s within
    rw [read] at shorter
    have blanks := length_skipBlank_le found.2
    have left : found.2.length < s.length := shorter
    simp only
    split
    · exact .inl rfl
    · rename_i more comma
      rw [comma, List.length_cons] at blanks
      have blanks' := length_skipBlank_le more
      exact (ih (skipBlank more) (by omega)).bind fun others _ => .inl rfl
    · exact .inl rfl

theorem scanMembers_bounded {value free : Scan PyValue} {bound : Nat} (progress : ∀ s, s.length ≤ bound → Progress s (free s))
    (values : ∀ s, s.length ≤ bound → Bounded (value s) (free s)) (n : Nat) (s : PyStr) (within : s.length ≤ bound) :
    Bounded (scanMembers value n s) (scanMembers free n s) := by
  induction n generalizing s with
  | zero => exact .inl rfl
  | succ n ih =>
    unfold scanMembers
    split
    · rename_i rest0
      rw [List.length_cons] at within
      refine Bounded.bind (.inl rfl) fun name named => ?_
      have nameShorter := scanString_progress (34 :: rest0) rest0
      rw [named] at nameShorter
      have left : name.2.length < rest0.length := nameShorter
      have blanks := length_skipBlank_le name.2
      simp only
      split
      · rename_i more colon
        rw [colon, List.length_cons] at blanks
        have blanks1 := length_skipBlank_le more
        refine (values (skipBlank more) (by omega)).bind fun found read => ?_
        have shorter := progress (skipBlank more) (by omega)
        rw [read] at shorter
        have left' : found.2.length < (skipBlank more).length := shorter
        have blanks2 := length_skipBlank_le found.2
        split
        · exact .inl rfl
        · rename_i others comma
          rw [comma, List.length_cons] at blanks2
          have blanks3 := length_skipBlank_le others
          exact (ih (skipBlank others) (by omega)).bind fun members _ => .inl rfl
        · exact .inl rfl
      · exact .inl rfl
    · exact .inl rfl

theorem scanLeaf_eq {n : Nat} {s : PyStr} (noArray : ∀ rest, s ≠ 91 :: rest) (noObject : ∀ rest, s ≠ 123 :: rest) :
    scanLeaf float s = scanOnce float (n + 1) s := by
  unfold scanLeaf scanOnce
  split
  · rfl
  · rename_i rest
    cases read : scanString (34 :: rest) rest with
    | error stop => simp [read, Except.map, bind, Except.bind]
    | ok found => simp [read, Except.map, bind, Except.bind]
  · rename_i noString other
    split
    · rfl
    · exact absurd rfl (other _)
    · exact absurd rfl (noArray _)
    · exact absurd rfl (noObject _)
    · rfl

theorem scanNested_bounded (n m : Nat) (s : PyStr) (enough : s.length < m) :
    Bounded (scanNested float n s) (scanOnce float m s) := by
  induction n generalizing m s with
  | zero =>
    unfold scanNested
    split
    · exact .inr ⟨_, rfl⟩
    · exact .inr ⟨_, rfl⟩
    · rename_i noArray noObject
      obtain ⟨m, rfl⟩ : ∃ k, m = k + 1 := ⟨m - 1, by omega⟩
      exact .inl (scanLeaf_eq noArray noObject)
  | succ n ih =>
    obtain ⟨m, rfl⟩ : ∃ k, m = k + 1 := ⟨m - 1, by omega⟩
    generalize free : scanOnce float (m + 1) s = result
    unfold scanNested
    split
    · rename_i rest0
      rw [List.length_cons] at enough
      have blanks := length_skipBlank_le rest0
      unfold scanOnce at free
      simp only at free
      split
      · rename_i rest closing
        rw [closing] at free
        exact .inl free
      · rename_i inside
        split at free
        · rename_i rest closing
          exact absurd closing (inside rest)
        · subst free
          refine Bounded.bind ?_ fun found _ => .inl rfl
          exact scanItems_bounded (fun s (short : s.length ≤ rest0.length) => scanOnce_progress m s (by omega))
            (fun s short => ih m s (by omega)) _ _ blanks
    · rename_i rest0
      rw [List.length_cons] at enough
      have blanks := length_skipBlank_le rest0
      unfold scanOnce at free
      simp only at free
      split
      · rename_i rest closing
        rw [closing] at free
        exact .inl free
      · rename_i inside
        split at free
        · rename_i rest closing
          exact absurd closing (inside rest)
        · subst free
          refine Bounded.bind ?_ fun found _ => .inl rfl
          exact scanMembers_bounded (fun s (short : s.length ≤ rest0.length) => scanOnce_progress m s (by omega))
            (fun s short => ih m s (by omega)) _ _ blanks
    · rename_i noArray noObject
      rw [← free]
      exact .inl (scanLeaf_eq noArray noObject)

/-- The bounded reader gives what the free one gives, unless it raises a RecursionError. -/
theorem nestedLoads_bounded (limit : Nat) (payload : Bytes) :
    nestedLoads float limit payload = loads float payload ∨
      ∃ container, nestedLoads float limit payload = .error (tooDeep container) := by
  unfold nestedLoads loads
  cases decode payload with
  | error exc => exact .inl rfl
  | ok doc =>
    have blanks := length_skipBlank_le doc
    have same : Bounded (scanNestedDocument float limit doc) (scanDocument float doc) :=
      (scanNested_bounded limit (doc.length + 1) (skipBlank doc) (by omega)).bind fun found _ => .inl rfl
    rcases same with same | ⟨container, deep⟩
    · left
      cases scanned : scanDocument float doc with
      | ok value => simp only [bind, Except.bind, same, scanned]
      | error stop => simp only [bind, Except.bind, same, scanned]
    · exact .inr ⟨container, by simp only [bind, Except.bind, deep]; rfl⟩

end
end OracleSchema.Nesting
