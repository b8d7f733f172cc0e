import OracleSchema.JsonReader
import OracleSchema.Numerals

/-!
What the scanners of `json.loads` make of written JSON: an escaped string is read up
to its closing quote, a numeral up to what closes it (`matchNumber_numeral`), and
arrays and objects from what their parts are read as. What is written is printable ASCII
outside the strings.
-/
namespace OracleSchema.Reading
open OracleSchema.Casing OracleSchema.Strings OracleSchema.Errors OracleSchema.Joined OracleSchema.Json
open OracleSchema.JsonReader OracleSchema.Numerals

/-! ### Strings -/

/-- Written with four hexadecimal digits. -/
def isSpelled (c : CodePoint) : Bool := c.val < 32 ∧ c ∉ [8, 9, 10, 12, 13]

theorem hexValue_hexDigit : ∀ n < 16, hexValue (hexDigit n) = some n := by decide

theorem hex4_control {c : CodePoint} (control : c.val < 32) :
    hex4 48 48 (hexDigit (c.val / 16)) (hexDigit (c.val % 16)) = some c.val := by
  have high := hexValue_hexDigit (c.val / 16) (by omega)
  have low := hexValue_hexDigit (c.val % 16) (by omega)
  have zero : hexValue 48 = some 0 := rfl
  have number : (0 * 16 + 0) * 16 + c.val / 16 = c.val / 16 := by omega
  simp only [hex4, high, low, zero, Option.bind_eq_bind, Option.bind_some, Option.pure_def, number, Option.some.injEq]
  omega

/-- A character is read from its escaped form. -/
theorem scanUnits_escapeChar (opening : PyStr) (c d : CodePoint) (rest : PyStr) :
    scanUnits opening (escapeChar c ++ d :: rest) = consUnit (isSpelled c, c) (scanUnits opening (d :: rest)) := by
  unfold escapeChar
  split_ifs with quote backslash newline carriage tab feed back control
  · subst quote; rfl
  · subst backslash; rfl
  · subst newline; rfl
  · subst carriage; rfl
  · subst tab; rfl
  · subst feed; rfl
  · subst back; rfl
  · have spelled : isSpelled c = true := by simp [isSpelled, control, newline, carriage, tab, feed, back]
    simp only [List.cons_append, List.nil_append, scanUnits, hex4_control control, spelled, Fin.ofNat_val_eq_self]
  · have plain : isSpelled c = false := by simp [isSpelled, control]
    rw [List.singleton_append, scanUnits.eq_def]
    split
    · rename_i same; cases same
    · rename_i same; exact absurd (List.cons.inj same).1 quote
    · rename_i same; exact absurd (List.cons.inj same).1 backslash
    · rename_i same; exact absurd (List.cons.inj same).1 backslash
    · rename_i same; exact absurd (List.cons.inj same).1 backslash
    · rename_i same; exact absurd (List.cons.inj same).1 backslash
    · rename_i same
      obtain ⟨rfl, rfl⟩ := List.cons.inj same
      rw [if_neg control, plain]

theorem scanUnits_escaped (opening s rest : PyStr) :
    scanUnits opening (s.flatMap escapeChar ++ 34 :: rest) = .ok (s.map (fun c => (isSpelled c, c)), rest) := by
  induction s with
  | nil => rfl
  | cons c s ih =>
    rw [List.flatMap_cons, List.append_assoc]
    cases more : s.flatMap escapeChar ++ 34 :: rest with
    | nil => simp at more
    | cons d others =>
      rw [scanUnits_escapeChar, ← more, ih]
      rfl

/-- Nothing is joined where no surrogate is spelled. -/
theorem joinEscaped_map (s : PyStr) : joinEscaped (s.map (fun c => (isSpelled c, c))) = s := by
  induction s with
  | nil => rfl
  | cons c s ih =>
    rw [List.map_cons, joinEscaped.eq_def]
    split
    · rename_i same; cases same
    · rename_i high low rest same
      obtain ⟨first, others⟩ := List.cons.inj same
      obtain ⟨spelled, rfl⟩ := Prod.mk.inj first
      have small : c.val < 32 := by
        simp only [isSpelled, decide_eq_true_eq] at spelled
        exact spelled.1
      rw [if_neg (by omega), ← others, ih]
    · rename_i same
      obtain ⟨first, rfl⟩ := List.cons.inj same
      obtain ⟨_, rfl⟩ := Prod.mk.inj first
      rw [ih]

theorem scanString_quote (opening s rest : PyStr) : scanString opening (s.flatMap escapeChar ++ 34 :: rest) = .ok (s, rest) := by
  rw [scanString, scanUnits_escaped]
  show Except.ok (joinEscaped _, rest) = _
  rw [joinEscaped_map]

/-! ### Numbers -/

/-- What may follow a value: nothing, a comma or a closing bracket. -/
def Closed (rest : PyStr) : Prop := ∀ c, rest.head? = some c → c = 44 ∨ c = 93 ∨ c = 125

/-- The text of a number, cut as its pattern reads it. -/
structure Numeral where
  sign : PyStr
  whole : PyStr
  fraction : PyStr
  exponent : PyStr
  isSign : sign = [] ∨ sign = [45]
  wholeShape : isWhole whole = true
  fractionShape : fraction = [] ∨ ∃ digits, isDigits digits = true ∧ fraction = 46 :: digits
  exponentShape : exponent = [] ∨ ∃ mark digits, (mark = 43 ∨ mark = 45) ∧ isDigits digits = true ∧
    exponent = 101 :: mark :: digits

def Numeral.text (n : Numeral) : PyStr := n.sign ++ n.whole ++ n.fraction ++ n.exponent

theorem isDigits_iff {s : PyStr} : isDigits s = true ↔ s ≠ [] ∧ ∀ c ∈ s, isDigit c = true := by
  simp [isDigits]

theorem isWhole_cons {s : PyStr} (whole : isWhole s = true) :
    ∃ c digits, s = c :: digits ∧ isDigit c = true ∧ (∀ d ∈ digits, isDigit d = true) ∧ (c = 48 → digits = []) := by
  simp only [isWhole, decide_eq_true_eq] at whole
  obtain ⟨nonempty, all⟩ := isDigits_iff.mp whole.1
  cases s with
  | nil => exact absurd rfl nonempty
  | cons c digits =>
    rw [List.forall_mem_cons] at all
    refine ⟨c, digits, rfl, all.1, all.2, fun zero => ?_⟩
    rcases whole.2 with one | notZero
    · simpa using one
    · exact absurd (congrArg some zero) notZero

theorem digitRun_append_of {digits rest : PyStr} (all : ∀ c ∈ digits, isDigit c = true)
    (next : ∀ c, rest.head? = some c → isDigit c = false) : digitRun (digits ++ rest) = (digits, rest) := by
  have stop : rest.takeWhile isDigit = [] ∧ rest.dropWhile isDigit = rest := by
    cases rest with
    | nil => exact ⟨rfl, rfl⟩
    | cons c rest => simp [next c rfl]
  rw [digitRun, List.takeWhile_append_of_pos all, List.dropWhile_append_of_pos all, stop.1, stop.2, List.append_nil]

theorem matchUnsigned_whole {whole rest : PyStr} (shape : isWhole whole = true)
    (next : ∀ c, rest.head? = some c → isDigit c = false) : matchUnsigned (whole ++ rest) = some (whole, rest) := by
  obtain ⟨c, digits, rfl, digit, all, zero⟩ := isWhole_cons shape
  have run := digitRun_append_of (List.forall_mem_cons.mpr ⟨digit, all⟩) next
  unfold matchUnsigned
  split
  · rename_i others same
    obtain ⟨rfl, tail⟩ := List.cons.inj same
    rw [zero rfl] at tail ⊢
    rw [← tail]
    rfl
  · rw [run]
    exact if_neg (List.cons_ne_nil _ _)

theorem matchWhole_signed {sign whole rest : PyStr} (isSign : sign = [] ∨ sign = [45]) (shape : isWhole whole = true)
    (next : ∀ c, rest.head? = some c → isDigit c = false) :
    matchWhole (sign ++ whole ++ rest) = some (sign ++ whole, rest) := by
  have unsigned := matchUnsigned_whole shape next
  rcases isSign with rfl | rfl
  · obtain ⟨c, digits, rfl, digit, _, _⟩ := isWhole_cons shape
    unfold matchWhole
    split
    · rename_i others same
      obtain ⟨rfl, _⟩ := List.cons.inj same
      cases digit
    · exact unsigned
  · show (matchUnsigned (whole ++ rest)).map (fun found => (45 :: found.1, found.2)) = _
    rw [unsigned]
    rfl

/-- What neither continues a fraction nor begins one. -/
theorem matchFraction_shape {fraction rest : PyStr}
    (shape : fraction = [] ∨ ∃ digits, isDigits digits = true ∧ fraction = 46 :: digits)
    (next : ∀ c, rest.head? = some c → isDigit c = false ∧ c ≠ 46) : matchFraction (fraction ++ rest) = (fraction, rest) := by
  rcases shape with rfl | ⟨digits, isNumber, rfl⟩
  · unfold matchFraction
    split
    · rename_i others same
      exact absurd rfl (next 46 (congrArg List.head? same)).2
    · rfl
  · obtain ⟨nonempty, all⟩ := isDigits_iff.mp isNumber
    have run := digitRun_append_of all fun c first => (next c first).1
    simp only [List.cons_append, matchFraction, run, if_neg nonempty]

theorem matchExponent_shape {exponent rest : PyStr}
    (shape : exponent = [] ∨ ∃ mark digits, (mark = 43 ∨ mark = 45) ∧ isDigits digits = true ∧ exponent = 101 :: mark :: digits)
    (closed : Closed rest) : matchExponent (exponent ++ rest) = (exponent, rest) := by
  have next : ∀ c, rest.head? = some c → isDigit c = false ∧ c ≠ 101 ∧ c ≠ 69 := by
    intro c first
    rcases closed c first with rfl | rfl | rfl
    · decide
    · decide
    · decide
  rcases shape with rfl | ⟨mark, digits, isMark, isNumber, rfl⟩
  · cases rest with
    | nil => rfl
    | cons c rest =>
      have other : ¬ (c = 101 ∨ c = 69) := not_or.mpr (next c rfl).2
      exact if_neg fun both => other both.1
  · obtain ⟨nonempty, all⟩ := isDigits_iff.mp isNumber
    have run := digitRun_append_of all fun c first => (next c first).1
    have signed : signRun (mark :: (digits ++ rest)) = ([mark], digits ++ rest) := if_pos isMark
    simp only [List.cons_append, matchExponent, signed, run, true_or, true_and, ne_eq, nonempty, not_false_eq_true, if_true,
      List.nil_append]

/-- A numeral is read up to its end. -/
theorem matchNumber_numeral (n : Numeral) {rest : PyStr} (closed : Closed rest) :
    matchNumber (n.text ++ rest) = some (n.text, decide (n.fraction ≠ [] ∨ n.exponent ≠ []), rest) := by
  have afterWhole : ∀ c, (n.fraction ++ (n.exponent ++ rest)).head? = some c → isDigit c = false := by
    intro c first
    rcases n.fractionShape with none | ⟨digits, _, fraction⟩
    · rcases n.exponentShape with none' | ⟨mark, digits, _, _, exponent⟩
      · rw [none, none'] at first
        rcases closed c first with rfl | rfl | rfl
        · rfl
        · rfl
        · rfl
      · rw [none, exponent] at first
        obtain rfl := Option.some.inj first
        rfl
    · rw [fraction] at first
      obtain rfl := Option.some.inj first
      rfl
  have afterFraction : ∀ c, (n.exponent ++ rest).head? = some c → isDigit c = false ∧ c ≠ 46 := by
    intro c first
    rcases n.exponentShape with none | ⟨mark, digits, _, _, exponent⟩
    · rw [none] at first
      rcases closed c first with rfl | rfl | rfl
      · decide
      · decide
      · decide
    · rw [exponent] at first
      obtain rfl := Option.some.inj first
      decide
  have whole := matchWhole_signed n.isSign n.wholeShape afterWhole
  have split : n.text ++ rest = n.sign ++ n.whole ++ (n.fraction ++ (n.exponent ++ rest)) := by
    simp [Numeral.text]
  rw [split, matchNumber, whole]
  simp only [Option.map_some, matchFraction_shape n.fractionShape afterFraction, matchExponent_shape n.exponentShape closed,
    Numeral.text]

def intNumeral (n : Int) : Numeral where
  sign := if n < 0 then [45] else []
  whole := natText n.natAbs
  fraction := []
  exponent := []
  isSign := by split_ifs <;> simp
  wholeShape := isWhole_natText n.natAbs
  fractionShape := .inl rfl
  exponentShape := .inl rfl

theorem text_intNumeral (n : Int) : (intNumeral n).text = intText n := by
  simp only [Numeral.text, intNumeral, List.append_nil, intText_eq]
  split_ifs <;> rfl

theorem eq_of_splitOn_one {s part : PyStr} {sep : CodePoint} (split : s.splitOn sep = [part]) : s = part := by
  have whole : [sep].intercalate (s.splitOn sep) = s := List.intercalate_splitOn sep
  rw [← whole, split]
  simp

theorem eq_of_splitOn_two {s first second : PyStr} {sep : CodePoint} (split : s.splitOn sep = [first, second]) :
    s = first ++ sep :: second := by
  have whole : [sep].intercalate (s.splitOn sep) = s := List.intercalate_splitOn sep
  rw [← whole, split]
  simp

/-- Digits, and a fraction perhaps. -/
def mantissa (m : PyStr) : Bool :=
  match m.splitOn 46 with
  | [whole] => isWhole whole
  | [whole, fraction] => isWhole whole ∧ isDigits fraction
  | _ => false

theorem mantissa_parts {m : PyStr} (shape : mantissa m = true) :
    ∃ whole fraction, isWhole whole = true ∧ (fraction = [] ∨ ∃ digits, isDigits digits = true ∧ fraction = 46 :: digits) ∧
      m = whole ++ fraction := by
  unfold mantissa at shape
  split at shape
  · rename_i whole split
    exact ⟨whole, [], shape, .inl rfl, by rw [eq_of_splitOn_one split, List.append_nil]⟩
  · rename_i whole digits split
    simp only [decide_eq_true_eq] at shape
    exact ⟨whole, 46 :: digits, shape.1, .inr ⟨digits, shape.2, rfl⟩, eq_of_splitOn_two split⟩
  · cases shape

theorem isFloatRepr_eq (s : PyStr) : isFloatRepr s =
    match (if s.head? = some 45 then s.tail else s).splitOn 101 with
    | [m] => decide (mantissa m ∧ 46 ∈ m)
    | [m, 43 :: exponent] => decide (mantissa m ∧ isDigits exponent)
    | [m, 45 :: exponent] => decide (mantissa m ∧ isDigits exponent)
    | _ => false := rfl

/-- The text of a float is a numeral with a fraction or an exponent. -/
theorem float_numeral {repr : PyStr} (shape : isFloatRepr repr = true) :
    ∃ n : Numeral, n.text = repr ∧ (n.fraction ≠ [] ∨ n.exponent ≠ []) := by
  have signed : ∃ sign body, (sign = [] ∨ sign = [45]) ∧ repr = sign ++ body ∧
      (if repr.head? = some 45 then repr.tail else repr) = body := by
    cases repr with
    | nil => exact ⟨[], [], .inl rfl, rfl, rfl⟩
    | cons c rest =>
      by_cases minus : c = 45
      · subst minus
        exact ⟨[45], rest, .inr rfl, rfl, rfl⟩
      · exact ⟨[], c :: rest, .inl rfl, rfl, if_neg fun same => minus (Option.some.inj same)⟩
  obtain ⟨sign, body, isSign, rfl, isBody⟩ := signed
  rw [isFloatRepr_eq, isBody] at shape
  have exponential : ∀ m mark digits, (mark = 43 ∨ mark = 45) → body.splitOn 101 = [m, mark :: digits] → mantissa m = true →
      isDigits digits = true → ∃ n : Numeral, n.text = sign ++ body ∧ (n.fraction ≠ [] ∨ n.exponent ≠ []) := by
    intro m mark digits isMark split isMantissa isNumber
    obtain ⟨whole, fraction, wholeShape, fractionShape, rfl⟩ := mantissa_parts isMantissa
    refine ⟨⟨sign, whole, fraction, 101 :: mark :: digits, isSign, wholeShape, fractionShape,
      .inr ⟨mark, digits, isMark, isNumber, rfl⟩⟩, ?_, .inr (List.cons_ne_nil _ _)⟩
    rw [eq_of_splitOn_two split]
    simp [Numeral.text]
  split at shape
  · rename_i m split
    simp only [decide_eq_true_eq] at shape
    obtain ⟨whole, fraction, wholeShape, fractionShape, rfl⟩ := mantissa_parts shape.1
    refine ⟨⟨sign, whole, fraction, [], isSign, wholeShape, fractionShape, .inl rfl⟩, ?_, .inl ?_⟩
    · rw [eq_of_splitOn_one split]
      simp [Numeral.text]
    · rintro rfl
      obtain ⟨c, digits, rfl, digit, all, _⟩ := isWhole_cons wholeShape
      rw [List.append_nil] at shape
      have allDigits : ∀ d ∈ c :: digits, isDigit d = true := List.forall_mem_cons.mpr ⟨digit, all⟩
      exact absurd (allDigits 46 shape.2) (by decide)
  · rename_i m digits split
    simp only [decide_eq_true_eq] at shape
    exact exponential m 43 digits (.inl rfl) split shape.1 shape.2
  · rename_i m digits split
    simp only [decide_eq_true_eq] at shape
    exact exponential m 45 digits (.inr rfl) split shape.1 shape.2
  · cases shape

/-- A numeral begins with a digit, or with a minus sign and a digit. -/
theorem Numeral.opening (n : Numeral) : ∃ d rest, isDigit d = true ∧ (n.text = d :: rest ∨ n.text = 45 :: d :: rest) := by
  obtain ⟨d, digits, whole, digit, _, _⟩ := isWhole_cons n.wholeShape
  rcases n.isSign with none | minus
  · exact ⟨d, digits ++ n.fraction ++ n.exponent, digit, .inl (by simp [Numeral.text, none, whole])⟩
  · exact ⟨d, digits ++ n.fraction ++ n.exponent, digit, .inr (by simp [Numeral.text, minus, whole])⟩

section
variable {float : PyStr → PyFloat}

theorem scanAtom_numeral (n : Numeral) (rest : PyStr) : scanAtom float (n.text ++ rest) = scanNumber float (n.text ++ rest) := by
  obtain ⟨d, others, digit, here | here⟩ := n.opening
  · exact scanAtom_number ⟨d, others ++ rest, digit, .inl (by rw [here]; rfl)⟩
  · exact scanAtom_number ⟨d, others ++ rest, digit, .inr (by rw [here]; rfl)⟩

theorem scanOnce_numeral (n : Numeral) (fuel : Nat) (rest : PyStr) :
    scanOnce float (fuel + 1) (n.text ++ rest) = scanNumber float (n.text ++ rest) := by
  rw [← scanAtom_numeral]
  obtain ⟨d, others, digit, opening⟩ := n.opening
  have first : ∃ c more, n.text ++ rest = c :: more ∧ c ≠ 34 ∧ c ≠ 91 ∧ c ≠ 123 := by
    rcases opening with here | here
    · refine ⟨d, others ++ rest, by simp [here], ?_, ?_, ?_⟩
      · rintro rfl; cases digit
      · rintro rfl; cases digit
      · rintro rfl; cases digit
    · exact ⟨45, d :: others ++ rest, by simp [here], by decide, by decide, by decide⟩
  obtain ⟨c, more, split, notQuote, notBracket, notBrace⟩ := first
  rw [split]
  unfold scanOnce
  split
  · rename_i same; cases same
  · rename_i same; exact absurd (List.cons.inj same).1 notQuote
  · rename_i same; exact absurd (List.cons.inj same).1 notBracket
  · rename_i same; exact absurd (List.cons.inj same).1 notBrace
  · rfl

theorem scanOnce_int {n : Int} {text : PyStr} (written : intRepr n = .ok text) (fuel : Nat) {rest : PyStr} (closed : Closed rest) :
    scanOnce float (fuel + 1) (text ++ rest) = .ok (.int n, rest) := by
  unfold intRepr at written
  split_ifs at written with long
  obtain rfl := Except.ok.inj written
  have number := matchNumber_numeral (intNumeral n) closed
  rw [← text_intNumeral, scanOnce_numeral, scanNumber, number, text_intNumeral]
  simp [intNumeral, pyInt_intText (not_lt.mp long)]

theorem scanOnce_float {repr : PyStr} (shape : isFloatRepr repr = true) (readBack : float repr = .finite repr shape) (fuel : Nat)
    {rest : PyStr} (closed : Closed rest) :
    scanOnce float (fuel + 1) (repr ++ rest) = .ok (.float (.finite repr shape), rest) := by
  obtain ⟨n, isText, real⟩ := float_numeral shape
  have number := matchNumber_numeral n closed
  have scanned : scanOnce float (fuel + 1) (n.text ++ rest) = _ := scanOnce_numeral n fuel rest
  rw [scanNumber, number, decide_eq_true real, isText] at scanned
  rw [scanned, ← readBack]
end

/-! ### Characters -/

/-- Neither a control character nor beyond ASCII. -/
def isPrintable (c : CodePoint) : Bool := 32 ≤ c.val ∧ c.val < 0x80

theorem isPrintable_iff {c : CodePoint} : isPrintable c = true ↔ 32 ≤ c.val ∧ c.val < 0x80 := by
  simp [isPrintable]

theorem isPrintable_hexDigit : ∀ n < 16, isPrintable (hexDigit n) = true := by decide

theorem escapeChar_char {c d : CodePoint} (member : d ∈ escapeChar c) : isPrintable d = true ∨ 32 ≤ d.val ∧ d = c := by
  have short : ∀ {s : PyStr}, s.all isPrintable = true → d ∈ s → isPrintable d = true ∨ 32 ≤ d.val ∧ d = c := by
    intro s all inside
    exact .inl (List.all_eq_true.mp all d inside)
  unfold escapeChar at member
  split_ifs at member with quote backslash newline carriage tab feed back control
  · exact short rfl member
  · exact short rfl member
  · exact short rfl member
  · exact short rfl member
  · exact short rfl member
  · exact short rfl member
  · exact short rfl member
  · have high := isPrintable_hexDigit (c.val / 16) (by omega)
    have low := isPrintable_hexDigit (c.val % 16) (by omega)
    have start : isPrintable 92 = true ∧ isPrintable 117 = true ∧ isPrintable 48 = true := by decide
    exact short (by simp [high, low, start]) member
  · rw [List.mem_singleton.mp member]
    exact .inr ⟨not_lt.mp control, rfl⟩

theorem quote_char {s : PyStr} {c : CodePoint} (member : c ∈ quote s) : isPrintable c = true ∨ 32 ≤ c.val ∧ c ∈ s := by
  simp only [quote, List.mem_append, List.mem_singleton, List.mem_flatMap] at member
  rcases member with (rfl | ⟨d, inside, escaped⟩) | rfl
  · exact .inl rfl
  · rcases escapeChar_char escaped with printable | ⟨high, rfl⟩
    · exact .inl printable
    · exact .inr ⟨high, inside⟩
  · exact .inl rfl

theorem Numeral.printable (n : Numeral) {c : CodePoint} (member : c ∈ n.text) : isPrintable c = true := by
  have digit : ∀ {c : CodePoint}, isDigit c = true → isPrintable c = true := by
    intro c isDigit
    obtain ⟨above, below⟩ := isDigit_iff.mp isDigit
    exact isPrintable_iff.mpr ⟨by omega, by omega⟩
  simp only [Numeral.text, List.mem_append] at member
  rcases member with ((inSign | inWhole) | inFraction) | inExponent
  · rcases n.isSign with none | minus
    · rw [none] at inSign; cases inSign
    · rw [minus] at inSign; rw [List.mem_singleton.mp inSign]; rfl
  · obtain ⟨first, digits, whole, isFirst, all, _⟩ := isWhole_cons n.wholeShape
    rw [whole] at inWhole
    rcases List.mem_cons.mp inWhole with rfl | later
    · exact digit isFirst
    · exact digit (all c later)
  · rcases n.fractionShape with none | ⟨digits, isNumber, fraction⟩
    · rw [none] at inFraction; cases inFraction
    · rw [fraction] at inFraction
      rcases List.mem_cons.mp inFraction with rfl | later
      · rfl
      · exact digit ((isDigits_iff.mp isNumber).2 c later)
  · rcases n.exponentShape with none | ⟨mark, digits, isMark, isNumber, exponent⟩
    · rw [none] at inExponent; cases inExponent
    · rw [exponent] at inExponent
      rcases List.mem_cons.mp inExponent with rfl | later
      · rfl
      · rcases List.mem_cons.mp later with rfl | inDigits
        · rcases isMark with rfl | rfl
          · rfl
          · rfl
        · exact digit ((isDigits_iff.mp isNumber).2 c inDigits)

/-! ### Arrays and objects -/

/-- The scanner reads this text as the value, whatever may follow a value after it. -/
def Reads (scan : Scan PyValue) (v : PyValue) (text : PyStr) : Prop :=
  (∃ c more, text = c :: more ∧ isBlank c = false ∧ c ≠ 93) ∧ ∀ rest, Closed rest → scan (text ++ rest) = .ok (v, rest)

/-- The scanner reads the value of this member. -/
def ReadsMember (scan : Scan PyValue) (m : PyStr × PyValue) (text : PyStr) : Prop :=
  ∃ value, Reads scan m.2 value ∧ text = quote m.1 ++ [58] ++ value

theorem skipBlank_cons {c : CodePoint} (solid : isBlank c = false) (rest : PyStr) : skipBlank (c :: rest) = c :: rest := by
  simp [skipBlank, solid]

theorem closed_cons {c : CodePoint} (closing : c = 44 ∨ c = 93 ∨ c = 125) (rest : PyStr) : Closed (c :: rest) := by
  intro d first
  obtain rfl := Option.some.inj first
  exact closing

theorem length_part_le {sep : CodePoint} {parts : List PyStr} {part : PyStr} (member : part ∈ parts) :
    part.length ≤ (join sep parts).length := (infix_join sep member).length_le

theorem skipBlank_join {c : CodePoint} {part more : PyStr} (parts : List PyStr) (isPart : part = c :: more)
    (solid : isBlank c = false) (rest : PyStr) :
    skipBlank (join 44 (part :: parts) ++ rest) = join 44 (part :: parts) ++ rest := by
  obtain ⟨back, joined⟩ := join_opening 44 part parts
  rw [joined, isPart]
  exact skipBlank_cons solid _

theorem scanItems_join {scan : Scan PyValue} {items : List PyValue} {texts : List PyStr}
    (all : List.Forall₂ (Reads scan) items texts) (nonempty : items ≠ []) (n : Nat) (enough : items.length ≤ n) (rest : PyStr) :
    scanItems scan n (join 44 texts ++ 93 :: rest) = .ok (items, rest) := by
  induction all generalizing n with
  | nil => exact absurd rfl nonempty
  | @cons v text items texts first others ih =>
    obtain ⟨n, rfl⟩ : ∃ m, n = m + 1 := ⟨n - 1, by simp at enough; omega⟩
    cases others with
    | nil =>
      rw [join_singleton, scanItems, first.2 _ (closed_cons (.inr (.inl rfl)) rest)]
      rfl
    | @cons w text' items texts second others =>
      obtain ⟨c, more, isText, solid, _⟩ := second.1
      have next := ih (List.cons_ne_nil _ _) n (by simpa using enough)
      have blanks := skipBlank_join texts isText solid (93 :: rest)
      rw [join_cons (List.cons_ne_nil _ _), List.append_assoc, scanItems, List.cons_append,
        first.2 _ (closed_cons (.inl rfl) _)]
      show (scanItems scan n (skipBlank (join 44 (text' :: texts) ++ 93 :: rest)) >>= _) = _
      rw [blanks, next]
      rfl

/-- One member up to what follows it. -/
theorem scanMembers_member {scan : Scan PyValue} {m : PyStr × PyValue} {text : PyStr} (k : Nat) {after : PyStr}
    (member : ReadsMember scan m text) (closed : Closed after) :
    scanMembers scan (k + 1) (text ++ after) = (match skipBlank after with
      | 125 :: rest => .ok ([m], rest)
      | 44 :: rest => do
        let (others, rest) ← scanMembers scan k (skipBlank rest)
        .ok (m :: others, rest)
      | rest => expecting "Expecting ',' delimiter" rest) := by
  obtain ⟨key, v⟩ := m
  obtain ⟨value, ⟨⟨c, more, isValue, solid, _⟩, read⟩, rfl⟩ := member
  have split : quote key ++ [58] ++ value ++ after = 34 :: (key.flatMap escapeChar ++ 34 :: (58 :: (value ++ after))) := by
    simp [quote]
  have blanks : skipBlank (value ++ after) = value ++ after := by
    rw [isValue]
    exact skipBlank_cons solid _
  rw [split, scanMembers, scanString_quote]
  show (scan (skipBlank (value ++ after)) >>= _) = _
  rw [blanks, read after closed]
  rfl

theorem scanMembers_join {scan : Scan PyValue} {members : List (PyStr × PyValue)} {texts : List PyStr}
    (all : List.Forall₂ (ReadsMember scan) members texts) (nonempty : members ≠ []) (n : Nat) (enough : members.length ≤ n)
    (rest : PyStr) : scanMembers scan n (join 44 texts ++ 125 :: rest) = .ok (members, rest) := by
  induction all generalizing n with
  | nil => exact absurd rfl nonempty
  | @cons m text members texts first others ih =>
    obtain ⟨n, rfl⟩ : ∃ m, n = m + 1 := ⟨n - 1, by simp at enough; omega⟩
    cases others with
    | nil =>
      rw [join_singleton, scanMembers_member n first (closed_cons (.inr (.inr rfl)) rest)]
      rfl
    | @cons m' text' members texts second others =>
      obtain ⟨value, _, isText⟩ := second
      have next := ih (List.cons_ne_nil _ _) n (by simpa using enough)
      have blanks := skipBlank_join (c := 34) texts isText rfl (125 :: rest)
      rw [join_cons (List.cons_ne_nil _ _), List.append_assoc, List.cons_append,
        scanMembers_member n first (closed_cons (.inl rfl) _)]
      show (scanMembers scan n (skipBlank (join 44 (text' :: texts) ++ 125 :: rest)) >>= _) = _
      rw [blanks, next]
      rfl

theorem scanOnce_list {float : PyStr → PyFloat} {fuel : Nat} {items : List PyValue} {texts : List PyStr}
    (each : List.Forall₂ (Reads (scanOnce float fuel)) items texts) (rest : PyStr) :
    scanOnce float (fuel + 1) ([91] ++ join 44 texts ++ [93] ++ rest) = .ok (.list items, rest) := by
  have split : [91] ++ join 44 texts ++ [93] ++ rest = 91 :: (join 44 texts ++ 93 :: rest) := by simp
  rw [split]
  cases each with
  | nil => rfl
  | @cons v text items texts first others =>
    obtain ⟨c, more, isText, solid, notEnd⟩ := first.1
    have enough : (v :: items).length ≤ (join 44 (text :: texts) ++ 93 :: rest).length + 1 := by
      have short := length_le_join 44 (text :: texts)
      have same := others.length_eq
      simp only [List.length_append, List.length_cons] at short ⊢
      omega
    have read := scanItems_join (.cons first others) (List.cons_ne_nil _ _) _ enough rest
    have blanks := skipBlank_join texts isText solid (93 :: rest)
    obtain ⟨back, joined⟩ := join_opening 44 text texts
    unfold scanOnce
    simp only
    split
    · rename_i rest' same
      rw [blanks, joined, isText] at same
      exact absurd (List.cons.inj same).1 notEnd
    · rw [blanks, read]
      rfl

/-! ### Dictionaries -/

theorem setItem_new {items : List (PyStr × PyValue)} {key : PyStr} (new : key ∉ items.map Prod.fst) (value : PyValue) :
    setItem items key value = items ++ [(key, value)] := by
  induction items with
  | nil => rfl
  | cons first rest ih =>
    rw [List.map_cons, List.mem_cons, not_or] at new
    rw [setItem, if_neg (Ne.symm new.1), ih new.2]
    rfl

/-- Members with different names all stay. -/
theorem dictOf_nodup {members : List (PyStr × PyValue)} (distinct : (members.map Prod.fst).Nodup) :
    dictOf members = .dict (members.map (fun m => (.str m.1, m.2))) := by
  have kept : ∀ items : List (PyStr × PyValue), ((items ++ members).map Prod.fst).Nodup →
      members.foldl (fun items m => setItem items m.1 m.2) items = items ++ members := by
    clear distinct
    induction members with
    | nil => simp
    | cons first rest ih =>
      intro items distinct
      have new : first.1 ∉ items.map Prod.fst := by
        intro old
        rw [List.map_append, List.map_cons] at distinct
        exact (List.nodup_append.mp distinct).2.2 _ old _ List.mem_cons_self rfl
      rw [List.foldl_cons, setItem_new new, ih _ (by simpa using distinct), List.append_assoc]
      rfl
  rw [dictOf, kept [] (by simpa using distinct)]
  rfl

theorem scanOnce_dict {float : PyStr → PyFloat} {fuel : Nat} {members : List (PyStr × PyValue)} {texts : List PyStr}
    (each : List.Forall₂ (ReadsMember (scanOnce float fuel)) members texts) (distinct : (members.map Prod.fst).Nodup)
    (rest : PyStr) : scanOnce float (fuel + 1) ([123] ++ join 44 texts ++ [125] ++ rest) =
      .ok (.dict (members.map (fun m => (.str m.1, m.2))), rest) := by
  have split : [123] ++ join 44 texts ++ [125] ++ rest = 123 :: (join 44 texts ++ 125 :: rest) := by simp
  rw [split]
  cases each with
  | nil => rfl
  | @cons m text members texts first others =>
    obtain ⟨value, _, isText⟩ := first
    have enough : (m :: members).length ≤ (join 44 (text :: texts) ++ 125 :: rest).length + 1 := by
      have short := length_le_join 44 (text :: texts)
      have same := others.length_eq
      simp only [List.length_append, List.length_cons] at short ⊢
      omega
    have read := scanMembers_join (.cons ⟨value, ‹_›, isText⟩ others) (List.cons_ne_nil _ _) _ enough rest
    have blanks := skipBlank_join (c := 34) texts isText rfl (125 :: rest)
    obtain ⟨back, joined⟩ := join_opening 44 text texts
    unfold scanOnce
    simp only
    split
    · rename_i rest' same
      rw [blanks, joined, isText] at same
      exact absurd (List.cons.inj same).1 (by decide)
    · rw [blanks, read, ← dictOf_nodup distinct]
      rfl

end OracleSchema.Reading
