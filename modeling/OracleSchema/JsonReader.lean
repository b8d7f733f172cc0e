import OracleSchema.Decoding
import OracleSchema.Json

/-!
`json.loads` on bytes: the scanner of the standard library, with its errors and their
positions. Numbers with a fraction or an exponent are handed to `float`; the fuel of
the scanner is never used up (`loads_not_exhausted`).
-/
namespace OracleSchema.JsonReader
open OracleSchema.Casing OracleSchema.Strings OracleSchema.Errors OracleSchema.Json OracleSchema.Decoding

/-- Why reading stops: the text is not JSON, with what is left where that shows; a
    conversion raises; or the fuel is used up. -/
inductive Stop
  | decodeError (message : PyStr) (rest : PyStr)
  | raised (exc : PyExc)
  | exhausted

/-- The exception that stops the reading of a document. -/
def Stop.exc (doc : PyStr) : Stop → PyExc
  | .decodeError message rest =>
    let before := doc.take (doc.length - rest.length)
    let lineno := before.count 10 + 1
    let colno := (before.reverse.takeWhile (fun c => c ≠ 10)).length + 1
    .ofText .JSONDecodeError (message ++ lit ": line " ++ intText lineno ++ lit " column " ++ intText colno ++
      lit " (char " ++ intText before.length ++ lit ")")
  | .raised exc => exc
  | .exhausted => .ofText .RecursionError []

abbrev Scan (α : Type) := PyStr → Except Stop (α × PyStr)

def expecting {α : Type} (message : String) (rest : PyStr) : Except Stop α := .error (.decodeError (lit message) rest)

def isBlank (c : CodePoint) : Bool := c ∈ [32, 9, 10, 13]
def skipBlank (s : PyStr) : PyStr := s.dropWhile isBlank

/-! ### Strings -/

def hexValue (c : CodePoint) : Option Nat :=
  if 48 ≤ c.val ∧ c.val ≤ 57 then some (c.val - 48)
  else if 97 ≤ c.val ∧ c.val ≤ 102 then some (c.val - 87)
  else if 65 ≤ c.val ∧ c.val ≤ 70 then some (c.val - 55)
  else none

def hex4 (a b c d : CodePoint) : Option Nat := do
  let a ← hexValue a
  let b ← hexValue b
  let c ← hexValue c
  let d ← hexValue d
  pure (((a * 16 + b) * 16 + c) * 16 + d)

/-- The code point that a backslash and this character stand for. -/
def unescape (c : CodePoint) : Option CodePoint :=
  if c ∈ [34, 92, 47] then some c
  else if c = 98 then some 8
  else if c = 102 then some 12
  else if c = 110 then some 10
  else if c = 114 then some 13
  else if c = 116 then some 9
  else none

/-- A code point of a string before the next ones; it is marked if four hexadecimal
    digits stand for it. -/
def consUnit (unit : Bool × CodePoint) (more : Except Stop (List (Bool × CodePoint) × PyStr)) :
    Except Stop (List (Bool × CodePoint) × PyStr) :=
  more.map (fun found => (unit :: found.1, found.2))

/-- The code points of a string whose opening quote is the first one of `opening`. -/
def scanUnits (opening : PyStr) : Scan (List (Bool × CodePoint))
  | [] => expecting "Unterminated string starting at" opening
  | 34 :: rest => .ok ([], rest)
  | 92 :: 117 :: a :: b :: c :: d :: e :: rest =>
    match hex4 a b c d with
    | none => expecting "Invalid \\uXXXX escape" (117 :: a :: b :: c :: d :: e :: rest)
    | some n => consUnit (true, Fin.ofNat _ n) (scanUnits opening (e :: rest))
  | 92 :: 117 :: rest => expecting "Invalid \\uXXXX escape" (117 :: rest)
  | 92 :: c :: rest =>
    match unescape c with
    | none => expecting "Invalid \\escape" (92 :: c :: rest)
    | some plain => consUnit (false, plain) (scanUnits opening rest)
  | [92] => expecting "Unterminated string starting at" opening
  | c :: rest =>
    if c.val < 32 then expecting "Invalid control character at" (c :: rest)
    else consUnit (false, c) (scanUnits opening rest)

/-- An escaped high surrogate joins an escaped low one right after it. -/
def joinEscaped : List (Bool × CodePoint) → PyStr
  | [] => []
  | (true, high) :: (true, low) :: rest =>
    if (0xD800 ≤ high.val ∧ high.val < 0xDC00) ∧ (0xDC00 ≤ low.val ∧ low.val < 0xE000) then
      Fin.ofNat _ (0x10000 + (high.val - 0xD800) * 0x400 + (low.val - 0xDC00)) :: joinEscaped rest
    else high :: joinEscaped ((true, low) :: rest)
  | (_, c) :: rest => c :: joinEscaped rest

def scanString (opening : PyStr) : Scan PyStr := fun s =>
  (scanUnits opening s).map (fun found => (joinEscaped found.1, found.2))

/-! ### Numbers and constants -/

/-- The digits at the front and what follows them. -/
def digitRun (s : PyStr) : PyStr × PyStr := (s.takeWhile isDigit, s.dropWhile isDigit)

/-- `0|[1-9][0-9]*`. -/
def matchUnsigned (s : PyStr) : Option (PyStr × PyStr) :=
  match s with
  | 48 :: rest => some ([48], rest)
  | _ => if (digitRun s).1 = [] then none else some (digitRun s)

/-- `-?(0|[1-9][0-9]*)`. -/
def matchWhole (s : PyStr) : Option (PyStr × PyStr) :=
  match s with
  | 45 :: rest => (matchUnsigned rest).map (fun found => (45 :: found.1, found.2))
  | _ => matchUnsigned s

/-- `(\.[0-9]+)?`. -/
def matchFraction (s : PyStr) : PyStr × PyStr :=
  match s with
  | 46 :: rest => if (digitRun rest).1 = [] then ([], s) else (46 :: (digitRun rest).1, (digitRun rest).2)
  | _ => ([], s)

/-- `[-+]?`. -/
def signRun (s : PyStr) : PyStr × PyStr :=
  match s with
  | [] => ([], s)
  | c :: rest => if c = 43 ∨ c = 45 then ([c], rest) else ([], s)

/-- `([eE][-+]?[0-9]+)?`. -/
def matchExponent (s : PyStr) : PyStr × PyStr :=
  match s with
  | [] => ([], s)
  | e :: rest =>
    if (e = 101 ∨ e = 69) ∧ (digitRun (signRun rest).2).1 ≠ [] then
      (e :: (signRun rest).1 ++ (digitRun (signRun rest).2).1, (digitRun (signRun rest).2).2)
    else ([], s)

/-- A number: its text, whether it has a fraction or an exponent, and the rest. -/
def matchNumber (s : PyStr) : Option (PyStr × Bool × PyStr) :=
  (matchWhole s).map (fun whole =>
    let fraction := matchFraction whole.2
    let exponent := matchExponent fraction.2
    (whole.1 ++ fraction.1 ++ exponent.1, fraction.1 ≠ [] ∨ exponent.1 ≠ [], exponent.2))

/-- `NaN` and infinities are read, too. -/
def constants : List (PyStr × PyValue) :=
  [(lit "null", .none), (lit "true", .bool true), (lit "false", .bool false), (lit "NaN", .float .nan),
    (lit "Infinity", .float .inf), (lit "-Infinity", .float .negInf)]

section
variable (float : PyStr → PyFloat)

def scanNumber : Scan PyValue := fun s =>
  match matchNumber s with
  | none => expecting "Expecting value" s
  | some (text, true, rest) => .ok (.float (float text), rest)
  | some (text, false, rest) =>
    match pyInt text with
    | some n => .ok (.int n, rest)
    | none =>
      .error (.raised (.ofText .ValueError (lit "Exceeds the limit (4300 digits) for integer string conversion")))

def scanAtom : Scan PyValue := fun s =>
  match constants.find? (fun constant => constant.1 <+: s) with
  | some (word, value) => .ok (value, s.drop word.length)
  | none => scanNumber float s

/-! ### Arrays and objects -/

/-- The items of an array, read with a scanner of values, up to its end. -/
def scanItems (value : Scan PyValue) : Nat → Scan (List PyValue)
  | 0, _ => .error .exhausted
  | n + 1, s => do
    let (first, rest) ← value s
    match skipBlank rest with
    | 93 :: rest => .ok ([first], rest)
    | 44 :: rest => do
      let (others, rest) ← scanItems value n (skipBlank rest)
      .ok (first :: others, rest)
    | rest => expecting "Expecting ',' delimiter" rest

/-- The members of an object, up to its end. -/
def scanMembers (value : Scan PyValue) : Nat → Scan (List (PyStr × PyValue))
  | 0, _ => .error .exhausted
  | n + 1, s =>
    match s with
    | 34 :: rest => do
      let (key, rest) ← scanString s rest
      match skipBlank rest with
      | 58 :: rest => do
        let (first, rest) ← value (skipBlank rest)
        match skipBlank rest with
        | 125 :: rest => .ok ([(key, first)], rest)
        | 44 :: rest => do
          let (others, rest) ← scanMembers value n (skipBlank rest)
          .ok ((key, first) :: others, rest)
        | rest => expecting "Expecting ',' delimiter" rest
      | rest => expecting "Expecting ':' delimiter" rest
    | _ => expecting "Expecting property name enclosed in double quotes" s

/-- `dict[key] = value`. -/
def setItem (items : List (PyStr × PyValue)) (key : PyStr) (value : PyValue) : List (PyStr × PyValue) :=
  match items with
  | [] => [(key, value)]
  | (k, old) :: rest => if k = key then (k, value) :: rest else (k, old) :: setItem rest key value

/-- The dictionary of an object; a later member of a name replaces an earlier one. -/
def dictOf (members : List (PyStr × PyValue)) : PyValue :=
  .dict ((members.foldl (fun items m => setItem items m.1 m.2) []).map (fun item => (.str item.1, item.2)))

/-- `scan_once`; the fuel bounds the nesting. -/
def scanOnce : Nat → Scan PyValue
  | 0, _ => .error .exhausted
  | n + 1, s =>
    match s with
    | [] => expecting "Expecting value" s
    | 34 :: rest => do
      let (text, rest) ← scanString s rest
      .ok (.str text, rest)
    | 91 :: rest =>
      match skipBlank rest with
      | 93 :: rest => .ok (.list [], rest)
      | rest => do
        let (items, rest) ← scanItems (scanOnce n) (rest.length + 1) rest
        .ok (.list items, rest)
    | 123 :: rest =>
      match skipBlank rest with
      | 125 :: rest => .ok (.dict [], rest)
      | rest => do
        let (members, rest) ← scanMembers (scanOnce n) (rest.length + 1) rest
        .ok (dictOf members, rest)
    | _ => scanAtom float s

/-- What stops the reading of a document, or the value that it is. -/
def scanDocument (doc : PyStr) : Except Stop PyValue := do
  let (value, rest) ← scanOnce float (doc.length + 1) (skipBlank doc)
  match skipBlank rest with
  | [] => .ok value
  | rest => expecting "Extra data" rest

/-- `json.loads`. -/
def loads (payload : Bytes) : Except PyExc PyValue := do
  let doc ← decode payload
  match scanDocument float doc with
  | .ok value => .ok value
  | .error stop => .error (stop.exc doc)
end

/-! ### Constants -/

/-- The constants begin with letters, one of them after a minus sign. -/
theorem constants_opening : ∀ constant ∈ constants, ∃ a b rest, constant.1 = a :: b :: rest ∧ isDigit a = false ∧
    isDigit b = false := by
  simp only [constants, List.forall_mem_cons, List.not_mem_nil, false_implies, implies_true, and_true]
  exact ⟨⟨_, _, _, rfl, rfl, rfl⟩, ⟨_, _, _, rfl, rfl, rfl⟩, ⟨_, _, _, rfl, rfl, rfl⟩, ⟨_, _, _, rfl, rfl, rfl⟩,
    ⟨_, _, _, rfl, rfl, rfl⟩, ⟨_, _, _, rfl, rfl, rfl⟩⟩

/-- No number is taken for a constant. -/
theorem scanAtom_number {float : PyStr → PyFloat} {s : PyStr}
    (opening : ∃ d more, isDigit d = true ∧ (s = d :: more ∨ s = 45 :: d :: more)) : scanAtom float s = scanNumber float s := by
  obtain ⟨d, more, digit, shape⟩ := opening
  have none : constants.find? (fun constant => constant.1 <+: s) = .none := by
    refine List.find?_eq_none.mpr fun constant member => ?_
    obtain ⟨a, b, word, isWord, notDigitA, notDigitB⟩ := constants_opening constant member
    simp only [decide_eq_true_eq, isWord]
    rcases shape with rfl | rfl
    · intro isPrefix
      rw [(List.cons_prefix_cons.mp isPrefix).1, digit] at notDigitA
      cases notDigitA
    · intro isPrefix
      rw [(List.cons_prefix_cons.mp (List.cons_prefix_cons.mp isPrefix).2).1, digit] at notDigitB
      cases notDigitB
  rw [scanAtom, none]

/-! ### Fuel -/

/-- Reading leaves less than it was given, and stops for a reason other than fuel. -/
def Progress {α : Type} (s : PyStr) : Except Stop (α × PyStr) → Prop
  | .ok (_, rest) => rest.length < s.length
  | .error .exhausted => False
  | .error _ => True

namespace Progress
variable {α β : Type} {s : PyStr}

theorem map {result : Except Stop (α × PyStr)} {f : α → β} (first : Progress s result) :
    Progress s (result.map (fun found => (f found.1, found.2))) := by
  cases result with
  | error stop => cases stop <;> exact first
  | ok found => exact first

theorem bind {result : Except Stop (α × PyStr)} {f : α × PyStr → Except Stop (β × PyStr)} (first : Progress s result)
    (more : ∀ a rest, rest.length < s.length → Progress s (f (a, rest))) : Progress s (result >>= f) := by
  cases result with
  | error stop => cases stop <;> exact first
  | ok found => exact more found.1 found.2 first

/-- Progress on a later part of the text is progress on the text. -/
theorem mono {s' : PyStr} {result : Except Stop (α × PyStr)} (later : Progress s' result) (shorter : s'.length ≤ s.length) :
    Progress s result := by
  cases result with
  | error stop => cases stop <;> exact later
  | ok found => exact Nat.lt_of_lt_of_le later shorter

end Progress

theorem length_skipBlank_le (s : PyStr) : (skipBlank s).length ≤ s.length := List.length_dropWhile_le isBlank s

theorem scanUnits_progress (opening s : PyStr) : Progress s (scanUnits opening s) := by
  fun_induction scanUnits opening s with
  | case1 => trivial
  | case2 rest => simp [Progress]
  | case3 => trivial
  | case4 a b c d e rest n isHex ih => exact ih.map.mono (by simp)
  | case5 => trivial
  | case6 => trivial
  | case7 c rest _ _ plain _ ih => exact ih.map.mono (by simp; omega)
  | case8 => trivial
  | case9 => trivial
  | case10 c rest _ _ _ _ _ _ ih => exact ih.map.mono (by simp)

theorem scanString_progress (opening s : PyStr) : Progress s (scanString opening s) := (scanUnits_progress opening s).map

theorem digitRun_append (s : PyStr) : (digitRun s).1 ++ (digitRun s).2 = s := List.takeWhile_append_dropWhile

theorem matchUnsigned_append {s text rest : PyStr} (found : matchUnsigned s = some (text, rest)) :
    text ≠ [] ∧ text ++ rest = s := by
  unfold matchUnsigned at found
  split at found
  · obtain ⟨rfl, rfl⟩ := Prod.mk.inj (Option.some.inj found)
    exact ⟨List.cons_ne_nil _ _, rfl⟩
  · split_ifs at found with none
    obtain ⟨rfl, rfl⟩ := Prod.mk.inj (Option.some.inj found)
    exact ⟨none, digitRun_append s⟩

theorem matchWhole_append {s text rest : PyStr} (found : matchWhole s = some (text, rest)) : text ≠ [] ∧ text ++ rest = s := by
  unfold matchWhole at found
  split at found
  · obtain ⟨⟨text', rest'⟩, unsigned, same⟩ := Option.map_eq_some_iff.mp found
    obtain ⟨rfl, rfl⟩ := Prod.mk.inj same
    rw [← (matchUnsigned_append unsigned).2]
    exact ⟨List.cons_ne_nil _ _, rfl⟩
  · exact matchUnsigned_append found

theorem matchFraction_append (s : PyStr) : (matchFraction s).1 ++ (matchFraction s).2 = s := by
  unfold matchFraction
  split
  · split_ifs
    · rfl
    · rw [List.cons_append, digitRun_append]
  · rfl

theorem signRun_append (s : PyStr) : (signRun s).1 ++ (signRun s).2 = s := by
  unfold signRun
  split
  · rfl
  · split_ifs
    · rfl
    · rfl

theorem matchExponent_append (s : PyStr) : (matchExponent s).1 ++ (matchExponent s).2 = s := by
  unfold matchExponent
  split
  · rfl
  · split_ifs
    · rw [List.append_assoc, digitRun_append, List.cons_append, signRun_append]
    · rfl

/-- A number is a part at the front of what is read. -/
theorem matchNumber_append {s text rest : PyStr} {real : Bool} (found : matchNumber s = some (text, real, rest)) :
    text ≠ [] ∧ text ++ rest = s := by
  obtain ⟨⟨whole, others⟩, matched, same⟩ := Option.map_eq_some_iff.mp found
  obtain ⟨some, split⟩ := matchWhole_append matched
  simp only [Prod.mk.injEq] at same
  obtain ⟨rfl, _, rfl⟩ := same
  refine ⟨by simp [some], ?_⟩
  rw [List.append_assoc, matchExponent_append, List.append_assoc, matchFraction_append, split]

section
variable {float : PyStr → PyFloat}

theorem scanNumber_progress (s : PyStr) : Progress s (scanNumber float s) := by
  have shorter : ∀ {text rest : PyStr} {real : Bool}, matchNumber s = some (text, real, rest) → rest.length < s.length := by
    intro text rest real found
    obtain ⟨some, split⟩ := matchNumber_append found
    have positive := List.length_pos_iff.mpr some
    rw [← split, List.length_append]
    omega
  unfold scanNumber
  split
  · trivial
  · rename_i text rest found
    exact shorter found
  · rename_i text rest found
    split
    · exact shorter found
    · trivial

theorem scanAtom_progress (s : PyStr) : Progress s (scanAtom float s) := by
  unfold scanAtom
  split
  · rename_i word value found
    have given : ∀ constant ∈ constants, constant.1 ≠ [] := by decide
    have some := given _ (List.mem_of_find?_eq_some found)
    have isPrefix : word <+: s := by simpa using List.find?_some found
    have positive : 0 < word.length := List.length_pos_iff.mpr some
    have fits := isPrefix.length_le
    simp only [Progress, List.length_drop]
    omega
  · exact scanNumber_progress s

theorem scanItems_progress {value : Scan PyValue} {bound : Nat} (values : ∀ s, s.length ≤ bound → Progress s (value s))
    (n : Nat) (s : PyStr) (enough : s.length < n) (within : s.length ≤ bound) : Progress s (scanItems value n s) := by
  induction n generalizing s with
  | zero => omega
  | succ n ih =>
    refine Progress.bind (values s within) fun first rest shorter => ?_
    have blanks := length_skipBlank_le rest
    simp only
    split
    · rename_i rest' found
      rw [found, List.length_cons] at blanks
      show rest'.length < s.length
      omega
    · rename_i rest' found
      rw [found, List.length_cons] at blanks
      have blanks' := length_skipBlank_le rest'
      have others := ih (skipBlank rest') (by omega) (by omega)
      refine (Progress.bind others fun items last shorter' => ?_).mono (by omega)
      exact shorter'
    · trivial

theorem scanMembers_progress {value : Scan PyValue} {bound : Nat} (values : ∀ s, s.length ≤ bound → Progress s (value s))
    (n : Nat) (s : PyStr) (enough : s.length < n) (within : s.length ≤ bound) : Progress s (scanMembers value n s) := by
  induction n generalizing s with
  | zero => omega
  | succ n ih =>
    unfold scanMembers
    split
    · rename_i rest0
      rw [List.length_cons] at enough within
      refine (Progress.bind (scanString_progress _ rest0) fun key rest shorter => ?_).mono (by simp)
      have blanks := length_skipBlank_le rest
      simp only
      split
      · rename_i rest1 found
        rw [found, List.length_cons] at blanks
        have blanks1 := length_skipBlank_le rest1
        refine (Progress.bind (values (skipBlank rest1) (by omega)) fun first rest2 shorter2 => ?_).mono (by omega)
        have blanks2 := length_skipBlank_le rest2
        simp only
        split
        · rename_i rest3 found3
          rw [found3, List.length_cons] at blanks2
          show rest3.length < (skipBlank rest1).length
          omega
        · rename_i rest3 found3
          rw [found3, List.length_cons] at blanks2
          have blanks3 := length_skipBlank_le rest3
          have others := ih (skipBlank rest3) (by omega) (by omega)
          refine (Progress.bind others fun members last shorter' => ?_).mono (by omega)
          exact shorter'
        · trivial
      · trivial
    · trivial

theorem scanOnce_progress (n : Nat) (s : PyStr) (enough : s.length < n) : Progress s (scanOnce float n s) := by
  induction n generalizing s with
  | zero => omega
  | succ n ih =>
    unfold scanOnce
    split
    · trivial
    · refine (Progress.bind (scanString_progress _ _) fun text rest shorter => ?_).mono (by simp)
      exact shorter
    · rename_i rest0
      rw [List.length_cons] at enough
      have blanks := length_skipBlank_le rest0
      split
      · rename_i rest found
        rw [found, List.length_cons] at blanks
        show rest.length < rest0.length + 1
        omega
      · have items := scanItems_progress (fun s (short : s.length ≤ rest0.length) => ih s (by omega))
          ((skipBlank rest0).length + 1) (skipBlank rest0) (Nat.lt_succ_self _) blanks
        refine (Progress.bind items fun items rest shorter => ?_).mono (by simp; omega)
        exact shorter
    · rename_i rest0
      rw [List.length_cons] at enough
      have blanks := length_skipBlank_le rest0
      split
      · rename_i rest found
        rw [found, List.length_cons] at blanks
        show rest.length < rest0.length + 1
        omega
      · have members := scanMembers_progress (fun s (short : s.length ≤ rest0.length) => ih s (by omega))
          ((skipBlank rest0).length + 1) (skipBlank rest0) (Nat.lt_succ_self _) blanks
        refine (Progress.bind members fun members rest shorter => ?_).mono (by simp; omega)
        exact shorter
    · exact scanAtom_progress s

/-- The reading of a document never stops for want of fuel. -/
theorem loads_not_exhausted (doc : PyStr) : scanDocument float doc ≠ .error .exhausted := by
  intro stopped
  have blanks := length_skipBlank_le doc
  have progress : Progress (skipBlank doc) (scanOnce float (doc.length + 1) (skipBlank doc)) :=
    scanOnce_progress _ _ (by omega)
  rcases bind_eq_error.mp stopped with exhausted | ⟨found, _, more⟩
  · rw [exhausted] at progress
    exact progress
  · simp only at more
    split at more
    · cases more
    · cases more
end

end OracleSchema.JsonReader
