import OracleSchema.Errors

/-!
`bytes.decode` with the handler "surrogatepass", and the encoding that `json.loads`
detects. What `str.encode` writes in UTF-8 is read back (`decodeUtf8_utf8`), and a
text that begins with ASCII and holds no NUL is detected as UTF-8. Without the handler,
decoding is the inverse of encoding (`decodeStrict_eq_some`).
-/
namespace OracleSchema.Decoding
open OracleSchema.Casing OracleSchema.Strings OracleSchema.Errors

def isTail (b : UInt8) : Bool := 0x80 ≤ b.toNat ∧ b.toNat < 0xC0

/-- The code point with this number, if there is one, before the others. -/
def consCode (n : Nat) (rest : Option PyStr) : Option PyStr :=
  if bound : n < 0x110000 then rest.map (fun s => ⟨n, bound⟩ :: s) else none

/-- UTF-8, in which surrogates may be encoded but nothing may be overlong. -/
def decodeUtf8 : Bytes → Option PyStr
  | [] => some []
  | a :: rest =>
    if a.toNat < 0x80 then consCode a.toNat (decodeUtf8 rest)
    else if a.toNat < 0xC2 then none
    else if a.toNat < 0xE0 then
      match rest with
      | b :: rest => if isTail b then consCode ((a.toNat - 0xC0) * 0x40 + (b.toNat - 0x80)) (decodeUtf8 rest) else none
      | _ => none
    else if a.toNat < 0xF0 then
      match rest with
      | b :: c :: rest =>
        let n := (a.toNat - 0xE0) * 0x1000 + (b.toNat - 0x80) * 0x40 + (c.toNat - 0x80)
        if isTail b ∧ isTail c ∧ 0x800 ≤ n then consCode n (decodeUtf8 rest) else none
      | _ => none
    else
      match rest with
      | b :: c :: d :: rest =>
        let n := (a.toNat - 0xF0) * 0x40000 + (b.toNat - 0x80) * 0x1000 + (c.toNat - 0x80) * 0x40 + (d.toNat - 0x80)
        if isTail b ∧ isTail c ∧ isTail d ∧ 0x10000 ≤ n then consCode n (decodeUtf8 rest) else none
      | _ => none

/-- The numbers that groups of two bytes stand for. -/
def pairs (little : Bool) : Bytes → Option (List Nat)
  | [] => some []
  | a :: b :: rest =>
    (pairs little rest).map (fun units => (if little then b.toNat * 0x100 + a.toNat else a.toNat * 0x100 + b.toNat) :: units)
  | [_] => none

/-- UTF-16 units; a high surrogate joins a low one after it, and others stay. -/
def joinSurrogates : List Nat → Option PyStr
  | [] => some []
  | high :: low :: rest =>
    if 0xD800 ≤ high ∧ high < 0xDC00 ∧ 0xDC00 ≤ low ∧ low < 0xE000 then
      consCode (0x10000 + (high - 0xD800) * 0x400 + (low - 0xDC00)) (joinSurrogates rest)
    else consCode high (joinSurrogates (low :: rest))
  | [unit] => consCode unit (some [])

def decodeUtf16 (little : Bool) (b : Bytes) : Option PyStr := (pairs little b).bind joinSurrogates

def decodeUtf32 (little : Bool) : Bytes → Option PyStr
  | [] => some []
  | a :: b :: c :: d :: rest =>
    let n := if little then ((d.toNat * 0x100 + c.toNat) * 0x100 + b.toNat) * 0x100 + a.toNat
      else ((a.toNat * 0x100 + b.toNat) * 0x100 + c.toNat) * 0x100 + d.toNat
    consCode n (decodeUtf32 little rest)
  | _ => none

inductive Encoding
  | utf_8 | utf_8_sig | utf_16 | utf_16_le | utf_16_be | utf_32 | utf_32_le | utf_32_be
  deriving DecidableEq

/-- `json.detect_encoding`: byte order marks, then the zero bytes among the first four. -/
def detectEncoding (b : Bytes) : Encoding :=
  if [0, 0, 0xFE, 0xFF] <+: b ∨ [0xFF, 0xFE, 0, 0] <+: b then .utf_32
  else if [0xFE, 0xFF] <+: b ∨ [0xFF, 0xFE] <+: b then .utf_16
  else if [0xEF, 0xBB, 0xBF] <+: b then .utf_8_sig
  else
    match b with
    | b0 :: b1 :: b2 :: b3 :: _ =>
      if b0 = 0 then (if b1 ≠ 0 then .utf_16_be else .utf_32_be)
      else if b1 = 0 then (if b2 ≠ 0 ∨ b3 ≠ 0 then .utf_16_le else .utf_32_le)
      else .utf_8
    | [b0, b1] =>
      if b0 = 0 then .utf_16_be
      else if b1 = 0 then .utf_16_le
      else .utf_8
    | _ => .utf_8

/-- `s.decode(encoding, "surrogatepass")`; a byte order mark that the encoding expects
    is not part of the text. -/
def decodeAs (encoding : Encoding) (b : Bytes) : Option PyStr :=
  match encoding with
  | .utf_8 => decodeUtf8 b
  | .utf_8_sig => decodeUtf8 (b.drop 3)
  | .utf_16 => decodeUtf16 ([0xFF, 0xFE] <+: b) (b.drop 2)
  | .utf_16_le => decodeUtf16 true b
  | .utf_16_be => decodeUtf16 false b
  | .utf_32 => decodeUtf32 ([0xFF, 0xFE] <+: b) (b.drop 4)
  | .utf_32_le => decodeUtf32 true b
  | .utf_32_be => decodeUtf32 false b

def decode (b : Bytes) : Except PyExc PyStr :=
  match decodeAs (detectEncoding b) b with
  | some s => .ok s
  | none => .error (.ofText .UnicodeDecodeError (lit "invalid data"))

/-- `bytes.decode("utf-8")`, `none` where it raises: without a handler, surrogates may not
    be encoded either. -/
def decodeStrict (b : Bytes) : Option PyStr := (decodeUtf8 b).filter (fun s => s.all (fun c => !isSurrogate c))

/-! ### UTF-8 -/

theorem consCode_val (c : CodePoint) (rest : PyStr) : consCode c.val (some rest) = some (c :: rest) := by
  simp [consCode, c.isLt]

theorem toNat_toUInt8 {n : Nat} (small : n < 0x100) : n.toUInt8.toNat = n := by
  simp
  omega

theorem isTail_toUInt8 {n : Nat} (small : n < 0x40) : isTail (0x80 + n).toUInt8 = true := by
  rw [isTail, toNat_toUInt8 (by omega)]
  simp
  omega

/-- Decoding reads back the bytes of one code point. -/
theorem decodeUtf8_char {c : CodePoint} {bytes : Bytes} (encoded : utf8Char c = some bytes) (rest : Bytes) :
    decodeUtf8 (bytes ++ rest) = consCode c.val (decodeUtf8 rest) := by
  have bound := c.isLt
  have tail : ∀ n, isTail (0x80 + n % 0x40).toUInt8 = true := fun n => isTail_toUInt8 (Nat.mod_lt _ (by decide))
  have low : ∀ n, (0x80 + n % 0x40).toUInt8.toNat = 0x80 + n % 0x40 := fun n => toNat_toUInt8 (by omega)
  unfold utf8Char at encoded
  simp only at encoded
  split_ifs at encoded with one two surrogate three
  · obtain rfl := Option.some.inj encoded
    have first : c.val.toUInt8.toNat = c.val := toNat_toUInt8 (by omega)
    rw [List.singleton_append, decodeUtf8.eq_def]
    simp only [first, if_pos one]
  · obtain rfl := Option.some.inj encoded
    have first : (0xC0 + c.val / 0x40).toUInt8.toNat = 0xC0 + c.val / 0x40 := toNat_toUInt8 (by omega)
    have number : (0xC0 + c.val / 0x40 - 0xC0) * 0x40 + (0x80 + c.val % 0x40 - 0x80) = c.val := by omega
    simp only [List.cons_append, List.nil_append]
    rw [decodeUtf8.eq_def]
    simp only [first, tail, low, number, if_true, if_neg (show ¬ 0xC0 + c.val / 0x40 < 0x80 by omega),
      if_neg (show ¬ 0xC0 + c.val / 0x40 < 0xC2 by omega), if_pos (show 0xC0 + c.val / 0x40 < 0xE0 by omega)]
  · obtain rfl := Option.some.inj encoded
    have first : (0xE0 + c.val / 0x1000).toUInt8.toNat = 0xE0 + c.val / 0x1000 := toNat_toUInt8 (by omega)
    have number : (0xE0 + c.val / 0x1000 - 0xE0) * 0x1000 + (0x80 + c.val / 0x40 % 0x40 - 0x80) * 0x40 +
        (0x80 + c.val % 0x40 - 0x80) = c.val := by omega
    simp only [List.cons_append, List.nil_append]
    rw [decodeUtf8.eq_def]
    simp only [first, tail, low, number, if_neg (show ¬ 0xE0 + c.val / 0x1000 < 0x80 by omega),
      if_neg (show ¬ 0xE0 + c.val / 0x1000 < 0xC2 by omega), if_neg (show ¬ 0xE0 + c.val / 0x1000 < 0xE0 by omega),
      if_pos (show 0xE0 + c.val / 0x1000 < 0xF0 by omega), true_and, if_pos (show 0x800 ≤ c.val by omega)]
  · obtain rfl := Option.some.inj encoded
    have first : (0xF0 + c.val / 0x40000).toUInt8.toNat = 0xF0 + c.val / 0x40000 := toNat_toUInt8 (by omega)
    have number : (0xF0 + c.val / 0x40000 - 0xF0) * 0x40000 + (0x80 + c.val / 0x1000 % 0x40 - 0x80) * 0x1000 +
        (0x80 + c.val / 0x40 % 0x40 - 0x80) * 0x40 + (0x80 + c.val % 0x40 - 0x80) = c.val := by omega
    simp only [List.cons_append, List.nil_append]
    rw [decodeUtf8.eq_def]
    simp only [first, tail, low, number, if_neg (show ¬ 0xF0 + c.val / 0x40000 < 0x80 by omega),
      if_neg (show ¬ 0xF0 + c.val / 0x40000 < 0xC2 by omega), if_neg (show ¬ 0xF0 + c.val / 0x40000 < 0xE0 by omega),
      if_neg (show ¬ 0xF0 + c.val / 0x40000 < 0xF0 by omega), true_and, if_pos (show 0x10000 ≤ c.val by omega)]

theorem utf8_cons {c : CodePoint} {s : PyStr} {bytes : Bytes} :
    utf8 (c :: s) = some bytes ↔ ∃ front back, utf8Char c = some front ∧ utf8 s = some back ∧ front ++ back = bytes := by
  simp only [utf8, List.mapM_cons]
  cases utf8Char c with
  | none => simp
  | some front => cases s.mapM utf8Char <;> simp

/-- Decoding reads back what a string is encoded to. -/
theorem decodeUtf8_utf8 {s : PyStr} {bytes : Bytes} (encoded : utf8 s = some bytes) : decodeUtf8 bytes = some s := by
  induction s generalizing bytes with
  | nil =>
    obtain rfl : [] = bytes := Option.some.inj encoded
    rfl
  | cons c s ih =>
    obtain ⟨front, back, first, others, rfl⟩ := utf8_cons.mp encoded
    rw [decodeUtf8_char first, ih others, consCode_val]

theorem utf8Char_eq_none {c : CodePoint} : utf8Char c = none ↔ isSurrogate c = true := by
  unfold utf8Char
  simp only
  split_ifs with one two surrogate three
  · simp [isSurrogate]
    omega
  · simp [isSurrogate]
    omega
  · simp [surrogate]
  · simp [surrogate]
  · simp [surrogate]

/-- The strings without an encoding are those that hold a surrogate. -/
theorem utf8_eq_none {s : PyStr} : utf8 s = none ↔ ∃ c ∈ s, isSurrogate c = true := by
  induction s with
  | nil => simp [utf8]
  | cons c s ih =>
    have split : utf8 (c :: s) = none ↔ utf8Char c = none ∨ utf8 s = none := by
      simp only [utf8, List.mapM_cons]
      cases utf8Char c with
      | none => simp
      | some front => cases s.mapM utf8Char <;> simp
    simp [split, utf8Char_eq_none, ih]

theorem utf8Char_pos {c : CodePoint} {bytes : Bytes} (encoded : utf8Char c = some bytes) (notNul : c ≠ 0) :
    ∀ b ∈ bytes, b ≠ 0 := by
  have positive : 0 < c.val := Nat.pos_of_ne_zero fun zero => notNul (Fin.ext zero)
  have bound := c.isLt
  have nonzero : ∀ n : Nat, 0 < n → n < 0x100 → n.toUInt8 ≠ 0 := by
    intro n above below zero
    have same := congrArg UInt8.toNat zero
    rw [toNat_toUInt8 below] at same
    exact absurd same (by simp; omega)
  unfold utf8Char at encoded
  simp only at encoded
  split_ifs at encoded
  · obtain rfl := Option.some.inj encoded
    simp only [List.forall_mem_cons, List.not_mem_nil, false_implies, implies_true, and_true]
    exact nonzero _ positive (by omega)
  · obtain rfl := Option.some.inj encoded
    simp only [List.forall_mem_cons, List.not_mem_nil, false_implies, implies_true, and_true]
    exact ⟨nonzero _ (by omega) (by omega), nonzero _ (by omega) (by omega)⟩
  · obtain rfl := Option.some.inj encoded
    simp only [List.forall_mem_cons, List.not_mem_nil, false_implies, implies_true, and_true]
    exact ⟨nonzero _ (by omega) (by omega), nonzero _ (by omega) (by omega), nonzero _ (by omega) (by omega)⟩
  · obtain rfl := Option.some.inj encoded
    simp only [List.forall_mem_cons, List.not_mem_nil, false_implies, implies_true, and_true]
    exact ⟨nonzero _ (by omega) (by omega), nonzero _ (by omega) (by omega), nonzero _ (by omega) (by omega),
      nonzero _ (by omega) (by omega)⟩

theorem utf8_pos {s : PyStr} {bytes : Bytes} (encoded : utf8 s = some bytes) (noNul : ∀ c ∈ s, c ≠ 0) :
    ∀ b ∈ bytes, b ≠ 0 := by
  induction s generalizing bytes with
  | nil =>
    obtain rfl : [] = bytes := Option.some.inj encoded
    simp
  | cons c s ih =>
    obtain ⟨front, back, first, others, rfl⟩ := utf8_cons.mp encoded
    intro b member
    rcases List.mem_append.mp member with early | late
    · exact utf8Char_pos first (noNul c List.mem_cons_self) b early
    · exact ih others (fun d inside => noNul d (List.mem_cons_of_mem _ inside)) b late

/-- What starts with ASCII and holds no NUL is not taken for another encoding. -/
theorem detectEncoding_utf8 {c : CodePoint} {s : PyStr} {bytes : Bytes} (ascii : c.val < 0x80)
    (noNul : ∀ d ∈ c :: s, d ≠ 0) (encoded : utf8 (c :: s) = some bytes) : detectEncoding bytes = .utf_8 := by
  have nonzero := utf8_pos encoded noNul
  obtain ⟨front, back, first, _, rfl⟩ := utf8_cons.mp encoded
  obtain rfl : [c.val.toUInt8] = front := by simpa [utf8Char, ascii] using first
  have unmarked : c.val.toUInt8 ∉ [0, 0xFF, 0xFE, 0xEF] := by
    intro mark
    have small := toNat_toUInt8 (show c.val < 0x100 by omega)
    simp only [List.mem_cons, List.not_mem_nil, or_false] at mark
    rcases mark with zero | mark | mark | mark
    · exact nonzero _ (by simp) zero
    · rw [mark] at small; exact absurd small (by simp; omega)
    · rw [mark] at small; exact absurd small (by simp; omega)
    · rw [mark] at small; exact absurd small (by simp; omega)
  simp only [List.mem_cons, List.not_mem_nil, or_false, not_or] at unmarked
  obtain ⟨notZero, notFF, notFE, notEF⟩ := unmarked
  have noMark : ∀ (mark : UInt8) (rest : Bytes), mark ≠ c.val.toUInt8 → ¬ (mark :: rest) <+: [c.val.toUInt8] ++ back :=
    fun mark rest other isPrefix => other (List.cons_prefix_cons.mp isPrefix).1
  unfold detectEncoding
  rw [if_neg (not_or.mpr ⟨noMark _ _ (Ne.symm notZero), noMark _ _ (Ne.symm notFF)⟩),
    if_neg (not_or.mpr ⟨noMark _ _ (Ne.symm notFE), noMark _ _ (Ne.symm notFF)⟩), if_neg (noMark _ _ (Ne.symm notEF))]
  split
  · rename_i b0 b1 b2 b3 rest same
    rw [if_neg (nonzero b0 (by simp [same])), if_neg (nonzero b1 (by simp [same]))]
  · rename_i b0 b1 same
    rw [if_neg (nonzero b0 (by simp [same])), if_neg (nonzero b1 (by simp [same]))]
  · rfl

/-- Such a text is decoded from its UTF-8 bytes. -/
theorem decode_utf8 {c : CodePoint} {s : PyStr} {bytes : Bytes} (ascii : c.val < 0x80) (noNul : ∀ d ∈ c :: s, d ≠ 0)
    (encoded : utf8 (c :: s) = some bytes) : decode bytes = .ok (c :: s) := by
  simp only [decode, detectEncoding_utf8 ascii noNul encoded, decodeAs, decodeUtf8_utf8 encoded]

example : decode [0x5B, 0, 0x31, 0, 0x5D, 0] = .ok (lit "[1]") := by decide

/-! ### Strict UTF-8 -/

theorem consCode_eq_some {n : Nat} {rest : Option PyStr} {s : PyStr} (found : consCode n rest = some s) :
    ∃ (c : CodePoint) (tail : PyStr), c.val = n ∧ rest = some tail ∧ c :: tail = s := by
  unfold consCode at found
  split_ifs at found with bound
  obtain ⟨tail, others, same⟩ := Option.map_eq_some_iff.mp found
  exact ⟨⟨n, bound⟩, tail, rfl, others, same⟩

theorem toUInt8_toNat {n : Nat} {a : UInt8} (same : n = a.toNat) : n.toUInt8 = a := by
  rw [same]
  exact UInt8.ofNat_toNat

theorem isTail_iff {b : UInt8} : isTail b = true ↔ 0x80 ≤ b.toNat ∧ b.toNat < 0xC0 := by
  simp [isTail]

theorem utf8Char_one {c : CodePoint} {a : UInt8} (number : c.val = a.toNat) (first : a.toNat < 0x80) :
    utf8Char c = some [a] := by
  unfold utf8Char
  simp only
  rw [if_pos (by omega), toUInt8_toNat number]

theorem utf8Char_two {c : CodePoint} {a b : UInt8} (number : c.val = (a.toNat - 0xC0) * 0x40 + (b.toNat - 0x80))
    (first : 0xC2 ≤ a.toNat ∧ a.toNat < 0xE0) (second : isTail b = true) : utf8Char c = some [a, b] := by
  rw [isTail_iff] at second
  unfold utf8Char
  simp only
  rw [if_neg (by omega), if_pos (by omega), toUInt8_toNat (a := a) (by omega), toUInt8_toNat (a := b) (by omega)]

theorem utf8Char_three {c : CodePoint} {a b d : UInt8}
    (number : c.val = (a.toNat - 0xE0) * 0x1000 + (b.toNat - 0x80) * 0x40 + (d.toNat - 0x80))
    (first : 0xE0 ≤ a.toNat ∧ a.toNat < 0xF0) (second : isTail b = true) (third : isTail d = true)
    (long : 0x800 ≤ c.val) (scalar : isSurrogate c = false) : utf8Char c = some [a, b, d] := by
  rw [isTail_iff] at second third
  unfold utf8Char
  simp only
  rw [if_neg (by omega), if_neg (by omega), if_neg (by simp [scalar]), if_pos (by omega), toUInt8_toNat (a := a) (by omega),
    toUInt8_toNat (a := b) (by omega), toUInt8_toNat (a := d) (by omega)]

theorem utf8Char_four {c : CodePoint} {a b d e : UInt8}
    (number : c.val = (a.toNat - 0xF0) * 0x40000 + (b.toNat - 0x80) * 0x1000 + (d.toNat - 0x80) * 0x40 + (e.toNat - 0x80))
    (first : 0xF0 ≤ a.toNat) (second : isTail b = true) (third : isTail d = true) (fourth : isTail e = true)
    (long : 0x10000 ≤ c.val) : utf8Char c = some [a, b, d, e] := by
  rw [isTail_iff] at second third fourth
  have scalar : isSurrogate c = false := by
    simp only [isSurrogate, decide_eq_false_iff_not]
    omega
  unfold utf8Char
  simp only
  rw [if_neg (by omega), if_neg (by omega), if_neg (by simp [scalar]), if_neg (by omega), toUInt8_toNat (a := a) (by omega),
    toUInt8_toNat (a := b) (by omega), toUInt8_toNat (a := d) (by omega), toUInt8_toNat (a := e) (by omega)]

/-- How a text begins with the bytes that it was decoded from. -/
inductive Begins : Bytes → PyStr → Prop
  | nil : Begins [] []
  | cons {front back : Bytes} {c : CodePoint} {s : PyStr} (first : isSurrogate c = false → utf8Char c = some front)
      (others : decodeUtf8 back = some s) : Begins (front ++ back) (c :: s)

theorem begins_of_decodeUtf8 {bytes : Bytes} {s : PyStr} (decoded : decodeUtf8 bytes = some s) : Begins bytes s := by
  cases bytes with
  | nil =>
    obtain rfl : [] = s := Option.some.inj decoded
    exact .nil
  | cons a rest =>
    rw [decodeUtf8.eq_def] at decoded
    simp only at decoded
    split_ifs at decoded with one tail two three
    · obtain ⟨c, s, number, others, rfl⟩ := consCode_eq_some decoded
      exact @Begins.cons [a] rest c s (fun _ => utf8Char_one number one) others
    · rcases rest with _ | ⟨b, rest⟩
      · cases decoded
      · simp only at decoded
        split_ifs at decoded with second
        obtain ⟨c, s, number, others, rfl⟩ := consCode_eq_some decoded
        exact @Begins.cons [a, b] rest c s (fun _ => utf8Char_two number ⟨by omega, two⟩ second) others
    · rcases rest with _ | ⟨b, _ | ⟨d, rest⟩⟩
      · cases decoded
      · cases decoded
      · simp only at decoded
        split_ifs at decoded with tails
        obtain ⟨second, third, long⟩ := tails
        obtain ⟨c, s, number, others, rfl⟩ := consCode_eq_some decoded
        exact @Begins.cons [a, b, d] rest c s (utf8Char_three number ⟨by omega, three⟩ second third (number ▸ long)) others
    · rcases rest with _ | ⟨b, _ | ⟨d, _ | ⟨e, rest⟩⟩⟩
      · cases decoded
      · cases decoded
      · cases decoded
      · simp only at decoded
        split_ifs at decoded with tails
        obtain ⟨second, third, fourth, long⟩ := tails
        obtain ⟨c, s, number, others, rfl⟩ := consCode_eq_some decoded
        exact @Begins.cons [a, b, d, e] rest c s (fun _ => utf8Char_four number (by omega) second third fourth (number ▸ long))
          others

/-- A text without surrogates has one encoding, the bytes that decode to it. -/
theorem utf8_of_decodeUtf8 {bytes : Bytes} {s : PyStr} (decoded : decodeUtf8 bytes = some s)
    (scalars : ∀ c ∈ s, isSurrogate c = false) : utf8 s = some bytes := by
  induction s generalizing bytes with
  | nil =>
    cases begins_of_decodeUtf8 decoded
    rfl
  | cons c s ih =>
    cases begins_of_decodeUtf8 decoded with
    | @cons front back _ _ first others =>
      have rest := ih others fun d inside => scalars d (List.mem_cons_of_mem _ inside)
      exact utf8_cons.mpr ⟨front, back, first (scalars c List.mem_cons_self), rest, rfl⟩

/-- Strict decoding and encoding are inverse to each other. -/
theorem decodeStrict_eq_some {bytes : Bytes} {s : PyStr} : decodeStrict bytes = some s ↔ utf8 s = some bytes := by
  rw [decodeStrict, Option.filter_eq_some_iff]
  constructor
  · rintro ⟨decoded, scalars⟩
    exact utf8_of_decodeUtf8 decoded (by simpa using scalars)
  · intro encoded
    refine ⟨decodeUtf8_utf8 encoded, ?_⟩
    have scalars : ¬ ∃ c ∈ s, isSurrogate c = true := fun surrogate => by
      rw [utf8_eq_none.mpr surrogate] at encoded
      cases encoded
    simpa using scalars

end OracleSchema.Decoding
