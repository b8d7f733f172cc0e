import OracleSchema.Reading
import OracleSchema.Values

/-!
`json.loads` reads canonical bytes back to the value that was written, with its
dictionaries in the order of their keys (`loads_canonicalBytes`), and the values with
canonical bytes are those whose parts can all be encoded (`canonicalBytes_ok_iff`).
-/
namespace OracleSchema.Canonical
open OracleSchema.Casing OracleSchema.Strings OracleSchema.Errors OracleSchema.Joined OracleSchema.Json
open OracleSchema.Decoding OracleSchema.JsonReader OracleSchema.Numerals OracleSchema.Reading OracleSchema.Values

mutual
/-- The value with the items of its dictionaries in the order of their keys. -/
def arranged : PyValue → PyValue
  | .list items => .list (arrangedList items)
  | .dict items => .dict (byKey (arrangedItems items))
  | v => v
def arrangedList : List PyValue → List PyValue
  | [] => []
  | v :: rest => arranged v :: arrangedList rest
def arrangedItems : List (PyValue × PyValue) → List (PyValue × PyValue)
  | [] => []
  | (key, v) :: rest => (key, arranged v) :: arrangedItems rest
end

theorem arrangedList_eq (items : List PyValue) : arrangedList items = items.map arranged := by
  induction items with
  | nil => rfl
  | cons first rest ih => rw [arrangedList, ih, List.map_cons]

theorem arrangedItems_eq (items : List (PyValue × PyValue)) :
    arrangedItems items = items.map (fun item => (item.1, arranged item.2)) := by
  induction items with
  | nil => rfl
  | cons first rest ih => rw [arrangedItems, ih, List.map_cons]

theorem byKey_map (f : PyValue → PyValue) (items : List (PyValue × PyValue)) :
    byKey (items.map (fun item => (item.1, f item.2))) = (byKey items).map (fun item => (item.1, f item.2)) :=
  (List.map_insertionSort KeysLe KeysLe (fun item => (item.1, f item.2)) items fun _ _ _ _ => Iff.rfl).symm

theorem arranged_dict (items : List (PyValue × PyValue)) :
    arranged (.dict items) = .dict ((byKey items).map (fun item => (item.1, arranged item.2))) := by
  rw [arranged, arrangedItems_eq, byKey_map]

theorem perm_of_arranged {items items' : List (PyValue × PyValue)} (same : arranged (.dict items) = arranged (.dict items')) :
    (items.map (fun item => (item.1, arranged item.2))).Perm (items'.map (fun item => (item.1, arranged item.2))) := by
  rw [arranged_dict, arranged_dict, PyValue.dict.injEq] at same
  have left := (byKey_perm items).map (fun item => (item.1, arranged item.2))
  have right := (byKey_perm items').map (fun item => (item.1, arranged item.2))
  rw [same] at left
  exact left.symm.trans right

/-- Arranging a value changes the order of dictionary items only. -/
theorem reordered_arranged (v : PyValue) : Reordered v (arranged v) := by
  induction v using induct with
  | none => exact .refl _
  | bool b => exact .refl _
  | int n => exact .refl _
  | float x => exact .refl _
  | str s => exact .refl _
  | list items ih =>
    rw [arranged, arrangedList_eq]
    exact Reordered.ofList [] items ih
  | tuple items => exact .refl _
  | dict items ih =>
    rw [arranged_dict]
    exact (Reordered.items (byKey_perm items).symm).trans
      (Reordered.ofDict [] (byKey items) fun item member => ih item ((byKey_perm items).subset member))
  | object typeName => exact .refl _

/-! ### Round trip -/

/-- Where the text of a value begins. -/
theorem hasText_opening {v : PyValue} {text : PyStr} (written : HasText v text) :
    ∃ c more, text = c :: more ∧ isBlank c = false ∧ c ≠ 93 ∧ c.val < 0x80 := by
  have numeral : ∀ n : Numeral, ∃ c more, n.text = c :: more ∧ isBlank c = false ∧ c ≠ 93 ∧ c.val < 0x80 := by
    intro n
    obtain ⟨d, rest, digit, here | here⟩ := n.opening
    · obtain ⟨above, below⟩ := isDigit_iff.mp digit
      refine ⟨d, rest, here, ?_, ?_, by omega⟩
      · simp only [isBlank, List.mem_cons, List.not_mem_nil, or_false, decide_eq_false_iff_not, not_or]
        refine ⟨?_, ?_, ?_, ?_⟩
        · rintro rfl; cases digit
        · rintro rfl; cases digit
        · rintro rfl; cases digit
        · rintro rfl; cases digit
      · rintro rfl; cases digit
    · exact ⟨45, _, here, by decide, by decide, by decide⟩
  obtain ⟨safe, dumped⟩ := written
  cases v with
  | none => obtain rfl := Except.ok.inj dumped; exact ⟨110, _, rfl, by decide, by decide, by decide⟩
  | bool b =>
    cases b with
    | true => obtain rfl := Except.ok.inj dumped; exact ⟨116, _, rfl, by decide, by decide, by decide⟩
    | false => obtain rfl := Except.ok.inj dumped; exact ⟨102, _, rfl, by decide, by decide, by decide⟩
  | int n =>
    simp only [dumps, intRepr] at dumped
    split_ifs at dumped
    obtain rfl := Except.ok.inj dumped
    rw [← text_intNumeral]
    exact numeral _
  | float x =>
    cases x with
    | finite repr shape =>
      obtain rfl := Except.ok.inj dumped
      obtain ⟨n, rfl, _⟩ := float_numeral shape
      exact numeral n
    | inf => cases dumped
    | negInf => cases dumped
    | nan => cases dumped
  | str s => obtain rfl := Except.ok.inj dumped; exact ⟨34, _, rfl, by decide, by decide, by decide⟩
  | list items =>
    obtain ⟨texts, _, rfl⟩ := hasText_list.mp ⟨safe, dumped⟩
    exact ⟨91, _, rfl, by decide, by decide, by decide⟩
  | tuple items => cases safe
  | dict items =>
    obtain ⟨_, texts, _, rfl⟩ := hasText_dict.mp ⟨safe, dumped⟩
    exact ⟨123, _, rfl, by decide, by decide, by decide⟩
  | object typeName => cases dumped

/-- A character of a bracketed list is printable ASCII or in one of its parts. -/
theorem mem_bracket {opening closing c : CodePoint} {texts : List PyStr} (printable : isPrintable opening = true)
    (printable' : isPrintable closing = true) (member : c ∈ [opening] ++ join 44 texts ++ [closing]) :
    isPrintable c = true ∨ ∃ part ∈ texts, c ∈ part := by
  simp only [List.mem_append, List.mem_singleton] at member
  rcases member with (rfl | inside) | rfl
  · exact .inl printable
  · rcases mem_join inside with rfl | found
    · exact .inl rfl
    · exact .inr found
  · exact .inl printable'

/-- A character of canonical text is printable ASCII or comes from a string, and no
    control character either way. -/
theorem hasText_char {v : PyValue} {text : PyStr} (written : HasText v text) {c : CodePoint} (member : c ∈ text) :
    isPrintable c = true ∨ 32 ≤ c.val ∧ ∃ s, Occurs (.str s) v ∧ c ∈ s := by
  have plain : ∀ {s : PyStr}, s.all isPrintable = true → c ∈ s → isPrintable c = true := fun all inside =>
    List.all_eq_true.mp all c inside
  induction v using induct generalizing text with
  | none => obtain rfl := Except.ok.inj written.2; exact .inl (plain rfl member)
  | bool b =>
    cases b with
    | true => obtain rfl := Except.ok.inj written.2; exact .inl (plain rfl member)
    | false => obtain rfl := Except.ok.inj written.2; exact .inl (plain rfl member)
  | int n =>
    have dumped := written.2
    simp only [dumps, intRepr] at dumped
    split_ifs at dumped
    obtain rfl := Except.ok.inj dumped
    rw [← text_intNumeral] at member
    exact .inl ((intNumeral n).printable member)
  | float x =>
    cases x with
    | finite repr shape =>
      obtain rfl := Except.ok.inj written.2
      obtain ⟨n, rfl, _⟩ := float_numeral shape
      exact .inl (n.printable member)
    | inf => cases written.2
    | negInf => cases written.2
    | nan => cases written.2
  | str s =>
    obtain rfl := Except.ok.inj written.2
    rcases quote_char member with printable | ⟨high, inside⟩
    · exact .inl printable
    · exact .inr ⟨high, s, .here, inside⟩
  | list items ih =>
    obtain ⟨texts, all, rfl⟩ := hasText_list.mp written
    rcases mem_bracket rfl rfl member with printable | ⟨part, inTexts, inPart⟩
    · exact .inl printable
    · obtain ⟨v, inItems, itemText⟩ := partner all.flip inTexts
      rcases ih v inItems itemText inPart with printable | ⟨high, s, occurs, inString⟩
      · exact .inl printable
      · exact .inr ⟨high, s, .list inItems occurs, inString⟩
  | tuple items => cases written.1
  | dict items ih =>
    obtain ⟨strings, texts, all, rfl⟩ := hasText_dict.mp written
    rcases mem_bracket rfl rfl member with printable | ⟨part, inTexts, inPart⟩
    · exact .inl printable
    · obtain ⟨item, inSorted, value, itemText, rfl⟩ := partner all.flip inTexts
      have inItems := (byKey_perm items).subset inSorted
      obtain ⟨key, isKey⟩ := strings item inItems
      simp only [List.mem_append, List.mem_singleton, isKey, keyOf] at inPart
      rcases inPart with (inKey | rfl) | inValue
      · rcases quote_char inKey with printable | ⟨high, inString⟩
        · exact .inl printable
        · exact .inr ⟨high, key, .key inItems (isKey ▸ .here), inString⟩
      · exact .inl rfl
      · rcases ih item inItems itemText inValue with printable | ⟨high, s, occurs, inString⟩
        · exact .inl printable
        · exact .inr ⟨high, s, .value inItems occurs, inString⟩
  | object typeName => cases written.2

/-- What every part of a value with canonical bytes is. -/
def Encodable (part : PyValue) : Prop :=
  ¬ Unfit part ∧ ∀ n, part = .int n → (Nat.toDigits 10 n.natAbs).length ≤ 4300

theorem encodable_none : Encodable .none := ⟨fun unfit => (nomatch unfit), fun _ same => nomatch same⟩

theorem encodable_int {n : Int} : Encodable (.int n) ↔ (Nat.toDigits 10 n.natAbs).length ≤ 4300 := by
  constructor
  · intro encodable
    exact encodable.2 n rfl
  · intro short
    refine ⟨fun unfit => (nomatch unfit), fun m same => ?_⟩
    rw [← PyValue.int.inj same]
    exact short

theorem encodable_str {s : PyStr} : Encodable (.str s) ↔ ∀ c ∈ s, isSurrogate c = false := by
  constructor
  · rintro ⟨fit, _⟩ c member
    by_contra surrogate
    exact fit (.str member (by simpa using surrogate))
  · intro clean
    refine ⟨fun unfit => ?_, fun n same => nomatch same⟩
    cases unfit with
    | str member surrogate =>
      rw [clean _ member] at surrogate
      cases surrogate

theorem encodable_of_all {s : PyStr} (all : s.all (fun c => !isSurrogate c) = true) : Encodable (.str s) := by
  refine encodable_str.mpr fun c member => ?_
  simpa using List.all_eq_true.mp all c member

theorem encodable_list {items : List PyValue} : Encodable (.list items) :=
  ⟨fun unfit => (nomatch unfit), fun _ same => nomatch same⟩

theorem encodable_dict {items : List (PyValue × PyValue)} :
    Encodable (.dict items) ↔ ∀ item ∈ items, ∃ key, item.1 = .str key := by
  constructor
  · rintro ⟨fit, _⟩ item member
    by_contra notString
    exact fit (.dict member fun key isKey => notString ⟨key, isKey⟩)
  · intro strings
    refine ⟨fun unfit => ?_, fun n same => nomatch same⟩
    cases unfit with
    | dict member notString =>
      obtain ⟨key, isKey⟩ := strings _ member
      exact notString key isKey

theorem exists_forall₂ {α β : Type} {R : α → β → Prop} {xs : List α} (each : ∀ x ∈ xs, ∃ y, R x y) :
    ∃ ys, List.Forall₂ R xs ys := by
  induction xs with
  | nil => exact ⟨[], .nil⟩
  | cons x xs ih =>
    obtain ⟨y, first⟩ := each x List.mem_cons_self
    obtain ⟨ys, rest⟩ := ih fun x' member => each x' (List.mem_cons_of_mem _ member)
    exact ⟨y :: ys, .cons first rest⟩

theorem exists_text {v : PyValue} (encodable : Everywhere Encodable v) : ∃ text, HasText v text := by
  have fit := (encodable v .here).1
  induction v using induct with
  | none => exact ⟨_, rfl, rfl⟩
  | bool b =>
    cases b with
    | true => exact ⟨_, rfl, rfl⟩
    | false => exact ⟨_, rfl, rfl⟩
  | int n => exact ⟨intText n, rfl, if_neg (not_lt.mpr ((encodable _ .here).2 n rfl))⟩
  | float x =>
    cases x with
    | finite repr shape => exact ⟨repr, rfl, rfl⟩
    | inf => exact absurd (.float fun _ _ same => nomatch same) fit
    | negInf => exact absurd (.float fun _ _ same => nomatch same) fit
    | nan => exact absurd (.float fun _ _ same => nomatch same) fit
  | str s => exact ⟨quote s, rfl, rfl⟩
  | list items ih =>
    have parts := (everywhere_list.mp encodable).2
    obtain ⟨texts, all⟩ := exists_forall₂ fun v inItems => ih v inItems (parts v inItems) (parts v inItems v .here).1
    exact ⟨_, hasText_list.mpr ⟨texts, all, rfl⟩⟩
  | tuple items => exact absurd (.tuple items) fit
  | dict items ih =>
    have parts := (everywhere_dict.mp encodable).2
    have strings := encodable_dict.mp (encodable _ .here)
    have each : ∀ item ∈ byKey items, ∃ text, HasMember item text := by
      intro item inSorted
      have inItems := (byKey_perm items).subset inSorted
      obtain ⟨value, itemText⟩ := ih item inItems (parts item inItems).2 ((parts item inItems).2 item.2 .here).1
      exact ⟨_, value, itemText, rfl⟩
    obtain ⟨texts, all⟩ := exists_forall₂ each
    exact ⟨_, hasText_dict.mpr ⟨strings, texts, all, rfl⟩⟩
  | object typeName => exact absurd (.object typeName) fit

/-- The values with canonical bytes. -/
theorem canonicalBytes_ok_iff {v : PyValue} : (∃ bytes, canonicalBytes v = .ok bytes) ↔ Everywhere Encodable v := by
  constructor
  · rintro ⟨bytes, written⟩ part inside
    refine ⟨fun unfit => canonicalBytes_fit inside unfit written, ?_⟩
    rintro n rfl
    obtain ⟨text, hasText, _⟩ := canonicalBytes_eq_ok.mp written
    obtain ⟨text', ⟨_, dumped⟩, _⟩ := hasText_part inside hasText
    simp only [dumps, intRepr] at dumped
    split_ifs at dumped with long
    exact not_lt.mp long
  · intro encodable
    obtain ⟨text, written⟩ := exists_text encodable
    cases encoded : utf8 text with
    | some bytes => exact ⟨bytes, canonicalBytes_eq_ok.mpr ⟨text, written, encoded⟩⟩
    | none =>
      obtain ⟨c, inText, surrogate⟩ := utf8_eq_none.mp encoded
      rcases hasText_char written inText with printable | ⟨_, s, occurs, inString⟩
      · have low := (isPrintable_iff.mp printable).2
        simp only [isSurrogate, decide_eq_true_eq] at surrogate
        omega
      · exact absurd (.str inString surrogate) (encodable _ occurs).1

theorem reads_of_text {float : PyStr → PyFloat} {v w : PyValue} {text : PyStr} (written : HasText v text) {fuel : Nat}
    (enough : text.length ≤ fuel) (read : ∀ k, text.length ≤ k + 1 → ∀ rest, Closed rest →
      scanOnce float (k + 1) (text ++ rest) = .ok (w, rest)) : Reads (scanOnce float fuel) w text := by
  obtain ⟨c, more, isText, solid, notEnd, _⟩ := hasText_opening written
  obtain ⟨k, rfl⟩ : ∃ k, fuel = k + 1 := by
    rw [isText] at enough
    exact ⟨fuel - 1, by simp at enough; omega⟩
  exact ⟨⟨c, more, isText, solid, notEnd⟩, read k enough⟩

/-- The scanner reads the text of a value back, dictionaries in the order of their keys. -/
theorem scanOnce_text {float : PyStr → PyFloat} {v : PyValue} (sound : Everywhere (Sound float) v) {text : PyStr}
    (written : HasText v text) {fuel : Nat} (enough : text.length ≤ fuel + 1) {rest : PyStr} (closed : Closed rest) :
    scanOnce float (fuel + 1) (text ++ rest) = .ok (arranged v, rest) := by
  induction v using induct generalizing text fuel rest with
  | none => obtain rfl := Except.ok.inj written.2; rfl
  | bool b =>
    cases b with
    | true => obtain rfl := Except.ok.inj written.2; rfl
    | false => obtain rfl := Except.ok.inj written.2; rfl
  | int n => exact scanOnce_int written.2 fuel closed
  | float x =>
    cases x with
    | finite repr shape =>
      obtain rfl := Except.ok.inj written.2
      exact scanOnce_float shape (sound _ .here) fuel closed
    | inf => cases written.2
    | negInf => cases written.2
    | nan => cases written.2
  | str s =>
    obtain rfl := Except.ok.inj written.2
    have split : quote s ++ rest = 34 :: (s.flatMap escapeChar ++ 34 :: rest) := by simp [quote]
    rw [split]
    show (scanString _ (s.flatMap escapeChar ++ 34 :: rest) >>= _) = _
    rw [scanString_quote]
    rfl
  | list items ih =>
    obtain ⟨texts, all, rfl⟩ := hasText_list.mp written
    have parts := (everywhere_list.mp sound).2
    have each : List.Forall₂ (Reads (scanOnce float fuel)) (items.map arranged) texts := by
      refine List.forall₂_map_left_iff.mpr (forall₂_imp_mem all fun v inItems t inTexts itemText => ?_)
      refine reads_of_text itemText ?_ fun k short rest closed => ih v inItems (parts v inItems) itemText short closed
      have short : _ ≤ (join 44 texts).length := length_part_le inTexts
      simp only [List.length_append, List.length_singleton] at enough
      omega
    rw [arranged, arrangedList_eq]
    exact scanOnce_list each rest
  | tuple items => cases written.1
  | dict items ih =>
    obtain ⟨strings, texts, all, rfl⟩ := hasText_dict.mp written
    obtain ⟨distinct, parts⟩ := everywhere_dict.mp sound
    have inItems := (byKey_perm items).subset
    have each : List.Forall₂ (ReadsMember (scanOnce float fuel))
        ((byKey items).map (fun item => (keyOf item.1, arranged item.2))) texts := by
      refine List.forall₂_map_left_iff.mpr (forall₂_imp_mem all fun item inSorted t inTexts itemText => ?_)
      obtain ⟨value, valueText, rfl⟩ := itemText
      refine ⟨value, reads_of_text valueText ?_ fun k short rest closed =>
        ih item (inItems inSorted) (parts item (inItems inSorted)).2 valueText short closed, rfl⟩
      have short : _ ≤ (join 44 texts).length := length_part_le inTexts
      simp only [List.length_append, List.length_singleton] at enough short
      omega
    have names : (((byKey items).map (fun item => (keyOf item.1, arranged item.2))).map Prod.fst).Nodup := by
      rw [List.map_map]
      exact (((byKey_perm items).map _).nodup_iff).mpr (nodup_keys strings distinct)
    rw [scanOnce_dict each names, arranged_dict, List.map_map]
    refine congrArg (fun items => Except.ok (PyValue.dict items, rest)) (List.map_congr_left fun item inSorted => ?_)
    obtain ⟨key, isKey⟩ := strings item (inItems inSorted)
    simp [isKey, keyOf]
  | object typeName => cases written.2

/-- Canonical bytes are read back as the value, dictionaries in the order of their keys. -/
theorem loads_canonicalBytes {float : PyStr → PyFloat} (v : Value float) {bytes : Bytes}
    (written : canonicalBytes v.raw = .ok bytes) : loads float bytes = .ok (arranged v.raw) := by
  obtain ⟨text, hasText, encoded⟩ := canonicalBytes_eq_ok.mp written
  obtain ⟨c, more, isText, solid, _, ascii⟩ := hasText_opening hasText
  have noNul : ∀ d ∈ c :: more, d ≠ 0 := by
    rintro d member rfl
    rcases hasText_char hasText (isText ▸ member) with printable | ⟨high, _⟩
    · cases printable
    · exact absurd high (by decide)
  have decoded : decode bytes = .ok text := isText ▸ decode_utf8 ascii noNul (isText ▸ encoded)
  have read := scanOnce_text v.sound hasText (Nat.le_succ _) (show Closed [] from fun d none => nomatch none)
  rw [List.append_nil] at read
  have blanks : skipBlank text = text := isText ▸ skipBlank_cons solid more
  have document : scanDocument float text = .ok (arranged v.raw) := by
    rw [scanDocument, blanks, read]
    rfl
  simp only [loads, decoded, bind, Except.bind, document]

example : loads (fun _ => .nan) [0x5B, 0x31, 0x2C, 0x7B, 0x7D, 0x5D] = .ok (.list [.int 1, .dict []]) := by rfl

end OracleSchema.Canonical
