import OracleSchema.Decoding
import OracleSchema.Json

/-!
Python values as trees: what occurs in a value, the values without a canonical form,
and values that differ only in the order of dictionary items. The canonical bytes of a
value do not depend on that order (`canonicalBytes_reordered`), and a value with
canonical bytes holds nothing unfit (`canonicalBytes_fit`).
-/
namespace OracleSchema.Values
open OracleSchema.Casing OracleSchema.Strings OracleSchema.Errors OracleSchema.Joined OracleSchema.Json
open OracleSchema.Decoding

/-- The values of sequences and dictionaries come before the value itself. -/
@[elab_as_elim] theorem induct {motive : PyValue → Prop} (none : motive .none) (bool : ∀ b, motive (.bool b))
    (int : ∀ n, motive (.int n)) (float : ∀ x, motive (.float x)) (str : ∀ s, motive (.str s))
    (list : ∀ items, (∀ v ∈ items, motive v) → motive (.list items))
    (tuple : ∀ items, (∀ v ∈ items, motive v) → motive (.tuple items))
    (dict : ∀ items, (∀ item ∈ items, motive item.2) → motive (.dict items))
    (object : ∀ typeName, motive (.object typeName)) (v : PyValue) : motive v := by
  refine @PyValue.rec motive (fun items => ∀ v ∈ items, motive v) (fun items => ∀ item ∈ items, motive item.2)
    (fun item => motive item.2) none bool int float str list tuple dict object ?_ ?_ ?_ ?_ ?_ v
  · simp
  · intro first rest here there
    exact List.forall_mem_cons.mpr ⟨here, there⟩
  · simp
  · intro first rest here there
    exact List.forall_mem_cons.mpr ⟨here, there⟩
  · intro key value _ here
    exact here

/-! ### Parts -/

/-- A value occurs in itself, in the items of a sequence, and in the keys and the
    values of a dictionary. -/
inductive Occurs (part : PyValue) : PyValue → Prop
  | here : Occurs part part
  | list {items : List PyValue} {v : PyValue} : v ∈ items → Occurs part v → Occurs part (.list items)
  | tuple {items : List PyValue} {v : PyValue} : v ∈ items → Occurs part v → Occurs part (.tuple items)
  | key {items : List (PyValue × PyValue)} {item : PyValue × PyValue} :
      item ∈ items → Occurs part item.1 → Occurs part (.dict items)
  | value {items : List (PyValue × PyValue)} {item : PyValue × PyValue} :
      item ∈ items → Occurs part item.2 → Occurs part (.dict items)

def Everywhere (P : PyValue → Prop) (v : PyValue) : Prop := ∀ part, Occurs part v → P part

section
variable {P : PyValue → Prop}

@[simp] theorem everywhere_none : Everywhere P .none ↔ P .none :=
  ⟨fun all => all _ .here, fun here part inside => by cases inside; exact here⟩
@[simp] theorem everywhere_int {n : Int} : Everywhere P (.int n) ↔ P (.int n) :=
  ⟨fun all => all _ .here, fun here part inside => by cases inside; exact here⟩
@[simp] theorem everywhere_str {s : PyStr} : Everywhere P (.str s) ↔ P (.str s) :=
  ⟨fun all => all _ .here, fun here part inside => by cases inside; exact here⟩

theorem everywhere_list {items : List PyValue} :
    Everywhere P (.list items) ↔ P (.list items) ∧ ∀ v ∈ items, Everywhere P v := by
  constructor
  · intro all
    exact ⟨all _ .here, fun v member part inside => all part (.list member inside)⟩
  · rintro ⟨here, there⟩ part inside
    cases inside with
    | here => exact here
    | list member deeper => exact there _ member part deeper

theorem everywhere_dict {items : List (PyValue × PyValue)} :
    Everywhere P (.dict items) ↔ P (.dict items) ∧ ∀ item ∈ items, Everywhere P item.1 ∧ Everywhere P item.2 := by
  constructor
  · intro all
    exact ⟨all _ .here, fun item member =>
      ⟨fun part inside => all part (.key member inside), fun part inside => all part (.value member inside)⟩⟩
  · rintro ⟨here, there⟩ part inside
    cases inside with
    | here => exact here
    | key member deeper => exact (there _ member).1 part deeper
    | value member deeper => exact (there _ member).2 part deeper

end

/-- No string is a key twice. -/
def DistinctKeys (items : List (PyValue × PyValue)) : Prop :=
  (items.map Prod.fst).Pairwise (fun a b => ∀ key, a = .str key → b ≠ .str key)

theorem DistinctKeys.perm {items items' : List (PyValue × PyValue)} (distinct : DistinctKeys items)
    (same : items.Perm items') : DistinctKeys items' :=
  List.Pairwise.perm distinct (same.map _) fun other key isKey isKey' => other key isKey' isKey

/-- A string stands for one value. -/
theorem DistinctKeys.unique {items : List (PyValue × PyValue)} (distinct : DistinctKeys items) {key : PyStr} {v w : PyValue}
    (first : (.str key, v) ∈ items) (second : (.str key, w) ∈ items) : v = w := by
  induction items with
  | nil => cases first
  | cons item items ih =>
    obtain ⟨here, there⟩ := List.pairwise_cons.mp distinct
    have apart : ∀ {value}, (.str key, value) ∈ items → item.1 ≠ .str key :=
      fun later isKey => here _ (List.mem_map_of_mem later) key isKey rfl
    rcases List.mem_cons.mp first with rfl | later
    · rcases List.mem_cons.mp second with same | later'
      · exact (Prod.mk.inj same).2.symm
      · exact absurd rfl (apart later')
    · rcases List.mem_cons.mp second with rfl | later'
      · exact absurd rfl (apart later)
      · exact ih there later later'

/-- What the interpreter keeps true of every part: a dictionary has a key once, and
    `float` reads a finite float back from its repr. -/
def Sound (float : PyStr → PyFloat) : PyValue → Prop
  | .dict items => DistinctKeys items
  | .float (.finite repr shape) => float repr = .finite repr shape
  | _ => True

/-- A value that the interpreter can hold. -/
structure Value (float : PyStr → PyFloat) where
  raw : PyValue
  sound : Everywhere (Sound float) raw

/-! ### What has no canonical form -/

/-- The shapes that JSON would merge with others or cannot express. -/
inductive Unfit : PyValue → Prop
  | tuple (items : List PyValue) : Unfit (.tuple items)
  | object (typeName : PyStr) : Unfit (.object typeName)
  | float {x : PyFloat} (notFinite : ∀ repr shape, x ≠ .finite repr shape) : Unfit (.float x)
  | str {s : PyStr} {c : CodePoint} (member : c ∈ s) (surrogate : isSurrogate c = true) : Unfit (.str s)
  | dict {items : List (PyValue × PyValue)} {item : PyValue × PyValue} (member : item ∈ items)
      (notString : ∀ key, item.1 ≠ .str key) : Unfit (.dict items)

/-- The value passes the walk and has this JSON text. -/
def HasText (v : PyValue) (text : PyStr) : Prop := rejectUnsafeValues v = .ok () ∧ dumps v = .ok text

theorem canonicalBytes_eq_ok {v : PyValue} {bytes : Bytes} :
    canonicalBytes v = .ok bytes ↔ ∃ text, HasText v text ∧ utf8 text = some bytes := by
  unfold canonicalBytes HasText encodeUtf8
  cases rejectUnsafeValues v with
  | error exc => simp
  | ok passed =>
    cases dumps v with
    | error exc => simp
    | ok text => cases found : utf8 text <;> simp [found]

theorem rejectUnsafeList_eq_ok {items : List PyValue} :
    rejectUnsafeList items = .ok () ↔ ∀ v ∈ items, rejectUnsafeValues v = .ok () := by
  induction items with
  | nil => simp [rejectUnsafeList]
  | cons first rest ih =>
    rw [rejectUnsafeList, List.forall_mem_cons, ← ih]
    cases rejectUnsafeValues first <;> simp

theorem rejectUnsafeItems_eq_ok {items : List (PyValue × PyValue)} :
    rejectUnsafeItems items = .ok () ↔
      ∀ item ∈ items, (∃ key, item.1 = .str key) ∧ rejectUnsafeValues item.2 = .ok () := by
  induction items with
  | nil => simp [rejectUnsafeItems]
  | cons first rest ih =>
    obtain ⟨key, value⟩ := first
    rw [List.forall_mem_cons, ← ih]
    cases key with
    | str key =>
      rw [rejectUnsafeItems]
      cases rejectUnsafeValues value <;> simp
    | _ => simp [rejectUnsafeItems]

/-- All results are there exactly when each of them is. -/
theorem allOk_map {α β : Type} {f : α → Except PyExc β} {xs : List α} {ys : List β} :
    allOk (xs.map f) = .ok ys ↔ List.Forall₂ (fun x y => f x = .ok y) xs ys := by
  induction xs generalizing ys with
  | nil => cases ys <;> simp [allOk]
  | cons x xs ih =>
    rw [List.map_cons, List.forall₂_cons_left_iff]
    cases f x with
    | error exc => simp [allOk]
    | ok y =>
      rw [allOk]
      cases rest : allOk (xs.map f) with
      | error exc =>
        have none : ∀ ys', ¬ List.Forall₂ (fun x y => f x = .ok y) xs ys' := fun ys' all => by simp [ih.mpr all] at rest
        simp [none]
      | ok ys' =>
        have first := ih.mp rest
        have only : ∀ ys'', List.Forall₂ (fun x y => f x = .ok y) xs ys'' → ys'' = ys' := fun ys'' all => by
          simpa [ih.mpr all] using rest
        constructor
        · rintro same
          obtain rfl := Except.ok.inj same
          exact ⟨y, ys', rfl, first, rfl⟩
        · rintro ⟨y', ys'', same, all, rfl⟩
          rw [only ys'' all, Except.ok.inj same]

theorem dumpsList_eq (items : List PyValue) : dumpsList items = items.map dumps := by
  induction items with
  | nil => rfl
  | cons first rest ih => rw [dumpsList, ih, List.map_cons]

/-- The string that a key is. -/
def keyOf : PyValue → PyStr
  | .str key => key
  | _ => []

theorem dumpsItems_eq {items : List (PyValue × PyValue)} (strings : ∀ item ∈ items, ∃ key, item.1 = .str key) :
    dumpsItems items = items.map (fun item => (keyOf item.1, dumps item.2)) := by
  induction items with
  | nil => rfl
  | cons first rest ih =>
    obtain ⟨key, value⟩ := first
    obtain ⟨text, rfl⟩ : ∃ text, key = .str text := strings _ List.mem_cons_self
    rw [dumpsItems, ih fun item member => strings item (List.mem_cons_of_mem _ member)]
    rfl

theorem hasText_list {items : List PyValue} {text : PyStr} :
    HasText (.list items) text ↔ ∃ texts, List.Forall₂ HasText items texts ∧ text = [91] ++ join 44 texts ++ [93] := by
  have parts : ∀ texts, List.Forall₂ HasText items texts ↔
      rejectUnsafeList items = .ok () ∧ allOk (dumpsList items) = .ok texts := by
    intro texts
    rw [rejectUnsafeList_eq_ok, dumpsList_eq, allOk_map]
    exact List.forall₂_and_left items texts
  simp only [HasText, rejectUnsafeValues, dumps, parts]
  cases allOk (dumpsList items) with
  | error exc => simp
  | ok texts => simp [eq_comm]

/-- A member of an object with the text of its value. -/
def HasMember (item : PyValue × PyValue) (text : PyStr) : Prop :=
  ∃ value, HasText item.2 value ∧ text = quote (keyOf item.1) ++ [58] ++ value

abbrev KeysLe (a b : PyValue × PyValue) : Prop := keyOf a.1 ≤ keyOf b.1

/-- The items of a dictionary as `json.dumps` orders them. -/
def byKey (items : List (PyValue × PyValue)) : List (PyValue × PyValue) := items.insertionSort KeysLe

theorem byKey_perm (items : List (PyValue × PyValue)) : (byKey items).Perm items := List.perm_insertionSort _ items
theorem byKey_sorted (items : List (PyValue × PyValue)) : (byKey items).Pairwise KeysLe :=
  List.pairwise_insertionSort _ items

theorem nodup_keys {items : List (PyValue × PyValue)} (strings : ∀ item ∈ items, ∃ key, item.1 = .str key)
    (distinct : DistinctKeys items) : (items.map (fun item => keyOf item.1)).Nodup := by
  refine List.pairwise_map.mpr ((List.pairwise_map.mp distinct).imp_of_mem fun {a b} inA inB other same => ?_)
  obtain ⟨keyA, isA⟩ := strings a inA
  obtain ⟨keyB, isB⟩ := strings b inB
  simp only [isA, isB, keyOf] at same
  exact other keyA isA (same ▸ isB)

/-- With strings as keys, each only once, the order by keys is the only one. -/
theorem eq_byKey {items sorted : List (PyValue × PyValue)} (strings : ∀ item ∈ items, ∃ key, item.1 = .str key)
    (distinct : DistinctKeys items) (perm : sorted.Perm items) (inOrder : sorted.Pairwise KeysLe) : sorted = byKey items := by
  have keys := nodup_keys strings distinct
  refine List.Perm.eq_of_pairwise (fun a b inA inB le ge => ?_) inOrder (byKey_sorted items) (perm.trans (byKey_perm items).symm)
  exact List.inj_on_of_nodup_map keys (perm.subset inA) ((byKey_perm items).subset inB) (le_antisymm le ge)

theorem hasText_dict {items : List (PyValue × PyValue)} {text : PyStr} :
    HasText (.dict items) text ↔ (∀ item ∈ items, ∃ key, item.1 = .str key) ∧
      ∃ texts, List.Forall₂ HasMember (byKey items) texts ∧ text = [123] ++ join 44 texts ++ [125] := by
  by_cases strings : ∀ item ∈ items, ∃ key, item.1 = .str key
  · have entries : (dumpsItems items).insertionSort (fun a b => a.1 ≤ b.1) =
        (byKey items).map (fun item => (keyOf item.1, dumps item.2)) := by
      rw [dumpsItems_eq strings, byKey]
      exact (List.map_insertionSort KeysLe (fun a b : PyStr × Except PyExc PyStr => a.1 ≤ b.1)
        (fun item => (keyOf item.1, dumps item.2)) items fun a _ b _ => Iff.rfl).symm
    have parts : ∀ texts, List.Forall₂ HasMember (byKey items) texts ↔ rejectUnsafeItems items = .ok () ∧
        allOk ((byKey items).map (fun item => member (keyOf item.1) (dumps item.2))) = .ok texts := by
      intro texts
      have safe : rejectUnsafeItems items = .ok () ↔ ∀ item ∈ byKey items, rejectUnsafeValues item.2 = .ok () := by
        rw [rejectUnsafeItems_eq_ok]
        exact ⟨fun all item inside => (all item ((byKey_perm items).subset inside)).2,
          fun all item inside => ⟨strings item inside, all item ((byKey_perm items).symm.subset inside)⟩⟩
      rw [safe, allOk_map, ← List.forall₂_and_left]
      refine Iff.of_eq (congrArg (fun R => List.Forall₂ R (byKey items) texts) (funext fun item => funext fun t => ?_))
      simp only [HasMember, HasText, member, eq_iff_iff]
      cases dumps item.2 with
      | error exc => simp
      | ok value => simp [eq_comm]
    rw [and_iff_right strings]
    simp only [HasText, rejectUnsafeValues, dumps, parts, entries, List.map_map, Function.comp_def]
    cases allOk ((byKey items).map (fun item => member (keyOf item.1) (dumps item.2))) with
    | error exc => simp
    | ok texts => simp [eq_comm]
  · refine iff_of_false ?_ fun found => strings found.1
    rintro ⟨safe, _⟩
    exact strings fun item inside => (rejectUnsafeItems_eq_ok.mp safe item inside).1

/-! ### The order of dictionary items -/

/-- The same value: the constructors agree at every node, and only the order of
    dictionary items may differ. -/
inductive Reordered : PyValue → PyValue → Prop
  | refl (v : PyValue) : Reordered v v
  | trans {u v w : PyValue} : Reordered u v → Reordered v w → Reordered u w
  | items {items items' : List (PyValue × PyValue)} : items.Perm items' → Reordered (.dict items) (.dict items')
  | inList (before after : List PyValue) {v w : PyValue} : Reordered v w →
      Reordered (.list (before ++ v :: after)) (.list (before ++ w :: after))
  | inDict (before after : List (PyValue × PyValue)) (key : PyValue) {v w : PyValue} : Reordered v w →
      Reordered (.dict (before ++ (key, v) :: after)) (.dict (before ++ (key, w) :: after))

namespace Reordered

theorem symm {v w : PyValue} (same : Reordered v w) : Reordered w v := by
  induction same with
  | refl v => exact .refl v
  | trans _ _ first second => exact second.trans first
  | items perm => exact .items perm.symm
  | inList before after _ ih => exact .inList before after ih
  | inDict before after key _ ih => exact .inDict before after key ih

theorem ofList {f : PyValue → PyValue} (before items : List PyValue) (each : ∀ v ∈ items, Reordered v (f v)) :
    Reordered (.list (before ++ items)) (.list (before ++ items.map f)) := by
  induction items generalizing before with
  | nil => exact .refl _
  | cons first rest ih =>
    have others := ih (before ++ [f first]) fun v member => each v (List.mem_cons_of_mem _ member)
    simp only [List.append_assoc, List.singleton_append] at others
    exact (Reordered.inList before rest (each first List.mem_cons_self)).trans others

theorem ofDict {f : PyValue → PyValue} (before items : List (PyValue × PyValue))
    (each : ∀ item ∈ items, Reordered item.2 (f item.2)) :
    Reordered (.dict (before ++ items)) (.dict (before ++ items.map (fun item => (item.1, f item.2)))) := by
  induction items generalizing before with
  | nil => exact .refl _
  | cons first rest ih =>
    have others := ih (before ++ [(first.1, f first.2)]) fun item member => each item (List.mem_cons_of_mem _ member)
    simp only [List.append_assoc, List.singleton_append] at others
    exact (Reordered.inDict before rest first.1 (each first List.mem_cons_self)).trans others

theorem sound {float : PyStr → PyFloat} {v w : PyValue} (same : Reordered v w) (sound : Everywhere (Sound float) v) :
    Everywhere (Sound float) w := by
  induction same with
  | refl v => exact sound
  | trans _ _ first second => exact second (first sound)
  | items perm =>
    obtain ⟨distinct, parts⟩ := everywhere_dict.mp sound
    exact everywhere_dict.mpr ⟨DistinctKeys.perm distinct perm, fun item member => parts item (perm.symm.subset member)⟩
  | inList before after _ ih =>
    obtain ⟨_, parts⟩ := everywhere_list.mp sound
    rw [List.forall_mem_append, List.forall_mem_cons] at parts
    refine everywhere_list.mpr ⟨trivial, ?_⟩
    rw [List.forall_mem_append, List.forall_mem_cons]
    exact ⟨parts.1, ih parts.2.1, parts.2.2⟩
  | @inDict before after key v w _ ih =>
    obtain ⟨distinct, parts⟩ := everywhere_dict.mp sound
    rw [List.forall_mem_append, List.forall_mem_cons] at parts
    have distinct' : DistinctKeys (before ++ (key, w) :: after) := by
      simpa [DistinctKeys, Sound] using distinct
    refine everywhere_dict.mpr ⟨distinct', ?_⟩
    rw [List.forall_mem_append, List.forall_mem_cons]
    exact ⟨parts.1, ⟨parts.2.1.1, ih parts.2.1.2⟩, parts.2.2⟩

/-- One item is exchanged for another that stands for no less. -/
theorem forall₂_exchange {α β : Type} {R : α → β → Prop} {before after : List α} {a b : α} (less : ∀ y, R a y → R b y)
    {ys : List β} (all : List.Forall₂ R (before ++ a :: after) ys) : List.Forall₂ R (before ++ b :: after) ys := by
  induction before generalizing ys with
  | nil =>
    cases all with
    | cons first rest => exact .cons (less _ first) rest
  | cons x before ih =>
    cases all with
    | cons first rest => exact .cons first (ih rest)

/-- The text of a value does not depend on the order of dictionary items. -/
theorem hasText {float : PyStr → PyFloat} {v w : PyValue} (same : Reordered v w) (sound : Everywhere (Sound float) v)
    {text : PyStr} (written : HasText v text) : HasText w text := by
  induction same generalizing text with
  | refl v => exact written
  | trans vToMid _ first second => exact second (vToMid.sound sound) (first sound written)
  | @items items items' perm =>
    obtain ⟨strings, texts, members, rfl⟩ := hasText_dict.mp written
    have distinct : DistinctKeys items := (everywhere_dict.mp sound).1
    have strings' : ∀ item ∈ items', ∃ key, item.1 = .str key := fun item member =>
      strings item (perm.symm.subset member)
    have order := eq_byKey strings' (distinct.perm perm) ((byKey_perm items).trans perm) (byKey_sorted items)
    exact hasText_dict.mpr ⟨strings', texts, order ▸ members, rfl⟩
  | inList before after _ ih =>
    obtain ⟨texts, members, rfl⟩ := hasText_list.mp written
    have part := (everywhere_list.mp sound).2 _ (List.mem_append_right _ List.mem_cons_self)
    exact hasText_list.mpr ⟨texts, forall₂_exchange (fun t => ih part) members, rfl⟩
  | @inDict before after key v w _ ih =>
    obtain ⟨strings, texts, members, rfl⟩ := hasText_dict.mp written
    obtain ⟨distinct, parts⟩ := everywhere_dict.mp sound
    have part := (parts _ (List.mem_append_right before (List.mem_cons_self (a := (key, v)) (l := after)))).2
    rw [List.forall_mem_append, List.forall_mem_cons] at strings
    have strings' : ∀ item ∈ before ++ (key, w) :: after, ∃ key, item.1 = .str key := by
      rw [List.forall_mem_append, List.forall_mem_cons]
      exact strings
    have distinct' : DistinctKeys (before ++ (key, w) :: after) := by
      simpa [DistinctKeys, Sound] using distinct
    -- the exchanged item stays at its place in the order by keys
    have perm := byKey_perm (before ++ (key, v) :: after)
    have inOrder := byKey_sorted (before ++ (key, v) :: after)
    obtain ⟨front, back, place⟩ := List.append_of_mem
      (perm.symm.subset (List.mem_append_right before (List.mem_cons_self (a := (key, v)) (l := after))))
    rw [place] at members perm inOrder
    have others : (front ++ back).Perm (before ++ after) :=
      (List.perm_middle.symm.trans (perm.trans List.perm_middle)).cons_inv
    have inOrder' : (front ++ (key, w) :: back).Pairwise KeysLe := by simpa [List.pairwise_append, KeysLe] using inOrder
    have order := eq_byKey strings' distinct' (List.perm_middle.trans ((others.cons _).trans List.perm_middle.symm)) inOrder'
    refine hasText_dict.mpr ⟨strings', texts, order ▸ forall₂_exchange ?_ members, rfl⟩
    rintro t ⟨value, written, rfl⟩
    exact ⟨value, ih part written, rfl⟩

end Reordered

/-- The canonical bytes do not depend on the order of dictionary items. -/
theorem canonicalBytes_reordered {float : PyStr → PyFloat} {v w : PyValue} (sound : Everywhere (Sound float) v)
    (same : Reordered v w) {bytes : Bytes} : canonicalBytes v = .ok bytes ↔ canonicalBytes w = .ok bytes := by
  rw [canonicalBytes_eq_ok, canonicalBytes_eq_ok]
  constructor
  · rintro ⟨text, written, encoded⟩
    exact ⟨text, same.hasText sound written, encoded⟩
  · rintro ⟨text, written, encoded⟩
    exact ⟨text, same.symm.hasText (same.sound sound) written, encoded⟩

/-! ### What canonical bytes can be of -/

theorem escapeChar_keeps {c : CodePoint} (surrogate : isSurrogate c = true) : escapeChar c = [c] := by
  have high : 0xD800 ≤ c.val := by
    simp only [isSurrogate, decide_eq_true_eq] at surrogate
    exact surrogate.1
  have other : ∀ d : CodePoint, d.val < 0xD800 → c ≠ d := by
    rintro d low rfl
    omega
  unfold escapeChar
  rw [if_neg (other 34 (by decide)), if_neg (other 92 (by decide)), if_neg (other 10 (by decide)), if_neg (other 13 (by decide)),
    if_neg (other 9 (by decide)), if_neg (other 12 (by decide)), if_neg (other 8 (by decide)), if_neg (by omega)]

theorem infix_bracket {α : Type} {s : List α} (first last : List α) {part : List α} (inner : part <:+: s) :
    part <:+: first ++ s ++ last :=
  inner.trans ⟨first, last, rfl⟩

theorem partner {α β : Type} {R : α → β → Prop} {xs : List α} {ys : List β} (all : List.Forall₂ R xs ys) {x : α}
    (member : x ∈ xs) : ∃ y ∈ ys, R x y := by
  induction all with
  | nil => cases member
  | cons first _ ih =>
    rcases List.mem_cons.mp member with rfl | later
    · exact ⟨_, List.mem_cons_self, first⟩
    · obtain ⟨y, inside, related⟩ := ih later
      exact ⟨y, List.mem_cons_of_mem _ inside, related⟩

theorem forall₂_imp_mem {α β : Type} {R S : α → β → Prop} {xs : List α} {ys : List β} (all : List.Forall₂ R xs ys)
    (imp : ∀ x ∈ xs, ∀ y ∈ ys, R x y → S x y) : List.Forall₂ S xs ys := by
  induction all with
  | nil => exact .nil
  | cons first _ ih =>
    exact .cons (imp _ List.mem_cons_self _ List.mem_cons_self first)
      (ih fun x inXs y inYs => imp x (List.mem_cons_of_mem _ inXs) y (List.mem_cons_of_mem _ inYs))

/-- The text of a part of a value is a part of its text. -/
theorem hasText_part {part whole : PyValue} (inside : Occurs part whole) {text : PyStr} (written : HasText whole text) :
    ∃ text', HasText part text' ∧ text' <:+: text := by
  induction inside generalizing text with
  | here => exact ⟨text, written, List.infix_rfl⟩
  | list member _ ih =>
    obtain ⟨texts, all, rfl⟩ := hasText_list.mp written
    obtain ⟨t, inTexts, itemText⟩ := partner all member
    obtain ⟨text', partText, inItem⟩ := ih itemText
    exact ⟨text', partText, infix_bracket [91] [93] (inItem.trans (infix_join 44 inTexts))⟩
  | tuple => exact absurd written.1 (by simp [rejectUnsafeValues])
  | @key items item member inside ih =>
    obtain ⟨strings, texts, all, rfl⟩ := hasText_dict.mp written
    obtain ⟨key, isKey⟩ := strings item member
    obtain ⟨t, inTexts, value, _, rfl⟩ := partner all ((byKey_perm items).symm.subset member)
    rw [isKey] at inside
    cases inside
    refine ⟨quote key, ⟨rfl, rfl⟩, infix_bracket [123] [125] (List.IsInfix.trans ?_ (infix_join 44 inTexts))⟩
    rw [isKey, keyOf, List.append_assoc]
    exact (List.prefix_append _ _).isInfix
  | @value items item member _ ih =>
    obtain ⟨strings, texts, all, rfl⟩ := hasText_dict.mp written
    obtain ⟨t, inTexts, value, itemText, rfl⟩ := partner all ((byKey_perm items).symm.subset member)
    obtain ⟨text', partText, inItem⟩ := ih itemText
    refine ⟨text', partText, infix_bracket [123] [125] ((inItem.trans ?_).trans (infix_join 44 inTexts))⟩
    exact (List.suffix_append _ _).isInfix

/-- What is unfit has no text, or one that cannot be encoded. -/
theorem Unfit.surrogate {v : PyValue} (unfit : Unfit v) {text : PyStr} (written : HasText v text) :
    ∃ c ∈ text, isSurrogate c = true := by
  obtain ⟨safe, dumped⟩ := written
  cases unfit with
  | tuple items => simp [rejectUnsafeValues] at safe
  | object typeName => simp [dumps] at dumped
  | @float x notFinite =>
    cases x with
    | finite repr shape => exact absurd rfl (notFinite repr shape)
    | inf => simp [rejectUnsafeValues] at safe
    | negInf => simp [rejectUnsafeValues] at safe
    | nan => simp [rejectUnsafeValues] at safe
  | @str s c member surrogate =>
    obtain rfl := Except.ok.inj dumped
    refine ⟨c, ?_, surrogate⟩
    have kept : c ∈ s.flatMap escapeChar := List.mem_flatMap.mpr ⟨c, member, by simp [escapeChar_keeps surrogate]⟩
    simp [quote, kept]
  | dict member notString =>
    obtain ⟨key, isKey⟩ := (rejectUnsafeItems_eq_ok.mp safe _ member).1
    exact absurd isKey (notString key)

/-- A value with canonical bytes holds nothing unfit. -/
theorem canonicalBytes_fit {part whole : PyValue} (inside : Occurs part whole) (unfit : Unfit part) {bytes : Bytes} :
    canonicalBytes whole ≠ .ok bytes := by
  intro written
  obtain ⟨text, hasText, encoded⟩ := canonicalBytes_eq_ok.mp written
  obtain ⟨text', partText, inText⟩ := hasText_part inside hasText
  obtain ⟨c, member, surrogate⟩ := unfit.surrogate partText
  have none := utf8_eq_none.mpr ⟨c, inText.subset member, surrogate⟩
  rw [none] at encoded
  cases encoded

end OracleSchema.Values
