import OracleSchema.Canonical
import OracleSchema.QueryContext

/-!
The claims codec: the canonical bytes of a wire form are parsed back to the claims, and
what is parsed is an object of exactly the twelve members of a wire form
(`claims_codec`).
-/
namespace OracleSchema.Codec
open OracleSchema.Casing OracleSchema.Strings OracleSchema.Errors OracleSchema.Json OracleSchema.JsonReader
open OracleSchema.Reading OracleSchema.Values OracleSchema.Canonical OracleSchema.QueryContext

/-! ### What `json.loads` gives -/

/-- The scanner reads dictionaries that have each name once. -/
def NamesOnce : PyValue → Prop
  | .dict items => ∃ members : List (PyStr × PyValue), (members.map Prod.fst).Nodup ∧
      items = members.map (fun m => (.str m.1, m.2))
  | _ => True

theorem setItem_nodup {items : List (PyStr × PyValue)} (distinct : (items.map Prod.fst).Nodup) (key : PyStr) (value : PyValue) :
    ((setItem items key value).map Prod.fst).Nodup := by
  by_cases old : key ∈ items.map Prod.fst
  · have kept : (setItem items key value).map Prod.fst = items.map Prod.fst := by
      clear distinct
      induction items with
      | nil => cases old
      | cons first rest ih =>
        rw [setItem]
        split_ifs with same
        · rfl
        · rw [List.map_cons, List.map_cons, ih]
          exact (List.mem_cons.mp old).resolve_left (Ne.symm same)
    rw [kept]
    exact distinct
  · rw [setItem_new old, List.map_append]
    refine List.nodup_append.mpr ⟨distinct, List.nodup_singleton _, ?_⟩
    rintro a inItems b inNew rfl
    obtain rfl := List.mem_singleton.mp inNew
    exact old inItems

theorem namesOnce_dictOf (members : List (PyStr × PyValue)) : NamesOnce (dictOf members) := by
  refine ⟨members.foldl (fun items m => setItem items m.1 m.2) [], ?_, rfl⟩
  have kept : ∀ items : List (PyStr × PyValue), (items.map Prod.fst).Nodup →
      ((members.foldl (fun items m => setItem items m.1 m.2) items).map Prod.fst).Nodup := by
    induction members with
    | nil => exact fun items distinct => distinct
    | cons first rest ih => exact fun items distinct => ih _ (setItem_nodup distinct first.1 first.2)
  exact kept [] List.nodup_nil

section
variable {float : PyStr → PyFloat}

theorem namesOnce_scanNumber {s rest : PyStr} {v : PyValue} (read : scanNumber float s = .ok (v, rest)) : NamesOnce v := by
  unfold scanNumber at read
  split at read
  · cases read
  · obtain ⟨rfl, rfl⟩ := Prod.mk.inj (Except.ok.inj read)
    trivial
  · split at read
    · obtain ⟨rfl, rfl⟩ := Prod.mk.inj (Except.ok.inj read)
      trivial
    · cases read

theorem namesOnce_scanOnce {fuel : Nat} {s rest : PyStr} {v : PyValue} (read : scanOnce float fuel s = .ok (v, rest)) :
    NamesOnce v := by
  cases fuel with
  | zero => cases read
  | succ fuel =>
    unfold scanOnce at read
    split at read
    · cases read
    · obtain ⟨found, _, same⟩ := bind_eq_ok.mp read
      obtain ⟨rfl, rfl⟩ := Prod.mk.inj (Except.ok.inj same)
      trivial
    · split at read
      · obtain ⟨rfl, rfl⟩ := Prod.mk.inj (Except.ok.inj read)
        trivial
      · obtain ⟨found, _, same⟩ := bind_eq_ok.mp read
        obtain ⟨rfl, rfl⟩ := Prod.mk.inj (Except.ok.inj same)
        trivial
    · split at read
      · obtain ⟨rfl, rfl⟩ := Prod.mk.inj (Except.ok.inj read)
        exact ⟨[], List.nodup_nil, rfl⟩
      · obtain ⟨found, _, same⟩ := bind_eq_ok.mp read
        obtain ⟨rfl, rfl⟩ := Prod.mk.inj (Except.ok.inj same)
        exact namesOnce_dictOf found.1
    · unfold scanAtom at read
      split at read
      · rename_i word value found
        have atoms : ∀ constant ∈ constants, NamesOnce constant.2 := by
          simp only [constants, List.forall_mem_cons, List.not_mem_nil, false_implies, implies_true, and_true]
          exact ⟨trivial, trivial, trivial, trivial, trivial, trivial⟩
        obtain ⟨rfl, rfl⟩ := Prod.mk.inj (Except.ok.inj read)
        exact atoms _ (List.mem_of_find?_eq_some found)
      · exact namesOnce_scanNumber read

/-- An object that is read has each name once. -/
theorem namesOnce_loads {payload : Bytes} {v : PyValue} (read : loads float payload = .ok v) : NamesOnce v := by
  obtain ⟨doc, _, scanned⟩ := bind_eq_ok.mp read
  cases document : scanDocument float doc with
  | error stop => rw [document] at scanned; cases scanned
  | ok value =>
    rw [document] at scanned
    obtain rfl := Except.ok.inj scanned
    obtain ⟨found, once, more⟩ := bind_eq_ok.mp document
    simp only at more
    split at more
    · obtain rfl := Except.ok.inj more
      exact namesOnce_scanOnce once
    · cases more
end

/-! ### Wire forms -/

theorem distinctKeys_of_nodup {items : List (PyValue × PyValue)} {names : List PyStr}
    (keys : items.map Prod.fst = names.map .str) (distinct : names.Nodup) : DistinctKeys items := by
  rw [DistinctKeys, keys, List.pairwise_map]
  refine distinct.imp fun {a b} different key isA isB => different ?_
  exact PyValue.str.inj (isA.trans isB.symm)

theorem get?_eq_some {items : List (PyValue × PyValue)} (distinct : DistinctKeys items) {key : PyStr} {v : PyValue} :
    get? key items = some v ↔ (.str key, v) ∈ items := by
  induction items with
  | nil => simp [get?]
  | cons first rest ih =>
    obtain ⟨k, value⟩ := first
    obtain ⟨here, there⟩ := List.pairwise_cons.mp distinct
    have isKey : keyText k = some key ↔ k = .str key := by cases k <;> simp [keyText]
    rw [get?, List.mem_cons]
    split_ifs with same
    · obtain rfl := isKey.mp same
      have absent : (.str key, v) ∉ rest := fun later => here _ (List.mem_map_of_mem later) key rfl rfl
      simp [absent, eq_comm]
    · rw [ih there]
      have other : (.str key, v) ≠ (k, value) := fun equal => same (isKey.mpr (Prod.mk.inj equal).1.symm)
      simp [other]

/-- The names under which a wire form holds something. -/
def wireNames : List PyStr := claimStrFields ++ [lit "objects"] ++ claimIntFields

theorem keys_wireItems (c : QueryContextClaims) : (wireItems c).map Prod.fst = wireNames.map .str := rfl

theorem name_of_mem {c : QueryContextClaims} {item : PyValue × PyValue} (member : item ∈ wireItems c) :
    ∃ name ∈ wireNames, item.1 = .str name := by
  have isKey : item.1 ∈ wireNames.map .str := by
    rw [← keys_wireItems c]
    exact List.mem_map_of_mem member
  obtain ⟨name, isName, same⟩ := List.mem_map.mp isKey
  exact ⟨name, isName, same.symm⟩

/-- The members of a wire form by their kind. -/
theorem forall_wireItems {P : PyValue × PyValue → Prop} {c : QueryContextClaims}
    (strs : ∀ entry ∈ strClaims c, P (.str entry.1, .str entry.2))
    (objects : P (.str (lit "objects"), .list (c.objects.map .str)))
    (ints : ∀ entry ∈ intClaims c, P (.str entry.1, .int entry.2)) : ∀ item ∈ wireItems c, P item := by
  rw [wireItems, List.forall_mem_append, List.forall_mem_append, List.forall_mem_map, List.forall_mem_map,
    List.forall_mem_singleton]
  exact ⟨⟨strs, objects⟩, ints⟩

theorem distinct_wireItems (c : QueryContextClaims) : DistinctKeys (wireItems c) :=
  distinctKeys_of_nodup (keys_wireItems c) (by decide)

theorem wireForm_perm {items : List (PyValue × PyValue)} {c : QueryContextClaims} (issued : c.iss = issuer)
    (perm : items.Perm (wireItems c)) : WireForm items c := by
  have form := wireForm_wireItems issued
  have distinct := (distinct_wireItems c).perm perm.symm
  have found : ∀ {key v}, get? key (wireItems c) = some v → get? key items = some v := by
    intro key v inWire
    exact (get?_eq_some distinct).mpr (perm.symm.subset ((get?_eq_some (distinct_wireItems c)).mp inWire))
  refine ⟨?_, fun entry member => found (form.strs entry member), fun entry member => found (form.ints entry member),
    found form.objects, issued⟩
  rw [← form.keys]
  exact List.toFinset_eq_of_perm _ _ (perm.map _)

theorem wireNames_found {items items' : List (PyValue × PyValue)} {c : QueryContextClaims} (form : WireForm items c)
    (form' : WireForm items' c) {key : PyStr} (isName : key ∈ wireNames) : get? key items = get? key items' := by
  rw [wireNames, List.mem_append, List.mem_append, List.mem_singleton] at isName
  rcases isName with (isStr | rfl) | isInt
  · obtain ⟨entry, member, rfl⟩ : ∃ entry ∈ strClaims c, entry.1 = key := List.mem_map.mp isStr
    rw [form.strs entry member, form'.strs entry member]
  · rw [form.objects, form'.objects]
  · obtain ⟨entry, member, rfl⟩ : ∃ entry ∈ intClaims c, entry.1 = key := List.mem_map.mp isInt
    rw [form.ints entry member, form'.ints entry member]

/-- A dictionary with each name once that is a wire form has the members of the wire form. -/
theorem perm_of_wireForm {items : List (PyValue × PyValue)} {c : QueryContextClaims} (once : NamesOnce (.dict items))
    (form : WireForm items c) : items.Perm (wireItems c) := by
  obtain ⟨members, distinct, rfl⟩ := once
  have sameKeys : (members.map (fun m => (PyValue.str m.1, m.2))).map Prod.fst = (members.map Prod.fst).map .str := by simp
  have keys := distinctKeys_of_nodup sameKeys distinct
  have wire := wireForm_wireItems form.issued
  have nodup : ∀ {items : List (PyValue × PyValue)} {names : List PyStr}, items.map Prod.fst = names.map .str → names.Nodup →
      items.Nodup := by
    intro items names same distinct
    refine List.Nodup.of_map Prod.fst ?_
    rw [same]
    exact distinct.map fun a b => PyValue.str.inj
  refine (List.perm_ext_iff_of_nodup (nodup sameKeys distinct) (nodup (keys_wireItems c) (by decide))).mpr fun item => ?_
  constructor
  · intro member
    obtain ⟨m, inMembers, rfl⟩ := List.mem_map.mp member
    have found := (get?_eq_some keys).mpr member
    have given : some m.1 ∈ claimKeys.image some := by
      rw [← form.keys, List.mem_toFinset, List.map_map]
      exact List.mem_map.mpr ⟨m, inMembers, rfl⟩
    have isName : m.1 ∈ wireNames := by
      obtain ⟨name, inKeys, same⟩ := Finset.mem_image.mp given
      rw [← Option.some.inj same]
      exact List.mem_toFinset.mp inKeys
    rw [wireNames_found form wire isName] at found
    exact (get?_eq_some (distinct_wireItems c)).mp found
  · intro member
    obtain ⟨key, isName, named⟩ := name_of_mem member
    obtain ⟨k, v⟩ := item
    obtain rfl : k = .str key := named
    have found := (get?_eq_some (distinct_wireItems c)).mpr member
    rw [← wireNames_found form wire isName] at found
    exact (get?_eq_some keys).mp found

/-! ### The codec -/

/-- Strings without surrogates, and numbers that CPython converts to text and back. -/
structure Writable (c : QueryContextClaims) : Prop where
  strs : ∀ entry ∈ strClaims c, ∀ code ∈ entry.2, isSurrogate code = false
  objects : ∀ object ∈ c.objects, ∀ code ∈ object, isSurrogate code = false
  ints : ∀ entry ∈ intClaims c, (Nat.toDigits 10 entry.2.natAbs).length ≤ 4300

theorem encodable_wireItems {c : QueryContextClaims} (writable : Writable c) :
    Everywhere Encodable (.dict (wireItems c)) := by
  have names : wireNames.all (fun key => key.all (fun code => !isSurrogate code)) = true := by decide
  have values : ∀ item ∈ wireItems c, Everywhere Encodable item.2 := by
    apply forall_wireItems
    · exact fun entry isStr => everywhere_str.mpr (encodable_str.mpr (writable.strs entry isStr))
    · refine everywhere_list.mpr ⟨encodable_list, fun v inObjects => ?_⟩
      obtain ⟨object, isObject, rfl⟩ := List.mem_map.mp inObjects
      exact everywhere_str.mpr (encodable_str.mpr (writable.objects object isObject))
    · exact fun entry isInt => everywhere_int.mpr (encodable_int.mpr (writable.ints entry isInt))
  refine everywhere_dict.mpr ⟨encodable_dict.mpr fun item member => ?_, fun item member => ⟨?_, values item member⟩⟩
  · obtain ⟨key, _, isKey⟩ := name_of_mem member
    exact ⟨key, isKey⟩
  · obtain ⟨key, isName, isKey⟩ := name_of_mem member
    rw [isKey, everywhere_str]
    exact encodable_of_all (List.all_eq_true.mp names key isName)

theorem sound_wireItems (float : PyStr → PyFloat) (c : QueryContextClaims) :
    Everywhere (Sound float) (.dict (wireItems c)) := by
  refine everywhere_dict.mpr ⟨distinct_wireItems c, ?_⟩
  apply forall_wireItems
  · exact fun entry isStr => ⟨everywhere_str.mpr trivial, everywhere_str.mpr trivial⟩
  · refine ⟨everywhere_str.mpr trivial, everywhere_list.mpr ⟨trivial, fun v inObjects => ?_⟩⟩
    obtain ⟨object, isObject, rfl⟩ := List.mem_map.mp inObjects
    exact everywhere_str.mpr trivial
  · exact fun entry isInt => ⟨everywhere_str.mpr trivial, everywhere_int.mpr trivial⟩

theorem arranged_wireItems {c : QueryContextClaims} : ∀ item ∈ wireItems c, arranged item.2 = item.2 := by
  apply forall_wireItems
  · exact fun entry isStr => rfl
  · rw [arranged, arrangedList_eq, List.map_map]
    rfl
  · exact fun entry isInt => rfl

/-- The wire form of claims is parsed back to the claims, in any order of its members, and
    what is parsed is the wire form of the result: exactly its twelve members. -/
theorem claims_codec (float : PyStr → PyFloat) :
    (∀ c : QueryContextClaims, c.iss = issuer → Writable c → ∀ items : List (PyValue × PyValue), items.Perm (wireItems c) →
      ∃ bytes, canonicalBytes (.dict items) = .ok bytes ∧ parseClaims (loads float) bytes = .ok c) ∧
    ∀ payload v c, loads float payload = .ok v → parseClaims (loads float) payload = .ok c →
      c.iss = issuer ∧ ∃ items, v = .dict items ∧ items.Perm (wireItems c) := by
  constructor
  · intro c issued writable items perm
    have same : Reordered (.dict (wireItems c)) (.dict items) := .items perm.symm
    have sound := sound_wireItems float c
    obtain ⟨bytes, written⟩ := canonicalBytes_ok_iff.mpr (encodable_wireItems writable)
    have written' := (canonicalBytes_reordered sound same).mp written
    have read := loads_canonicalBytes ⟨_, same.sound sound⟩ written'
    have kept : (byKey items).map (fun item => (item.1, arranged item.2)) = byKey items := by
      refine (List.map_congr_left fun item member => ?_).trans (List.map_id _)
      rw [arranged_wireItems item (perm.subset ((byKey_perm items).subset member))]
      rfl
    rw [arranged_dict, kept] at read
    exact ⟨bytes, written', parseClaims_ok_iff.mpr ⟨_, read, wireForm_perm issued ((byKey_perm items).trans perm)⟩⟩
  · intro payload v c read parsed
    obtain ⟨items, decoded, form⟩ := parseClaims_ok_iff.mp parsed
    obtain rfl := Except.ok.inj (read.symm.trans decoded)
    exact ⟨form.issued, items, rfl, perm_of_wireForm (namesOnce_loads read) form⟩

/-- Claims that expire after a number of seconds with 4301 digits. -/
def farExpiry : QueryContextClaims where
  iss := issuer
  aud := lit "a"
  sub := lit "u"
  act := lit "agent"
  tenant_id := lit "t1"
  scope_id := lit "s1"
  objects := []
  proxy_db_identity := lit "APP_RO"
  args_sha256 := lit "d"
  jti := lit "j1"
  iat := 0
  exp := 10 ^ 4300

/-- The wire form of these claims has no canonical bytes, though its strings can be encoded. -/
theorem farExpiry_unwritten : farExpiry.iss = issuer ∧
    ((strClaims farExpiry).all fun entry => entry.2.all fun code => !isSurrogate code) = true ∧ farExpiry.objects = [] ∧
    ¬ ∃ bytes, canonicalBytes (.dict (wireItems farExpiry)) = .ok bytes ∧
      parseClaims (loads fun _ => .nan) bytes = .ok farExpiry := by
  refine ⟨rfl, by decide, rfl, ?_⟩
  rintro ⟨bytes, written, _⟩
  have encodable := canonicalBytes_ok_iff.mp ⟨bytes, written⟩
  have inside : (PyValue.str (lit "exp"), PyValue.int farExpiry.exp) ∈ wireItems farExpiry :=
    List.mem_append_right _ (List.mem_cons_of_mem _ List.mem_cons_self)
  have short := encodable_int.mp (everywhere_int.mp ((everywhere_dict.mp encodable).2 _ inside).2)
  have below := (Nat.length_toDigits_le_iff (by decide) (by decide)).mp short
  have power : ∀ k : Nat, ((10 : Int) ^ k).natAbs = 10 ^ k := fun k => Int.natAbs_pow 10 k
  rw [farExpiry, power] at below
  simp only [lt_self_iff_false] at below

end OracleSchema.Codec
