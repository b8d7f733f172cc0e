import OracleSchema.Canonical
import OracleSchema.Sharing

/-!
Digests of arguments. Canonical bytes are read back as the value that they were made
from, so that a digest fits one triple of arguments (`canonical_exact`). The digest
that a minter computes over the received object is the one that arm 3 recomputes
unless the object carries a null (`digests_agree_iff`).
-/
namespace OracleSchema.Digests
open OracleSchema.Casing OracleSchema.Strings OracleSchema.Errors OracleSchema.Settings OracleSchema.Json
open OracleSchema.JsonReader OracleSchema.Values OracleSchema.Canonical OracleSchema.QueryContext OracleSchema.Pipeline
open OracleSchema.Sharing

/-! ### Argument objects -/

/-- What stands under `max_rows` on the wire. -/
inductive WireMaxRows
  | absent
  | null
  | int (n : Int)

/-- The arguments of a call that the advertised schema of `run_readonly_query` accepts. -/
structure Arguments where
  scope_id : PyStr
  sql : PyStr
  max_rows : WireMaxRows
  token : PyStr

def tokenKey : PyStr := lit "_cognic_query_context"

namespace Arguments

def maxRowsItem : WireMaxRows → List (PyValue × PyValue)
  | .absent => []
  | .null => [(.str (lit "max_rows"), .none)]
  | .int n => [(.str (lit "max_rows"), .int n)]

/-- What the agent wrote. -/
def authored (a : Arguments) : List (PyValue × PyValue) :=
  [(.str (lit "scope_id"), .str a.scope_id), (.str (lit "sql"), .str a.sql)] ++ maxRowsItem a.max_rows

/-- The object on the wire, up to the order of its members. -/
def items (a : Arguments) : List (PyValue × PyValue) := a.authored ++ [(.str tokenKey, .str a.token)]

/-- The call that `run_readonly_query` makes; an absent and a null `max_rows` are both None to it. -/
def call (a : Arguments) (cfg : Config) : Call where
  cfg := cfg
  scope_id := a.scope_id
  sql := a.sql
  max_rows := match a.max_rows with
    | .int n => some n
    | _ => none
  token := a.token

end Arguments

/-- The received object without the token. -/
def withoutToken (items : List (PyValue × PyValue)) : List (PyValue × PyValue) :=
  items.filter (fun item => keyOf item.1 ≠ tokenKey)

/-- The digest over the received object without the token. -/
def mintedSha256 (sha256_hexdigest : Bytes → PyStr) (items : List (PyValue × PyValue)) : Except PyExc PyStr :=
  (canonicalBytes (.dict (withoutToken items))).map sha256_hexdigest

theorem withoutToken_items {a : Arguments} {items : List (PyValue × PyValue)} (perm : items.Perm a.items) :
    (withoutToken items).Perm a.authored := by
  have apart : lit "scope_id" ≠ tokenKey ∧ lit "sql" ≠ tokenKey ∧ lit "max_rows" ≠ tokenKey := by decide
  have kept : ∀ item ∈ a.authored, decide (keyOf item.1 ≠ tokenKey) = true := by
    unfold Arguments.authored Arguments.maxRowsItem
    cases a.max_rows with
    | absent => simp [keyOf, apart]
    | null => simp [keyOf, apart]
    | int n => simp [keyOf, apart]
  have dropped : withoutToken a.items = a.authored := by
    rw [withoutToken, Arguments.items, List.filter_append, List.filter_eq_self.mpr kept]
    simp [keyOf]
  rw [← dropped]
  exact perm.filter _

/-- Strings, an integer and a null under different names. -/
theorem sound_authored (float : PyStr → PyFloat) (a : Arguments) : Everywhere (Sound float) (.dict a.authored) := by
  have names : lit "sql" ≠ lit "scope_id" ∧ lit "max_rows" ≠ lit "scope_id" ∧ lit "max_rows" ≠ lit "sql" := by decide
  rw [everywhere_dict]
  unfold Arguments.authored Arguments.maxRowsItem
  cases a.max_rows with
  | absent => simp [Sound, DistinctKeys, names]
  | null => simp [Sound, DistinctKeys, names]
  | int n => simp [Sound, DistinctKeys, names]

theorem arranged_authored (a : Arguments) :
    a.authored.map (fun item => (item.1, arranged item.2)) = a.authored := by
  unfold Arguments.authored Arguments.maxRowsItem
  cases a.max_rows with
  | absent => rfl
  | null => rfl
  | int n => rfl

theorem maxRowsItem_inj {m m' : WireMaxRows}
    (perm : (Arguments.maxRowsItem m).Perm (Arguments.maxRowsItem m')) : m = m' := by
  cases m with
  | absent =>
    cases m' with
    | absent => rfl
    | _ => cases perm.nil_eq
  | null =>
    cases m' with
    | null => rfl
    | absent => cases perm.eq_nil
    | int n => simp [Arguments.maxRowsItem] at perm
  | int n =>
    cases m' with
    | absent => cases perm.eq_nil
    | null => simp [Arguments.maxRowsItem] at perm
    | int n' => simpa [Arguments.maxRowsItem] using perm

/-- Objects with the same canonical bytes carry the same arguments. -/
theorem authored_inj {a a' : Arguments} {bytes : Bytes} (written : canonicalBytes (.dict a.authored) = .ok bytes)
    (written' : canonicalBytes (.dict a'.authored) = .ok bytes) :
    a.scope_id = a'.scope_id ∧ a.sql = a'.sql ∧ a.max_rows = a'.max_rows := by
  have read := loads_canonicalBytes ⟨_, sound_authored (fun _ => .nan) a⟩ written
  have read' := loads_canonicalBytes ⟨_, sound_authored (fun _ => .nan) a'⟩ written'
  have perm := perm_of_arranged (Except.ok.inj (read.symm.trans read'))
  rw [arranged_authored, arranged_authored] at perm
  have distinct : DistinctKeys a'.authored := (everywhere_dict.mp (sound_authored (fun _ => .nan) a')).1
  have scope_id := PyValue.str.inj (distinct.unique (perm.subset (List.mem_cons_self : _ ∈ a.authored)) List.mem_cons_self)
  have sql := PyValue.str.inj (distinct.unique (perm.subset (List.mem_cons_of_mem _ List.mem_cons_self : _ ∈ a.authored))
    (List.mem_cons_of_mem _ List.mem_cons_self))
  rw [Arguments.authored, Arguments.authored, scope_id, sql, List.perm_append_left_iff] at perm
  exact ⟨scope_id, sql, maxRowsItem_inj perm⟩

/-! ### The digest of a call -/

/-- The arguments that a call stands for; a missing `max_rows` is absent. -/
def ofCall (call : Call) : Arguments where
  scope_id := call.scope_id
  sql := call.sql
  max_rows := match call.max_rows with
    | none => .absent
    | some n => .int n
  token := call.token

theorem argsBasis_eq (call : Call) : argsBasis call = .dict (ofCall call).authored := by
  unfold argsBasis Arguments.authored ofCall
  cases call.max_rows with
  | none => rfl
  | some n => rfl

theorem recompute_eq_ok {L : Libraries} {call : Call} {digest : PyStr} :
    recomputeArgsSha256 L call = .ok digest ↔ ∃ bytes, canonicalBytes (argsBasis call) = .ok bytes ∧ L.sha256_hexdigest bytes = digest :=
  map_eq_ok

/-- Canonical bytes decode to the value that was written, do not depend on the order of
    dictionary items, and exist for nothing unfit; so a digest fits one triple of
    arguments, unless it is the digest of two byte strings. -/
theorem canonical_exact (float : PyStr → PyFloat) (L : Libraries) :
    (∀ (v : Value float) bytes, canonicalBytes v.raw = .ok bytes →
      ∃ w, loads float bytes = .ok w ∧ Reordered v.raw w) ∧
    (∀ v w : Value float, Reordered v.raw w.raw →
      ∀ bytes, canonicalBytes v.raw = .ok bytes ↔ canonicalBytes w.raw = .ok bytes) ∧
    (∀ (v w : Value float) bytes, canonicalBytes v.raw = .ok bytes → canonicalBytes w.raw = .ok bytes →
      Reordered v.raw w.raw) ∧
    (∀ whole part, Occurs part whole → Unfit part → ∃ exc, canonicalBytes whole = .error exc) ∧
    ∀ (call call' : Call) digest, recomputeArgsSha256 L call = .ok digest → recomputeArgsSha256 L call' = .ok digest →
      (call.scope_id, call.sql, call.max_rows) = (call'.scope_id, call'.sql, call'.max_rows) ∨
      ∃ bytes bytes', canonicalBytes (argsBasis call) = .ok bytes ∧ canonicalBytes (argsBasis call') = .ok bytes' ∧
        bytes ≠ bytes' ∧ L.sha256_hexdigest bytes = L.sha256_hexdigest bytes' := by
  refine ⟨?_, ?_, ?_, ?_, ?_⟩
  · intro v bytes written
    exact ⟨arranged v.raw, loads_canonicalBytes v written, reordered_arranged v.raw⟩
  · intro v w same bytes
    exact canonicalBytes_reordered v.sound same
  · intro v w bytes written written'
    have same := Except.ok.inj ((loads_canonicalBytes v written).symm.trans (loads_canonicalBytes w written'))
    exact (reordered_arranged v.raw).trans (same ▸ (reordered_arranged w.raw).symm)
  · intro whole part inside unfit
    cases written : canonicalBytes whole with
    | error exc => exact ⟨exc, rfl⟩
    | ok bytes => exact absurd written (canonicalBytes_fit inside unfit)
  · intro call call' digest first second
    obtain ⟨bytes, written, hashed⟩ := recompute_eq_ok.mp first
    obtain ⟨bytes', written', hashed'⟩ := recompute_eq_ok.mp second
    by_cases same : bytes = bytes'
    · subst same
      rw [argsBasis_eq] at written written'
      obtain ⟨sameScope, sameSql, sameRows⟩ := authored_inj written written'
      have rows : call.max_rows = call'.max_rows := by
        simp only [ofCall] at sameRows
        split at sameRows
        · rename_i none
          split at sameRows
          · rename_i none'
            rw [none, none']
          · cases sameRows
        · rename_i n some
          split at sameRows
          · cases sameRows
          · rename_i n' some'
            rw [some, some', WireMaxRows.int.inj sameRows]
      exact .inl (by rw [show call.scope_id = call'.scope_id from sameScope, show call.sql = call'.sql from sameSql, rows])
    · exact .inr ⟨bytes, bytes', written, written', same, hashed.trans hashed'.symm⟩

/-! ### Minted digests -/

/-- Arm 3 recomputes what was minted over the received object, however its members are
    ordered, and accepts a token that was minted so. -/
def DigestsAgree (L : Libraries) (cfg : Config) (a : Arguments) : Prop :=
  ∀ items : List (PyValue × PyValue), items.Perm a.items →
    (∀ digest, recomputeArgsSha256 L (a.call cfg) = .ok digest ↔ mintedSha256 L.sha256_hexdigest items = .ok digest) ∧
    ∀ claims : QueryContextClaims, mintedSha256 L.sha256_hexdigest items = .ok claims.args_sha256 →
      DigestMatches L (a.call cfg) claims

/-- The hash tells what was minted from what is recomputed, if these differ. -/
def ToldApart (L : Libraries) (cfg : Config) (a : Arguments) : Prop :=
  ∀ bytes bytes', canonicalBytes (argsBasis (a.call cfg)) = .ok bytes → canonicalBytes (.dict a.authored) = .ok bytes' →
    L.sha256_hexdigest bytes = L.sha256_hexdigest bytes' → bytes = bytes'

theorem minted_eq_ok {sha256_hexdigest : Bytes → PyStr} {a : Arguments} {items : List (PyValue × PyValue)}
    (perm : items.Perm a.items) {digest : PyStr} : mintedSha256 sha256_hexdigest items = .ok digest ↔
      ∃ bytes, canonicalBytes (.dict a.authored) = .ok bytes ∧ sha256_hexdigest bytes = digest := by
  rw [mintedSha256, map_eq_ok]
  have same : ∀ bytes, canonicalBytes (.dict (withoutToken items)) = .ok bytes ↔ canonicalBytes (.dict a.authored) = .ok bytes :=
    fun bytes => (canonicalBytes_reordered (sound_authored (fun _ => .nan) a) (.items (withoutToken_items perm).symm)).symm
  simp only [same]

theorem argsBasis_call {cfg : Config} {a : Arguments} (notNull : a.max_rows ≠ .null) :
    argsBasis (a.call cfg) = .dict a.authored := by
  unfold argsBasis Arguments.authored Arguments.call
  cases given : a.max_rows with
  | absent => rfl
  | null => exact absurd given notNull
  | int n => rfl

/-- The objects with canonical bytes: strings without surrogates, and an integer of at
    most 4300 digits. -/
theorem canonicalBytes_authored {a : Arguments} : (∃ bytes, canonicalBytes (.dict a.authored) = .ok bytes) ↔
    (∀ c ∈ a.scope_id ++ a.sql, isSurrogate c = false) ∧
      ∀ n, a.max_rows = .int n → (Nat.toDigits 10 n.natAbs).length ≤ 4300 := by
  have names : Encodable (.str (lit "scope_id")) ∧ Encodable (.str (lit "sql")) ∧ Encodable (.str (lit "max_rows")) :=
    ⟨encodable_of_all rfl, encodable_of_all rfl, encodable_of_all rfl⟩
  rw [canonicalBytes_ok_iff, everywhere_dict, List.forall_mem_append]
  unfold Arguments.authored Arguments.maxRowsItem
  cases a.max_rows with
  | absent => simp [encodable_dict, names, encodable_str]
  | null => simp [encodable_dict, names, encodable_str, encodable_none]
  | int n => simp [encodable_dict, names, encodable_str, encodable_int, and_assoc]

/-- A null that is minted is missing from what arm 3 recomputes. -/
theorem disagree_of_null {L : Libraries} {cfg : Config} {a : Arguments} (apart : ToldApart L cfg a) (null : a.max_rows = .null)
    (clean : ∀ c ∈ a.scope_id ++ a.sql, isSurrogate c = false) : ¬ DigestsAgree L cfg a := by
  intro agree
  have minted : ∃ bytes, canonicalBytes (.dict a.authored) = .ok bytes := by
    refine canonicalBytes_authored.mpr ⟨clean, fun n isInt => ?_⟩
    rw [null] at isInt
    cases isInt
  obtain ⟨bytes', written'⟩ := minted
  have recomputed := ((agree a.items (.refl _)).1 (L.sha256_hexdigest bytes')).mpr
    ((minted_eq_ok (.refl _)).mpr ⟨bytes', written', rfl⟩)
  obtain ⟨bytes, written, hashed⟩ := recompute_eq_ok.mp recomputed
  have same := apart bytes bytes' written written' hashed
  subst same
  rw [argsBasis_eq] at written
  have rows := (authored_inj written written').2.2
  rw [null] at rows
  simp [ofCall, Arguments.call, null] at rows

/-- The two digests agree unless `max_rows` is an explicit null and the object can be
    minted at all. -/
theorem digests_agree_iff (L : Libraries) (cfg : Config) (a : Arguments) (apart : ToldApart L cfg a) :
    DigestsAgree L cfg a ↔ a.max_rows ≠ .null ∨ ∃ c ∈ a.scope_id ++ a.sql, isSurrogate c = true := by
  constructor
  · intro agree
    by_contra bad
    rw [not_or, not_not] at bad
    obtain ⟨null, clean⟩ := bad
    refine disagree_of_null apart null (fun c member => ?_) agree
    by_contra surrogate
    exact clean ⟨c, member, by simpa using surrogate⟩
  · intro fine items perm
    have same : ∀ digest, recomputeArgsSha256 L (a.call cfg) = .ok digest ↔ mintedSha256 L.sha256_hexdigest items = .ok digest := by
      intro digest
      rw [recompute_eq_ok, minted_eq_ok perm]
      rcases fine with notNull | ⟨c, member, surrogate⟩
      · rw [argsBasis_call notNull]
      · have clean : ∀ a' : Arguments, a'.scope_id ++ a'.sql = a.scope_id ++ a.sql →
            ¬ ∃ bytes, canonicalBytes (.dict a'.authored) = .ok bytes := by
          intro a' texts written
          have clean := (canonicalBytes_authored.mp written).1 c (texts ▸ member)
          rw [surrogate] at clean
          cases clean
        rw [argsBasis_eq]
        constructor
        · rintro ⟨bytes, written, _⟩
          exact absurd ⟨bytes, written⟩ (clean (ofCall (a.call cfg)) rfl)
        · rintro ⟨bytes, written, _⟩
          exact absurd ⟨bytes, written⟩ (clean a rfl)
    exact ⟨same, fun claims minted => recompute_eq_ok.mp ((same _).mpr minted)⟩

/-- A hash without collisions. -/
def spelledHash (bytes : Bytes) : PyStr := bytes.map (fun b => Fin.ofNat _ b.toNat)

theorem spelledHash_inj {bytes bytes' : Bytes} (same : spelledHash bytes = spelledHash bytes') : bytes = bytes' := by
  refine List.map_injective_iff.mpr (fun b b' equal => ?_) same
  have values := congrArg Fin.val equal
  have small := b.toNat_lt
  have small' := b'.toNat_lt
  simp only [Fin.val_ofNat] at values
  exact UInt8.toNat_inj.mp (by omega)

def spelledLibraries : Libraries := { sampleLibraries with sha256_hexdigest := spelledHash }

/-- An explicit null, as the schema allows it. -/
def nullMaxRows : Arguments where
  scope_id := lit "s1"
  sql := lit "SELECT 1 FROM dual"
  max_rows := .null
  token := lit "h.p.s"

theorem digests_agree_iff_null :
    DigestsAgree spelledLibraries sampleCall.cfg nullMaxRows ↔
      nullMaxRows.max_rows ≠ .null ∨ ∃ c ∈ nullMaxRows.scope_id ++ nullMaxRows.sql, isSurrogate c = true :=
  digests_agree_iff spelledLibraries sampleCall.cfg nullMaxRows fun _ _ _ _ same => spelledHash_inj same

/-- What was minted with the null is not what is recomputed without it. -/
theorem nullMaxRows_disagrees : ¬ DigestsAgree spelledLibraries sampleCall.cfg nullMaxRows := by
  refine disagree_of_null (fun _ _ _ _ same => spelledHash_inj same) rfl fun c member => ?_
  have clean : (nullMaxRows.scope_id ++ nullMaxRows.sql).all (fun c => !isSurrogate c) = true := rfl
  simpa using List.all_eq_true.mp clean c member

end OracleSchema.Digests
