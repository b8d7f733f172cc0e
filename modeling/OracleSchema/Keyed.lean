import Mathlib.Data.List.AList
import Mathlib.Data.List.Perm.Subperm
import Mathlib.Tactic.Common

/-!
Dictionaries that are filled from a list of entries in order, where computing a value
may fail. The keys are those of the entries, so there are as many only if no two entries
share a key (`card_fill_iff`), and then every entry keeps its value (`lookup_fill`).
-/
namespace OracleSchema.Keyed
universe u
variable {κ υ γ ε : Type u} [DecidableEq κ] {f : γ → Except ε υ}

/-- The dictionary after all entries; a later entry of a key replaces an earlier one. -/
def fill (f : γ → Except ε υ) (start : AList (fun _ : κ => υ)) (entries : List (κ × γ)) :
    Except ε (AList (fun _ : κ => υ)) :=
  entries.foldlM (fun dict entry => (f entry.2).map (fun value => dict.insert entry.1 value)) start

theorem fill_cons {start dict : AList (fun _ : κ => υ)} {entry : κ × γ} {entries : List (κ × γ)}
    (filled : fill f start (entry :: entries) = .ok dict) :
    ∃ value, f entry.2 = .ok value ∧ fill f (start.insert entry.1 value) entries = .ok dict := by
  unfold fill at filled
  rw [List.foldlM_cons] at filled
  cases computed : f entry.2 with
  | error e =>
    rw [computed] at filled
    cases filled
  | ok value =>
    rw [computed] at filled
    exact ⟨value, rfl, filled⟩

theorem mem_fill {start dict : AList (fun _ : κ => υ)} {entries : List (κ × γ)} (filled : fill f start entries = .ok dict)
    (key : κ) : key ∈ dict ↔ key ∈ start ∨ key ∈ entries.map Prod.fst := by
  induction entries generalizing start with
  | nil =>
    obtain rfl := Except.ok.inj filled
    simp
  | cons entry entries ih =>
    obtain ⟨value, _, rest⟩ := fill_cons filled
    rw [ih rest, AList.mem_insert, List.map_cons, List.mem_cons]
    tauto

/-- A key that no entry has keeps its value. -/
theorem lookup_fill_of_notMem {start dict : AList (fun _ : κ => υ)} {entries : List (κ × γ)}
    (filled : fill f start entries = .ok dict) {key : κ} (absent : key ∉ entries.map Prod.fst) :
    dict.lookup key = start.lookup key := by
  induction entries generalizing start with
  | nil =>
    obtain rfl := Except.ok.inj filled
    rfl
  | cons entry entries ih =>
    obtain ⟨value, _, rest⟩ := fill_cons filled
    rw [List.map_cons, List.mem_cons, not_or] at absent
    rw [ih rest absent.2, AList.lookup_insert_ne absent.1]

/-- An entry whose key no other entry has is found under its key. -/
theorem lookup_fill {start dict : AList (fun _ : κ => υ)} {entries : List (κ × γ)} (filled : fill f start entries = .ok dict)
    (distinct : (entries.map Prod.fst).Nodup) {key : κ} {x : γ} (member : (key, x) ∈ entries) :
    ∃ value, f x = .ok value ∧ dict.lookup key = some value := by
  induction entries generalizing start with
  | nil => cases member
  | cons entry entries ih =>
    obtain ⟨value, computed, rest⟩ := fill_cons filled
    rw [List.map_cons, List.nodup_cons] at distinct
    rcases List.mem_cons.mp member with rfl | later
    · refine ⟨value, computed, ?_⟩
      rw [lookup_fill_of_notMem rest distinct.1, AList.lookup_insert]
    · exact ih rest distinct.2 later

/-- The dictionary has an entry for each of the list exactly if these have different keys. -/
theorem card_fill_iff {dict : AList (fun _ : κ => υ)} {entries : List (κ × γ)} (filled : fill f ∅ entries = .ok dict) :
    dict.keys.length = entries.length ↔ (entries.map Prod.fst).Nodup := by
  have same : ∀ key, key ∈ dict.keys ↔ key ∈ entries.map Prod.fst := by
    intro key
    rw [← AList.mem_keys, mem_fill filled]
    exact or_iff_right (AList.notMem_empty key)
  constructor
  · intro full
    have within : dict.keys.Subperm (entries.map Prod.fst) :=
      List.subperm_of_subset dict.keys_nodup fun key member => (same key).mp member
    have all : dict.keys.Perm (entries.map Prod.fst) := within.perm_of_length_le (by rw [List.length_map, full])
    exact all.nodup_iff.mp dict.keys_nodup
  · intro distinct
    have all : dict.keys.Perm (entries.map Prod.fst) := (List.perm_ext_iff_of_nodup dict.keys_nodup distinct).mpr same
    rw [all.length_eq, List.length_map]

/-- A list that is computed element by element. -/
theorem forall₂_of_mapM {xs : List γ} {ys : List υ} (computed : xs.mapM f = .ok ys) :
    List.Forall₂ (fun x y => f x = .ok y) xs ys := by
  induction xs generalizing ys with
  | nil =>
    obtain rfl : [] = ys := Except.ok.inj computed
    exact .nil
  | cons x xs ih =>
    rw [List.mapM_cons] at computed
    cases first : f x with
    | error e =>
      rw [first] at computed
      cases computed
    | ok y =>
      cases rest : xs.mapM f with
      | error e =>
        rw [first, rest] at computed
        cases computed
      | ok others =>
        rw [first, rest] at computed
        obtain rfl : y :: others = ys := Except.ok.inj computed
        exact .cons first (ih rest)

end OracleSchema.Keyed
