import OracleSchema.Queries

/-!
Listings: entries with the key that orders them and the item that shows them, read a page
at a time. A query whose rows are the entries under another form, ordered alike, gives
exactly the pages of the listing (`query_page_iff`); where keys are unique there is one page
for each limit, and sorting computes it (`Listing.Page.eq_first`).
-/
namespace OracleSchema.Listings
open OracleSchema.Queries
universe u

structure Listing (β : Type u) where
  {Entry : Type}
  {Key : Type}
  [order : LinearOrder Key]
  entries : List Entry
  key : Entry → Key
  item : Entry → β

attribute [instance] Listing.order

variable {β : Type u}

/-- The first items, up to the limit, of the entries in some order that the keys allow, and
    whether there are more. -/
def Listing.Page (l : Listing β) (limit : Int) (items : List β) (more : Bool) : Prop :=
  ∃ found, Answers l.key l.entries found ∧ items = (found.take limit.toNat).map l.item ∧
    (more = true ↔ limit < l.entries.length)

/-- No two entries have one key. -/
def Listing.Unique (l : Listing β) : Prop := (l.entries.map l.key).Nodup

/-- The page that sorting gives. -/
def Listing.first (l : Listing β) (limit : Int) : List β × Bool :=
  (((l.entries.insertionSort (fun a b => l.key a ≤ l.key b)).take limit.toNat).map l.item, limit < l.entries.length)

section
variable {α : Type} {κ : Type u} [LinearOrder κ] {key : α → κ} {rows answer answer' : List α}

/-- A permutation of an image is the image of a permutation. -/
theorem exists_perm_of_perm_map {γ : Type} {f : γ → α} {entries : List γ} (perm : rows.Perm (entries.map f)) :
    ∃ found : List γ, found.Perm entries ∧ rows = found.map f := by
  generalize image : entries.map f = mapped at perm
  induction perm generalizing entries with
  | nil => exact ⟨[], by rw [List.map_eq_nil_iff.mp image], rfl⟩
  | cons x perm ih =>
    obtain ⟨entry, rest, rfl, rfl, rfl⟩ := List.map_eq_cons_iff.mp image
    obtain ⟨found, permFound, rfl⟩ := ih rfl
    exact ⟨entry :: found, permFound.cons entry, rfl⟩
  | swap x y rest =>
    obtain ⟨entry, others, rfl, rfl, tail⟩ := List.map_eq_cons_iff.mp image
    obtain ⟨entry', rest', rfl, rfl, rfl⟩ := List.map_eq_cons_iff.mp tail
    exact ⟨entry' :: entry :: rest', .swap _ _ _, rfl⟩
  | trans _ _ ihLeft ihRight =>
    obtain ⟨found, permFound, rfl⟩ := ihRight image
    obtain ⟨found', permFound', rfl⟩ := ihLeft rfl
    exact ⟨found', permFound'.trans permFound, rfl⟩

/-- Answers to a query whose rows are images of entries are images of their orderings. -/
theorem answers_map_iff {γ : Type} {κ' : Type} [LinearOrder κ'] {f : γ → α} {entryKey : γ → κ'} {entries : List γ}
    (perm : rows.Perm (entries.map f)) (alike : ∀ a b, Precedes key (f a) (f b) ↔ Precedes entryKey a b) :
    Answers key rows answer ↔ ∃ found, Answers entryKey entries found ∧ answer = found.map f := by
  have ordered : ∀ found : List γ, (found.map f).Pairwise (fun a b => key a ≤ key b) ↔
      found.Pairwise (fun a b => entryKey a ≤ entryKey b) := by
    intro found
    rw [List.pairwise_map]
    refine List.Pairwise.iff fun a b => ?_
    rw [← not_lt, ← not_lt]
    exact not_congr (alike b a)
  constructor
  · rintro ⟨ofRows, sorted⟩
    obtain ⟨found, permFound, rfl⟩ := exists_perm_of_perm_map (ofRows.trans perm)
    exact ⟨found, ⟨permFound, (ordered found).mp sorted⟩, rfl⟩
  · rintro ⟨found, ⟨permFound, sorted⟩, rfl⟩
    exact ⟨(permFound.map f).trans perm.symm, (ordered found).mpr sorted⟩

/-- A query whose rows are the entries of a listing under another form gives its pages. -/
theorem query_page_iff {l : Listing β} {f : l.Entry → α} {project : α → β} {limit : Int} {items : List β} {more : Bool}
    (perm : rows.Perm (l.entries.map f)) (alike : ∀ a b, Precedes key (f a) (f b) ↔ Precedes l.key a b)
    (shown : ∀ a, project (f a) = l.item a) :
    (∃ answer, Answers key rows answer ∧ items = (answer.take limit.toNat).map project ∧
      (more = true ↔ limit < answer.length)) ↔ l.Page limit items more := by
  have projected : ∀ found : List l.Entry, ((found.map f).take limit.toNat).map project =
      (found.take limit.toNat).map l.item := by
    intro found
    rw [← List.map_take, List.map_map]
    exact List.map_congr_left fun a _ => shown a
  constructor
  · rintro ⟨answer, answers, rfl, cut⟩
    obtain ⟨found, sorted, rfl⟩ := (answers_map_iff perm alike).mp answers
    refine ⟨found, sorted, projected found, ?_⟩
    rw [cut, List.length_map, sorted.1.length_eq]
  · rintro ⟨found, sorted, rfl, cut⟩
    refine ⟨found.map f, (answers_map_iff perm alike).mpr ⟨found, sorted, rfl⟩, (projected found).symm, ?_⟩
    rw [cut, List.length_map, sorted.1.length_eq]
end

/-! ### Pages -/

section
variable {l : Listing β} {limit : Int} {items : List β} {more : Bool}

theorem page_first (l : Listing β) (limit : Int) : l.Page limit (l.first limit).1 (l.first limit).2 :=
  ⟨_, answers_insertionSort _, rfl, by simp [Listing.first]⟩

/-- With unique keys every page is the one that sorting gives. -/
theorem Listing.Page.eq_first (unique : l.Unique) (page : l.Page limit items more) : (items, more) = l.first limit := by
  obtain ⟨found, sorted, rfl, cut⟩ := page
  obtain rfl := sorted.unique (answers_insertionSort _) unique
  refine Prod.ext rfl ?_
  rw [Listing.first, Bool.eq_iff_iff, cut, decide_eq_true_eq]

/-- A page that is not cut off shows every entry once. -/
theorem Listing.Page.whole (page : l.Page limit items false) : items.Perm (l.entries.map l.item) := by
  obtain ⟨found, sorted, rfl, cut⟩ := page
  have short : ¬ limit < l.entries.length := fun longer => absurd (cut.mpr longer) (by simp)
  have all : found.length ≤ limit.toNat := by
    rw [sorted.1.length_eq]
    omega
  rw [List.take_of_length_le all]
  exact sorted.1.map _
end

end OracleSchema.Listings
