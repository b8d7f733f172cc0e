import Mathlib.Data.List.Basic
import Mathlib.Tactic.Common

/-!
Named placeholders in a statement text: a mark and the word right after it, outside
quoted parts. A text that is put together from pieces has the placeholders of the
pieces, as long as no piece ends within a name or within quotes (`placeholders_piece`),
and a separated list of marked names has exactly these (`placeholders_list`).
-/
namespace OracleSchema.Placeholders
universe u
variable {α : Type u}

/-- Where in a text the scan stands. -/
inductive Mode (α : Type u)
  | plain
  | quoted (quote : α)
  | named (name : List α)
  deriving DecidableEq

/-- The mark of a placeholder, the quotes, and the characters of names. -/
structure Lexis (α : Type u) where
  mark : α
  isQuote : α → Bool
  isWord : α → Bool

/-- The names of a scan, with the one that the text ends in; a mark without a name is none. -/
def names : Mode α × List (List α) → List (List α)
  | (.named name, ended) => (ended ++ [name]).filter (fun name => !name.isEmpty)
  | (_, ended) => ended.filter (fun name => !name.isEmpty)

theorem names_cons {name : List α} (named : name ≠ []) (mode : Mode α) (ended : List (List α)) :
    names (mode, name :: ended) = name :: names (mode, ended) := by
  cases mode <;> simp [names, named]

variable [DecidableEq α] (L : Lexis α)

/-- The mode after a character outside names and quotes. -/
def opened (c : α) : Mode α := if c = L.mark then .named [] else if L.isQuote c then .quoted c else .plain

/-- The mode at the end of a text and the names that ended in it. -/
def scan : Mode α → List α → Mode α × List (List α)
  | mode, [] => (mode, [])
  | .plain, c :: text => scan (opened L c) text
  | .quoted quote, c :: text => if c = quote then scan .plain text else scan (.quoted quote) text
  | .named name, c :: text =>
    if L.isWord c then scan (.named (name ++ [c])) text
    else
      match scan (opened L c) text with
      | (mode, ended) => (mode, name :: ended)

/-- The placeholders of a text, in order. -/
def placeholders (text : List α) : List (List α) := names (scan L .plain text)

variable {L}

theorem scan_append (mode : Mode α) (first second : List α) :
    scan L mode (first ++ second) =
      ((scan L (scan L mode first).1 second).1, (scan L mode first).2 ++ (scan L (scan L mode first).1 second).2) := by
  fun_induction scan L mode first with
  | case1 mode => rfl
  | case2 c text ih => simpa only [List.cons_append, scan] using ih
  | case3 c text ih => simpa only [List.cons_append, scan, if_true] using ih
  | case4 quote c text other ih => simpa only [List.cons_append, scan, if_neg other] using ih
  | case5 name c text isWord ih => simpa only [List.cons_append, scan, if_pos isWord] using ih
  | case6 name c text ends mode ended rest ih =>
    rw [rest] at ih
    simp only [List.cons_append, scan, if_neg ends, ih]

/-- A piece that ends outside names and quotes. -/
theorem placeholders_piece {piece : List α} {ended : List (List α)} (plain : scan L .plain piece = (.plain, ended))
    (rest : List α) :
    placeholders L (piece ++ rest) = ended.filter (fun name => !name.isEmpty) ++ placeholders L rest := by
  rw [placeholders, placeholders, scan_append, plain]
  cases scan L .plain rest with
  | mk mode found => cases mode <;> simp [names]

theorem scan_word {name word : List α} (isWord : ∀ c ∈ word, L.isWord c = true) (rest : List α) :
    scan L (.named name) (word ++ rest) = scan L (.named (name ++ word)) rest := by
  induction word generalizing name with
  | nil => simp
  | cons c word ih =>
    have first : L.isWord c = true := isWord c List.mem_cons_self
    have others : ∀ d ∈ word, L.isWord d = true := fun d member => isWord d (List.mem_cons_of_mem c member)
    rw [List.cons_append, scan, if_pos first, ih others, List.append_assoc, List.singleton_append]

/-- A marked name, up to a character that cannot be in names. -/
theorem placeholders_name {name : List α} (named : name ≠ []) (isWord : ∀ c ∈ name, L.isWord c = true) {stop : α}
    (ends : L.isWord stop = false) (rest : List α) :
    placeholders L (L.mark :: (name ++ stop :: rest)) = name :: placeholders L (stop :: rest) := by
  have goes_on : ¬ L.isWord stop = true := by simp [ends]
  rw [placeholders, scan, opened, if_pos rfl, scan_word isWord, List.nil_append, scan, if_neg goes_on]
  rw [placeholders, scan]
  exact names_cons named _ _

/-- Marked names with a separator between neighbours, as in the list of an IN predicate. -/
theorem placeholders_list {keys : List (List α)} (named : ∀ key ∈ keys, key ≠ [] ∧ ∀ c ∈ key, L.isWord c = true)
    {sep stop : α} {seps rest : List α} (separates : L.isWord sep = false)
    (plain : scan L .plain (sep :: seps) = (.plain, [])) (ends : L.isWord stop = false) :
    placeholders L (List.intercalate (sep :: seps) (keys.map (fun key => L.mark :: key)) ++ stop :: rest) =
      keys ++ placeholders L (stop :: rest) := by
  induction keys with
  | nil => rfl
  | cons key keys ih =>
    obtain ⟨nonempty, isWord⟩ := named key List.mem_cons_self
    by_cases last : keys = []
    · subst last
      simp only [List.map_cons, List.map_nil, List.intercalate_singleton, List.cons_append, List.nil_append]
      exact placeholders_name nonempty isWord ends rest
    · have more : keys.map (fun key => L.mark :: key) ≠ [] := by simpa using last
      have others := ih fun key member => named key (List.mem_cons_of_mem _ member)
      have pieces : List.intercalate (sep :: seps) ((key :: keys).map (fun key => L.mark :: key)) ++ stop :: rest =
          L.mark :: (key ++ sep :: (seps ++
            (List.intercalate (sep :: seps) (keys.map (fun key => L.mark :: key)) ++ stop :: rest))) := by
        rw [List.map_cons, List.intercalate_cons_of_ne_nil more]
        simp only [List.append_assoc, List.cons_append]
      rw [pieces, placeholders_name nonempty isWord separates, ← List.cons_append, placeholders_piece plain,
        List.filter_nil, List.nil_append, others, List.cons_append]
end OracleSchema.Placeholders
