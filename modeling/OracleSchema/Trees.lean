import Mathlib.Data.List.Basic
import Mathlib.Logic.Relation

/-!
Trees whose edges carry keys, as parsers build them: a node has a label and an
ordered list of children, each under the key of the argument that holds it.
`nodes` lists every node and `mem_nodes_iff` characterizes it by the children;
`without` drops what one key of the root holds, and `Replaced` says that one tree
is another with that replaced, which decides its nodes (`Replaced.mem_nodes`).
-/
namespace OracleSchema.Trees
universe u v

/-- A labelled node with its children in order, each under its key. -/
inductive Tree (κ : Type u) (α : Type v) where
  | node (label : α) (children : List (κ × Tree κ α))

namespace Tree
variable {κ : Type u} {α : Type v}

def label : Tree κ α → α
  | .node l _ => l
def children : Tree κ α → List (κ × Tree κ α)
  | .node _ cs => cs

@[simp] theorem label_node (l : α) (cs : List (κ × Tree κ α)) : (Tree.node l cs).label = l := rfl
@[simp] theorem children_node (l : α) (cs : List (κ × Tree κ α)) : (Tree.node l cs).children = cs := rfl

mutual
/-- Every node of the tree, the root first. -/
def nodes : Tree κ α → List (Tree κ α)
  | .node l cs => .node l cs :: nodesUnder cs
/-- Every node of the trees in a list of children. -/
def nodesUnder : List (κ × Tree κ α) → List (Tree κ α)
  | [] => []
  | (_, t) :: cs => t.nodes ++ nodesUnder cs
end

/-- Induction over a tree with the hypothesis for each child. -/
@[elab_as_elim]
theorem induct {motive : Tree κ α → Prop}
    (node : ∀ t, (∀ k c, (k, c) ∈ t.children → motive c) → motive t) (t : Tree κ α) : motive t := by
  refine Tree.rec (motive_1 := motive) (motive_2 := fun cs => ∀ k c, (k, c) ∈ cs → motive c)
    (motive_3 := fun p => motive p.2) ?_ ?_ ?_ ?_ t
  · intro l cs below
    exact node (.node l cs) below
  · intro k c member
    cases member
  · intro p cs first rest k c member
    rcases List.mem_cons.mp member with same | later
    · rw [← same] at first
      exact first
    · exact rest k c later
  · intro k c holds
    exact holds

theorem mem_nodesUnder {cs : List (κ × Tree κ α)} {n : Tree κ α} :
    n ∈ nodesUnder cs ↔ ∃ k c, (k, c) ∈ cs ∧ n ∈ c.nodes := by
  induction cs with
  | nil => simp [nodesUnder]
  | cons p cs ih =>
    obtain ⟨k, t⟩ := p
    simp only [nodesUnder, List.mem_append, ih, List.mem_cons, Prod.mk.injEq]
    constructor
    · rintro (inside | ⟨k', c, member, inside⟩)
      · exact ⟨k, t, .inl ⟨rfl, rfl⟩, inside⟩
      · exact ⟨k', c, .inr member, inside⟩
    · rintro ⟨k', c, ⟨rfl, rfl⟩ | member, inside⟩
      · exact .inl inside
      · exact .inr ⟨k', c, member, inside⟩

/-- A node of a tree is its root or a node of one of its children. -/
theorem mem_nodes_iff {t n : Tree κ α} :
    n ∈ t.nodes ↔ n = t ∨ ∃ k c, (k, c) ∈ t.children ∧ n ∈ c.nodes := by
  cases t with
  | node l cs => simp only [nodes, List.mem_cons, mem_nodesUnder, children_node]

theorem self_mem_nodes (t : Tree κ α) : t ∈ t.nodes := mem_nodes_iff.mpr (.inl rfl)

theorem mem_nodes_of_child {t c n : Tree κ α} {k : κ} (child : (k, c) ∈ t.children)
    (inside : n ∈ c.nodes) : n ∈ t.nodes := mem_nodes_iff.mpr (.inr ⟨k, c, child, inside⟩)

theorem mem_nodes_trans {t m n : Tree κ α} (outer : m ∈ t.nodes) (inner : n ∈ m.nodes) : n ∈ t.nodes := by
  induction t using induct with
  | node t ih =>
    rcases mem_nodes_iff.mp outer with rfl | ⟨k, c, child, inside⟩
    · exact inner
    · exact mem_nodes_of_child child (ih k c child inside)

section
variable [DecidableEq κ]

/-- The first child under a key. -/
def child? (k : κ) (t : Tree κ α) : Option (Tree κ α) :=
  (t.children.find? (fun p => p.1 = k)).map Prod.snd

/-- The tree with nothing under the key at its root. -/
def without (k : κ) (t : Tree κ α) : Tree κ α :=
  .node t.label (t.children.filter (fun p => p.1 ≠ k))

theorem mem_children_without {k k' : κ} {t c : Tree κ α} :
    (k', c) ∈ (without k t).children ↔ (k', c) ∈ t.children ∧ k' ≠ k := by
  simp [without]

/-- The nodes of a tree that the key does not hold. -/
theorem mem_nodes_without {k : κ} {t n : Tree κ α} :
    n ∈ (without k t).nodes ↔
      n = without k t ∨ ∃ k' c, (k', c) ∈ t.children ∧ k' ≠ k ∧ n ∈ c.nodes := by
  rw [mem_nodes_iff]
  simp only [mem_children_without, and_assoc]

/-- `t'` is `t` with everything under the key replaced by the one child `c`. -/
structure Replaced (k : κ) (c t t' : Tree κ α) : Prop where
  rest : without k t' = without k t
  holds : ∀ d, (k, d) ∈ t'.children ↔ d = c

namespace Replaced
variable {k : κ} {c t t' : Tree κ α}

theorem label (replaced : Replaced k c t t') : t'.label = t.label := by
  have same := congrArg Tree.label replaced.rest
  simpa [without] using same

theorem child_other (replaced : Replaced k c t t') {k' : κ} (other : k' ≠ k) (d : Tree κ α) :
    (k', d) ∈ t'.children ↔ (k', d) ∈ t.children := by
  have same : (k', d) ∈ (without k t').children ↔ (k', d) ∈ (without k t).children := by
    rw [replaced.rest]
  simpa [mem_children_without, other] using same

/-- Everything under another key of the root stays where it was. -/
theorem child?_other (replaced : Replaced k c t t') {k' : κ} (other : k' ≠ k) :
    t'.child? k' = t.child? k' := by
  have kept : ∀ s : Tree κ α, (without k s).child? k' = s.child? k' := by
    intro s
    have filtered : (s.children.filter (fun p => p.1 ≠ k)).find? (fun p => p.1 = k') =
        s.children.find? (fun p => p.1 = k') := by
      rw [List.find?_filter]
      congr 1
      funext p
      by_cases same : p.1 = k'
      · simp [same, other]
      · simp [same]
    simp only [child?, without, children_node, filtered]
  rw [← kept t', replaced.rest, kept t]

/-- The key holds the replacement. -/
theorem child?_self (replaced : Replaced k c t t') : t'.child? k = some c := by
  have held : (t'.children.find? (fun p => p.1 = k)).isSome := by
    rw [List.find?_isSome]
    exact ⟨(k, c), (replaced.holds c).mpr rfl, by simp⟩
  obtain ⟨⟨k', d⟩, found⟩ := Option.isSome_iff_exists.mp held
  obtain rfl : k' = k := by simpa using List.find?_some found
  rw [child?, found, Option.map_some, (replaced.holds d).mp (List.mem_of_find?_eq_some found)]

/-- A second replacement under the key forgets the first. -/
theorem trans {d t'' : Tree κ α} (first : Replaced k c t t') (second : Replaced k d t' t'') : Replaced k d t t'' :=
  ⟨second.rest.trans first.rest, second.holds⟩

/-- The nodes of the new tree: its root, what the other keys held before, and
    the replacement. -/
theorem mem_nodes (replaced : Replaced k c t t') {n : Tree κ α} :
    n ∈ t'.nodes ↔
      n = t' ∨ (∃ k' d, (k', d) ∈ t.children ∧ k' ≠ k ∧ n ∈ d.nodes) ∨ n ∈ c.nodes := by
  rw [mem_nodes_iff]
  apply or_congr_right
  constructor
  · rintro ⟨k', d, child, inside⟩
    by_cases same : k' = k
    · subst same
      exact .inr ((replaced.holds d).mp child ▸ inside)
    · exact .inl ⟨k', d, (replaced.child_other same d).mp child, same, inside⟩
  · rintro (⟨k', d, child, other, inside⟩ | inside)
    · exact ⟨k', d, (replaced.child_other other d).mpr child, inside⟩
    · exact ⟨k, c, (replaced.holds c).mpr rfl, inside⟩

end Replaced

/-- The tree with the given child appended in place of what the key held. -/
def put (k : κ) (c t : Tree κ α) : Tree κ α :=
  .node t.label (t.children.filter (fun p => p.1 ≠ k) ++ [(k, c)])

theorem put_replaced (k : κ) (c t : Tree κ α) : Replaced k c t (put k c t) := by
  constructor
  · simp [put, without, List.filter_append, List.filter_filter]
  · intro d
    simp [put]

end
end Tree
end OracleSchema.Trees
