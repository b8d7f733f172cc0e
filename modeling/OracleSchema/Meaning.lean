import OracleSchema.References

/-!
What a statement means, for the purposes of the allow-set. A semantics is any
compositional reading of the syntax tree: a node has a value made from its label and the
values of its children, a table has that of the CTE or of the database object that it
names, and a node that reads the database by itself, as a call, a lateral or a sequence
may, has whatever the database gives. Nothing else is assumed of SQL. `confined_to_iff` says
what the scoping rules are for: the meaning depends on the granted references alone, in
every semantics, exactly if every real object of the statement is granted, every table has
a name and no other node reads the database.
-/
namespace OracleSchema.Meaning
open OracleSchema.Strings OracleSchema.Errors OracleSchema.Joined OracleSchema.Trees OracleSchema.SqlTree
open OracleSchema.SqlGate OracleSchema.Scoping OracleSchema.References

/-- A compositional reading of syntax trees. -/
structure Semantics (V : Type) where
  /-- Which nodes other than tables read the database by themselves. -/
  asks : Expression → Bool
  /-- A table node, from what its name stands for and the values of its children. -/
  table : NodeLabel → V → List (ArgKey × V) → V
  /-- Any other node. -/
  node : NodeLabel → List (ArgKey × V) → V
  /-- An entry of a WITH list, from how it depends on itself. -/
  recursive : (V → V) → V

/-- What a statement finds outside itself: the objects, by the table that refers to them
    as it is spelled, and what every other reading gives for its arguments. -/
structure Database (V : Type) where
  object : Expression → V
  call : Expression → List (ArgKey × V) → V

/-- The CTEs in scope with their values, the innermost first. -/
abbrev Bindings (V : Type) := List (PyStr × V)

section
variable {V : Type} (S : Semantics V) (D : Database V)

/-- What the name of a table stands for. -/
def source (bindings : Bindings V) (table : Expression) : V :=
  match if qualifiers table = [] then bindings.lookup (upper (name table)) else none with
  | some value => value
  | none => D.object table

/-- The value of a node from those of its children. -/
def compose (bindings : Bindings V) (e : Expression) (values : List (ArgKey × V)) : V :=
  if nodeType e ≠ .Table then if S.asks e then D.call e values else S.node e.label values
  else if name e = [] then D.call e values
  else S.table e.label (source D bindings e) values

/-- An entry of a WITH list as a binding. -/
def bind (entry : Expression) (value : V) : Bindings V := (bound entry).map (fun a => (a, value))

/-- The bindings of the entries with these values. -/
def bindAll (entries : List (ArgKey × Expression)) (values : List V) : Bindings V :=
  ((entries.zip values).map (fun pair => bind pair.1.2 pair.2)).flatten

mutual
/-- The value of a tree where these CTEs are in scope. -/
def meaning (bindings : Bindings V) : Expression → V
  | .node l cs => compose S D bindings (.node l cs) (values bindings (inner bindings cs ++ bindings) cs)
/-- The values of the children of a block: those of a WITH see what is in scope outside,
    the others see its entries as well. -/
def values (outside inside : Bindings V) : List (ArgKey × Expression) → List (ArgKey × V)
  | [] => []
  | (k, .node l entries) :: cs =>
    let value :=
      if k = .with_ then
        compose S D outside (.node l entries) ((entries.map Prod.fst).zip (entryValues outside [] entries))
      else meaning inside (.node l entries)
    (k, value) :: values outside inside cs
/-- The values of the entries of a WITH list; each sees itself and those before it. -/
def entryValues (outside before : Bindings V) : List (ArgKey × Expression) → List V
  | [] => []
  | (_, c) :: entries =>
    let value := S.recursive (fun itself => meaning (before ++ bind c itself ++ outside) c)
    value :: entryValues outside (before ++ bind c value) entries
/-- The bindings that the WITH of a block adds. -/
def inner (outside : Bindings V) : List (ArgKey × Expression) → Bindings V
  | [] => []
  | (k, .node _ entries) :: cs =>
    (if k = .with_ then bindAll entries (entryValues outside [] entries) else []) ++ inner outside cs
end
end

/-! ### Unfolding -/

section
variable {V : Type} {S : Semantics V} {D : Database V} {outside inside before : Bindings V}

theorem meaning_eq (bindings : Bindings V) (e : Expression) : meaning S D bindings e =
    compose S D bindings e (values S D bindings (inner S D bindings e.children ++ bindings) e.children) := by
  cases e
  rw [meaning, Tree.children_node]

/-- The value of a WITH by those of its entries. -/
def carried (S : Semantics V) (D : Database V) (outside : Bindings V) (w : Expression) : V :=
  compose S D outside w ((w.children.map Prod.fst).zip (entryValues S D outside [] w.children))

theorem values_cons (k : ArgKey) (c : Expression) (cs : List (ArgKey × Expression)) :
    values S D outside inside ((k, c) :: cs) =
      (k, if k = .with_ then carried S D outside c else meaning S D inside c) :: values S D outside inside cs := by
  cases c
  rw [values]
  rfl

theorem inner_cons (k : ArgKey) (c : Expression) (cs : List (ArgKey × Expression)) :
    inner S D outside ((k, c) :: cs) =
      (if k = .with_ then bindAll c.children (entryValues S D outside [] c.children) else []) ++ inner S D outside cs := by
  cases c
  rw [inner]
  rfl

/-- The value of an entry, where those before it are bound. -/
def entryValue (S : Semantics V) (D : Database V) (outside before : Bindings V) (c : Expression) : V :=
  S.recursive (fun itself => meaning S D (before ++ bind c itself ++ outside) c)

theorem entryValues_cons (k : ArgKey) (c : Expression) (entries : List (ArgKey × Expression)) :
    entryValues S D outside before ((k, c) :: entries) = entryValue S D outside before c ::
      entryValues S D outside (before ++ bind c (entryValue S D outside before c)) entries := by
  rw [entryValues]
  rfl

/-- The names in scope. -/
def keys (bindings : Bindings V) : Names := bindings.map Prod.fst

@[simp] theorem keys_nil : keys ([] : Bindings V) = [] := rfl
@[simp] theorem keys_append (first second : Bindings V) : keys (first ++ second) = keys first ++ keys second :=
  List.map_append
@[simp] theorem keys_bind (entry : Expression) (value : V) : keys (bind entry value) = bound entry := by
  rw [keys, bind, List.map_map]
  exact List.map_id _

theorem keys_bindAll (entries : List (ArgKey × Expression)) (before : Bindings V) :
    keys (bindAll entries (entryValues S D outside before entries)) = boundBy entries := by
  induction entries generalizing before with
  | nil => rfl
  | cons entry entries ih =>
    obtain ⟨k, c⟩ := entry
    have rest := ih (before ++ bind c (entryValue S D outside before c))
    rw [entryValues_cons]
    simp only [bindAll, List.zip_cons_cons, List.map_cons, List.flatten_cons, keys_append, keys_bind] at rest ⊢
    rw [rest]
    rfl

theorem keys_inner (cs : List (ArgKey × Expression)) : keys (inner S D outside cs) =
    (cs.filter (fun child => child.1 = .with_)).flatMap (fun child => boundBy child.2.children) := by
  induction cs with
  | nil => rfl
  | cons child cs ih =>
    obtain ⟨k, c⟩ := child
    rw [inner_cons, keys_append, ih]
    by_cases carries : k = .with_
    · simp [carries, keys_bindAll]
    · simp [carries]
end

/-! ### Related semantics -/

/-- A node that reads the database otherwise than by the name of a table. -/
def Calls (asks : Expression → Bool) (e : Expression) : Prop :=
  if nodeType e = .Table then name e = [] else asks e = true

section
variable {V V' : Type} (R : V → V' → Prop)

/-- Lists of named values, related value by value. -/
abbrev Related {κ : Type} : List (κ × V) → List (κ × V') → Prop := List.Forall₂ (fun p p' => p.1 = p'.1 ∧ R p.2 p'.2)

/-- The operations keep the relation. -/
structure Respects (S : Semantics V) (S' : Semantics V') : Prop where
  asks : ∀ e, S.asks e = S'.asks e
  table : ∀ l s s' vs vs', R s s' → Related R vs vs' → R (S.table l s vs) (S'.table l s' vs')
  node : ∀ l vs vs', Related R vs vs' → R (S.node l vs) (S'.node l vs')
  recursive : ∀ F F', (∀ v v', R v v' → R (F v) (F' v')) → R (S.recursive F) (S'.recursive F')

/-- So do the databases, at a node that is seen with these names in scope. -/
structure RelatedAt (asks : Expression → Bool) (D : Database V) (D' : Database V') (env : Names) (e : Expression) : Prop where
  call : Calls asks e → ∀ vs vs', Related R vs vs' → R (D.call e vs) (D'.call e vs')
  object : nodeType e = .Table → name e ≠ [] → ¬ IsCteReference env e → R (D.object e) (D'.object e)

/-- So do they at all nodes of a tree. -/
def RelatedIn (asks : Expression → Bool) (D : Database V) (D' : Database V') (env : Names) (e : Expression) : Prop :=
  ∀ env' n, Sees env e env' n → RelatedAt R asks D D' env' n
end

section
variable {V V' : Type} {R : V → V' → Prop} {S : Semantics V} {S' : Semantics V'} {D : Database V} {D' : Database V'}
  {bindings outside inside before : Bindings V} {bindings' outside' inside' before' : Bindings V'}

theorem Related.append {κ : Type} {first second : List (κ × V)} {first' second' : List (κ × V')} (left : Related R first first')
    (right : Related R second second') : Related R (first ++ second) (first' ++ second') :=
  List.rel_append left right

theorem Related.lookup (related : Related R bindings bindings') (a : PyStr) :
    (a ∉ keys bindings ∧ bindings.lookup a = none ∧ bindings'.lookup a = none) ∨
      a ∈ keys bindings ∧ ∃ v v', bindings.lookup a = some v ∧ bindings'.lookup a = some v' ∧ R v v' := by
  induction related with
  | nil => exact .inl ⟨List.not_mem_nil, rfl, rfl⟩
  | @cons p p' rest rest' pair _ ih =>
    obtain ⟨key, v⟩ := p
    obtain ⟨key', v'⟩ := p'
    obtain ⟨rfl, value⟩ : key = key' ∧ R v v' := pair
    by_cases same : a = key
    · subst same
      exact .inr ⟨List.mem_cons_self, v, v', by simp, by simp, value⟩
    · have other : (a == key) = false := by simpa using same
      simp only [List.lookup_cons, other, keys, List.map_cons, List.mem_cons, same, false_or]
      exact ih

theorem related_bind (entry : Expression) {v : V} {v' : V'} (value : R v v') : Related R (bind entry v) (bind entry v') := by
  unfold bind
  induction bound entry with
  | nil => exact .nil
  | cons a rest ih => exact .cons ⟨rfl, value⟩ ih

/-- A table that refers to no CTE stands for an object. -/
theorem source_object {table : Expression} (notCte : ¬ IsCteReference (keys bindings) table) :
    source D bindings table = D.object table := by
  unfold source
  by_cases unqualified : qualifiers table = []
  · have absent : bindings.lookup (upper (name table)) = none := by
      rw [List.lookup_eq_none_iff]
      intro pair member
      rw [bne_iff_ne]
      intro same
      exact notCte ⟨unqualified, List.mem_map.mpr ⟨pair, member, same.symm⟩⟩
    rw [if_pos unqualified, absent]
  · rw [if_neg unqualified]

theorem related_source (related : Related R bindings bindings') {table : Expression}
    (at_ : ¬ IsCteReference (keys bindings) table → R (D.object table) (D'.object table)) :
    R (source D bindings table) (source D' bindings' table) := by
  unfold source
  by_cases unqualified : qualifiers table = []
  · rw [if_pos unqualified, if_pos unqualified]
    rcases related.lookup (upper (name table)) with ⟨absent, first, second⟩ | ⟨_, v, v', first, second, value⟩
    · rw [first, second]
      exact at_ fun reference => absent reference.2
    · rw [first, second]
      exact value
  · rw [if_neg unqualified, if_neg unqualified]
    exact at_ fun reference => unqualified reference.1

theorem related_compose (respects : Respects R S S') (related : Related R bindings bindings') {e : Expression}
    (at_ : RelatedAt R S.asks D D' (keys bindings) e) {vs : List (ArgKey × V)} {vs' : List (ArgKey × V')}
    (values : Related R vs vs') : R (compose S D bindings e vs) (compose S' D' bindings' e vs') := by
  unfold compose
  rw [← respects.asks e]
  split_ifs with other asking unnamed
  · exact at_.call (by simpa [Calls, other] using asking) _ _ values
  · exact respects.node _ _ _ values
  · exact at_.call (by simpa [Calls, not_not.mp other] using unnamed) _ _ values
  · exact respects.table _ _ _ _ _ (related_source related (at_.object (not_not.mp other) unnamed)) values

/-- The entries of a WITH list, from those that are done on. -/
theorem related_entryValues (respects : Respects R S S') (outer : Related R outside outside') {w : Expression}
    (each : ∀ done k c rest, w.children = done ++ (k, c) :: rest → ∀ b b', Related R b b' →
      keys b = boundBy (done ++ [(k, c)]) ++ keys outside → R (meaning S D b c) (meaning S' D' b' c))
    {done entries : List (ArgKey × Expression)} (split : w.children = done ++ entries) (earlier : Related R before before')
    (names : keys before = boundBy done) :
    List.Forall₂ R (entryValues S D outside before entries) (entryValues S' D' outside' before' entries) := by
  induction entries generalizing done before before' with
  | nil => exact .nil
  | cons entry rest ih =>
    obtain ⟨k, c⟩ := entry
    have bindsLast : boundBy (done ++ [(k, c)]) = boundBy done ++ bound c := by simp [boundBy]
    have value : R (entryValue S D outside before c) (entryValue S' D' outside' before' c) := by
      refine respects.recursive _ _ fun v v' itself => each done k c rest split _ _ ?_ ?_
      · exact (earlier.append (related_bind c itself)).append outer
      · rw [keys_append, keys_append, keys_bind, names, bindsLast]
    rw [entryValues_cons, entryValues_cons]
    refine .cons value (@ih _ _ (done ++ [(k, c)]) ?_ (earlier.append (related_bind c value)) ?_)
    · rw [split, List.append_assoc]
      rfl
    · rw [keys_append, keys_bind, names, bindsLast]

theorem related_bindAll (entries : List (ArgKey × Expression)) {vs : List V} {vs' : List V'} (values : List.Forall₂ R vs vs') :
    Related R (bindAll entries vs) (bindAll entries vs') := by
  induction values generalizing entries with
  | nil => simp [bindAll]
  | @cons v v' rest rest' value _ ih =>
    cases entries with
    | nil => simp [bindAll]
    | cons entry entries =>
      simp only [bindAll, List.zip_cons_cons, List.map_cons, List.flatten_cons] at ih ⊢
      exact (related_bind entry.2 value).append (ih entries)

theorem related_zip {κ : Type} (names : List κ) {vs : List V} {vs' : List V'} (values : List.Forall₂ R vs vs') :
    Related R (names.zip vs) (names.zip vs') := by
  induction values generalizing names with
  | nil => simp
  | @cons v v' rest rest' value _ ih =>
    cases names with
    | nil => simp
    | cons name names => exact .cons ⟨rfl, value⟩ (ih names)

theorem related_inner {cs : List (ArgKey × Expression)}
    (carriers : ∀ w, (.with_, w) ∈ cs →
      List.Forall₂ R (entryValues S D outside [] w.children) (entryValues S' D' outside' [] w.children)) :
    Related R (inner S D outside cs) (inner S' D' outside' cs) := by
  induction cs with
  | nil => exact .nil
  | cons child cs ih =>
    obtain ⟨k, c⟩ := child
    have rest := ih fun w member => carriers w (List.mem_cons_of_mem _ member)
    rw [inner_cons, inner_cons]
    refine Related.append ?_ rest
    by_cases carries : k = .with_
    · subst carries
      rw [if_pos rfl, if_pos rfl]
      exact related_bindAll _ (carriers c List.mem_cons_self)
    · rw [if_neg carries, if_neg carries]
      exact .nil

theorem related_values {cs : List (ArgKey × Expression)}
    (carriers : ∀ w, (.with_, w) ∈ cs → R (carried S D outside w) (carried S' D' outside' w))
    (clauses : ∀ k c, (k, c) ∈ cs → k ≠ .with_ → R (meaning S D inside c) (meaning S' D' inside' c)) :
    Related R (values S D outside inside cs) (values S' D' outside' inside' cs) := by
  induction cs with
  | nil => exact .nil
  | cons child cs ih =>
    obtain ⟨k, c⟩ := child
    have rest := ih (fun w member => carriers w (List.mem_cons_of_mem _ member))
      (fun k' c' member => clauses k' c' (List.mem_cons_of_mem _ member))
    rw [values_cons, values_cons]
    refine .cons ⟨rfl, ?_⟩ rest
    by_cases carries : k = .with_
    · subst carries
      simp only [if_true]
      exact carriers c List.mem_cons_self
    · simp only [carries, if_false]
      exact clauses k c List.mem_cons_self carries

/-- Related semantics give related meanings over databases that are related at the nodes
    that the scoping rules show. The induction carries the children along, for the entries
    of a WITH are grandchildren of its block. -/
theorem meaning_related (respects : Respects R S S') (e : Expression) : ∀ b b', Related R b b' →
    RelatedIn R S.asks D D' (keys b) e → R (meaning S D b e) (meaning S' D' b' e) := by
  suffices both : (∀ b b', Related R b b' → RelatedIn R S.asks D D' (keys b) e → R (meaning S D b e) (meaning S' D' b' e)) ∧
      ∀ k c, (k, c) ∈ e.children → ∀ b b', Related R b b' → RelatedIn R S.asks D D' (keys b) c →
        R (meaning S D b c) (meaning S' D' b' c) from both.1
  induction e using Tree.induct with
  | node e ih =>
    refine ⟨?_, fun k c child => (ih k c child).1⟩
    intro b b' related databases
    have entries : ∀ w, (.with_, w) ∈ e.children →
        List.Forall₂ R (entryValues S D b [] w.children) (entryValues S' D' b' [] w.children) := by
      intro w carries
      refine related_entryValues respects related ?_ (show w.children = [] ++ w.children from rfl) .nil rfl
      intro done k c rest split inScope inScope' scope names
      have entry : (k, c) ∈ w.children := by
        rw [split]
        exact List.mem_append_right _ List.mem_cons_self
      refine (ih _ w carries).2 k c entry _ _ scope fun env' n sees => ?_
      rw [names] at sees
      exact databases env' n (.entry carries split sees)
    have scope := (related_inner entries).append related
    have names : keys (inner S D b e.children ++ b) = withNames e ++ keys b := by
      rw [keys_append, keys_inner]
      rfl
    rw [meaning_eq, meaning_eq]
    refine related_compose respects related (databases _ _ (.here _ _)) (related_values ?_ ?_)
    · intro w carries
      refine related_compose respects related (databases _ _ (.carrier carries)) ?_
      exact related_zip _ (entries w carries)
    · intro k c child other
      refine (ih k c child).1 _ _ scope fun env' n sees => ?_
      rw [names] at sees
      exact databases env' n (.clause child other sees)
end

/-! ### What a statement reads -/

/-- The databases agree on every reference with a granted dotted name, and on nothing else. -/
def AgreeOn {V : Type} (granted : Finset PyStr) (D D' : Database V) : Prop :=
  ∀ table, name table ≠ [] → dottedName table ∈ granted → D.object table = D'.object table

/-- In every semantics in which these nodes ask the database, the statement means the same
    in databases that agree on the granted references. -/
def Confined (asks : Expression → Bool) (granted : Finset PyStr) (stmt : Expression) : Prop :=
  ∀ (V : Type) (S : Semantics V) (D D' : Database V), S.asks = asks → AgreeOn granted D D' →
    meaning S D [] stmt = meaning S D' [] stmt

/-- No node reads the database but the tables, by their names. -/
def TablesRead (asks : Expression → Bool) (stmt : Expression) : Prop :=
  TablesNamed stmt ∧ ∀ n ∈ stmt.nodes, nodeType n ≠ .Table → asks n = false

theorem tablesRead_iff {asks : Expression → Bool} {stmt : Expression} : TablesRead asks stmt ↔ ∀ n ∈ stmt.nodes, ¬ Calls asks n := by
  constructor
  · rintro ⟨named, quiet⟩ n member calls
    unfold Calls at calls
    split_ifs at calls with isTable
    · exact (name_ne_nil_iff isTable).mpr (named n member isTable) calls
    · rw [quiet n member isTable] at calls
      cases calls
  · intro none
    refine ⟨fun n member isTable => (name_ne_nil_iff isTable).mp fun unnamed => ?_, fun n member other => ?_⟩
    · exact none n member (by simpa [Calls, isTable] using unnamed)
    · exact Bool.eq_false_iff.mpr fun asking => none n member (by simpa [Calls, other] using asking)

theorem related_eq {κ V : Type} {vs vs' : List (κ × V)} (related : Related Eq vs vs') : vs = vs' := by
  induction related with
  | nil => rfl
  | @cons p p' _ _ pair _ ih =>
    obtain rfl : p = p' := Prod.ext pair.1 pair.2
    rw [ih]

theorem respects_eq {V : Type} (S : Semantics V) : Respects Eq S S where
  asks _ := rfl
  table := by
    rintro l s s' vs vs' rfl related
    rw [related_eq related]
  node := by
    rintro l vs vs' related
    rw [related_eq related]
  recursive := by
    intro F F' same
    rw [show F = F' from funext fun v => same v v rfl]

/-- A statement whose real objects are granted, and that reads nothing but named tables, is
    confined to what is granted. -/
theorem confined_of_granted {asks : Expression → Bool} {granted : Finset PyStr} {stmt : Expression}
    (real : ∀ x, RealObject stmt x → x ∈ granted) (reads : TablesRead asks stmt) : Confined asks granted stmt := by
  rintro V S D D' rfl agree
  refine meaning_related (respects_eq S) stmt [] [] .nil fun env n sees => ⟨?_, ?_⟩
  · exact fun calls => absurd calls (tablesRead_iff.mp reads n (sees_mem sees))
  · intro isTable given notCte
    exact agree _ given (real _ ⟨env, n, sees, isTable, given, notCte, rfl⟩)

/-! ### Nothing less is enough -/

/-- The semantics that tells whether anything was found below. -/
def detect (asks : Expression → Bool) : Semantics Bool where
  asks := asks
  table _ found values := found || values.any Prod.snd
  node _ values := values.any Prod.snd
  recursive F := F false

/-- The references with this dotted name are found, and the calls if so asked. -/
def finding (x : Option PyStr) (calls : Bool) : Database Bool where
  object table := x = some (dottedName table)
  call _ values := calls || values.any Prod.snd

section
variable {asks : Expression → Bool} {x : Option PyStr} {calls : Bool} {outside inside before bindings : Bindings Bool}

theorem mem_values {S : Semantics Bool} {D : Database Bool} {k : ArgKey} {c : Expression} {cs : List (ArgKey × Expression)}
    (child : (k, c) ∈ cs) {value : Bool} (has : (if k = .with_ then carried S D outside c else meaning S D inside c) = value) :
    (k, value) ∈ values S D outside inside cs := by
  induction cs with
  | nil => cases child
  | cons first cs ih =>
    obtain ⟨k', c'⟩ := first
    rw [values_cons]
    rcases List.mem_cons.mp child with same | later
    · obtain ⟨rfl, rfl⟩ := Prod.mk.inj same
      rw [has]
      exact List.mem_cons_self
    · exact List.mem_cons_of_mem _ (ih later)

theorem length_entryValues {S : Semantics Bool} {D : Database Bool} (entries : List (ArgKey × Expression)) :
    (entryValues S D outside before entries).length = entries.length := by
  induction entries generalizing before with
  | nil => rfl
  | cons entry entries ih =>
    obtain ⟨k, c⟩ := entry
    rw [entryValues_cons, List.length_cons, List.length_cons, ih]

theorem mem_entryValues {S : Semantics Bool} {D : Database Bool} {k : ArgKey} {c : Expression}
    (done rest : List (ArgKey × Expression)) : ∃ earlier, keys earlier = keys before ++ boundBy done ∧
      entryValue S D outside earlier c ∈ entryValues S D outside before (done ++ (k, c) :: rest) := by
  induction done generalizing before with
  | nil =>
    refine ⟨before, (List.append_nil _).symm, ?_⟩
    rw [List.nil_append, entryValues_cons]
    exact List.mem_cons_self
  | cons entry done ih =>
    obtain ⟨k', c'⟩ := entry
    obtain ⟨earlier, names, member⟩ := @ih (before ++ bind c' (entryValue S D outside before c'))
    refine ⟨earlier, ?_, ?_⟩
    · rw [names, keys_append, keys_bind, List.append_assoc]
      rfl
    · rw [List.cons_append, entryValues_cons]
      exact List.mem_cons_of_mem _ member

theorem mem_zip_of_mem {κ ν : Type} {names : List κ} {vs : List ν} (long : vs.length = names.length) {v : ν} (member : v ∈ vs) :
    ∃ k, (k, v) ∈ names.zip vs := by
  rw [← @List.map_snd_zip _ _ names vs long.le] at member
  obtain ⟨⟨k, v'⟩, inZip, rfl⟩ := List.mem_map.mp member
  exact ⟨k, inZip⟩

/-- What is found below a node is found at the node. -/
theorem compose_found {e : Expression} {vs : List (ArgKey × Bool)} (found : ∃ k, (k, true) ∈ vs) :
    compose (detect asks) (finding x calls) bindings e vs = true := by
  obtain ⟨k, member⟩ := found
  have any : vs.any Prod.snd = true := List.any_eq_true.mpr ⟨_, member, rfl⟩
  unfold compose
  split_ifs
  · simp [finding, any]
  · exact any
  · simp [finding, any]
  · simp [detect, any]

/-- A node that is found wherever it is seen is found from the root. -/
theorem sees_found {env env' : Names} {e t : Expression} (sees : Sees env e env' t)
    (here : ∀ b vs, keys b = env' → compose (detect asks) (finding x calls) b t vs = true) :
    ∀ b, keys b = env → meaning (detect asks) (finding x calls) b e = true := by
  induction sees with
  | here env e =>
    intro b names
    rw [meaning_eq]
    exact here b _ names
  | @carrier env e w carries =>
    intro b names
    rw [meaning_eq]
    refine compose_found ⟨.with_, mem_values carries ?_⟩
    rw [if_pos rfl]
    exact here b _ names
  | @entry env env' e w c n k done rest carries split inside ih =>
    intro b names
    obtain ⟨earlier, scope, member⟩ : ∃ earlier, keys earlier = boundBy done ∧
        entryValue (detect asks) (finding x calls) b earlier c ∈ entryValues (detect asks) (finding x calls) b [] w.children := by
      rw [split]
      exact @mem_entryValues b [] (detect asks) (finding x calls) k c done rest
    have value : entryValue (detect asks) (finding x calls) b earlier c = true := by
      refine ih here _ ?_
      rw [keys_append, keys_append, keys_bind, scope, names]
      simp [boundBy]
    rw [meaning_eq]
    refine compose_found ⟨.with_, mem_values carries ?_⟩
    rw [if_pos rfl]
    refine compose_found (mem_zip_of_mem ?_ (value ▸ member))
    rw [length_entryValues, List.length_map]
  | @clause env env' e c n k child other inside ih =>
    intro b names
    rw [meaning_eq]
    refine compose_found ⟨k, mem_values child ?_⟩
    rw [if_neg other]
    refine ih here _ ?_
    rw [keys_append, keys_inner, names]
    rfl

/-- Where nothing is to be found, nothing is. -/
theorem meaning_silent (e : Expression) : meaning (detect asks) (finding none false) [] e = false := by
  have quiet : ∀ {vs vs' : List (ArgKey × Bool)}, Related (fun v _ : Bool => v = false) vs vs' → vs.any Prod.snd = false := by
    intro vs vs' related
    induction related with
    | nil => rfl
    | cons pair _ ih => rw [List.any_cons, pair.2, ih]; rfl
  have respects : Respects (fun v _ : Bool => v = false) (detect asks) (detect asks) :=
    { asks := fun _ => rfl
      table := fun _ _ _ _ _ found related => by simp [detect, found, quiet related]
      node := fun _ _ _ related => quiet related
      recursive := fun F _ each => each false false rfl }
  have databases : RelatedIn (fun v _ : Bool => v = false) asks (finding none false) (finding none false) [] e :=
    fun _ _ _ => ⟨fun _ _ _ related => quiet related, fun _ _ _ => rfl⟩
  exact meaning_related respects e [] [] .nil databases
end

/-- A confined statement has only granted objects, and reads nothing but named tables. -/
theorem granted_of_confined {asks : Expression → Bool} {granted : Finset PyStr} {stmt : Expression}
    (confined : Confined asks granted stmt) : (∀ x, RealObject stmt x → x ∈ granted) ∧ TablesRead asks stmt := by
  constructor
  · rintro x ⟨env, table, sees, isTable, named, notCte, rfl⟩
    by_contra missing
    have agree : AgreeOn granted (finding (some (dottedName table)) false) (finding none false) := by
      intro other _ inside
      have differs : dottedName table ≠ dottedName other := fun same => missing (same ▸ inside)
      simp [finding, differs]
    have found : meaning (detect asks) (finding (some (dottedName table)) false) [] stmt = true := by
      refine sees_found sees (fun b vs names => ?_) [] rfl
      have here : source (finding (some (dottedName table)) false) b table = true := by
        rw [source_object (names ▸ notCte)]
        exact decide_eq_true rfl
      unfold compose
      rw [if_neg (not_not.mpr isTable), if_neg named, here]
      rfl
    have same := confined Bool (detect asks) _ _ rfl agree
    rw [found, meaning_silent] at same
    cases same
  · refine tablesRead_iff.mpr fun n member asking => ?_
    obtain ⟨env, sees⟩ := mem_sees member []
    have found : meaning (detect asks) (finding none true) [] stmt = true := by
      refine sees_found sees (fun b vs _ => ?_) [] rfl
      unfold Calls at asking
      unfold compose
      split_ifs at asking with isTable
      · rw [if_neg (not_not.mpr isTable), if_pos asking]
        rfl
      · rw [if_pos isTable, if_pos (show (detect asks).asks n = true from asking)]
        rfl
    have same := confined Bool (detect asks) (finding none true) (finding none false) rfl fun _ _ _ => rfl
    rw [found, meaning_silent] at same
    cases same

end OracleSchema.Meaning
