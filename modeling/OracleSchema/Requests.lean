import OracleSchema.Numerals
import OracleSchema.Placeholders
import OracleSchema.Tools

/-!
What a tool sends. The text depends on the tool, on which optional arguments are given
and on the number of configured owners; the strings of a call and of the configuration
are bind values only, each under a placeholder of the text (`texts_agree`).
-/
namespace OracleSchema.Requests
open OracleSchema.Casing OracleSchema.Strings OracleSchema.Errors OracleSchema.Settings OracleSchema.Dictionary OracleSchema.Tools
open OracleSchema.Numerals OracleSchema.Placeholders

/-- A tool and which of its optional arguments are given. -/
inductive Form
  | list_schemas
  | list_tables
  | describe_table
  | find_columns (ownerGiven : Bool)
  | list_relationships (tableGiven : Bool)
  | get_constraints
  deriving DecidableEq

def form : ToolCall → Form
  | .list_schemas => .list_schemas
  | .list_tables _ => .list_tables
  | .describe_table _ _ => .describe_table
  | .find_columns _ owner => .find_columns owner.isSome
  | .list_relationships _ table => .list_relationships table.isSome
  | .get_constraints _ _ => .get_constraints

/-- Bind variables as the driver reads them: a colon and a word, outside quotes. -/
def bindNames : Lexis CodePoint where
  mark := 58
  isQuote c := c = 39 || c = 34
  isWord c := (48 ≤ c.val && c.val ≤ 57) || (65 ≤ c.val && c.val ≤ 90) || (97 ≤ c.val && c.val ≤ 122) ||
    c = 95 || c = 36 || c = 35

/-- The generated names for so many owners. -/
def generated (count : Nat) : List PyStr := (List.range count).map (fun i : Nat => lit "owner_" ++ intText i)

/-- The owner predicate without an owner argument. -/
def listed (count : Nat) : OwnerFilter := if count = 0 then .unrestricted else .among (generated count)

/-- The statement of a form, for so many configured owners. -/
def statement (count : Nat) : Form → Statement
  | .list_schemas => .listSchemas (listed count)
  | .list_tables => .listTables
  | .describe_table => .describeTable
  | .find_columns ownerGiven => .findColumns (if ownerGiven then .bound else listed count)
  | .list_relationships tableGiven => .listRelationships tableGiven
  | .get_constraints => .getConstraints

/-! ### The owner predicate -/

theorem numbered (owners : List PyStr) :
    (owners.zipIdx.map (fun entry => (lit "owner_" ++ intText entry.2, entry.1))).map Prod.fst = generated owners.length := by
  have indices : owners.zipIdx.map Prod.snd = List.range owners.length := by
    rw [List.zipIdx_map_snd, List.range_eq_range']
  rw [generated, ← indices, List.map_map, List.map_map]
  rfl

/-- The predicate has the form that the number of owners decides, and binds its own names. -/
theorem ownerPredicate_listed {cfg : Config} {pred : OwnerFilter × List (PyStr × PyStr)}
    (built : ownerPredicate cfg none = .ok pred) :
    pred.1 = listed cfg.allowed_owners.card ∧
      pred.2.map Prod.fst = generated cfg.allowed_owners.card := by
  unfold ownerPredicate at built
  simp only at built
  by_cases empty : cfg.allowed_owners = ∅
  · rw [if_pos empty] at built
    obtain rfl := Except.ok.inj built
    rw [empty]
    exact ⟨rfl, rfl⟩
  · rw [if_neg empty] at built
    obtain rfl := Except.ok.inj built
    have size : (sorted cfg.allowed_owners).length = cfg.allowed_owners.card := Finset.length_sort _
    have some : cfg.allowed_owners.card ≠ 0 := by simpa using empty
    simp only [numbered, size, listed, if_neg some, and_self]

theorem ownerPredicate_bound {cfg : Config} {owner : PyStr} {pred : OwnerFilter × List (PyStr × PyStr)}
    (built : ownerPredicate cfg (some owner) = .ok pred) : pred.1 = .bound ∧ pred.2.map Prod.fst = [lit "owner"] := by
  obtain ⟨norm, guarded, rfl⟩ := map_eq_ok.mp built
  exact ⟨rfl, rfl⟩

/-! ### Placeholders -/

theorem isWord_generated {count : Nat} : ∀ key ∈ generated count, key ≠ [] ∧ ∀ c ∈ key, bindNames.isWord c = true := by
  intro key member
  obtain ⟨i, -, rfl⟩ := List.mem_map.mp member
  refine ⟨by simp [lit], fun c inKey => ?_⟩
  rcases List.mem_append.mp inKey with inPrefix | inNumber
  · have letters : (lit "owner_").all bindNames.isWord = true := by decide
    exact List.all_eq_true.mp letters c inPrefix
  · rw [intText_eq, if_neg (by omega)] at inNumber
    have digit := isDigit_iff.mp (isDigit_natText c inNumber)
    simp [bindNames, digit.1, digit.2]

/-- A text around the list of the generated names. -/
theorem placeholders_among {front back : PyStr} (names : List PyStr) (count : Nat)
    (opens : scan bindNames .plain (front ++ lit "owner IN (") = (.plain, names)) (named : [] ∉ names)
    (closes : placeholders bindNames (lit ")" ++ back) = []) :
    placeholders bindNames (front ++ (OwnerFilter.among (generated count)).text (lit "owner") ++ back) =
      names ++ generated count := by
  have pieces : front ++ (OwnerFilter.among (generated count)).text (lit "owner") ++ back =
      (front ++ lit "owner IN (") ++
        (List.intercalate (44 :: [32]) ((generated count).map (fun key => bindNames.mark :: key)) ++ 41 :: back) := by
    rw [OwnerFilter.text, show lit "owner IN (" = lit "owner" ++ lit " IN (" from rfl]
    simp only [List.append_assoc]
    rfl
  have kept : names.filter (fun name => !name.isEmpty) = names := by
    rw [List.filter_eq_self]
    intro name member
    have nonempty : name ≠ [] := fun empty => named (empty ▸ member)
    simpa using nonempty
  rw [pieces, placeholders_piece opens, kept, placeholders_list isWord_generated (by decide) (by decide) (by decide)]
  rw [show (41 :: back : PyStr) = lit ")" ++ back from rfl, closes, List.append_nil]

/-- The bind names of a form, for so many configured owners. -/
def keys (count : Nat) : Form → List PyStr
  | .list_schemas => generated count
  | .list_tables => [lit "owner"]
  | .describe_table => [lit "owner", lit "tname"]
  | .find_columns ownerGiven => lit "pat" :: if ownerGiven then [lit "owner"] else generated count
  | .list_relationships tableGiven => lit "owner" :: if tableGiven then [lit "tname"] else []
  | .get_constraints => [lit "owner", lit "tname"]

theorem placeholders_statement (count : Nat) (form : Form) :
    placeholders bindNames (statement count form).text = keys count form := by
  cases form with
  | list_schemas =>
    cases count with
    | zero => decide +kernel
    | succ n =>
      rw [statement, listed, if_neg (Nat.succ_ne_zero n), Statement.text, placeholders_among []]
      · rfl
      · decide +kernel
      · decide
      · decide +kernel
  | find_columns ownerGiven =>
    cases ownerGiven with
    | true =>
      show placeholders bindNames (Statement.findColumns .bound).text = [lit "pat", lit "owner"]
      rw [Statement.text, lit_ofList, lit_ofList]
      decide +kernel
    | false =>
      cases count with
      | zero => decide +kernel
      | succ n =>
        rw [statement, listed, if_neg Bool.false_ne_true, if_neg (Nat.succ_ne_zero n), Statement.text,
          placeholders_among [lit "pat"]]
        · rfl
        · rw [lit_ofList]
          decide +kernel
        · decide
        · decide +kernel
  | list_relationships tableGiven =>
    rw [statement, Statement.text, lit_ofList, lit_ofList, lit_ofList]
    cases tableGiven with
    | true =>
      show _ = [lit "owner", lit "tname"]
      decide +kernel
    | false =>
      show _ = [lit "owner"]
      decide +kernel
  | list_tables =>
    show _ = [lit "owner"]
    rw [statement, Statement.text, lit_ofList]
    decide +kernel
  | describe_table =>
    show _ = [lit "owner", lit "tname"]
    rw [statement, Statement.text, lit_ofList]
    decide +kernel
  | get_constraints =>
    show _ = [lit "owner", lit "tname"]
    rw [statement, Statement.text, lit_ofList]
    decide +kernel

/-! ### Requests -/

theorem mem_dict {entries : List (PyStr × PyStr)} {name : PyStr} : name ∈ dict entries ↔ name ∈ entries.map Prod.fst := by
  have inserted : ∀ start : Binds, name ∈ entries.foldl (fun binds entry => binds.insert entry.1 entry.2) start ↔
      name ∈ start ∨ name ∈ entries.map Prod.fst := by
    induction entries with
    | nil => simp
    | cons entry entries ih =>
      intro start
      rw [List.foldl_cons, ih, AList.mem_insert, List.map_cons, List.mem_cons]
      tauto
  rw [dict, inserted]
  exact or_iff_right (AList.notMem_empty name)

/-- The statement of a request is that of its form, and its binds are the names of the form. -/
theorem request_form {cfg : Config} {call : ToolCall} {request : Request} (sent : call.request cfg = .ok request) :
    request.statement = statement cfg.allowed_owners.card (form call) ∧
      ∃ entries, request.binds = dict entries ∧ entries.map Prod.fst = keys cfg.allowed_owners.card (form call) := by
  cases call with
  | list_schemas =>
    obtain ⟨pred, built, rfl⟩ := map_eq_ok.mp sent
    obtain ⟨filter, names⟩ := ownerPredicate_listed built
    exact ⟨by rw [filter]; rfl, pred.2, rfl, names⟩
  | list_tables owner =>
    obtain ⟨norm, guarded, rfl⟩ := map_eq_ok.mp sent
    exact ⟨rfl, _, rfl, rfl⟩
  | describe_table owner table =>
    obtain ⟨norm, guarded, rfl⟩ := map_eq_ok.mp sent
    exact ⟨rfl, _, rfl, rfl⟩
  | find_columns name_pattern owner =>
    obtain ⟨pred, built, rfl⟩ := map_eq_ok.mp sent
    cases owner with
    | none =>
      obtain ⟨filter, names⟩ := ownerPredicate_listed built
      refine ⟨by rw [filter]; rfl, _, rfl, ?_⟩
      rw [List.map_append, names]
      rfl
    | some owner =>
      obtain ⟨filter, names⟩ := ownerPredicate_bound built
      refine ⟨by rw [filter]; rfl, _, rfl, ?_⟩
      rw [List.map_append, names]
      rfl
  | list_relationships owner table =>
    obtain ⟨norm, guarded, rfl⟩ := map_eq_ok.mp sent
    cases table with
    | none => exact ⟨rfl, _, rfl, rfl⟩
    | some table => exact ⟨rfl, _, rfl, rfl⟩
  | get_constraints owner table =>
    obtain ⟨norm, guarded, rfl⟩ := map_eq_ok.mp sent
    exact ⟨rfl, _, rfl, rfl⟩

/-- Two calls of one form under allow-lists of one size send the same text, and the
    placeholders of the text are the names that are bound. -/
theorem texts_agree {cfg cfg' : Config} {call call' : ToolCall} {request request' : Request}
    (sameForm : form call = form call') (sameSize : cfg.allowed_owners.card = cfg'.allowed_owners.card)
    (sent : call.request cfg = .ok request) (sent' : call'.request cfg' = .ok request') :
    request.statement.text = request'.statement.text ∧
      ∀ name, name ∈ placeholders bindNames request.statement.text ↔ name ∈ request.binds := by
  obtain ⟨shape, entries, binds, names⟩ := request_form sent
  constructor
  · rw [shape, (request_form sent').1, sameForm, sameSize]
  · intro name
    rw [binds, mem_dict, names, shape, placeholders_statement]

/-- Only FIN is allowed. -/
def onlyFin : Config := ⟨lit "db", lit "APP", lit "pw", {lit "FIN"}, 200, 4, .dev_insecure, none, none, none, ∅⟩

/-- Two searches without an owner, in HR and in FIN, send one text. -/
theorem texts_agree_columns : ∃ request request', (ToolCall.find_columns (lit "ENAME") none).request onlyHr = .ok request ∧
    (ToolCall.find_columns (lit "AMOUNT") none).request onlyFin = .ok request' ∧
      request.statement.text = request'.statement.text ∧
        ∀ name, name ∈ placeholders bindNames request.statement.text ↔ name ∈ request.binds := by
  obtain ⟨request, sent⟩ : ∃ request, (ToolCall.find_columns (lit "ENAME") none).request onlyHr = .ok request := ⟨_, rfl⟩
  obtain ⟨request', sent'⟩ : ∃ request, (ToolCall.find_columns (lit "AMOUNT") none).request onlyFin = .ok request := ⟨_, rfl⟩
  have size : onlyHr.allowed_owners.card = onlyFin.allowed_owners.card := by decide
  have sameForm : form (.find_columns (lit "ENAME") none) = form (.find_columns (lit "AMOUNT") none) := rfl
  exact ⟨request, request', sent, sent', texts_agree sameForm size sent sent'⟩

end OracleSchema.Requests
