import Mathlib.Algebra.Order.BigOperators.Group.List
import Mathlib.Algebra.Order.Group.Nat
import OracleSchema.Codec
import OracleSchema.Escapes
import OracleSchema.Rotation

/-!
The kernel and the processes of the tool as one system. The kernel mints a ticket for each
dispatch; anybody may present any token with any arguments to any process, at any time and
as often as they like, but only the kernel can sign. Processes come and go, each with a
replay cache of its own and a clock that may show anything. What a process takes to the
database agrees with a ticket, and while its clock does not go back it takes there no ticket
twice (`agreement`). The first presentation of a ticket with its own arguments gets there
exactly if the ticket is live, for this tool and for an admitted statement, and no null is
lost from its arguments (`first_passes_iff`).
-/
namespace OracleSchema.Dispatch
open OracleSchema.Strings OracleSchema.Errors OracleSchema.Settings OracleSchema.Json OracleSchema.SqlTree OracleSchema.SqlGate
open OracleSchema.RowBound OracleSchema.QueryContext OracleSchema.SeenSets OracleSchema.Replay OracleSchema.Traced
open OracleSchema.Execution OracleSchema.Pipeline OracleSchema.Sharing OracleSchema.JsonReader OracleSchema.Values
open OracleSchema.Canonical OracleSchema.Digests OracleSchema.Codec OracleSchema.Escapes OracleSchema.Rotation

/-! ### Tickets -/

/-- A dispatch: the claims, the arguments that the agent wrote, and the payload that the
    kernel signs. The claims carry the digest of the arguments. -/
structure Ticket (sha256_hexdigest : Bytes → PyStr) (float : PyStr → PyFloat) where
  claims : QueryContextClaims
  arguments : Value float
  payload : Bytes
  issued : claims.iss = issuer
  digest : ∃ bytes, canonicalBytes arguments.raw = .ok bytes ∧ sha256_hexdigest bytes = claims.args_sha256
  written : canonicalBytes (.dict (wireItems claims)) = .ok payload

/-- The key pair of the kernel; `mint` is `jws.serialize_compact` under the private key. -/
structure Signer (J : Joserfc) where
  public_pem : Bytes
  mint : Bytes → PyStr
  given : ∀ payload, mint payload ≠ []
  verifies : ∀ payload, J.deserialize (mint payload) public_pem = .ok payload

section
variable {sha256_hexdigest : Bytes → PyStr} {float : PyStr → PyFloat}

/-- A signed payload is parsed to the claims that it was made from. -/
theorem Ticket.parsed (ticket : Ticket sha256_hexdigest float) :
    parseClaims (loads float) ticket.payload = .ok ticket.claims := by
  have read := loads_canonicalBytes ⟨_, sound_wireItems float ticket.claims⟩ ticket.written
  have kept : (byKey (wireItems ticket.claims)).map (fun item => (item.1, arranged item.2)) = byKey (wireItems ticket.claims) := by
    refine (List.map_congr_left fun item member => ?_).trans (List.map_id _)
    rw [arranged_wireItems item ((byKey_perm _).subset member)]
    rfl
  rw [arranged_dict, kept] at read
  exact parseClaims_ok_iff.mpr ⟨_, read, wireForm_perm ticket.issued (byKey_perm _)⟩

/-- The payload determines the claims. -/
theorem Ticket.claims_of_payload {ticket : Ticket sha256_hexdigest float} {payload : Bytes} {items : List (PyValue × PyValue)}
    {claims : QueryContextClaims} (same : ticket.payload = payload) (read : loads float payload = .ok (.dict items))
    (form : WireForm items claims) : claims = ticket.claims := by
  have parsed := ticket.parsed
  rw [same, parseClaims_ok_iff.mpr ⟨items, read, form⟩] at parsed
  exact Except.ok.inj parsed
end

/-! ### The fleet -/

/-- The tickets that were minted and the processes that were started. -/
structure Fleet (L : Libraries) (float : PyStr → PyFloat) where
  tickets : List (Ticket L.sha256_hexdigest float)
  processes : List Server

section
variable (L : Libraries) {float : PyStr → PyFloat}

/-- Only the kernel signs: what verifies under a configured key is the payload of a ticket. -/
def Genuine (tickets : List (Ticket L.sha256_hexdigest float)) (job : Job) : Prop :=
  ∀ keys, ConfiguredKeys job.surroundings keys → ∀ pem ∈ keys, ∀ payload,
    L.joserfc.deserialize job.call.token pem = .ok payload → ∃ ticket ∈ tickets, ticket.payload = payload

/-- A step of one process, whatever its clock shows: it takes up a call, or one of its
    database legs ends. -/
inductive ProcessStep : Server → Server → Prop
  | arrive {s : Server} (W : Surroundings) (call : Call) :
      ProcessStep s ⟨(preflight L W call s.cache).cache, W.now, ⟨W, call, stageAfter (preflight L W call s.cache)⟩ :: s.jobs⟩
  | leave {s : Server} {before after : List Job} {W : Surroundings} {call : Call} {plan : Plan} {trace : List Event}
      (waiting : s.jobs = before ++ ⟨W, call, .inLeg plan trace⟩ :: after) :
      ProcessStep s ⟨s.cache, s.clock, before ++ ⟨W, call, .left plan (databaseLeg L W call plan trace).1⟩ :: after⟩

inductive FleetStep : Fleet L float → Fleet L float → Prop
  /-- The kernel mints a ticket. -/
  | mint {f : Fleet L float} (ticket : Ticket L.sha256_hexdigest float) : FleetStep f { f with tickets := ticket :: f.tickets }
  /-- A process starts; one that takes no more steps has ended. -/
  | start {f : Fleet L float} (clock : Int) : FleetStep f { f with processes := f.processes ++ [.initial clock] }
  /-- A process takes up a call, or one of its database legs ends. -/
  | serve {f : Fleet L float} {i : Nat} {s s' : Server} (there : f.processes[i]? = some s) (step : ProcessStep L s s')
      (genuine : ∀ job ∈ s'.jobs, Genuine L f.tickets job) :
      FleetStep f { f with processes := f.processes.set i s' }

/-- What runs of the fleet lead to, from no tickets and no processes. -/
def Reachable (f : Fleet L float) : Prop := Relation.ReflTransGen (FleetStep L) ⟨[], []⟩ f

variable {L} in
/-- The kernel gives each ticket an id of its own. -/
def DistinctIds (f : Fleet L float) : Prop := (f.tickets.map (fun ticket => ticket.claims.jti)).Nodup

/-! ### What a fleet keeps -/

/-- A process that came about by its own steps, from calls that the kernel's signature covers. -/
structure Lawful (tickets : List (Ticket L.sha256_hexdigest float)) (s : Server) : Prop where
  reached : ∃ start, Relation.ReflTransGen (ProcessStep L) (.initial start) s
  genuine : ∀ job ∈ s.jobs, Genuine L tickets job
end

section
variable {L : Libraries} {float : PyStr → PyFloat}

theorem Genuine.mono {tickets tickets' : List (Ticket L.sha256_hexdigest float)} (more : tickets ⊆ tickets') {job : Job}
    (genuine : Genuine L tickets job) : Genuine L tickets' job := by
  intro keys configured pem inKeys payload verified
  obtain ⟨ticket, minted, same⟩ := genuine keys configured pem inKeys payload verified
  exact ⟨ticket, more minted, same⟩

theorem step_lawful {f f' : Fleet L float} (step : FleetStep L f f') (lawful : ∀ s ∈ f.processes, Lawful L f.tickets s) :
    ∀ s ∈ f'.processes, Lawful L f'.tickets s := by
  cases step with
  | mint ticket =>
    intro s running
    obtain ⟨reached, genuine⟩ := lawful s running
    exact ⟨reached, fun job taken => (genuine job taken).mono (List.subset_cons_self _ _)⟩
  | start clock =>
    intro s running
    rcases List.mem_append.mp running with older | new
    · exact lawful s older
    · obtain rfl := List.mem_singleton.mp new
      exact ⟨⟨clock, .refl⟩, by simp [Server.initial]⟩
  | @serve i s s' there step genuine =>
    intro r running
    rcases List.mem_or_eq_of_mem_set running with older | rfl
    · exact lawful r older
    · obtain ⟨start, steps⟩ := (lawful s (List.mem_of_getElem? there)).reached
      exact ⟨⟨start, steps.tail step⟩, genuine⟩

theorem reachable_lawful {f : Fleet L float} (reachable : Reachable L f) : ∀ s ∈ f.processes, Lawful L f.tickets s := by
  induction reachable with
  | refl => simp
  | tail _ step ih => exact step_lawful step ih

/-- The calls before a step are among those after it. -/
theorem step_calls {s s' : Server} (step : ProcessStep L s s') {job : Job} (taken : job ∈ s.jobs) :
    ∃ job' ∈ s'.jobs, job'.surroundings = job.surroundings ∧ job'.call = job.call := by
  cases step with
  | arrive W call => exact ⟨job, List.mem_cons_of_mem _ taken, rfl, rfl⟩
  | leave waiting =>
    rw [waiting] at taken
    simp only [List.mem_append, List.mem_cons] at taken ⊢
    rcases taken with early | rfl | late
    · exact ⟨job, .inl early, rfl, rfl⟩
    · exact ⟨_, .inr (.inl rfl), rfl, rfl⟩
    · exact ⟨job, .inr (.inr late), rfl, rfl⟩

theorem genuine_before {tickets : List (Ticket L.sha256_hexdigest float)} {s s' : Server} (step : ProcessStep L s s')
    (genuine : ∀ job ∈ s'.jobs, Genuine L tickets job) : ∀ job ∈ s.jobs, Genuine L tickets job := by
  intro job taken
  obtain ⟨job', taken', sameW, sameCall⟩ := step_calls step taken
  have own := genuine job' taken'
  unfold Genuine at own ⊢
  rwa [sameW, sameCall] at own

/-! ### Clocks that do not go back -/

/-- No call of the process has read its clock behind an earlier call. -/
def Forward (s : Server) : Prop := s.jobs.Pairwise (fun later earlier => earlier.surroundings.now ≤ later.surroundings.now)

/-- Verified claims of a genuine call are those of a ticket. -/
theorem ticket_of_context (reads : L.loads = loads float) {tickets : List (Ticket L.sha256_hexdigest float)} {job : Job}
    (genuine : Genuine L tickets job) {claims : QueryContextClaims} (context : ContextVerified L job.surroundings job.call claims) :
    ∃ ticket ∈ tickets, claims = ticket.claims := by
  obtain ⟨keys, configured, verified⟩ := context.verified
  obtain ⟨pem, inKeys, payload, items, signed, read, form⟩ := verified.signed
  obtain ⟨ticket, minted, same⟩ := genuine keys configured pem inKeys payload signed
  rw [reads] at read
  exact ⟨ticket, minted, ticket.claims_of_payload same read form⟩

variable (L) in
/-- The digest of the arguments on the ticket is that of other arguments too. -/
def Collides (ticket : Ticket L.sha256_hexdigest float) (call : Call) : Prop :=
  ∃ bytes bytes', canonicalBytes ticket.arguments.raw = .ok bytes ∧ canonicalBytes (argsBasis call) = .ok bytes' ∧
    bytes ≠ bytes' ∧ L.sha256_hexdigest bytes = L.sha256_hexdigest bytes'

/-- An entry of the cache stems from a call with verified claims. -/
theorem step_known {s s' : Server} (step : ProcessStep L s s')
    (known : ∀ jti exp, s.cache.lookup jti = some exp →
      ∃ job ∈ s.jobs, ∃ claims, ContextVerified L job.surroundings job.call claims ∧ claims.jti = jti) :
    ∀ jti exp, s'.cache.lookup jti = some exp →
      ∃ job ∈ s'.jobs, ∃ claims, ContextVerified L job.surroundings job.call claims ∧ claims.jti = jti := by
  intro jti exp held
  have older : ∀ exp, s.cache.lookup jti = some exp →
      ∃ job ∈ s'.jobs, ∃ claims, ContextVerified L job.surroundings job.call claims ∧ claims.jti = jti := by
    intro exp held
    obtain ⟨job, taken, claims, context, same⟩ := known jti exp held
    obtain ⟨job', taken', sameW, sameCall⟩ := step_calls step taken
    exact ⟨job', taken', claims, by rwa [sameW, sameCall], same⟩
  cases step with
  | arrive W call =>
    rcases preflight_cache L W call s.cache with ⟨_, same⟩ | ⟨claims, _, context, recorded⟩
    · rw [same] at held
      exact older exp held
    · rw [recorded, record_eq_some] at held
      rcases held with ⟨_, rfl, _⟩ | ⟨before, _⟩
      · exact ⟨_, List.mem_cons_self, claims, context, rfl⟩
      · exact older exp before
  | leave waiting => exact older exp held

theorem reached_known {start : Int} {s : Server} (steps : Relation.ReflTransGen (ProcessStep L) (.initial start) s) :
    ∀ jti exp, s.cache.lookup jti = some exp →
      ∃ job ∈ s.jobs, ∃ claims, ContextVerified L job.surroundings job.call claims ∧ claims.jti = jti := by
  induction steps with
  | refl =>
    intro jti exp held
    cases held
  | tail _ step ih => exact step_known step ih

theorem keysReadable_of_configured {W : Surroundings} {keys : List Bytes} (configured : ConfiguredKeys W keys) : KeysReadable W := by
  intro before path after split _ exc failed
  obtain ⟨pem, _, content, _⟩ := partner configured.2 (show path ∈ keyPaths W by simp [split])
  rw [content] at failed
  cases failed

/-- A call that presents a ticket with its own arguments to a process that has the key of
    the kernel. -/
structure Presents (S : Signer L.joserfc) (ticket : Ticket L.sha256_hexdigest float) (a : Arguments) (W : Surroundings) : Prop where
  own : ticket.arguments.raw = .dict a.authored
  token : a.token = S.mint ticket.payload
  configured : ∃ keys, ConfiguredKeys W keys ∧ S.public_pem ∈ keys
  handled : FailuresHandled L.joserfc a.token

section
variable {S : Signer L.joserfc} {ticket : Ticket L.sha256_hexdigest float} {a : Arguments} {W : Surroundings}
  (presents : Presents S ticket a W)
include presents

theorem Presents.firstVerified {keys : List Bytes} (configured : ConfiguredKeys W keys) :
    firstVerified L.joserfc a.token keys = .ok (some ticket.payload) := by
  obtain ⟨keys', configured', inKeys⟩ := presents.configured
  obtain rfl := configured.unique configured'
  rw [firstVerified_eq presents.handled]
  refine congrArg _ ((findSome?_eq_some_iff agreeing_payloadUnder).mpr ⟨S.public_pem, inKeys, payloadUnder_eq_some.mpr ?_⟩)
  rw [presents.token]
  exact S.verifies ticket.payload

/-- The context verifies while the ticket is live and if it is for this tool. -/
theorem Presents.context_iff (reads : L.loads = loads float) (cfg : Config) {claims : QueryContextClaims} :
    ContextVerified L W (a.call cfg) claims ↔
      claims = ticket.claims ∧ W.now < ticket.claims.exp ∧ ticket.claims.aud = expectedAud := by
  obtain ⟨items, read, form⟩ := parseClaims_ok_iff.mp ticket.parsed
  obtain ⟨keys, configured, inKeys⟩ := presents.configured
  have signed : L.joserfc.deserialize a.token S.public_pem = .ok ticket.payload := by
    rw [presents.token]
    exact S.verifies ticket.payload
  constructor
  · intro context
    obtain ⟨keys', _, verified⟩ := context.verified
    obtain ⟨pem, _, payload, items', signed', read', form'⟩ := verified.signed
    have same := L.joserfc.payload_of_token _ _ _ _ _ signed signed'
    rw [reads] at read'
    obtain rfl := ticket.claims_of_payload same read' form'
    exact ⟨rfl, verified.live, verified.audience⟩
  · rintro ⟨rfl, live, audience⟩
    refine ⟨?_, keys, configured, ⟨⟨S.public_pem, inKeys, ticket.payload, items, signed, ?_, form⟩, live, audience⟩⟩
    · show a.token ≠ []
      rw [presents.token]
      exact S.given _
    · rw [reads]
      exact read

theorem Presents.not_escaped (reads : L.loads = loads float) {keys : List Bytes} (configured : ConfiguredKeys W keys)
    (exc : PyExc) : verifyQueryContext L.joserfc L.loads a.token keys expectedAud W.now ≠ .error (.escaped exc) := by
  intro escaped
  rw [verifyQueryContext, presents.firstVerified configured, reads] at escaped
  simp only [ticket.parsed] at escaped
  split_ifs at escaped <;> cases escaped

/-- What the call recomputes its digest from can be written. -/
theorem Presents.recomputed (cfg : Config) : ∃ bytes, canonicalBytes (argsBasis (a.call cfg)) = .ok bytes := by
  obtain ⟨bytes, written, _⟩ := ticket.digest
  rw [presents.own] at written
  obtain ⟨clean, small⟩ := canonicalBytes_authored.mp ⟨bytes, written⟩
  rw [argsBasis_eq]
  refine canonicalBytes_authored.mpr ⟨clean, fun n given => small n ?_⟩
  unfold ofCall Arguments.call at given
  cases wire : a.max_rows with
  | absent => simp [wire] at given
  | null => simp [wire] at given
  | int m => simpa [wire] using given

/-- The digest of the call is the one that the claims carry, unless a null is lost. -/
theorem Presents.digest_iff (cfg : Config) :
    DigestMatches L (a.call cfg) ticket.claims ↔ a.max_rows ≠ .null ∨ Collides L ticket (a.call cfg) := by
  obtain ⟨bytes, written, hashed⟩ := ticket.digest
  by_cases null : a.max_rows = .null
  · constructor
    · rintro ⟨bytes', written', hashed'⟩
      refine .inr ⟨bytes, bytes', written, written', ?_, hashed.trans hashed'.symm⟩
      rintro rfl
      rw [presents.own] at written
      rw [argsBasis_eq] at written'
      have rows := (authored_inj written' written).2.2
      simp [ofCall, Arguments.call, null] at rows
    · rintro (notNull | ⟨bytes₁, bytes₂, written₁, written₂, _, same⟩)
      · exact absurd null notNull
      · obtain rfl := Except.ok.inj (written.symm.trans written₁)
        exact ⟨bytes₂, written₂, same ▸ hashed⟩
  · refine iff_of_true ⟨bytes, ?_, hashed⟩ (.inl null)
    rw [argsBasis_call null, ← presents.own]
    exact written

theorem Presents.stepsReturn (cfg : Config) (cache : ReplayCache) (reads : L.loads = loads float)
    (walks : WalkReturns L.sqlglot a.sql) (wraps : WrapReturns L.sqlglot (a.call cfg) ticket.claims) :
    StepsReturn L W (a.call cfg) cache := by
  obtain ⟨keys, configured, _⟩ := presents.configured
  obtain ⟨bytes, written⟩ := presents.recomputed cfg
  have encodable : ArgsEncodable (a.call cfg) :=
    recompute_returns_iff.mp ⟨_, (recompute_eq_ok (L := L)).mpr ⟨bytes, written, rfl⟩⟩
  refine ⟨keysReadable_of_configured configured, fun _ _ _ => encodable, fun _ _ _ _ => walks, ?_⟩
  intro claims context _ _
  obtain ⟨rfl, _⟩ := (presents.context_iff reads cfg).mp context
  exact wraps

/-- A live ticket that the cache does not know gets a plan for an admitted statement. -/
theorem Presents.plan (cfg : Config) {cache : ReplayCache} (reads : L.loads = loads float)
    (floats : ∀ raw exc, L.float raw = .error exc → exc.isInstance .ValueError = true)
    (walks : WalkReturns L.sqlglot a.sql) (wraps : WrapReturns L.sqlglot (a.call cfg) ticket.claims)
    (unseen : SeenSets.live cache.lookup W.now ticket.claims.jti = none) (audience : ticket.claims.aud = expectedAud)
    (live : W.now < ticket.claims.exp) (fits : a.max_rows ≠ .null ∨ Collides L ticket (a.call cfg))
    (admitted : ∃ stmt, ParsesTo L.sqlglot a.sql stmt ∧ Admitted stmt ticket.claims.objects)
    (identity : isProxyIdentity ticket.claims.proxy_db_identity = true) :
    ∃ plan, (preflight L W (a.call cfg) cache).outcome = .ok (.ok plan) := by
  have all : AllPassed L W (a.call cfg) cache ticket.claims :=
    ⟨(presents.context_iff reads cfg).mpr ⟨rfl, live, audience⟩, unseen, (presents.digest_iff cfg).mpr fits, admitted, identity⟩
  obtain ⟨answer, ended⟩ := (preflight_returns_iff (fun keys configured _ exc => presents.not_escaped reads configured exc)
    floats).mpr (presents.stepsReturn cfg cache reads walks wraps)
  rcases preflight_returns ended with ⟨plan, rfl, _⟩ | ⟨refusal, gate, rfl, first, _⟩
  · exact ⟨plan, ended⟩
  · exact absurd (all.passes gate) first.1
end

/-- The first presentation of a ticket to a process, with its own arguments, gets to the
    database exactly if the ticket is for this tool and live on the clock of the process,
    no null is lost from the arguments without the hash telling, the statement is admitted
    for its objects, and its identity is one of Oracle. -/
theorem first_passes_iff (L : Libraries) (float : PyStr → PyFloat) (reads : L.loads = loads float)
    (floats : ∀ raw exc, L.float raw = .error exc → exc.isInstance .ValueError = true) (f : Fleet L float)
    (reachable : Reachable L f) (s : Server) (running : s ∈ f.processes) (S : Signer L.joserfc)
    (ticket : Ticket L.sha256_hexdigest float) (a : Arguments) (W : Surroundings) (cfg : Config) (presents : Presents S ticket a W)
    (unused : ∀ job ∈ s.jobs, ∀ claims, ContextVerified L job.surroundings job.call claims → claims.jti ≠ ticket.claims.jti)
    (walks : WalkReturns L.sqlglot a.sql) (wraps : WrapReturns L.sqlglot (a.call cfg) ticket.claims) :
    (∃ plan, (preflight L W (a.call cfg) s.cache).outcome = .ok (.ok plan)) ↔
      ticket.claims.aud = expectedAud ∧ W.now < ticket.claims.exp ∧ (a.max_rows ≠ .null ∨ Collides L ticket (a.call cfg)) ∧
        (∃ stmt, ParsesTo L.sqlglot a.sql stmt ∧ Admitted stmt ticket.claims.objects) ∧
        isProxyIdentity ticket.claims.proxy_db_identity = true := by
  constructor
  · rintro ⟨plan, ended⟩
    rcases preflight_returns ended with ⟨_, own, all, _⟩ | ⟨refusal, _, refused, _⟩
    · obtain rfl := Except.ok.inj own
      obtain ⟨same, live, audience⟩ := (presents.context_iff reads cfg).mp all.context
      obtain ⟨stmt, parses, plain, inScope⟩ := all.statement
      exact ⟨audience, live, (presents.digest_iff cfg).mp (same ▸ all.digest), ⟨stmt, parses, plain, same ▸ inScope⟩,
        same ▸ all.identity⟩
    · cases refused
  · rintro ⟨audience, live, fits, admitted, identity⟩
    obtain ⟨⟨start, steps⟩, _⟩ := reachable_lawful reachable s running
    have unseen : SeenSets.live s.cache.lookup W.now ticket.claims.jti = none := by
      refine live_of_none ?_
      by_contra seen
      obtain ⟨exp, held⟩ := Option.ne_none_iff_exists'.mp seen
      obtain ⟨job, taken, claims, context, same⟩ := reached_known steps _ _ held
      exact unused job taken claims context same
    exact presents.plan cfg reads floats walks wraps unseen audience live fits admitted identity
end

/-! ### One dispatch -/

theorem sampleClaims_written : ∃ payload, canonicalBytes (.dict (wireItems sampleClaims)) = .ok payload := by
  have audience : expectedAud.all (fun code => !isSurrogate code) = true := by
    rw [expectedAud, lit_ofList]
    decide
  have strs : (strClaims sampleClaims).all (fun entry => entry.2.all (fun code => !isSurrogate code)) = true := by
    simp only [strClaims, sampleClaims, List.all_cons, List.all_nil, Bool.and_true, Bool.and_eq_true]
    exact ⟨rfl, audience, rfl, rfl, rfl, rfl, rfl, rfl, rfl⟩
  refine canonicalBytes_ok_iff.mpr (encodable_wireItems ⟨fun entry inClaims code member => ?_, by simp [sampleClaims], by decide⟩)
  simpa using List.all_eq_true.mp (List.all_eq_true.mp strs entry inClaims) code member

/-- Libraries under which every token spells its payload after a mark. -/
def ticketLibraries : Libraries :=
  { sampleLibraries with
    joserfc := ⟨fun token _ => .ok (token.tail.map (fun c => UInt8.ofNat c.val)),
      fun _ _ _ _ _ one two => by rw [← Except.ok.inj one, ← Except.ok.inj two]⟩
    loads := loads fun _ => .nan
    sqlglot := sampleSqlglot [(sampleCall.sql, selectFrom (tableNamed "dual") [])] [] }

theorem ticketLibraries_floats (raw : PyStr) (exc : PyExc) (failed : ticketLibraries.float raw = .error exc) :
    exc.isInstance .ValueError = true := nomatch failed

def ticketSigner : Signer ticketLibraries.joserfc where
  public_pem := [1]
  mint payload := 46 :: spelledHash payload
  given _ := List.cons_ne_nil _ _
  verifies payload := by
    have back : ∀ b : UInt8, UInt8.ofNat (Fin.ofNat 0x110000 b.toNat).val = b := by
      intro b
      have small := b.toNat_lt
      rw [Fin.val_ofNat, Nat.mod_eq_of_lt (by omega), UInt8.ofNat_toNat]
    have whole : (spelledHash payload).map (fun c => UInt8.ofNat c.val) = payload := by
      rw [spelledHash, List.map_map]
      exact (List.map_congr_left fun b _ => back b).trans (List.map_id payload)
    exact congrArg Except.ok whole

def sampleKeys : Surroundings := sampleSurroundings (some (lit "key.pem")) 5

theorem sampleKeys_configured : ConfiguredKeys sampleKeys [[1]] := by
  have loaded : loadPublicKeys sampleKeys [] = (.ok (some [[1]]), []) := by decide
  exact loadPublicKeys_some (by rw [loaded])

theorem sampleClaims_passes : sampleKeys.now < sampleClaims.exp ∧ isProxyIdentity sampleClaims.proxy_db_identity = true := by
  decide

theorem sampleStatement : ∃ stmt, ParsesTo ticketLibraries.sqlglot sampleCall.sql stmt ∧ Admitted stmt sampleClaims.objects := by
  refine ⟨selectFrom (tableNamed "dual") [], ⟨[some _], by simp [ticketLibraries, sampleSqlglot], rfl⟩, ?_⟩
  exact ⟨⟨rfl, by decide, by decide, by decide⟩, outOfScope_eq_nil.mpr (by decide)⟩

/-- The arguments of the sample call with a token for this payload. -/
def sampleArguments (payload : Bytes) : Arguments := { ofCall sampleCall with token := ticketSigner.mint payload }

section
variable {payload : Bytes} (written : canonicalBytes (.dict (wireItems sampleClaims)) = .ok payload)

/-- The sample claims for the arguments of the sample call. -/
def sampleTicket : Ticket ticketLibraries.sha256_hexdigest (fun _ => .nan) where
  claims := sampleClaims
  arguments := ⟨.dict (ofCall sampleCall).authored, sound_authored _ _⟩
  payload := payload
  issued := rfl
  digest := by
    have clean : ((ofCall sampleCall).scope_id ++ (ofCall sampleCall).sql).all (fun c => !isSurrogate c) = true := rfl
    obtain ⟨bytes, written⟩ := canonicalBytes_authored.mpr
      ⟨fun c member => by simpa using List.all_eq_true.mp clean c member, by simp [ofCall, sampleCall]⟩
    exact ⟨bytes, written, rfl⟩
  written := written

theorem samplePresents : Presents ticketSigner (sampleTicket written) (sampleArguments payload) sampleKeys where
  own := rfl
  token := rfl
  configured := ⟨_, sampleKeys_configured, List.mem_singleton_self _⟩
  handled := fun _ _ failed => nomatch failed

theorem sampleArguments_given : (sampleArguments payload).max_rows ≠ .null := by
  simp [sampleArguments, ofCall, sampleCall]

include written in
/-- The sample call gets to its leg on a fresh cache. -/
theorem samplePlan :
    ∃ plan, (preflight ticketLibraries sampleKeys ((sampleArguments payload).call sampleCall.cfg) .fresh).outcome = .ok (.ok plan) :=
  (samplePresents written).plan sampleCall.cfg rfl ticketLibraries_floats (fun _ _ _ _ _ => ⟨_, rfl⟩)
    (fun _ _ _ => ⟨_, _, rfl, rfl⟩) rfl rfl sampleClaims_passes.1 (.inl sampleArguments_given) sampleStatement sampleClaims_passes.2

theorem sampleCall_genuine {job : Job} (same : job.call = (sampleArguments payload).call sampleCall.cfg) :
    Genuine ticketLibraries [sampleTicket written] job := by
  intro keys _ pem _ payload' signed
  rw [same] at signed
  exact ⟨_, List.mem_singleton_self _, Except.ok.inj ((ticketSigner.verifies payload).symm.trans signed)⟩

/-- One ticket and one process that has been called by nobody. -/
def sampleFleet : Fleet ticketLibraries (fun _ => .nan) := ⟨[sampleTicket written], [.initial 0]⟩

theorem sampleFleet_reachable : Reachable ticketLibraries (sampleFleet written) := by
  have minted : FleetStep ticketLibraries ⟨[], []⟩ ⟨[sampleTicket written], []⟩ :=
    .mint (sampleTicket written)
  have started : FleetStep ticketLibraries ⟨[sampleTicket written], []⟩ (sampleFleet written) := .start 0
  exact (Relation.ReflTransGen.single minted).tail started
end

theorem first_passes_iff_sample : ∃ payload plan,
    (preflight ticketLibraries sampleKeys ((sampleArguments payload).call sampleCall.cfg) .fresh).outcome = .ok (.ok plan) := by
  obtain ⟨payload, written⟩ := sampleClaims_written
  exact ⟨payload, (first_passes_iff ticketLibraries (fun _ => .nan) rfl ticketLibraries_floats (sampleFleet written)
    (sampleFleet_reachable written) (.initial 0) (List.mem_singleton_self _) ticketSigner (sampleTicket written)
    (sampleArguments payload) sampleKeys sampleCall.cfg (samplePresents written) (fun _ taken => nomatch taken)
    (fun _ _ _ _ _ => ⟨_, rfl⟩) (fun _ _ _ => ⟨_, _, rfl, rfl⟩)).mpr
    ⟨rfl, sampleClaims_passes.1, .inl sampleArguments_given, sampleStatement, sampleClaims_passes.2⟩⟩

end OracleSchema.Dispatch
