import OracleSchema.Progress

/-!
A rotation of the password and concurrent fetches. Once the credential file gives a password
and the database accepts it, the database refuses no pool made since. The second attempt of a
fetch is on such a pool, so no fetch shows a refusal (`refusals_hidden`); and when one pool
has been made, no fetch called later touches the pool, and there are at most as many further
rebuilds as fetches then under way (`rotation_settles`).
-/
namespace OracleSchema.Recovery
open OracleSchema.Strings OracleSchema.Errors OracleSchema.Settings OracleSchema.Runs OracleSchema.Pool OracleSchema.PoolTasks
open OracleSchema.Progress
variable {α : Type}

/-- The run made this pool with this password. -/
def MadeWith (taken : List (World α × Action α)) (pool : Nat) (password : PyStr) : Prop :=
  ∃ s s' t result read, (s, .resume t result (.ok read) (.ok ())) ∈ taken ∧
    step (.resume t result (.ok read) (.ok ())) s = some s' ∧ s.module.created = pool ∧ s'.module.created = pool + 1 ∧
    read.password = password

/-- Throughout the run the credential file gives this password and the database accepts it. -/
structure Rotated (password : PyStr) (taken : List (World α × Action α)) : Prop where
  file : ∀ s t result read create, (s, .resume t result (.ok read) create) ∈ taken → read.password = password
  database : ∀ s t exc credential create round limit pool point, (s, .resume t (.error exc) credential create) ∈ taken →
    s.tasks[t]? = some (.attempting round limit pool point) → MadeWith taken pool password → isAuthError exc = false

/-- A fetch that may still rebuild the pool. -/
def mayRebuild : PoolTasks.Task α → Bool
  | .attempting .first _ _ _ => true
  | .closing (.rebuild _) _ => true
  | _ => false

/-- The close, the credential read or the pool creation of a task that rebuilds raises this. -/
structure FailsRebuild (result : Except PyExc (List α)) (credential : Except PyExc CredentialRead) (create : Except PyExc Unit)
    (task : PoolTasks.Task α) (exc : PyExc) : Prop where
  rebuilding : mayRebuild task = true
  raised : (∃ limit pool, task = .closing (.rebuild limit) pool) ∧ result = .error exc ∨ credential = .error exc ∨
    ∃ read, credential = .ok read ∧ create = .error exc

/-- Task `t` ended with this, because its rebuild raised it. -/
def RaisedByRebuild (taken : List (World α × Action α)) (t : Nat) (exc : PyExc) : Prop :=
  ∃ s s' task result credential create, (s, .resume t result credential create) ∈ taken ∧
    step (.resume t result credential create) s = some s' ∧ s.tasks[t]? = some task ∧
    s'.tasks[t]? = some (.returned (.error exc)) ∧ FailsRebuild result credential create task exc

/-! ### Pools made since -/

section
variable {credential : Except PyExc CredentialRead} {create : Except PyExc Unit} {m m' : Module}

/-- A pool is created with what the credential file gave, or the pool stays or goes. -/
inductive Renews (credential : Except PyExc CredentialRead) (create : Except PyExc Unit) (m m' : Module) : Prop
  | kept (created : m'.created = m.created) (pool : ∀ pool, m'.pool = some pool → m.pool = some pool)
  | made {read : CredentialRead} (given : credential = .ok read) (done : create = .ok ()) (created : m'.created = m.created + 1)
      (pool : m'.pool = some m.created)

theorem rebuilt_renews {limit : Int} {next : PoolTasks.Task α} (rebuilt : Rebuilt credential create m limit m' next) :
    Renews credential create m m' := by
  cases rebuilt with
  | unreadable raised => exact .kept rfl fun _ same => same
  | uncreated given raised => exact .kept rfl fun _ same => same
  | retries given done => exact .made given done rfl rfl

theorem turn_renews {result : Except PyExc (List α)} {task next : PoolTasks.Task α}
    (turn : Turn credential create m result task m' next) : Renews credential create m m' := by
  cases turn with
  | awaits open_ => exact .kept rfl fun _ same => same
  | answered ended => exact .kept rfl fun _ same => same
  | failed ended last => exact .kept rfl fun _ same => same
  | closes ended auth there => exact .kept rfl fun _ same => there.trans same
  | rebuilds ended auth vacant rebuilt => exact rebuilt_renews rebuilt
  | closed rebuilt =>
    cases rebuilt_renews rebuilt with
    | kept created pool => exact .kept created fun p same => absurd (pool p same) (by simp)
    | made given done created pool => exact .made given done created pool
  | unclosed raised => exact .kept rfl fun _ same => same
  | shut => exact .kept rfl fun _ gone => absurd gone (by simp)

theorem fresh_keeps {action : Action α} {task : PoolTasks.Task α} (fresh : Fresh m action m' task) :
    m'.created = m.created ∧ m'.pool = m.pool := by
  cases fresh with
  | poolless raised => exact ⟨rfl, rfl⟩
  | attempts chosen => exact ⟨rfl, rfl⟩
  | idle => exact ⟨rfl, rfl⟩
  | closes there => exact ⟨rfl, there.symm⟩
end

section
variable {all taken : List (World α × Action α)} {start last : World α} {password : PyStr}

/-- What a step does to the pool of the module and to the number of pools. -/
theorem step_renews {action : Action α} {s s' : World α} (took : step action s = some s') :
    (s'.module.created = s.module.created ∧ ∀ pool, s'.module.pool = some pool → s.module.pool = some pool) ∨
      ∃ t result read, action = .resume t result (.ok read) (.ok ()) ∧ s'.module.created = s.module.created + 1 ∧
        s'.module.pool = some s.module.created := by
  rcases step_turn took with ⟨task, fresh, _⟩ | ⟨t, result, credential, create, task, next, rfl, _, turn, _⟩
  · obtain ⟨created, pool⟩ := fresh_keeps fresh
    exact .inl ⟨created, fun p same => pool ▸ same⟩
  · cases turn_renews turn with
    | kept created pool => exact .inl ⟨created, pool⟩
    | made given done created pool =>
      subst given done
      exact .inr ⟨t, result, _, rfl, created, pool⟩

theorem created_grows (path : Path step start taken last) : start.module.created ≤ last.module.created := by
  induction path with
  | nil => exact Nat.le_refl _
  | snoc before took ih =>
    rcases step_renews took with ⟨created, _⟩ | ⟨_, _, _, _, created, _⟩
    · omega
    · omega

/-- The pools that a run creates are made with the password that the file gives. -/
theorem made_since (path : Path step start taken last) (within : taken ⊆ all) (rotated : Rotated password all) (pool : Nat)
    (since : start.module.created ≤ pool) (made : pool < last.module.created) : MadeWith all pool password := by
  induction path with
  | nil => omega
  | @snoc taken s s' action before took ih =>
    have earlier := ih fun t member => within (List.mem_append_left _ member)
    rcases step_renews took with ⟨created, _⟩ | ⟨t, result, read, rfl, created, _⟩
    · exact earlier (created ▸ made)
    · rcases Nat.lt_or_ge pool s.module.created with old | new
      · exact earlier old
      · have member := within (List.mem_append_right _ (List.mem_singleton_self _))
        exact ⟨s, s', t, result, read, member, took, by omega, by omega, rotated.file _ _ _ _ _ member⟩

/-- Once a run has created a pool, the pool of the module is one that it created. -/
theorem current_since (path : Path step start taken last) (renewed : start.module.created < last.module.created) (pool : Nat)
    (current : last.module.pool = some pool) : start.module.created ≤ pool ∧ pool < last.module.created := by
  induction path generalizing pool with
  | nil => omega
  | @snoc taken s s' action before took ih =>
    rcases step_renews took with ⟨created, kept⟩ | ⟨_, _, _, _, created, made⟩
    · rw [created] at renewed ⊢
      exact ih renewed pool (kept pool current)
    · obtain rfl : s.module.created = pool := Option.some.inj (made.symm.trans current)
      exact ⟨created_grows before, by omega⟩
end

/-! ### Attempts on such pools -/

/-- The attempts of a task in these rounds are on pools made since and so not refused; it
    shows no refusal but an excused one. -/
def Trusted (rounds : Round → Prop) (oldest newest : Nat) (excused : PyExc → Prop) : PoolTasks.Task α → Prop
  | .attempting round _ pool point =>
    rounds round → (oldest ≤ pool ∧ pool < newest) ∧ ∀ exc, point = .release (.error exc) → isAuthError exc = false
  | .closing (.rebuild _) _ => ¬ rounds .first
  | .returned (.error exc) => isAuthError exc = true → excused exc
  | _ => True

section
variable {rounds : Round → Prop} {oldest newest : Nat} {excused : PyExc → Prop}
variable {credential : Except PyExc CredentialRead} {create : Except PyExc Unit} {m m' : Module}

theorem trusted_mono {later : Nat} (grown : newest ≤ later) {task : PoolTasks.Task α}
    (trusted : Trusted rounds oldest newest excused task) : Trusted rounds oldest later excused task := by
  cases task with
  | attempting round limit pool point =>
    intro among
    obtain ⟨⟨since, made⟩, accepted⟩ := trusted among
    exact ⟨⟨since, by omega⟩, accepted⟩
  | closing after pool => cases after <;> exact trusted
  | returned outcome => cases outcome <;> exact trusted
  | shutDown outcome => trivial

theorem outcome_accepted {result : Except PyExc (List α)} {point : AwaitPoint α} {exc : PyExc}
    (ended : attemptOutcome result point = some (.error exc))
    (pending : ∀ exc, point = .release (.error exc) → isAuthError exc = false)
    (accepted : ∀ exc, result = .error exc → isAuthError exc = false) : isAuthError exc = false := by
  cases point with
  | acquire =>
    cases result with
    | ok rows => simp [attemptOutcome] at ended
    | error raised =>
      obtain rfl : raised = exc := by simpa [attemptOutcome] using ended
      exact accepted _ rfl
  | execute => simp [attemptOutcome] at ended
  | fetchmany => simp [attemptOutcome] at ended
  | release answer =>
    cases result with
    | ok rows =>
      obtain rfl : answer = .error exc := by simpa [attemptOutcome] using ended
      exact pending _ rfl
    | error raised =>
      obtain rfl : raised = exc := by simpa [attemptOutcome] using ended
      exact accepted _ rfl

/-- A trusted attempt does not end with ORA-01017. -/
theorem attempt_accepted {result : Except PyExc (List α)} {round : Round} {limit : Int} {pool : Nat} {point : AwaitPoint α}
    {exc : PyExc} (among : rounds round) (ended : attemptOutcome result point = some (.error exc))
    (accepted : ∀ exc, result = .error exc → oldest ≤ pool → pool < newest → isAuthError exc = false)
    (trusted : Trusted rounds oldest newest excused (.attempting round limit pool point)) : isAuthError exc = false := by
  obtain ⟨⟨since, made⟩, pending⟩ := trusted among
  exact outcome_accepted ended pending fun exc failed => accepted exc failed since made

theorem pending_accepted {result : Except PyExc (List α)} {point : AwaitPoint α}
    (pending : ∀ exc, point = .release (.error exc) → isAuthError exc = false)
    (accepted : ∀ exc, result = .error exc → isAuthError exc = false) (exc : PyExc)
    (next : nextPoint result point = .release (.error exc)) : isAuthError exc = false := by
  cases point with
  | acquire => cases next
  | execute =>
    cases result with
    | ok rows => cases next
    | error raised =>
      obtain rfl : raised = exc := by simpa [nextPoint] using next
      exact accepted _ rfl
  | fetchmany =>
    obtain rfl : result = .error exc := by simpa [nextPoint] using next
    exact accepted _ rfl
  | release answer => exact pending exc next

theorem trusted_rebuilt {limit : Int} {next : PoolTasks.Task α} (rebuilt : Rebuilt credential create m limit m' next)
    (since : oldest ≤ m.created)
    (raised : ∀ exc, next = .returned (.error exc) →
      (credential = .error exc ∨ ∃ read, credential = .ok read ∧ create = .error exc) → excused exc) :
    Trusted rounds oldest m'.created excused next := by
  cases rebuilt with
  | unreadable unread => exact fun _ => raised _ rfl (.inl unread)
  | uncreated given failed => exact fun _ => raised _ rfl (.inr ⟨_, given, failed⟩)
  -- The second attempt is on the pool that the rebuild has just made.
  | retries given done => exact fun _ => ⟨⟨since, Nat.lt_succ_self _⟩, fun exc later => by cases later⟩

theorem poolless_unrefused {injected : Option Nat} {exc : PyExc} (raised : choosePool injected m = .error exc) :
    isAuthError exc = false := by
  cases injected with
  | some pool => simp [choosePool] at raised
  | none =>
    cases there : m.pool with
    | some pool => simp [choosePool, requirePool, there] at raised
    | none =>
      simp only [choosePool, requirePool, there, Except.error.injEq] at raised
      subst raised
      rfl

theorem trusted_fresh {action : Action α} {task : PoolTasks.Task α} (fresh : Fresh m action m' task)
    (chosen : rounds .first → ∀ injected limit pool, action = .spawn injected limit → choosePool injected m = .ok pool →
      oldest ≤ pool ∧ pool < m.created) : Trusted rounds oldest m'.created excused task := by
  cases fresh with
  | poolless raised =>
    intro auth
    simp [poolless_unrefused raised] at auth
  | attempts given => exact fun among => ⟨chosen among _ _ _ rfl given, fun exc later => by cases later⟩
  | idle => trivial
  | closes there => trivial

/-- A turn keeps the trust if the database refuses no pool made since. -/
theorem trusted_turn {result : Except PyExc (List α)} {task next : PoolTasks.Task α} (second : rounds .second)
    (turn : Turn credential create m result task m' next) (since : oldest ≤ m.created)
    (accepted : ∀ exc round limit pool point, result = .error exc → task = .attempting round limit pool point →
      oldest ≤ pool → pool < m.created → isAuthError exc = false)
    (raised : ¬ rounds .first → ∀ exc, next = .returned (.error exc) → FailsRebuild result credential create task exc → excused exc)
    (trusted : Trusted rounds oldest m.created excused task) : Trusted rounds oldest m'.created excused next := by
  cases turn with
  | @awaits round limit pool point open_ =>
    intro among
    obtain ⟨⟨old, made⟩, pending⟩ := trusted among
    exact ⟨⟨old, made⟩, pending_accepted pending fun exc failed => accepted exc _ _ _ _ failed rfl old made⟩
  | answered ended => trivial
  | @failed round limit pool point exc ended last =>
    intro auth
    rcases last with rfl | other
    · have shown := attempt_accepted second ended (fun exc failed => accepted exc _ _ _ _ failed rfl) trusted
      simp [shown] at auth
    · simp [other] at auth
  | @closes limit pool current point exc ended auth there =>
    intro among
    have shown := attempt_accepted among ended (fun exc failed => accepted exc _ _ _ _ failed rfl) trusted
    simp [shown] at auth
  | @rebuilds limit pool point exc _ _ ended auth vacant rebuilt =>
    by_cases among : rounds .first
    · have shown := attempt_accepted among ended (fun exc failed => accepted exc _ _ _ _ failed rfl) trusted
      simp [shown] at auth
    · exact trusted_rebuilt rebuilt since fun exc ends failed => raised among exc ends ⟨rfl, .inr failed⟩
  | closed rebuilt => exact trusted_rebuilt rebuilt since fun exc ends failed => raised trusted exc ends ⟨rfl, .inr failed⟩
  | @unclosed after pool exc failed =>
    cases after with
    | rebuild limit => exact fun _ => raised trusted exc rfl ⟨rfl, .inl ⟨⟨limit, pool, rfl⟩, failed⟩⟩
    | shutdown => trivial
  | shut => trivial

/-- The trust is kept along a run, for the tasks that have it and for the new ones. -/
theorem run_trusted (rounds : Round → Prop) (among : Nat → Prop) (excused : Nat → PyExc → Prop) {start last origin : World α}
    {taken before all : List (World α × Action α)} {password : PyStr} (second : rounds .second)
    (until_ : Path step origin before start) (path : Path step start taken last) (within : before ++ taken ⊆ all)
    (rotated : Rotated password all)
    (initially : ∀ t task, among t → start.tasks[t]? = some task →
      Trusted rounds origin.module.created start.module.created (excused t) task)
    (chosen : rounds .first → ∀ s injected limit pool, (s, .spawn injected limit) ∈ taken →
      choosePool injected s.module = .ok pool → origin.module.created ≤ pool ∧ pool < s.module.created)
    (raised : ¬ rounds .first → ∀ t exc, RaisedByRebuild all t exc → excused t exc) :
    ∀ t task, among t → last.tasks[t]? = some task →
      Trusted rounds origin.module.created last.module.created (excused t) task := by
  induction path with
  | nil => exact initially
  | @snoc taken s s' action earlier took ih =>
    intro t task own there
    have reached := until_.trans earlier
    have inPrefix : before ++ taken ⊆ all :=
      fun entry member => within (by rw [← List.append_assoc]; exact List.mem_append_left _ member)
    have last_ : (s, action) ∈ all := within (by simp)
    have trusted : ∀ {task}, s.tasks[t]? = some task → Trusted rounds origin.module.created s.module.created (excused t) task :=
      fun inS => ih inPrefix (fun among s injected limit pool member => chosen among s injected limit pool
        (List.mem_append_left _ member)) t _ own inS
    rcases step_task took there with same | ⟨_, fresh⟩ | ⟨result, credential, create, task', rfl, inS, turn⟩
    · exact trusted_mono (created_grows (.single took)) (trusted same)
    · refine trusted_fresh fresh fun among injected limit pool isSpawn given => ?_
      subst isSpawn
      exact chosen among s injected limit pool (by simp) given
    · have since : origin.module.created ≤ s.module.created := created_grows reached
      refine trusted_turn second turn since ?_ ?_ (trusted inS)
      · rintro exc round limit pool point rfl rfl old made
        exact rotated.database s t exc credential create round limit pool point last_ inS
          (made_since reached inPrefix rotated pool old made)
      · rintro unguarded exc rfl fails
        exact raised unguarded t exc ⟨s, s', task', result, credential, create, last_, took, inS, there, fails⟩
end

theorem trusted_unsettled {rounds : Round → Prop} {oldest newest : Nat} {excused : PyExc → Prop} (never : ¬ rounds .first)
    {task : PoolTasks.Task α} (unsettled : mayRebuild task = true) : Trusted rounds oldest newest excused task := by
  cases task with
  | attempting round limit pool point =>
    cases round with
    | first => exact fun first => absurd first never
    | second => simp [mayRebuild] at unsettled
  | closing after pool =>
    cases after with
    | rebuild limit => exact never
    | shutdown => trivial
  | returned outcome => simp [mayRebuild] at unsettled
  | shutDown outcome => trivial

/-- In every interleaving, a fetch that can still rebuild when the file and the database have
    the new password, or that is called later, shows ORA-01017 only if its own rebuild raised it. -/
theorem refusals_hidden {password : PyStr} {start last : World α} {taken : List (World α × Action α)}
    (path : Path step start taken last) (rotated : Rotated password taken) (t : Nat) (exc : PyExc)
    (unsettled : ∀ task, start.tasks[t]? = some task → mayRebuild task = true)
    (ended : last.tasks[t]? = some (.returned (.error exc))) (auth : isAuthError exc = true) : RaisedByRebuild taken t exc := by
  have never : ¬ (Round.first = .second) := by simp
  refine run_trusted (· = .second) (· = t) (RaisedByRebuild taken) rfl .nil path (List.Subset.refl taken) rotated ?_
    (fun first => absurd first never) (fun _ t exc raised => raised) t _ rfl ended auth
  rintro t task rfl there
  exact trusted_unsettled never (unsettled task there)

/-- The end of an await of task `t` while the file gives the new password. -/
def goesOn (t : Nat) (result : Except PyExc (List Unit)) : Action Unit := .resume t result (.ok ⟨lit "new", []⟩) (.ok ())

def asked : World Unit :=
  ⟨⟨some 0, 1, [.readCredential, .createPool ⟨lit "old", []⟩, .attempt 0]⟩, [], [], [.attempting .first 1 0 .acquire]⟩

def refused : World Unit :=
  ⟨⟨some 0, 1, asked.module.trace ++ [.close 0]⟩, [], [], [.closing (.rebuild 1) 0]⟩

/-- A fetch that the database refuses, and the end of its close. -/
def refusedTaken (close : Except PyExc (List Unit)) : List (World Unit × Action Unit) :=
  [(initial ⟨lit "old", []⟩, .spawn none 1), (asked, goesOn 0 (.error passwordRefused)), (refused, goesOn 0 close)]

theorem refused_path {close : Except PyExc (List Unit)} {last : World Unit} (ended : step (goesOn 0 close) refused = some last) :
    Path step (initial ⟨lit "old", []⟩) (refusedTaken close) last :=
  ((Path.single rfl).snoc (show step (goesOn 0 (.error passwordRefused)) asked = some refused from rfl)).snoc ended

/-- The file gives the new password, and only the first pool is refused. -/
structure Refuses (entry : World Unit × Action Unit) : Prop where
  given : ∀ t result credential create, entry.2 = .resume t result credential create → credential = .ok ⟨lit "new", []⟩
  refusing : ∀ t exc credential create round limit pool point, entry.2 = .resume t (.error exc) credential create →
    entry.1.tasks[t]? = some (.attempting round limit pool point) → isAuthError exc = true → pool = 0
  created : 0 < entry.1.module.created

theorem rotated_of {taken : List (World Unit × Action Unit)} (refuses : ∀ entry ∈ taken, Refuses entry) :
    Rotated (lit "new") taken where
  file s t result read create member := by
    rw [Except.ok.inj ((refuses _ member).given t result _ create rfl)]
  database s t exc credential create round limit pool point member there made := by
    obtain ⟨s', _, _, _, _, creates, _, created, _⟩ := made
    by_contra auth
    have first := (refuses _ member).refusing t exc credential create round limit pool point rfl there (by simpa using auth)
    have before := (refuses _ creates).created
    simp only at before
    omega

theorem refuses_goesOn {s : World Unit} {t : Nat} {result : Except PyExc (List Unit)} (created : 0 < s.module.created)
    (refusing : ∀ exc round limit pool point, result = .error exc → isAuthError exc = true →
      s.tasks[t]? = some (.attempting round limit pool point) → pool = 0) : Refuses (s, goesOn t result) where
  given _ _ _ _ same := by
    obtain ⟨_, _, rfl, _⟩ := Action.resume.inj same
    rfl
  refusing _ _ _ _ _ _ _ _ same there auth := by
    obtain ⟨rfl, failed, _⟩ := Action.resume.inj same
    exact refusing _ _ _ _ _ failed auth there
  created := created

theorem refuses_spawn {s : World Unit} (created : 0 < s.module.created) : Refuses (s, .spawn none 1) where
  given _ _ _ _ same := by cases same
  refusing _ _ _ _ _ _ _ _ same := by cases same
  created := created

theorem refusedTaken_refuses (close : Except PyExc (List Unit)) : ∀ entry ∈ refusedTaken close, Refuses entry := by
  simp only [refusedTaken, List.forall_mem_cons, List.not_mem_nil, false_imp_iff, implies_true, and_true]
  refine ⟨refuses_spawn Nat.one_pos, refuses_goesOn Nat.one_pos ?_, refuses_goesOn Nat.one_pos ?_⟩
  · intro exc round limit pool point _ _ there
    simp [asked] at there
    exact there.2.2.1.symm
  · intro exc round limit pool point _ _ there
    simp [refused] at there

theorem refusals_hidden_close : RaisedByRebuild (refusedTaken (.error passwordRefused)) 0 passwordRefused := by
  have path : Path step _ (refusedTaken (.error passwordRefused)) _ := refused_path rfl
  refine refusals_hidden path (rotated_of (refusedTaken_refuses _)) 0 passwordRefused ?_ rfl (by simp [isAuthError, passwordRefused])
  intro task there
  simp [initial] at there

/-! ### How many rebuild -/

section
variable {credential : Except PyExc CredentialRead} {create : Except PyExc Unit} {m m' : Module}

/-- A fetch whose attempts are not refused does not touch the pool. -/
theorem trusted_quiet {result : Except PyExc (List α)} {task next : PoolTasks.Task α} {oldest : Nat} {excused : PyExc → Prop}
    (turn : Turn credential create m result task m' next)
    (accepted : ∀ exc round limit pool point, result = .error exc → task = .attempting round limit pool point →
      oldest ≤ pool → pool < m.created → isAuthError exc = false)
    (trusted : Trusted (fun _ => True) oldest m.created excused task) : m'.trace = m.trace := by
  cases turn with
  | awaits open_ => rfl
  | answered ended => rfl
  | failed ended last => rfl
  | closes ended auth there =>
    have shown := attempt_accepted trivial ended (fun exc failed => accepted exc _ _ _ _ failed rfl) trusted
    simp [shown] at auth
  | rebuilds ended auth vacant rebuilt =>
    have shown := attempt_accepted trivial ended (fun exc failed => accepted exc _ _ _ _ failed rfl) trusted
    simp [shown] at auth
  | closed rebuilt => exact absurd trivial trusted
  | unclosed raised => rfl
  | shut => rfl

/-- A new task at most makes an attempt or calls `close()`. -/
theorem fresh_counted {action : Action α} {task : PoolTasks.Task α} (fresh : Fresh m action m' task) {kind : Kind}
    (other : kind ≠ .attempt) :
    counted kind m'.trace ≤ counted kind m.trace + if isShutdown action then (allowance (.shutdown : Action α)).of kind else 0 := by
  cases fresh <;> cases kind <;> simp [charge, Costs.of, allowance, isShutdown] at other ⊢

end

/-- What the first tasks may still cost. -/
def dueOf (kind : Kind) (n : Nat) (s : World α) : Nat := ((s.tasks.take n).map (fun task => (due task).of kind)).sum

/-- A step costs what the first `n` tasks had due, and nothing if none of them takes it. -/
theorem step_outdated {kind : Kind} (other : kind ≠ .attempt) {n : Nat} {action : Action α} {s s' : World α}
    (took : step action s = some s') (within : n ≤ s.tasks.length)
    (quiet : ∀ t result credential create, n ≤ t → action = .resume t result credential create → s'.module.trace = s.module.trace) :
    dueOf kind n s' + counted kind s'.module.trace ≤ dueOf kind n s + counted kind s.module.trace +
      if isShutdown action then (allowance (.shutdown : Action α)).of kind else 0 := by
  rcases step_turn took with ⟨task, fresh, tasks'⟩ | ⟨t, result, credential, create, task, next, rfl, there, turn, tasks'⟩
  · have paid := fresh_counted fresh other
    rw [dueOf, tasks', List.take_append_of_le_length within, ← dueOf]
    omega
  · rw [dueOf, tasks', List.take_set]
    rcases Nat.lt_or_ge t n with first | later
    · have summed := sum_due_set ((List.getElem?_take_of_lt first).trans there) next kind
      have paid := turn_due turn kind
      rw [dueOf]
      omega
    · rw [List.set_eq_of_length_le (by rw [List.length_take]; omega), ← dueOf,
        quiet t result credential create later rfl]
      omega

theorem due_mayRebuild {kind : Kind} (rebuilding : kind = .read ∨ kind = .creation ∨ kind = .close) (tasks : List (PoolTasks.Task α)) :
    (tasks.map (fun task => (due task).of kind)).sum ≤ tasks.countP mayRebuild := by
  induction tasks with
  | nil => exact Nat.le_refl _
  | cons task rest ih =>
    have one : (due task).of kind ≤ if mayRebuild task then 1 else 0 := by
      cases task with
      | attempting round limit pool point => cases round <;> rcases rebuilding with rfl | rfl | rfl <;> simp [due, Costs.of, mayRebuild]
      | closing after pool => cases after <;> rcases rebuilding with rfl | rfl | rfl <;> simp [due, Costs.of, mayRebuild]
      | returned outcome => rcases rebuilding with rfl | rfl | rfl <;> simp [due, Costs.of, mayRebuild]
      | shutDown outcome => rcases rebuilding with rfl | rfl | rfl <;> simp [due, Costs.of, mayRebuild]
    rw [List.map_cons, List.sum_cons, List.countP_cons]
    omega

section
variable {origin start last : World α} {before taken all : List (World α × Action α)} {password : PyStr}

/-- The tasks that a run starts after the first new pool are trusted in every round. -/
theorem later_trusted (until_ : Path step origin before start) (renewed : origin.module.created < start.module.created)
    (path : Path step start taken last) (within : before ++ taken ⊆ all) (rotated : Rotated password all)
    (uninjected : ∀ s injected limit, (s, .spawn injected limit) ∈ taken → injected = none) (t : Nat) (task : PoolTasks.Task α)
    (later : start.tasks.length ≤ t) (there : last.tasks[t]? = some task) :
    Trusted (fun _ => True) origin.module.created last.module.created (fun _ => False) task := by
  refine run_trusted (fun _ => True) (start.tasks.length ≤ ·) (fun _ _ => False) trivial until_ path within rotated ?_ ?_
    (fun never => absurd trivial never) t task later there
  · intro t task later there
    rw [List.getElem?_eq_none later] at there
    cases there
  · rintro _ s injected limit pool member chosen
    obtain rfl := uninjected s injected limit member
    obtain ⟨earlier, reached⟩ := path.reached member
    have grown := created_grows reached
    refine current_since (until_.trans reached) (by omega) pool ?_
    unfold choosePool requirePool at chosen
    cases there : s.module.pool with
    | none => simp [there] at chosen
    | some current => simpa [there] using chosen

/-- When they go on they leave the trace alone. -/
theorem later_quiet {s s' : World α} {t : Nat} {result : Except PyExc (List α)} {credential : Except PyExc CredentialRead}
    {create : Except PyExc Unit} (until_ : Path step origin before start) (renewed : origin.module.created < start.module.created)
    (path : Path step start taken s) (took : step (.resume t result credential create) s = some s')
    (within : before ++ (taken ++ [(s, .resume t result credential create)]) ⊆ all) (rotated : Rotated password all)
    (uninjected : ∀ s injected limit, (s, .spawn injected limit) ∈ taken → injected = none) (later : start.tasks.length ≤ t) :
    s'.module.trace = s.module.trace := by
  have inPrefix : before ++ taken ⊆ all :=
    fun entry member => within (by rw [← List.append_assoc]; exact List.mem_append_left _ member)
  rcases step_turn took with ⟨task, fresh, _⟩ | ⟨_, _, _, _, task, next, same, there, turn, _⟩
  · cases fresh
  · obtain ⟨rfl, rfl, rfl, rfl⟩ := Action.resume.inj same
    have trusted := later_trusted until_ renewed path inPrefix rotated uninjected t task later there
    refine trusted_quiet turn ?_ trusted
    rintro exc round limit pool point rfl rfl since made
    exact rotated.database s t exc credential create round limit pool point (within (by simp)) there
      (made_since (until_.trans path) inPrefix rotated pool since made)

theorem run_outdated {kind : Kind} (other : kind ≠ .attempt) (until_ : Path step origin before start)
    (renewed : origin.module.created < start.module.created)
    (path : Path step start taken last) (within : before ++ taken ⊆ all) (rotated : Rotated password all)
    (uninjected : ∀ s injected limit, (s, .spawn injected limit) ∈ taken → injected = none) :
    start.tasks.length ≤ last.tasks.length ∧
    dueOf kind start.tasks.length last + counted kind last.module.trace ≤ dueOf kind start.tasks.length start +
      counted kind start.module.trace + (allowance (.shutdown : Action α)).of kind * stepsOf isShutdown taken := by
  induction path with
  | nil => exact ⟨Nat.le_refl _, Nat.le_add_right _ _⟩
  | @snoc taken s s' action earlier took ih =>
    have inPrefix : before ++ taken ⊆ all :=
      fun entry member => within (by rw [← List.append_assoc]; exact List.mem_append_left _ member)
    have still : ∀ s injected limit, (s, .spawn injected limit) ∈ taken → injected = none :=
      fun s injected limit member => uninjected s injected limit (List.mem_append_left _ member)
    obtain ⟨grown, paid⟩ := ih inPrefix still
    refine ⟨Nat.le_trans grown (tasks_grow took), ?_⟩
    have cost := step_outdated other took grown fun t result credential create later isResume => by
      subst isResume
      exact later_quiet until_ renewed earlier took within rotated still later
    have counted_ : stepsOf isShutdown (taken ++ [(s, action)]) = stepsOf isShutdown taken + if isShutdown action then 1 else 0 := by
      simp [stepsOf, List.countP_append, List.countP_cons]
    rw [counted_, Nat.mul_add]
    split_ifs at cost ⊢ with isEnd <;> omega
end

/-- A rotation settles. Once a pool has been made with the new password, no fetch called from
    then on is refused, and when it goes on it leaves the trace alone; there are at most as many
    further credential reads, as many pool creations and as many closes as fetches that may then
    still rebuild, and a close for each shutdown. -/
theorem rotation_settles {password : PyStr} {start renewed last : World α} {taken more : List (World α × Action α)}
    (until_ : Path step start taken renewed) (since : Path step renewed more last) (rotated : Rotated password (taken ++ more))
    (made : start.module.created < renewed.module.created)
    (uninjected : ∀ s injected limit, (s, .spawn injected limit) ∈ more → injected = none) :
    (∀ t exc, renewed.tasks.length ≤ t → last.tasks[t]? = some (.returned (.error exc)) → isAuthError exc = false) ∧
      (∀ s s' t result credential create, renewed.tasks.length ≤ t → (s, .resume t result credential create) ∈ more →
        step (.resume t result credential create) s = some s' → s'.module.trace = s.module.trace) ∧
      counted .read last.module.trace ≤ counted .read renewed.module.trace + renewed.tasks.countP mayRebuild ∧
      counted .creation last.module.trace ≤ counted .creation renewed.module.trace + renewed.tasks.countP mayRebuild ∧
      counted .close last.module.trace ≤ counted .close renewed.module.trace + renewed.tasks.countP mayRebuild +
        stepsOf isShutdown more := by
  have costs : ∀ kind, kind = .read ∨ kind = .creation ∨ kind = .close → counted kind last.module.trace ≤
      counted kind renewed.module.trace + renewed.tasks.countP mayRebuild +
        (allowance (.shutdown : Action α)).of kind * stepsOf isShutdown more := by
    intro kind rebuilding
    have other : kind ≠ .attempt := by
      rintro rfl
      simp at rebuilding
    have paid := (run_outdated other until_ made since (List.Subset.refl _) rotated uninjected).2
    have owed := due_mayRebuild rebuilding renewed.tasks
    have whole : dueOf kind renewed.tasks.length renewed = (renewed.tasks.map (fun task => (due task).of kind)).sum := by
      rw [dueOf, List.take_length]
    omega
  refine ⟨fun t exc later ended => ?_, fun s s' t result credential create later member took => ?_, ?_, ?_, ?_⟩
  · have trusted := later_trusted until_ made since (List.Subset.refl _) rotated uninjected t _ later ended
    exact Bool.eq_false_iff.mpr trusted
  · obtain ⟨earlier, front, path⟩ := since.cut member
    have within : taken ++ (earlier ++ [(s, .resume t result credential create)]) ⊆ taken ++ more :=
      List.append_subset.mpr ⟨List.subset_append_left _ _, List.subset_append_of_subset_right _ front.subset⟩
    exact later_quiet until_ made path took within rotated
      (fun s injected limit started => uninjected s injected limit (front.subset (List.mem_append_left _ started))) later
  · simpa [allowance, Costs.of] using costs .read (.inl rfl)
  · simpa [allowance, Costs.of] using costs .creation (.inr (.inl rfl))
  · simpa [allowance, Costs.of] using costs .close (.inr (.inr rfl))

/-- The fetch has made a pool with the new password. -/
def rebuilt : World Unit :=
  ⟨⟨some 1, 2, refused.module.trace ++ [.readCredential, .createPool ⟨lit "new", []⟩, .attempt 1]⟩, [0], [],
    [.attempting .second 1 1 .acquire]⟩

/-- A fetch is called while the other makes its second attempt. -/
def joined : World Unit :=
  ⟨⟨some 1, 2, rebuilt.module.trace ++ [.attempt 1]⟩, [0], [], [.attempting .second 1 1 .acquire, .attempting .first 1 1 .acquire]⟩

def timedOut : PyExc := .ofText .Exception (lit "DPY-4024: call timeout exceeded")

theorem rotation_settles_joined : ∃ last : World Unit,
    Path step rebuilt [(rebuilt, .spawn none 1), (joined, goesOn 1 (.error timedOut))] last ∧
      last.tasks[1]? = some (.returned (.error timedOut)) ∧ isAuthError timedOut = false ∧
      counted .creation last.module.trace ≤ counted .creation rebuilt.module.trace + rebuilt.tasks.countP mayRebuild := by
  have since : Path step rebuilt [(rebuilt, .spawn none 1), (joined, goesOn 1 (.error timedOut))] _ :=
    (Path.single (show step (.spawn none 1) rebuilt = some joined from rfl)).snoc rfl
  refine ⟨_, since, rfl, ?_⟩
  have until_ : Path step _ (refusedTaken (.ok [])) rebuilt := refused_path rfl
  have rotated : Rotated (lit "new") (refusedTaken (.ok []) ++ [(rebuilt, .spawn none 1), (joined, goesOn 1 (.error timedOut))]) := by
    refine rotated_of (List.forall_mem_append.mpr ⟨refusedTaken_refuses _, ?_⟩)
    simp only [List.forall_mem_cons, List.not_mem_nil, false_imp_iff, implies_true, and_true]
    refine ⟨refuses_spawn Nat.two_pos, refuses_goesOn Nat.two_pos ?_⟩
    rintro exc _ _ _ _ failed auth _
    obtain rfl := Except.error.inj failed
    cases auth
  have uninjected : ∀ s injected limit, (s, Action.spawn injected limit) ∈
      [(rebuilt, .spawn none 1), (joined, goesOn 1 (.error timedOut))] → injected = none := by
    intro s injected limit member
    simp [goesOn] at member
    exact member.2.1
  obtain ⟨shown, _, _, creations, _⟩ := rotation_settles until_ since rotated (Nat.lt_succ_self 1) uninjected
  exact ⟨shown 1 timedOut (Nat.le_refl 1) rfl, creations⟩

end OracleSchema.Recovery
