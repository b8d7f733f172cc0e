import OracleSchema.Credential
import OracleSchema.Session
import OracleSchema.Truncation

/-!
The credential behind an answer, while the mounted file may change between any two events
of a run. Every connection is attempted right after a reading of the file and with the
password that the file held then (`connects_backed`). An answer names the version of the
file that opened its connection, so the references of two answers tell whether their
versions were written in one microsecond (`references_compare`).
-/
namespace OracleSchema.Provenance
open OracleSchema.Strings OracleSchema.Errors OracleSchema.Settings OracleSchema.Replay OracleSchema.Traced
open OracleSchema.Execution OracleSchema.Pipeline OracleSchema.Session OracleSchema.Instants OracleSchema.Credential
open OracleSchema.Sharing OracleSchema.Truncation

/-- The driver, with a credential file in the file system of the moment. -/
def onFiles (D : Driver) (files : List Event → FileSystem) : Driver :=
  { D with read_credential := fun history path => readCredential (files history) path }

/-! ### Connections -/

section
variable (files : List Event → FileSystem) (cfg : Config)

/-- The traces in which every connect follows a reading of the credential that it uses. -/
inductive Backed : List Event → Prop
  | nil : Backed []
  | quiet {trace : List Event} {event : Event} (before : Backed trace) (silent : isConnect event = false) :
      Backed (trace ++ [event])
  | connect {trace : List Event} {credential : CredentialRead} (before : Backed trace)
      (read : readCredential (files trace) cfg.oracle_password_file = .ok credential) (user dsn : PyStr) :
      Backed (trace ++ [readEvent cfg, .connect user credential.password dsn])
end

section
variable {files : List Event → FileSystem} {cfg : Config} {trace : List Event}

theorem Backed.append (backed : Backed files cfg trace) {more : List Event} (silent : ∀ event ∈ more, isConnect event = false) :
    Backed files cfg (trace ++ more) := by
  induction more using List.reverseRecOn with
  | nil => rwa [List.append_nil]
  | append_singleton more event ih =>
    rw [List.forall_mem_append] at silent
    rw [← List.append_assoc]
    exact .quiet (ih silent.1) (silent.2 event (List.mem_singleton_self event))

/-- Before a connect there is the reading of its password. -/
theorem Backed.read (backed : Backed files cfg trace) {before after : List Event} {user password dsn : PyStr}
    (found : trace = before ++ .connect user password dsn :: after) :
    ∃ front credential, before = front ++ [readEvent cfg] ∧
      readCredential (files front) cfg.oracle_password_file = .ok credential ∧ credential.password = password := by
  induction backed generalizing after with
  | nil => simp at found
  | @quiet earlier event _ silent ih =>
    rcases List.eq_nil_or_concat' after with rfl | ⟨rest, last, rfl⟩
    · obtain ⟨_, same⟩ := List.append_inj' found rfl
      obtain rfl := List.singleton_inj.mp same
      cases silent
    · refine @ih rest ?_
      have split : earlier ++ [event] = (before ++ .connect user password dsn :: rest) ++ [last] := by simpa using found
      exact (List.append_inj' split rfl).1
  | @connect earlier credential _ read user' dsn' ih =>
    have ended : earlier ++ [readEvent cfg] ++ [.connect user' credential.password dsn'] =
      before ++ .connect user password dsn :: after := by simpa using found
    rcases List.eq_nil_or_concat' after with rfl | ⟨rest, last, rfl⟩
    · obtain ⟨rfl, same⟩ := List.append_inj' ended rfl
      obtain ⟨_, same, _⟩ := Event.connect.inj (List.singleton_inj.mp same)
      exact ⟨earlier, credential, rfl, read, same⟩
    · have split : earlier ++ [readEvent cfg] ++ [.connect user' credential.password dsn'] =
        (before ++ .connect user password dsn :: rest) ++ [last] := by simpa using ended
      have front := (List.append_inj' split rfl).1
      rcases List.eq_nil_or_concat' rest with rfl | ⟨rest', last', rfl⟩
      · cases List.singleton_inj.mp (List.append_inj' front rfl).2
      · refine @ih rest' ?_
        have split' : earlier ++ [readEvent cfg] = (before ++ .connect user password dsn :: rest') ++ [last'] := by
          simpa using front
        exact (List.append_inj' split' rfl).1

theorem Backed.attempt (backed : Backed files cfg trace) {credential : CredentialRead}
    (read : readCredential (files trace) cfg.oracle_password_file = .ok credential) (user : PyStr) :
    Backed files cfg (trace ++ [readEvent cfg] ++ [connectEvent cfg user credential]) := by
  rw [List.append_assoc]
  exact .connect backed read user cfg.oracle_dsn

theorem openConnection_backed (D : Driver) (proxy_db_identity : PyStr) (backed : Backed files cfg trace) :
    Backed files cfg (openConnection (onFiles D files) cfg proxy_db_identity trace).2 := by
  unfold openConnection
  rw [readCredential_bind]
  cases read : readAt (onFiles D files) cfg trace with
  | error exc => exact .quiet backed rfl
  | ok credential =>
    have first := backed.attempt read (proxyUser cfg proxy_db_identity)
    simp only [catching, connectAs_run]
    cases connectAt (onFiles D files) cfg (proxyUser cfg proxy_db_identity) (trace ++ [readEvent cfg]) credential with
    | ok connected => exact first
    | error exc =>
      simp only
      split_ifs with rotated
      · rw [readCredential_bind]
        cases again : readAt (onFiles D files) cfg _ with
        | error exc' => exact .quiet first rfl
        | ok credential' =>
          have second := first.attempt again (proxyUser cfg proxy_db_identity)
          simp only [connectAs_run]
          split
          · exact second
          · exact second
      · exact first

theorem execute_backed (D : Driver) (sha256_hexdigest : Bytes → PyStr) (proxy_db_identity verified_subject bounded_sql : PyStr)
    (effective : Int) (timeout_s : PyReal) (backed : Backed files cfg trace) :
    Backed files cfg (execute (onFiles D files) cfg sha256_hexdigest proxy_db_identity verified_subject bounded_sql effective
      timeout_s trace).2 := by
  unfold execute
  rw [ofExcept_bind]
  cases encodeUtf8 verified_subject with
  | error exc => exact backed
  | ok encoded =>
    have opened := openConnection_backed D proxy_db_identity backed
    simp only [bind_run (openConnection (onFiles D files) cfg proxy_db_identity)]
    cases opening : openConnection (onFiles D files) cfg proxy_db_identity trace with
    | mk result later =>
      rw [opening] at opened
      cases result with
      | error exc => exact opened
      | ok credential =>
        obtain ⟨body, closed, use⟩ : ∃ body, (onConnection (onFiles D files) (sha256_hexdigest encoded) bounded_sql timeout_s
          later).2 = _ ∧ _ := onConnection_use timeout_s
        have used := opened.append use.connects
        simp only [bind_run (onConnection (onFiles D files) (sha256_hexdigest encoded) bounded_sql timeout_s)]
        cases uses : onConnection (onFiles D files) (sha256_hexdigest encoded) bounded_sql timeout_s later with
        | mk finished last =>
          rw [uses] at closed
          obtain rfl : last = later ++ body ++ [.close] := closed
          rw [← List.append_assoc] at used
          match finished with
          | .error exc => exact used
          | .ok (.error refusal) => exact used
          | .ok (.ok (columns, fetched)) =>
            simp only [ofExcept_bind]
            cases fetched.mapM (rowDict columns) with
            | error exc => exact used
            | ok rows => exact used
end

section
variable {L : Libraries} {W : Surroundings} {call : Call} {cache : ReplayCache} {files : List Event → FileSystem}

/-- The gates connect to nothing. -/
theorem preflight_backed (L : Libraries) (W : Surroundings) (call : Call) (cache : ReplayCache) (files : List Event → FileSystem) :
    Backed files call.cfg (preflight L W call cache).trace := by
  have silent : ∀ event ∈ (preflight L W call cache).trace, isConnect event = false := by
    intro event member
    have quiet := (preflight_quiet L W call cache event member).noConnect
    cases event with
    | connect user password dsn => exact absurd rfl (quiet user password dsn)
    | _ => rfl
  have start : Backed files call.cfg [] := .nil
  exact start.append silent

theorem run_backed : Backed files call.cfg (run L { W with driver := onFiles W.driver files } call cache).trace := by
  have before := preflight_backed L { W with driver := onFiles W.driver files } call cache files
  cases ended : (preflight L { W with driver := onFiles W.driver files } call cache).outcome with
  | error exc =>
    rw [run_of_error ended]
    exact before
  | ok answer =>
    cases answer with
    | error refusal =>
      rw [run_of_refusal ended]
      exact before
    | ok plan =>
      rw [run_of_plan ended]
      have executed := execute_backed W.driver L.sha256_hexdigest plan.claims.proxy_db_identity plan.claims.sub plan.bounded_sql
        plan.effective plan.timeout_s before
      simp only [databaseLeg, catching]
      split
      · rename_i answer later leg
        rw [leg] at executed
        exact executed
      · rename_i exc later leg
        rw [leg] at executed
        exact executed.quiet rfl
end

/-- However the credential file changes during a run, each connection is attempted right
    after a reading of the file, with the password that a file in the mount directory held
    at that moment. -/
theorem connects_backed (L : Libraries) (W : Surroundings) (call : Call) (cache : ReplayCache) (files : List Event → FileSystem)
    {before after : List Event} {user password dsn : PyStr}
    (connects : (run L { W with driver := onFiles W.driver files } call cache).trace =
      before ++ .connect user password dsn :: after) :
    ∃ front target b, before = front ++ [readEvent call.cfg] ∧ Mounted (files front) call.cfg.oracle_password_file target ∧
      (files front).read_bytes target = .ok b ∧ IsPassword password ∧ Spells password b := by
  obtain ⟨front, credential, split, read, rfl⟩ := run_backed.read connects
  obtain ⟨isPassword, target, source⟩ := readCredential_source read
  obtain ⟨b, contents, spelled⟩ := source.spelled
  exact ⟨front, target, b, split, source.mounted, contents, isPassword, spelled⟩

/-! ### Rotation references -/

/-- A version of the credential file with this modification time, read from the mount
    directory at a moment of the run, whose password opened a connection then. -/
def OpenedBy (D : Driver) (files : List Event → FileSystem) (cfg : Config) (user : PyStr) (trace : List Event) (mtime : Rat) :
    Prop :=
  ∃ front target password b size,
    front ++ [readEvent cfg, .connect user password cfg.oracle_dsn] <+: trace ∧
      Mounted (files front) cfg.oracle_password_file target ∧ (files front).read_bytes target = .ok b ∧
      IsPassword password ∧ Spells password b ∧ (files front).stat target = .ok ⟨size, .finite mtime⟩ ∧
      D.connect (front ++ [readEvent cfg]) user password cfg.oracle_dsn = .ok ()

section
variable {L : Libraries} {W : Surroundings} {call : Call} {cache : ReplayCache} {files : List Event → FileSystem}
  {rows : List Row} {row_count : Nat} {truncated : Bool} {rotation_ref : PyStr}

theorem datetime_eq_iff {instant instant' : Datetime} : instant = instant' ↔ instant.microseconds = instant'.microseconds := by
  cases instant
  cases instant'
  simp

/-- A leg that answers has opened its connection with the version that its reference names. -/
theorem execute_opened {D : Driver} {cfg : Config} {sha256_hexdigest : Bytes → PyStr}
    {proxy_db_identity verified_subject bounded_sql : PyStr} {effective : Int} {timeout_s : PyReal} {start : List Event}
    (answered : (execute (onFiles D files) cfg sha256_hexdigest proxy_db_identity verified_subject bounded_sql effective
      timeout_s start).1 = .ok (.success rows row_count truncated rotation_ref)) :
    ∃ mtime, ∃ instant : Datetime, OpenedBy D files cfg (proxyUser cfg proxy_db_identity)
        (execute (onFiles D files) cfg sha256_hexdigest proxy_db_identity verified_subject bounded_sql effective timeout_s start).2
        mtime ∧
      instant.microseconds = microseconds mtime ∧ rotation_ref = instant.isoformat := by
  obtain ⟨session, extended, leg⟩ : ∃ session, (execute (onFiles D files) cfg sha256_hexdigest proxy_db_identity verified_subject
      bounded_sql effective timeout_s start).2 = start ++ session ∧ _ := execute_leg effective timeout_s
  rw [answered] at leg
  rw [extended]
  cases leg with
  | @used opening body credential encoded _ encodes opened use ref =>
    obtain ⟨front, rfl, read, connected⟩ := opened.shape
    obtain ⟨password, target, source⟩ := readCredential_source read
    obtain ⟨b, contents, spelled⟩ := source.spelled
    obtain ⟨⟨size, st_mtime⟩, instant, status, dated, named⟩ := source.dated
    obtain ⟨mtime, rfl, same⟩ := fromtimestamp_eq_ok.mp dated
    have during : start ++ front ++ [readEvent cfg, connectEvent cfg (proxyUser cfg proxy_db_identity) credential] <+:
        start ++ (front ++ [readEvent cfg, connectEvent cfg (proxyUser cfg proxy_db_identity) credential] ++ (body ++ [.close])) :=
      ⟨body ++ [.close], by simp⟩
    refine ⟨mtime, instant, ⟨start ++ front, target, _, b, size, during, source.mounted, contents, password, spelled, status,
      connected⟩, same, ?_⟩
    rw [ref _ _ _ _ rfl, named]

/-- So has a run, for the identity of its token. -/
theorem run_opened (succeeded : (run L { W with driver := onFiles W.driver files } call cache).outcome =
      .ok (.success rows row_count truncated rotation_ref)) :
    ∃ claims mtime, ∃ instant : Datetime, AllPassed L { W with driver := onFiles W.driver files } call cache claims ∧
      OpenedBy W.driver files call.cfg (proxyUser call.cfg claims.proxy_db_identity)
        (run L { W with driver := onFiles W.driver files } call cache).trace mtime ∧
      instant.microseconds = microseconds mtime ∧ rotation_ref = instant.isoformat := by
  cases ended : (preflight L { W with driver := onFiles W.driver files } call cache).outcome with
  | error exc =>
    rw [run_of_error ended] at succeeded
    cases succeeded
  | ok answer =>
    cases answer with
    | error refusal =>
      rw [run_of_refusal ended] at succeeded
      cases Except.ok.inj succeeded
    | ok plan =>
      rcases preflight_returns ended with ⟨_, same, all, _⟩ | ⟨_, _, same, _⟩
      · obtain rfl := Except.ok.inj same
        rw [run_of_plan ended] at succeeded ⊢
        rcases catching_eq_ok succeeded with executed | ⟨exc, later, _, handled⟩
        · obtain ⟨mtime, instant, opened, dated, named⟩ := execute_opened executed
          refine ⟨plan.claims, mtime, instant, all, ?_, dated, named⟩
          simp only [databaseLeg, catching_of_ok executed]
          exact opened
        · cases Except.ok.inj handled
      · cases same
end

/-- However the credential file changes meanwhile, a run that answers has opened its
    connection with a version of the file, and two answers, of any two runs, name one
    rotation exactly if their versions were modified in the same microsecond. -/
theorem references_compare (L L' : Libraries) (W W' : Surroundings) (call call' : Call) (cache cache' : ReplayCache)
    (files files' : List Event → FileSystem) {rows rows' : List Row} {row_count row_count' : Nat} {truncated truncated' : Bool}
    {rotation_ref rotation_ref' : PyStr}
    (succeeded : (run L { W with driver := onFiles W.driver files } call cache).outcome =
      .ok (.success rows row_count truncated rotation_ref))
    (succeeded' : (run L' { W' with driver := onFiles W'.driver files' } call' cache').outcome =
      .ok (.success rows' row_count' truncated' rotation_ref')) :
    ∃ claims claims' mtime mtime',
      AllPassed L { W with driver := onFiles W.driver files } call cache claims ∧
      OpenedBy W.driver files call.cfg (proxyUser call.cfg claims.proxy_db_identity)
        (run L { W with driver := onFiles W.driver files } call cache).trace mtime ∧
      AllPassed L' { W' with driver := onFiles W'.driver files' } call' cache' claims' ∧
      OpenedBy W'.driver files' call'.cfg (proxyUser call'.cfg claims'.proxy_db_identity)
        (run L' { W' with driver := onFiles W'.driver files' } call' cache').trace mtime' ∧
      (rotation_ref = rotation_ref' ↔ microseconds mtime = microseconds mtime') := by
  obtain ⟨claims, mtime, instant, all, opened, dated, rfl⟩ := run_opened succeeded
  obtain ⟨claims', mtime', instant', all', opened', dated', rfl⟩ := run_opened succeeded'
  refine ⟨claims, claims', mtime, mtime', all, opened, all', opened', ?_⟩
  rw [isoformat_injective.eq_iff, ← dated, ← dated']
  exact datetime_eq_iff

/-- A mounted secret that was written at this time. -/
def secretAt (mtime : Rat) : FileSystem where
  resolve strict _ := .ok (.ofText (if strict then lit "/run/pw" else lit "/run"))
  stat _ := .ok ⟨5, .finite mtime⟩
  read_bytes _ := .ok [116, 105, 103, 101, 114]

theorem secretAt_mounted (mtime : Rat) (path : PyStr) : Mounted (secretAt mtime) path (.ofText (lit "/run/pw")) :=
  ⟨rfl, .ofText (lit "/run"), rfl, by decide⟩

theorem secretAt_read (seconds : Int) (inside : Representable (seconds * 1000000)) :
    ∃ instant : Datetime, ∀ path, readCredential (secretAt seconds) path = .ok ⟨lit "tiger", instant.isoformat⟩ := by
  refine ⟨⟨seconds * 1000000, (dated_iff _).mpr inside⟩, fun path => ?_⟩
  have dated : fromtimestamp (.finite seconds) = .ok ⟨seconds * 1000000, (dated_iff _).mpr inside⟩ :=
    fromtimestamp_eq_ok.mpr ⟨seconds, rfl, (microseconds_intCast seconds).symm⟩
  have accepted : InGrammar (lit "tiger") [116, 105, 103, 101, 114] := ⟨by decide, .inl (by decide), by decide⟩
  exact (readCredential_eq_ok (secretAt_mounted seconds path) ⟨rfl, rfl⟩ dated).mpr ⟨accepted, rfl⟩

/-- The surroundings of a run that finds such a secret. -/
abbrev withSecret (seconds : Int) : Surroundings :=
  { dualSurroundings with driver := onFiles dualSurroundings.driver fun _ => secretAt seconds }

theorem dual_answers (seconds : Int) (inside : Representable (seconds * 1000000)) :
    ∃ rotation_ref, (run dualLibraries (withSecret seconds) sampleCall .fresh).outcome =
      .ok (.success [(∅ : Row).insert (lit "DUMMY") (.str (lit "X"))] 1 false rotation_ref) := by
  obtain ⟨instant, read⟩ := secretAt_read seconds inside
  have reads : (onFiles dualSurroundings.driver fun _ => secretAt seconds) =
      { dualSurroundings.driver with read_credential := fun _ _ => .ok ⟨lit "tiger", instant.isoformat⟩ } := by
    unfold onFiles
    congr 1
    funext _ path
    exact read path
  refine ⟨instant.isoformat, ?_⟩
  rw [withSecret, reads, run_of_plan (dual_preflight _)]
  simp only [databaseLeg, execute, onConnection, milliseconds_thirty]
  rfl

theorem references_compare_versions : ∃ rotation_ref rotation_ref' : PyStr, ∃ mtime mtime' trace trace',
    (∃ user, OpenedBy dualSurroundings.driver (fun _ => secretAt (1767225600 : Int)) sampleCall.cfg user trace mtime) ∧
    (∃ user, OpenedBy dualSurroundings.driver (fun _ => secretAt (1767225601 : Int)) sampleCall.cfg user trace' mtime') ∧
    (rotation_ref = rotation_ref' ↔ microseconds mtime = microseconds mtime') := by
  obtain ⟨rotation_ref, answered⟩ := dual_answers 1767225600 (by decide)
  obtain ⟨rotation_ref', answered'⟩ := dual_answers 1767225601 (by decide)
  obtain ⟨_, _, mtime, mtime', _, opened, _, opened', same⟩ := references_compare dualLibraries dualLibraries dualSurroundings
    dualSurroundings sampleCall sampleCall .fresh .fresh (fun _ => secretAt (1767225600 : Int)) (fun _ => secretAt (1767225601 : Int))
    answered answered'
  exact ⟨rotation_ref, rotation_ref', mtime, mtime', _, _, ⟨_, opened⟩, ⟨_, opened'⟩, same⟩

theorem connects_backed_tiger : ∃ front target b user password dsn,
    front ++ [readEvent sampleCall.cfg, .connect user password dsn] <+:
      (run dualLibraries (withSecret 1767225600) sampleCall .fresh).trace ∧
    (secretAt (1767225600 : Int)).read_bytes target = .ok b ∧ Spells password b := by
  obtain ⟨_, answered⟩ := dual_answers 1767225600 (by decide)
  obtain ⟨_, _, _, _, ⟨front, _, password, _, _, opened, _⟩, _⟩ := run_opened answered
  obtain ⟨after, during⟩ := id opened
  rw [List.append_cons, List.append_assoc] at during
  obtain ⟨_, target, b, _, _, contents, _, spelled⟩ := connects_backed dualLibraries dualSurroundings sampleCall .fresh
    (fun _ => secretAt (1767225600 : Int)) during.symm
  exact ⟨front, target, b, _, password, _, opened, contents, spelled⟩

end OracleSchema.Provenance
