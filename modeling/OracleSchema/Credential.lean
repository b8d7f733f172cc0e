import OracleSchema.Decoding
import OracleSchema.Instants

/-!
The credential file: where its path leads, its size bound, and the password that its
bytes spell. `accepts_grammar` says which bytes are read, as which password, and that
all others are refused.
-/
namespace OracleSchema.Credential
open OracleSchema.Casing OracleSchema.Joined OracleSchema.Strings OracleSchema.Errors OracleSchema.Decoding OracleSchema.Settings
open OracleSchema.Execution OracleSchema.Instants

/-! ### Paths -/

/-- A `PurePosixPath`: its parts are neither empty nor a full stop, and hold no slash. -/
structure PurePath where
  root : PyStr
  parts : List PyStr
  clean : ∀ part ∈ parts, part ≠ [] ∧ part ≠ lit "." ∧ 47 ∉ part
  deriving DecidableEq

/-- `Path(path)`; exactly two slashes in front are a root of their own. -/
def PurePath.ofText (path : PyStr) : PurePath where
  root :=
    match (path.takeWhile (· = 47)).length with
    | 0 => []
    | 2 => lit "//"
    | _ => lit "/"
  parts := (path.splitOn 47).filter (fun part => part ≠ [] ∧ part ≠ lit ".")
  clean part member := by
    rw [List.mem_filter, decide_eq_true_eq] at member
    exact ⟨member.2.1, member.2.2, free_of_splitOn 47 path part member.1⟩

def PurePath.parent (p : PurePath) : PurePath where
  root := p.root
  parts := p.parts.dropLast
  clean part member := p.clean part (List.mem_of_mem_dropLast member)

/-- `is_relative_to`: the other path is this one or one of its parents. -/
def PurePath.isRelativeTo (p other : PurePath) : Bool := other.root = p.root ∧ other.parts <+: p.parts

/-! ### Files -/

/-- What `os.stat` says about a file, as far as it is read here. -/
structure StatResult where
  st_size : Nat
  st_mtime : PyReal

/-- What the operating system answers about paths and files; `resolve` follows links. -/
structure FileSystem where
  resolve : (strict : Bool) → PurePath → Except PyExc PurePath
  stat : PurePath → Except PyExc StatResult
  read_bytes : PurePath → Except PyExc Bytes

/-- The file system after the contents of one file were written. -/
def FileSystem.write (fs : FileSystem) (target : PurePath) (b : Bytes) (mtime : PyReal) : FileSystem where
  resolve := fs.resolve
  stat p := if p = target then .ok ⟨b.length, mtime⟩ else fs.stat p
  read_bytes p := if p = target then .ok b else fs.read_bytes p

/-! ### The reader -/

def maxCredentialBytes : Nat := 4096

/-- `try: x except cls: raise exc`. -/
def replacing {α : Type} (cls : ExcClass) (exc : PyExc) (x : Except PyExc α) : Except PyExc α :=
  match x with
  | .ok a => .ok a
  | .error raised => .error (if raised.isInstance cls then exc else raised)

def credentialFileError (text : PyStr) : PyExc := .ofText .CredentialFileError text

def unreadable (path : PyStr) : PyExc := credentialFileError (lit "credential file unreadable at " ++ path)

/-- `str.strip(chars)`. -/
def stripChars (chars s : PyStr) : PyStr := (s.dropWhile (· ∈ chars)).rdropWhile (· ∈ chars)

/-- The file behind the path: its status and its bytes. -/
def readFile (fs : FileSystem) (path : PyStr) : Except PyExc (StatResult × Bytes) := do
  let configured := PurePath.ofText path
  let mount_dir ← fs.resolve false configured.parent
  let resolved ← replacing .OSError (unreadable path) (fs.resolve true configured)
  if ¬ resolved.isRelativeTo mount_dir then
    .error (credentialFileError (lit "credential file at " ++ path ++ lit " resolves outside its mount directory"))
  else
    replacing .OSError (unreadable path) (do
      let stat ← fs.stat resolved
      if maxCredentialBytes < stat.st_size then
        .error (credentialFileError (lit "credential file at " ++ path ++ lit " exceeds size bound"))
      else
        let raw ← fs.read_bytes resolved
        .ok (stat, raw))

/-- The password in the bytes of the file. -/
def passwordIn (path : PyStr) (raw : Bytes) : Except PyExc PyStr :=
  match decodeStrict raw with
  | none => .error (credentialFileError (lit "credential file at " ++ path ++ lit " is not UTF-8"))
  | some decoded =>
    let text := chomp 10 decoded
    if text = [] ∨ strip text ≠ text ∨ stripChars (lit "\r\n \t") text = [] then
      .error (credentialFileError (lit "credential file at " ++ path ++ lit " is empty or malformed"))
    else .ok text

/-- `read_credential`. -/
def readCredential (fs : FileSystem) (path : PyStr) : Except PyExc CredentialRead := do
  let (stat, raw) ← readFile fs path
  let text ← passwordIn path raw
  let changed ← fromtimestamp stat.st_mtime
  .ok ⟨text, changed.isoformat⟩

/-! ### The grammar -/

/-- A text that may be a password. -/
structure IsPassword (p : PyStr) : Prop where
  given : p ≠ []
  solid : SolidEnds p

instance (p : PyStr) : Decidable (IsPassword p) :=
  decidable_of_iff (p ≠ [] ∧ strip p = p)
    ⟨fun both => ⟨both.1, strip_eq_self_iff.mp both.2⟩, fun password => ⟨password.given, strip_of_solidEnds password.solid⟩⟩

/-- The bytes are the password in UTF-8, with at most one newline behind it. -/
def Spells (p : PyStr) (b : Bytes) : Prop := utf8 p = some b ∨ utf8 (p ++ lit "\n") = some b

/-- The contents of a credential file with this password. -/
structure InGrammar (p : PyStr) (b : Bytes) : Prop where
  password : IsPassword p
  spelled : Spells p b
  bounded : b.length ≤ maxCredentialBytes

theorem IsPassword.unterminated {p : PyStr} (password : IsPassword p) : p.getLast? ≠ some 10 := by
  intro last
  exact absurd (password.solid.2 10 last) (by decide)

theorem stripChars_eq_nil {chars s : PyStr} : stripChars chars s = [] ↔ ∀ c ∈ s, c ∈ chars := by
  rw [stripChars, List.rdropWhile_eq_nil_iff]
  constructor
  · intro blank
    have nothing : s.dropWhile (fun c => decide (c ∈ chars)) = [] := by
      cases rest : s.dropWhile (fun c => decide (c ∈ chars)) with
      | nil => rfl
      | cons c more =>
        have kept := List.head?_dropWhile_not (fun c => decide (c ∈ chars)) s
        rw [rest] at blank kept
        simp only [List.head?_cons, decide_eq_false_iff_not] at kept
        exact absurd (of_decide_eq_true (blank c List.mem_cons_self)) kept
    exact fun c member => of_decide_eq_true (List.dropWhile_eq_nil_iff.mp nothing c member)
  · intro all c member
    exact decide_eq_true (all c ((List.dropWhile_suffix _).mem member))

/-- The third condition on the text follows from the others. -/
theorem IsPassword.stripChars_ne_nil {p : PyStr} (password : IsPassword p) : stripChars (lit "\r\n \t") p ≠ [] := by
  rw [Ne, stripChars_eq_nil]
  intro blank
  obtain ⟨c, rest, rfl⟩ := List.exists_cons_of_ne_nil password.given
  have spaces : ∀ d ∈ lit "\r\n \t", isSpace d = true := by
    rw [lit_ofList]
    simp [isSpace]
  exact Bool.eq_false_iff.mp (password.solid.1 c rfl) (spaces c (blank c List.mem_cons_self))

/-- The text is kept exactly if it is a password. -/
theorem isPassword_iff {text : PyStr} :
    ¬ (text = [] ∨ strip text ≠ text ∨ stripChars (lit "\r\n \t") text = []) ↔ IsPassword text := by
  rw [not_or, not_or, not_not, strip_eq_self_iff]
  exact ⟨fun kept => ⟨kept.1, kept.2.1⟩, fun password => ⟨password.given, password.solid, password.stripChars_ne_nil⟩⟩

/-- The password in the bytes is the one that they spell. -/
theorem passwordIn_eq_ok {path p : PyStr} {raw : Bytes} : passwordIn path raw = .ok p ↔ IsPassword p ∧ Spells p raw := by
  unfold passwordIn
  constructor
  · intro found
    cases decoded : decodeStrict raw with
    | none =>
      rw [decoded] at found
      cases found
    | some text =>
      rw [decoded] at found
      simp only at found
      split_ifs at found with malformed
      obtain rfl := Except.ok.inj found
      have password := isPassword_iff.mp malformed
      refine ⟨password, ?_⟩
      rw [Spells, ← decodeStrict_eq_some, ← decodeStrict_eq_some, decoded, Option.some.injEq, Option.some.injEq]
      exact (chomp_eq_iff password.unterminated).mp rfl
  · rintro ⟨password, spelled⟩
    rw [Spells, ← decodeStrict_eq_some, ← decodeStrict_eq_some] at spelled
    obtain ⟨text, decoded, forms⟩ : ∃ text, decodeStrict raw = some text ∧ (text = p ∨ text = p ++ [10]) := by
      rcases spelled with alone | ended
      · exact ⟨p, alone, .inl rfl⟩
      · exact ⟨p ++ [10], ended, .inr rfl⟩
    rw [decoded]
    simp only
    rw [(chomp_eq_iff password.unterminated).mpr forms, if_neg (isPassword_iff.mpr password)]

example : (passwordIn (lit "/run/db/password") [116, 105, 103, 101, 114, 13, 10]).toOption = none := by decide

theorem passwordIn_error {path : PyStr} {raw : Bytes} {exc : PyExc} (raised : passwordIn path raw = .error exc) :
    exc.cls = .CredentialFileError := by
  unfold passwordIn at raised
  cases decoded : decodeStrict raw with
  | none =>
    rw [decoded] at raised
    obtain rfl := Except.error.inj raised
    rfl
  | some text =>
    rw [decoded] at raised
    simp only at raised
    split_ifs at raised
    obtain rfl := Except.error.inj raised
    rfl

/-! ### Reading -/

/-- The path leads to the file, inside its mount directory. -/
structure Mounted (fs : FileSystem) (path : PyStr) (target : PurePath) : Prop where
  resolved : fs.resolve true (.ofText path) = .ok target
  inside : ∃ mount_dir, fs.resolve false (PurePath.ofText path).parent = .ok mount_dir ∧ target.isRelativeTo mount_dir = true

/-- The file can be read and stays as it is while it is read, so that its size is that of
    its contents. -/
structure Holds (fs : FileSystem) (target : PurePath) (b : Bytes) (mtime : PyReal) : Prop where
  stat : fs.stat target = .ok ⟨b.length, mtime⟩
  contents : fs.read_bytes target = .ok b

section
variable {fs : FileSystem} {path : PyStr} {target : PurePath} {b : Bytes} {mtime : PyReal}

theorem Mounted.write (mounted : Mounted fs path target) (b : Bytes) (mtime : PyReal) :
    Mounted (fs.write target b mtime) path target :=
  ⟨mounted.resolved, mounted.inside⟩

theorem holds_write (fs : FileSystem) (target : PurePath) (b : Bytes) (mtime : PyReal) :
    Holds (fs.write target b mtime) target b mtime :=
  ⟨if_pos rfl, if_pos rfl⟩

/-- A file that stays as it is is read whole or refused for its size. -/
theorem readFile_held (mounted : Mounted fs path target) (holds : Holds fs target b mtime) :
    readFile fs path =
      if maxCredentialBytes < b.length then
        .error (credentialFileError (lit "credential file at " ++ path ++ lit " exceeds size bound"))
      else .ok (⟨b.length, mtime⟩, b) := by
  obtain ⟨mount_dir, mount, inside⟩ := mounted.inside
  unfold readFile
  simp only [mount, mounted.resolved, holds.stat, holds.contents, replacing, inside, not_true_eq_false, if_false, bind,
    Except.bind]
  split_ifs with long
  · rfl
  · rfl

theorem readCredential_held {instant : Datetime} (mounted : Mounted fs path target) (holds : Holds fs target b mtime)
    (dated : fromtimestamp mtime = .ok instant) :
    readCredential fs path =
      if maxCredentialBytes < b.length then
        .error (credentialFileError (lit "credential file at " ++ path ++ lit " exceeds size bound"))
      else (passwordIn path b).map (fun p => ⟨p, instant.isoformat⟩) := by
  unfold readCredential
  rw [readFile_held mounted holds]
  split_ifs with long
  · rfl
  · simp only [bind, Except.bind, dated]
    cases passwordIn path b with
    | error exc => rfl
    | ok p => rfl

/-- A file that stays as it is gives a password exactly if its bytes are in the grammar. -/
theorem readCredential_eq_ok {instant : Datetime} (mounted : Mounted fs path target) (holds : Holds fs target b mtime)
    (dated : fromtimestamp mtime = .ok instant) {credential : CredentialRead} :
    readCredential fs path = .ok credential ↔
      InGrammar credential.password b ∧ credential.rotation_ref = instant.isoformat := by
  rw [readCredential_held mounted holds dated]
  obtain ⟨password, rotation_ref⟩ := credential
  split_ifs with long
  · refine iff_of_false (fun same => nomatch same) fun accepted => ?_
    exact absurd accepted.1.bounded (not_le.mpr long)
  · rw [map_eq_ok]
    constructor
    · rintro ⟨p, found, same⟩
      obtain ⟨rfl, rfl⟩ := CredentialRead.mk.inj same
      obtain ⟨isPassword, spelled⟩ := passwordIn_eq_ok.mp found
      exact ⟨⟨isPassword, spelled, not_lt.mp long⟩, rfl⟩
    · rintro ⟨accepted, rfl⟩
      exact ⟨password, passwordIn_eq_ok.mpr ⟨accepted.password, accepted.spelled⟩, rfl⟩

/-- It is refused only with a `CredentialFileError`. -/
theorem readCredential_error {instant : Datetime} (mounted : Mounted fs path target) (holds : Holds fs target b mtime)
    (dated : fromtimestamp mtime = .ok instant) {exc : PyExc} (raised : readCredential fs path = .error exc) :
    exc.cls = .CredentialFileError := by
  rw [readCredential_held mounted holds dated] at raised
  split_ifs at raised with long
  · obtain rfl := Except.error.inj raised
    rfl
  · cases found : passwordIn path b with
    | ok p =>
      rw [found] at raised
      cases raised
    | error exc' =>
      rw [found] at raised
      obtain rfl : exc' = exc := Except.error.inj raised
      exact passwordIn_error found
end

/-- A readable file inside its mount directory that stays as it is, with a modification
    time that a `datetime` can represent, gives a password exactly if its bytes are in the
    grammar, and is refused with a `CredentialFileError` otherwise; a password that is
    written, with or without a newline, is read back. -/
theorem accepts_grammar (fs : FileSystem) (path : PyStr) (target : PurePath) (b : Bytes) (mtime : PyReal) (instant : Datetime)
    (mounted : Mounted fs path target) (holds : Holds fs target b mtime) (dated : fromtimestamp mtime = .ok instant) :
    (∀ p, (∃ rotation_ref, readCredential fs path = .ok ⟨p, rotation_ref⟩) ↔ InGrammar p b) ∧
      ((∀ p, ¬ InGrammar p b) → ∃ exc, readCredential fs path = .error exc ∧ exc.cls = .CredentialFileError) ∧
      ∀ p encoded later written, IsPassword p → Spells p encoded → encoded.length ≤ maxCredentialBytes →
        fromtimestamp later = .ok written →
          readCredential (fs.write target encoded later) path = .ok ⟨p, written.isoformat⟩ := by
  refine ⟨fun p => ?_, fun none => ?_, fun p encoded later written password spelled bounded stamped => ?_⟩
  · constructor
    · rintro ⟨rotation_ref, read⟩
      exact ((readCredential_eq_ok mounted holds dated).mp read).1
    · intro accepted
      exact ⟨instant.isoformat, (readCredential_eq_ok mounted holds dated).mpr ⟨accepted, rfl⟩⟩
  · cases read : readCredential fs path with
    | ok credential => exact absurd ((readCredential_eq_ok mounted holds dated).mp read).1 (none _)
    | error exc => exact ⟨exc, rfl, readCredential_error mounted holds dated read⟩
  · exact (readCredential_eq_ok (mounted.write encoded later) (holds_write fs target encoded later) stamped).mpr
      ⟨⟨password, spelled, bounded⟩, rfl⟩

/-- A mounted secret, which links the file into the directory of its version. -/
def secretFiles : FileSystem :=
  FileSystem.write
    { resolve := fun strict p =>
        if p = .ofText (lit "/run/db/password") then .ok (.ofText (lit "/run/db/..v1/password"))
        else if p = .ofText (lit "/run/db") ∨ strict = false then .ok p
        else .error (.ofText .OSError (lit "No such file or directory"))
      stat := fun _ => .error (.ofText .OSError (lit "No such file or directory"))
      read_bytes := fun _ => .error (.ofText .OSError (lit "No such file or directory")) }
    (.ofText (lit "/run/db/..v1/password")) [116, 105, 103, 101, 114, 10] (.finite 1767225600)

theorem accepts_grammar_newline :
    ∃ rotation_ref, readCredential secretFiles (lit "/run/db/password") = .ok ⟨lit "tiger", rotation_ref⟩ := by
  have mounted : Mounted secretFiles (lit "/run/db/password") (.ofText (lit "/run/db/..v1/password")) :=
    ⟨by simp [secretFiles, FileSystem.write], .ofText (lit "/run/db"), by decide, by decide⟩
  obtain ⟨instant, dated⟩ : ∃ instant, fromtimestamp (.finite 1767225600) = .ok instant := by
    refine represents_iff.mpr ⟨_, rfl, ?_⟩
    have whole := microseconds_intCast 1767225600
    simp only [Int.cast_ofNat] at whole
    rw [whole]
    decide
  obtain ⟨accepted, _⟩ := accepts_grammar secretFiles (lit "/run/db/password") (.ofText (lit "/run/db/..v1/password"))
    [116, 105, 103, 101, 114, 10] (.finite 1767225600) instant mounted (holds_write _ _ _ _) dated
  exact (accepted (lit "tiger")).mpr ⟨by decide, .inr (by decide), by decide⟩

/-! ### What was read -/

section
variable {fs : FileSystem} {path : PyStr} {credential : CredentialRead}

/-- The file that a credential was read from. Its status may be older than its bytes. -/
structure Source (fs : FileSystem) (path : PyStr) (credential : CredentialRead) (target : PurePath) : Prop where
  mounted : Mounted fs path target
  spelled : ∃ b, fs.read_bytes target = .ok b ∧ Spells credential.password b
  dated : ∃ stat instant, fs.stat target = .ok stat ∧ fromtimestamp stat.st_mtime = .ok instant ∧
    credential.rotation_ref = instant.isoformat

theorem replacing_eq_ok {α : Type} {cls : ExcClass} {exc : PyExc} {x : Except PyExc α} {a : α} :
    replacing cls exc x = .ok a ↔ x = .ok a := by
  cases x <;> simp [replacing]

theorem readFile_eq_ok {stat : StatResult} {raw : Bytes} (read : readFile fs path = .ok (stat, raw)) :
    ∃ target, Mounted fs path target ∧ fs.stat target = .ok stat ∧ fs.read_bytes target = .ok raw := by
  unfold readFile at read
  obtain ⟨mount_dir, mount, read⟩ := Errors.bind_eq_ok.mp read
  obtain ⟨target, resolved, read⟩ := Errors.bind_eq_ok.mp read
  split_ifs at read with inside
  obtain ⟨status, found, read⟩ := Errors.bind_eq_ok.mp (replacing_eq_ok.mp read)
  split_ifs at read
  obtain ⟨contents, whole, same⟩ := Errors.bind_eq_ok.mp read
  obtain ⟨rfl, rfl⟩ := Prod.mk.inj (Except.ok.inj same)
  exact ⟨target, ⟨replacing_eq_ok.mp resolved, mount_dir, mount, inside⟩, found, whole⟩

theorem readCredential_source (read : readCredential fs path = .ok credential) :
    IsPassword credential.password ∧ ∃ target, Source fs path credential target := by
  unfold readCredential at read
  obtain ⟨⟨stat, raw⟩, file, read⟩ := Errors.bind_eq_ok.mp read
  obtain ⟨text, found, read⟩ := Errors.bind_eq_ok.mp read
  obtain ⟨instant, dated, same⟩ := Errors.bind_eq_ok.mp read
  obtain rfl := Except.ok.inj same
  obtain ⟨target, mounted, status, contents⟩ := readFile_eq_ok file
  obtain ⟨password, spelled⟩ := passwordIn_eq_ok.mp found
  exact ⟨password, target, mounted, ⟨raw, contents, spelled⟩, stat, instant, status, dated, rfl⟩
end

end OracleSchema.Credential
