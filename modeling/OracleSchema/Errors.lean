import OracleSchema.Strings

/-!
Python exceptions: the class, by which handlers select, and the constructor
arguments, of which the program reads one attribute.
-/
namespace OracleSchema.Errors
open OracleSchema.Strings

/-- The exception classes that handlers of the program name or that the modelled
    library calls raise; `Sub` is any further subclass of one of them. -/
inductive ExcClass
  | Exception | RuntimeError | ValueError | TypeError | OSError | OverflowError | RecursionError
  | UnicodeEncodeError | UnicodeDecodeError | JSONDecodeError | JoseError | ParseError
  | CredentialFileError | ConfigError | OwnerNotAllowed
  | Sub (name : PyStr) (base : ExcClass)
  deriving DecidableEq

namespace ExcClass

/-- `cls.__name__`. -/
def name : ExcClass → PyStr
  | Exception => lit "Exception"
  | RuntimeError => lit "RuntimeError"
  | ValueError => lit "ValueError"
  | TypeError => lit "TypeError"
  | OSError => lit "OSError"
  | OverflowError => lit "OverflowError"
  | RecursionError => lit "RecursionError"
  | UnicodeEncodeError => lit "UnicodeEncodeError"
  | UnicodeDecodeError => lit "UnicodeDecodeError"
  | JSONDecodeError => lit "JSONDecodeError"
  | JoseError => lit "JoseError"
  | ParseError => lit "ParseError"
  | CredentialFileError => lit "CredentialFileError"
  | ConfigError => lit "ConfigError"
  | OwnerNotAllowed => lit "OwnerNotAllowed"
  | Sub name _ => name

/-- The class and its superclasses up to `Exception`. -/
def mro : ExcClass → List ExcClass
  | Exception => [Exception]
  | RecursionError => [RecursionError, RuntimeError, Exception]
  | CredentialFileError => [CredentialFileError, RuntimeError, Exception]
  | ConfigError => [ConfigError, RuntimeError, Exception]
  | UnicodeEncodeError => [UnicodeEncodeError, ValueError, Exception]
  | UnicodeDecodeError => [UnicodeDecodeError, ValueError, Exception]
  | JSONDecodeError => [JSONDecodeError, ValueError, Exception]
  | OwnerNotAllowed => [OwnerNotAllowed, ValueError, Exception]
  | Sub name base => Sub name base :: base.mro
  | cls => [cls, Exception]

end ExcClass

/-- A constructor argument of an exception: its text and its `full_code`
    attribute, when it has one. -/
structure ExcArg where
  text : PyStr
  full_code : Option PyStr
  deriving DecidableEq

structure PyExc where
  cls : ExcClass
  args : List ExcArg
  deriving DecidableEq

/-- `isinstance(exc, cls)`. -/
def PyExc.isInstance (exc : PyExc) (cls : ExcClass) : Bool := cls ∈ exc.cls.mro

/-- An exception whose only argument is a message. -/
def PyExc.ofText (cls : ExcClass) (text : PyStr) : PyExc := ⟨cls, [⟨text, none⟩]⟩

/-- `str(exc)` of an exception with one argument at most. -/
def PyExc.text (exc : PyExc) : PyStr :=
  match exc.args with
  | [] => []
  | arg :: _ => arg.text

/-- `_is_auth_error`: the first argument carries the Oracle code ORA-01017. -/
def isAuthError (exc : PyExc) : Bool :=
  match exc.args with
  | [] => false
  | err :: _ => err.full_code = some (lit "ORA-01017")

/-- `str.encode("utf-8")`. -/
def encodeUtf8 (s : PyStr) : Except PyExc Bytes :=
  match utf8 s with
  | some bytes => .ok bytes
  | none => .error (.ofText .UnicodeEncodeError (lit "surrogates not allowed"))

theorem map_eq_ok {ε α β : Type} {x : Except ε α} {f : α → β} {b : β} :
    x.map f = .ok b ↔ ∃ a, x = .ok a ∧ f a = b := by
  cases x with
  | error e => simp [Except.map]
  | ok a => simp [Except.map]

theorem bind_eq_ok {ε α β : Type} {x : Except ε α} {f : α → Except ε β} {b : β} :
    x >>= f = .ok b ↔ ∃ a, x = .ok a ∧ f a = .ok b := by
  cases x with
  | error e => simp [bind, Except.bind]
  | ok a => simp [bind, Except.bind]
theorem bind_eq_error {ε α β : Type} {x : Except ε α} {f : α → Except ε β} {e : ε} :
    x >>= f = .error e ↔ x = .error e ∨ ∃ a, x = .ok a ∧ f a = .error e := by
  cases x with
  | error e => simp [bind, Except.bind]
  | ok a => simp [bind, Except.bind]

end OracleSchema.Errors
