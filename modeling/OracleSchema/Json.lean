import Mathlib.Data.List.Sort
import OracleSchema.Errors

/-!
The values that a canonical form can be asked of, and `canonical_bytes`: a walk
that refuses the shapes which JSON would merge, then the compact JSON text with
sorted keys, then UTF-8.
-/
namespace OracleSchema.Json
open OracleSchema.Casing OracleSchema.Strings OracleSchema.Errors OracleSchema.Joined

def isDigit (c : CodePoint) : Bool := 48 ≤ c.val ∧ c.val ≤ 57
def isDigits (s : PyStr) : Bool := s ≠ [] ∧ s.all isDigit
/-- Digits without a leading zero. -/
def isWhole (s : PyStr) : Bool := isDigits s ∧ (s.length = 1 ∨ s.head? ≠ some 48)

/-- The texts that `float.__repr__` gives for finite floats: a sign, digits, and a
    fraction or a signed exponent or both. -/
def isFloatRepr (s : PyStr) : Bool :=
  let mantissa : PyStr → Bool := fun m =>
    match m.splitOn 46 with
    | [whole] => isWhole whole
    | [whole, fraction] => isWhole whole ∧ isDigits fraction
    | _ => false
  let body := if s.head? = some 45 then s.tail else s
  match body.splitOn 101 with
  | [m] => mantissa m ∧ 46 ∈ m
  | [m, 43 :: exponent] => mantissa m ∧ isDigits exponent
  | [m, 45 :: exponent] => mantissa m ∧ isDigits exponent
  | _ => false

/-- A finite float is known by its repr, which round-trips. -/
inductive PyFloat
  | finite (repr : PyStr) (shape : isFloatRepr repr = true)
  | inf | negInf | nan
  deriving DecidableEq

/-- Python values: the JSON shapes, tuples, and instances of any other class. The
    items of a dictionary are in insertion order. -/
inductive PyValue
  | none
  | bool (value : Bool)
  | int (value : Int)
  | float (value : PyFloat)
  | str (value : PyStr)
  | list (items : List PyValue)
  | tuple (items : List PyValue)
  | dict (items : List (PyValue × PyValue))
  | object (typeName : PyStr)

/-- `type(value).__name__`. -/
def PyValue.typeName : PyValue → PyStr
  | .none => lit "NoneType"
  | .bool _ => lit "bool"
  | .int _ => lit "int"
  | .float _ => lit "float"
  | .str _ => lit "str"
  | .list _ => lit "list"
  | .tuple _ => lit "tuple"
  | .dict _ => lit "dict"
  | .object typeName => typeName

mutual
/-- `_reject_unsafe_values`. -/
def rejectUnsafeValues : PyValue → Except PyExc Unit
  | .tuple _ => .error (.ofText .TypeError (lit "tuple not allowed in canonical form"))
  | .float (.finite _ _) => .ok ()
  | .float _ => .error (.ofText .ValueError (lit "non-finite float not allowed in canonical form"))
  | .dict items => rejectUnsafeItems items
  | .list items => rejectUnsafeList items
  | _ => .ok ()
def rejectUnsafeItems : List (PyValue × PyValue) → Except PyExc Unit
  | [] => .ok ()
  | (.str _, value) :: rest =>
    match rejectUnsafeValues value with
    | .error exc => .error exc
    | .ok _ => rejectUnsafeItems rest
  | _ :: _ => .error (.ofText .ValueError (lit "non-string dict key not allowed in canonical form"))
def rejectUnsafeList : List PyValue → Except PyExc Unit
  | [] => .ok ()
  | value :: rest =>
    match rejectUnsafeValues value with
    | .error exc => .error exc
    | .ok _ => rejectUnsafeList rest
end

/-- `int.__repr__`, which CPython refuses above 4300 digits. -/
def intRepr (n : Int) : Except PyExc PyStr :=
  if 4300 < (Nat.toDigits 10 n.natAbs).length then
    .error (.ofText .ValueError (lit "Exceeds the limit (4300 digits) for integer string conversion"))
  else .ok (intText n)

/-- One code point inside a JSON string; only what JSON requires is escaped. -/
def escapeChar (c : CodePoint) : PyStr :=
  if c = 34 then [92, 34]
  else if c = 92 then [92, 92]
  else if c = 10 then [92, 110]
  else if c = 13 then [92, 114]
  else if c = 9 then [92, 116]
  else if c = 12 then [92, 102]
  else if c = 8 then [92, 98]
  else if c.val < 32 then [92, 117, 48, 48, hexDigit (c.val / 16), hexDigit (c.val % 16)]
  else [c]

def quote (s : PyStr) : PyStr := [34] ++ s.flatMap escapeChar ++ [34]

/-- The first error of a list of results, or all values. -/
def allOk {α : Type} : List (Except PyExc α) → Except PyExc (List α)
  | [] => .ok []
  | .error exc :: _ => .error exc
  | .ok value :: rest =>
    match allOk rest with
    | .error exc => .error exc
    | .ok values => .ok (value :: values)

/-- A member of a JSON object. -/
def member (key : PyStr) (value : Except PyExc PyStr) : Except PyExc PyStr :=
  match value with
  | .error exc => .error exc
  | .ok text => .ok (quote key ++ [58] ++ text)

mutual
/-- `json.dumps` with sorted keys, compact separators, unescaped Unicode and no NaN. -/
def dumps : PyValue → Except PyExc PyStr
  | .none => .ok (lit "null")
  | .bool true => .ok (lit "true")
  | .bool false => .ok (lit "false")
  | .int n => intRepr n
  | .float (.finite repr _) => .ok repr
  | .float _ => .error (.ofText .ValueError (lit "Out of range float values are not JSON compliant"))
  | .str s => .ok (quote s)
  | .list items =>
    match allOk (dumpsList items) with
    | .error exc => .error exc
    | .ok texts => .ok ([91] ++ join 44 texts ++ [93])
  | .tuple items =>
    match allOk (dumpsList items) with
    | .error exc => .error exc
    | .ok texts => .ok ([91] ++ join 44 texts ++ [93])
  | .dict items =>
    let sorted := (dumpsItems items).insertionSort (fun a b => a.1 ≤ b.1)
    match allOk (sorted.map (fun item => member item.1 item.2)) with
    | .error exc => .error exc
    | .ok texts => .ok ([123] ++ join 44 texts ++ [125])
  | .object typeName =>
    .error (.ofText .TypeError (lit "canonical_bytes cannot serialize " ++ typeName ++
      lit "; the query-context canonical mirror accepts JSON-primitive shapes only"))
def dumpsList : List PyValue → List (Except PyExc PyStr)
  | [] => []
  | value :: rest => dumps value :: dumpsList rest
/-- Keys with the texts of their values; keys are strings once the walk has passed. -/
def dumpsItems : List (PyValue × PyValue) → List (PyStr × Except PyExc PyStr)
  | [] => []
  | (.str key, value) :: rest => (key, dumps value) :: dumpsItems rest
  | (_, _) :: rest => ([], .error (.ofText .TypeError (lit "keys must be str"))) :: dumpsItems rest
end

/-- `canonical_bytes`. -/
def canonicalBytes (obj : PyValue) : Except PyExc Bytes :=
  match rejectUnsafeValues obj with
  | .error exc => .error exc
  | .ok _ =>
    match dumps obj with
    | .error exc => .error exc
    | .ok text => encodeUtf8 text

example : dumps (.list [.str (lit "a\n"), .int (-7), .bool true, .none]) = .ok (lit "[\"a\\n\",-7,true,null]") := by decide

end OracleSchema.Json
