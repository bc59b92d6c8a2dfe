import Portkeeper.Decimal.Shortest
import Portkeeper.Text.Quoted

/-!
What can be wrong with a JSON text: its syntax, its end, or its data. Each fault is told with the
line and column where it was noticed; inside a record it also knows the path of fields to it.
-/

set_option autoImplicit false

namespace Portkeeper.Json
open Text

/-- A value found where another was expected. -/
inductive Found where
  | null
  | boolean (b : Bool)
  | integer (n : Int)
  | float (x : Float)
  | string (s : String)
  | sequence
  | map
  deriving Repr

def Found.describe : Found → String
  | .null => "null"
  | .boolean b => "boolean `" ++ (if b then "true" else "false") ++ "`"
  | .integer (.ofNat n) => "integer `" ++ String.ofList (decimal n) ++ "`"
  | .integer (.negSucc n) => "integer `-" ++ String.ofList (decimal (n + 1)) ++ "`"
  | .float x => "floating point `" ++ String.ofList (Decimal.floatText x) ++ "`"
  | .string s => "string " ++ quoted s
  | .sequence => "sequence"
  | .map => "map"

inductive Cause where
  | eofList
  | eofObject
  | eofString
  | eofValue
  | expectedColon
  | expectedListCommaOrEnd
  | expectedObjectCommaOrEnd
  | expectedIdent
  | expectedValue
  | invalidEscape
  | invalidNumber
  | numberOutOfRange
  | invalidCodePoint
  | controlCharacter
  | keyMustBeString
  | loneSurrogate
  | trailingComma
  | trailingCharacters
  | endOfHexEscape
  | invalidType (found : Found) (expected : String)
  | invalidLength (length : Nat) (expected : String)
  | unknownVariant (name : String) (known : List String)
  | missingField (name : String)
  | duplicateField (name : String)
  deriving Repr

/-- The three categories of fault: a text that ends too early, one that is no JSON, and one that is
JSON of another shape. -/
inductive Category where
  | ended
  | malformed
  | mismatched
  deriving DecidableEq, Repr

def Cause.category : Cause → Category
  | .eofList | .eofObject | .eofString | .eofValue => .ended
  | .invalidType .. | .invalidLength .. | .unknownVariant .. | .missingField _
  | .duplicateField _ =>
    .mismatched
  | _ => .malformed

def ticked (s : String) : String := "`" ++ s ++ "`"

def Cause.message : Cause → String
  | .eofList => "EOF while parsing a list"
  | .eofObject => "EOF while parsing an object"
  | .eofString => "EOF while parsing a string"
  | .eofValue => "EOF while parsing a value"
  | .expectedColon => "expected `:`"
  | .expectedListCommaOrEnd => "expected `,` or `]`"
  | .expectedObjectCommaOrEnd => "expected `,` or `\x7d`"
  | .expectedIdent => "expected ident"
  | .expectedValue => "expected value"
  | .invalidEscape => "invalid escape"
  | .invalidNumber => "invalid number"
  | .numberOutOfRange => "number out of range"
  | .invalidCodePoint => "invalid unicode code point"
  | .controlCharacter =>
    "control character (\\u0000-\\u001F) found while parsing a string"
  | .keyMustBeString => "key must be a string"
  | .loneSurrogate => "lone leading surrogate in hex escape"
  | .trailingComma => "trailing comma"
  | .trailingCharacters => "trailing characters"
  | .endOfHexEscape => "unexpected end of hex escape"
  | .invalidType found expected => "invalid type: " ++ found.describe ++ ", expected " ++ expected
  | .invalidLength n expected =>
    "invalid length " ++ String.ofList (decimal n) ++ ", expected " ++ expected
  | .unknownVariant name known =>
    "unknown variant " ++ ticked name ++ ", expected one of " ++
      String.intercalate ", " (known.map ticked)
  | .missingField name => "missing field " ++ ticked name
  | .duplicateField name => "duplicate field " ++ ticked name

/-- A line and a column: the first line is 1, and the column counts the bytes passed on it. -/
structure Place where
  line : Nat
  column : Nat
  deriving DecidableEq, Repr

/-- A step from a value into a part of it. -/
inductive Segment where
  | field (name : String)
  | element (index : Nat)
  deriving DecidableEq, Repr

structure Fault where
  cause : Cause
  place : Option Place
  path : List Segment
  deriving Repr

namespace Fault

def pathText : (first : Bool) → List Segment → String
  | _, [] => ""
  | first, .field name :: path => (if first then "" else ".") ++ name ++ pathText false path
  | _, .element i :: path => "[" ++ String.ofList (decimal i) ++ "]" ++ pathText false path

/-- The cause and where it was noticed. -/
def message (f : Fault) : String :=
  match f.place with
  | none => f.cause.message
  | some p => f.cause.message ++ " at line " ++ String.ofList (decimal p.line) ++ " column " ++
      String.ofList (decimal p.column)

/-- The message after the path of fields that leads to the fault. -/
def messageWithPath (f : Fault) : String :=
  match f.path with
  | [] => f.message
  | path => pathText true path ++ ": " ++ f.message

end Fault
end Portkeeper.Json
