import Portkeeper.Text.Cut
import Portkeeper.Text.Utf8

/-!
Tokens, header fields and media types.
-/

set_option autoImplicit false

namespace Portkeeper.Http
open Text

/-- A character of a token: a letter, a digit or one of fifteen marks. -/
def isTokenByte (b : UInt8) : Bool :=
  (48 ≤ b && b ≤ 57) || (65 ≤ b && b ≤ 90) || (97 ≤ b && b ≤ 122) ||
    b ∈ [33, 35, 36, 37, 38, 39, 42, 43, 45, 46, 94, 95, 96, 124, 126]

def isToken (bs : List UInt8) : Bool := !bs.isEmpty && bs.all isTokenByte

/-- A byte that may stand in the value of a header field. -/
def isValueByte (b : UInt8) : Bool := b == 9 || (32 ≤ b && b != 127)

/-- A byte in lower case. -/
def lowerByte (b : UInt8) : UInt8 := if 65 ≤ b ∧ b ≤ 90 then b + 32 else b

/-- Bytes in lower case. -/
def lower (bs : List UInt8) : List UInt8 := bs.map lowerByte

/-- Header fields in order; names are in lower case. -/
abbrev Headers := List (List UInt8 × List UInt8)

namespace Headers

/-- The first value of a field. -/
def get? (hs : Headers) (name : String) : Option (List UInt8) := hs.lookup (utf8Bytes name)

/-- All values of a field. -/
def all (hs : Headers) (name : String) : List (List UInt8) :=
  (hs.filter (·.1 == utf8Bytes name)).map (·.2)

end Headers

/-! ### Media types -/

/-- How far the reading of a list of parameters has come. -/
inductive ParameterScan where
  | start
  | name
  | valueStart
  | value
  | quoteStart
  | quoted
  | afterQuote
  deriving DecidableEq, Repr

namespace ParameterScan

def isQuotable (b : UInt8) : Bool := 31 < b && b < 127

def next : ParameterScan → UInt8 → Option ParameterScan
  | .start, b => if b = 32 then some .start else if isTokenByte b then some .name else none
  | .name, b => if b = 61 then some .valueStart else if isTokenByte b then some .name else none
  | .valueStart, b =>
    if b = 34 then some .quoteStart else if isTokenByte b then some .value else none
  | .value, b => if b = 59 then some .start else if isTokenByte b then some .value else none
  | .quoteStart, b => if isQuotable b then some .quoted else none
  | .quoted, b => if b = 34 then some .afterQuote else if isQuotable b then some .quoted else none
  | .afterQuote, b =>
    if b = 59 then some .start else if b = 32 then some .afterQuote else none

def mayEnd : ParameterScan → Bool
  | .name | .quoteStart | .quoted => false
  | _ => true

end ParameterScan

/-- Parameters of a media type: names with values, plain or in quotes, divided by semicolons. -/
def areParameters (bs : List UInt8) : Bool :=
  (bs.foldlM ParameterScan.next ParameterScan.start).any ParameterScan.mayEnd

/-- The main type and the subtype of a media type. The subtype ends before a last plus sign; what
follows is the suffix. -/
structure MediaType where
  main : List UInt8
  sub : List UInt8
  suffix : Option (List UInt8)
  deriving DecidableEq, Repr

namespace MediaType

/-- Cut a subtype at its last plus sign, unless it starts with it. -/
def cutSuffix (bs : List UInt8) : List UInt8 × Option (List UInt8) :=
  match cutLast 43 (bs.drop 1) with
  | some (a, b) => (bs.take (a.length + 1), some b)
  | none => (bs, none)

def read (bs : List UInt8) : Option MediaType :=
  match cutFirst 47 bs with
  | none => none
  | some (main, rest) =>
    let sub := rest.takeWhile isTokenByte
    let parameters := match rest.drop sub.length with
      | [] => true
      | 59 :: r => !sub.isEmpty && areParameters r
      | _ => false
    if isToken main && parameters then
      let (name, suffix) := cutSuffix (lower sub)
      some ⟨lower main, name, suffix⟩
    else none

/-- JSON itself, or another format written in it. -/
def isJson (m : MediaType) : Bool :=
  m.main == utf8Bytes "application" &&
    (m.sub == utf8Bytes "json" || m.suffix == some (utf8Bytes "json"))

end MediaType
end Portkeeper.Http
