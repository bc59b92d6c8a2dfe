import Portkeeper.Json.Fault
import Portkeeper.Text.Utf8

/-!
Decoding JSON straight into values of a known shape. A decoder moves a cursor over the bytes; it
reports the first fault, and leaves the cursor where it stopped.
-/

set_option autoImplicit false

namespace Portkeeper.Json
open Text

/-- What is left to read, and the place reached. -/
structure Cursor where
  place : Place
  rest : List UInt8
  deriving Repr

namespace Cursor

def start (bytes : List UInt8) : Cursor := ⟨⟨1, 0⟩, bytes⟩

/-- One byte further; a line feed starts a line. -/
def next (c : Cursor) : Cursor :=
  match c.rest with
  | [] => c
  | 10 :: r => ⟨⟨c.place.line + 1, 0⟩, r⟩
  | _ :: r => ⟨⟨c.place.line, c.place.column + 1⟩, r⟩

def skip : Nat → Cursor → Cursor
  | 0, c => c
  | n + 1, c => skip n c.next

def isSpace (b : UInt8) : Bool := b == 32 || b == 10 || b == 9 || b == 13

def isDigit (b : UInt8) : Bool := 48 ≤ b && b ≤ 57

/-- Past the bytes at the front that satisfy `p`. -/
def skipWhile (p : UInt8 → Bool) (c : Cursor) : Cursor := c.skip (c.rest.takeWhile p).length

end Cursor

abbrev Decode (α : Type) := ExceptT Fault (StateM Cursor) α

variable {α σ : Type}

def peek : Decode (Option UInt8) := do return (← get).rest.head?

/-- Past one byte. -/
def advance : Decode Unit := modify Cursor.next

/-- A fault at the place reached. -/
def fail (cause : Cause) : Decode α := do throw ⟨cause, some (← get).place, []⟩

/-- A fault at the byte that comes next. -/
def failNext (cause : Cause) : Decode α := do throw ⟨cause, some (← get).next.place, []⟩

/-- A fault of the data, whose place is settled by the value it spoils. -/
def complain (cause : Cause) : Decode α := throw ⟨cause, none, []⟩

/-- Give a fault without a place the place now reached. -/
def settled (d : Decode α) : Decode α := do
  try d catch f =>
    match f.place with
    | some _ => throw f
    | none => throw { f with place := some (← get).place }

/-- Note on a fault inside `d` the step that led to it. -/
def inside (s : Segment) (d : Decode α) : Decode α := do
  try d catch f => throw { f with path := s :: f.path }

/-- Read a body and its closing bracket. The bracket is read even after a fault in the body, which
then is the one reported. -/
def enclosed (body : Decode α) (close : Decode Unit) : Decode α := do
  let a ← try body catch f =>
    let _ ← try close catch _ => pure ()
    throw f
  close
  return a

/-- Past white space, to the next byte. -/
def peekToken : Decode (Option UInt8) := do
  modify (Cursor.skipWhile Cursor.isSpace)
  peek

/-- The next byte of a value that has to follow. -/
def peekValue : Decode UInt8 := do
  match ← peekToken with
  | some b => return b
  | none => failNext .eofValue

/-- The rest of a word whose first letter has been passed. -/
def word : List UInt8 → Decode Unit
  | [] => return ()
  | b :: bs => do
    match ← peek with
    | none => fail .eofValue
    | some c =>
      advance
      if c = b then word bs else fail .expectedIdent

/-! ### Strings -/

/-- The value of four hexadecimal digits. -/
def hexUnit (a b c d : UInt8) : Option Nat := do
  let v ← digit? 16 (Char.ofNat a.toNat)
  let w ← digit? 16 (Char.ofNat b.toNat)
  let x ← digit? 16 (Char.ofNat c.toNat)
  let y ← digit? 16 (Char.ofNat d.toNat)
  return ((v * 16 + w) * 16 + x) * 16 + y

/-- The character of a surrogate pair. -/
def pairChar (high low : Nat) : Char :=
  Char.ofNat ((high - 0xD800) * 1024 + (low - 0xDC00) + 0x10000)

def isHigh (n : Nat) : Bool := 0xD800 ≤ n && n ≤ 0xDBFF
def isLow (n : Nat) : Bool := 0xDC00 ≤ n && n ≤ 0xDFFF

/-- What follows `\u`: the bytes it stands for and how many were read; or the cause of a fault and
how many bytes were read before it was noticed. -/
def unicodeEscape : List UInt8 → Except (Cause × Nat) (List UInt8 × Nat)
  | a :: b :: c :: d :: r =>
    match hexUnit a b c d with
    | none => .error (.invalidEscape, 4)
    | some n =>
      if isLow n then .error (.loneSurrogate, 4)
      else if !isHigh n then .ok (String.utf8EncodeChar (Char.ofNat n), 4)
      else match r with
        | [] => .error (.eofString, 4)
        | 92 :: [] => .error (.eofString, 5)
        | 92 :: 117 :: e :: f :: g :: h :: _ =>
          match hexUnit e f g h with
          | none => .error (.invalidEscape, 10)
          | some m =>
            if isLow m then .ok (String.utf8EncodeChar (pairChar n m), 10)
            else .error (.loneSurrogate, 10)
        | 92 :: 117 :: r => .error (.eofString, 6 + r.length)
        | 92 :: _ => .error (.endOfHexEscape, 6)
        | _ => .error (.endOfHexEscape, 5)
  | bs => .error (.eofString, bs.length)

/-- What follows a backslash. -/
def escape : List UInt8 → Except (Cause × Nat) (List UInt8 × Nat)
  | [] => .error (.eofString, 0)
  | 117 :: r =>
    match unicodeEscape r with
    | .ok (bs, n) => .ok (bs, n + 1)
    | .error (cause, n) => .error (cause, n + 1)
  | 34 :: _ => .ok ([34], 1)
  | 92 :: _ => .ok ([92], 1)
  | 47 :: _ => .ok ([47], 1)
  | 98 :: _ => .ok ([8], 1)
  | 102 :: _ => .ok ([12], 1)
  | 110 :: _ => .ok ([10], 1)
  | 114 :: _ => .ok ([13], 1)
  | 116 :: _ => .ok ([9], 1)
  | _ => .error (.invalidEscape, 1)

/-- The content of a string after its opening quote, and the number of bytes up to its closing
quote; or a cause and the number of bytes read until it was noticed. -/
def content (bs : List UInt8) : Except (Cause × Nat) (List UInt8 × Nat) :=
  match bs with
  | [] => .error (.eofString, 0)
  | 34 :: _ => .ok ([], 0)
  | 92 :: r =>
    match escape r with
    | .error (cause, n) => .error (cause, n + 1)
    | .ok (text, n) =>
      match content (r.drop n) with
      | .ok (more, m) => .ok (text ++ more, m + n + 1)
      | .error (cause, m) => .error (cause, m + n + 1)
  | b :: r =>
    if b < 32 then .error (.controlCharacter, 1)
    else match content r with
      | .ok (more, m) => .ok (b :: more, m + 1)
      | .error (cause, m) => .error (cause, m + 1)
termination_by bs.length
decreasing_by all_goals simp only [List.length_drop, List.length_cons]; omega

/-- A string whose opening quote has been passed. -/
def stringBody : Decode String := do
  match content (← get).rest with
  | .error (cause, n) => modify (Cursor.skip n); fail cause
  | .ok (bytes, n) =>
    modify (Cursor.skip n)
    match ofUtf8? bytes with
    | some cs => advance; return String.ofList cs
    | none => fail .invalidCodePoint

/-! ### Numbers -/

inductive Number where
  | whole (n : Int)
  | double (x : Float)

def Number.found : Number → Found
  | .whole n => .integer n
  | .double x => .float x

/-- `significand * 10 ^ exponent`, rounded after the conversion of the significand and after each
multiplication or division. -/
def scale (positive : Bool) (significand : Nat) (exponent : Int) : Option Float :=
  let power (k : Nat) : Float := Float.ofScientific 1 false k
  let finish (x : Float) : Float := if positive then x else -x
  let rec lower (x : Float) : Nat → Nat → Float
    | 0, _ => x
    | fuel + 1, k => if k ≤ 308 || x == 0 then x / power k else lower (x / power 308) fuel (k - 308)
  let x := (UInt64.ofNat significand).toFloat
  match exponent with
  | .ofNat k =>
    if significand = 0 then some (finish x)
    else if 308 < k then none
    else
      let y := x * power k
      if y.isInf then none else some (finish y)
  | .negSucc k =>
    some (finish (if significand = 0 then x else lower x 8 (min (k + 1) 2000)))

/-- Digits taken into a number until it would outgrow `limit`: the number, and how many it took. -/
def takeDigits (limit n : Nat) : List UInt8 → Nat × Nat
  | [] => (n, 0)
  | d :: ds =>
    let m := n * 10 + (d.toNat - 48)
    if m ≤ limit then
      let (v, taken) := takeDigits limit m ds
      (v, taken + 1)
    else (n, 0)

def digitRun : Decode (List UInt8) := do
  return (← get).rest.takeWhile Cursor.isDigit

def skipDigits : Decode Unit := modify (Cursor.skipWhile Cursor.isDigit)

def scaled (positive : Bool) (significand : Nat) (exponent : Int) : Decode Number := do
  match scale positive significand exponent with
  | some x => return .double x
  | none => fail .numberOutOfRange

/-- What follows the letter of an exponent. -/
def exponentPart (positive : Bool) (significand : Nat) (exponent : Int) : Decode Number := do
  advance
  let sign ← peek
  if sign = some 43 ∨ sign = some 45 then advance
  let raising := decide (sign ≠ some 45)
  match ← peek with
  | none => fail .eofValue
  | some b =>
    if !Cursor.isDigit b then
      advance
      fail .invalidNumber
    else
      let ds ← digitRun
      let (value, taken) := takeDigits 2147483647 0 ds
      if taken < ds.length then
        if significand ≠ 0 ∧ raising then
          modify (Cursor.skip (taken + 1))
          fail .numberOutOfRange
        else
          skipDigits
          return .double (if positive then 0.0 else -0.0)
      else
        skipDigits
        scaled positive significand (if raising then exponent + value else exponent - value)

def optionalExponent (positive : Bool) (significand : Nat) (exponent : Int) : Decode Number := do
  match ← peek with
  | some 101 | some 69 => exponentPart positive significand exponent
  | _ => scaled positive significand exponent

/-- What follows the point of a number. -/
def fractionPart (positive : Bool) (significand : Nat) (exponent : Int) : Decode Number := do
  advance
  let ds ← digitRun
  if ds = [] then
    match ← peek with
    | some _ => failNext .invalidNumber
    | none => failNext .eofValue
  let (significand, taken) := takeDigits Numeral.max64 significand ds
  skipDigits
  optionalExponent positive significand (exponent - taken)

/-- A number whose sign, if any, has been passed. -/
def number (positive : Bool) : Decode Number := do
  match ← peek with
  | none => fail .eofValue
  | some b =>
    if !Cursor.isDigit b then
      advance
      fail .invalidNumber
    let ds ← digitRun
    if b = 48 ∧ 1 < ds.length then
      advance
      failNext .invalidNumber
    let (significand, taken) := takeDigits Numeral.max64 0 ds
    skipDigits
    let exponent : Int := ds.length - taken
    match ← peek with
    | some 46 => fractionPart positive significand exponent
    | some 101 | some 69 => exponentPart positive significand exponent
    | _ =>
      if taken < ds.length then scaled positive significand exponent
      else if positive then return .whole significand
      else if significand = 0 ∨ 9223372036854775808 < significand then
        scaled false significand 0
      else return .whole (-significand)

/-! ### Values that are passed over -/

def ignoredExponent : Decode Unit := do
  advance
  let sign ← peek
  if sign = some 43 ∨ sign = some 45 then advance
  match ← peek with
  | some b =>
    if Cursor.isDigit b then skipDigits
    else
      advance
      fail .invalidNumber
  | none => fail .invalidNumber

def ignoredNumber : Decode Unit := do
  match ← peek with
  | none => fail .invalidNumber
  | some b =>
    if !Cursor.isDigit b then
      advance
      fail .invalidNumber
    if b = 48 then
      advance
      match ← peek with
      | some d => if Cursor.isDigit d then failNext .invalidNumber
      | none => pure ()
    else skipDigits
    match ← peek with
    | some 46 =>
      advance
      if (← digitRun) = [] then failNext .invalidNumber
      skipDigits
      match ← peek with
      | some 101 | some 69 => ignoredExponent
      | _ => return ()
    | some 101 | some 69 => ignoredExponent
    | _ => return ()

/-- The number of bytes of a string up to its closing quote, whatever its escapes stand for. -/
def ignoredContent (bs : List UInt8) : Except (Cause × Nat) Nat :=
  match bs with
  | [] => .error (.eofString, 0)
  | 34 :: _ => .ok 0
  | 92 :: r =>
    let past (n : Nat) : Except (Cause × Nat) Nat :=
      match ignoredContent (r.drop n) with
      | .ok m => .ok (m + n + 1)
      | .error (cause, m) => .error (cause, m + n + 1)
    match r with
    | [] => .error (.eofString, 1)
    | 117 :: a :: b :: c :: d :: _ =>
      if (hexUnit a b c d).isSome then past 5 else .error (.invalidEscape, 6)
    | 117 :: r => .error (.eofString, 2 + r.length)
    | b :: _ =>
      if b ∈ [34, 92, 47, 98, 102, 110, 114, 116] then past 1 else .error (.invalidEscape, 2)
  | b :: r =>
    if b < 32 then .error (.controlCharacter, 0)
    else match ignoredContent r with
      | .ok m => .ok (m + 1)
      | .error (cause, m) => .error (cause, m + 1)
termination_by bs.length
decreasing_by all_goals simp only [List.length_drop, List.length_cons]; omega

def ignoredString : Decode Unit := do
  match ignoredContent (← get).rest with
  | .error (cause, n) => modify (Cursor.skip n); fail cause
  | .ok n => modify (Cursor.skip (n + 1))

/-- The bracket that opened an unfinished value. -/
inductive Frame where
  | list
  | object
  deriving DecidableEq, Repr

def Frame.close : Frame → UInt8
  | .list => 93
  | .object => 125

/-- Where a value that is passed over goes on: at a value, or after one with the frames still open.
-/
inductive Pass where
  | value (open_ : List Frame)
  | after (comma : Bool) (frame : Frame) (outer : List Frame)

/-- A key and its colon, inside an object. -/
def ignoredKey : Decode Unit := do
  match ← peekToken with
  | some 34 => advance
  | some _ => failNext .keyMustBeString
  | none => failNext .eofObject
  ignoredString
  match ← peekToken with
  | some 58 => advance
  | some _ => failNext .expectedColon
  | none => failNext .eofObject

/-- One step of passing over a value; `none` at its end. -/
def passStep : Pass → Decode (Option Pass)
  | .value outer => do
    let b ← peekValue
    let scalar (d : Decode Unit) : Decode (Option Pass) := do
      advance
      d
      match outer with
      | [] => return none
      | f :: fs => return some (.after true f fs)
    match b with
    | 110 => scalar (word [117, 108, 108])
    | 116 => scalar (word [114, 117, 101])
    | 102 => scalar (word [97, 108, 115, 101])
    | 34 => scalar ignoredString
    | 45 => scalar ignoredNumber
    | 91 => advance; return some (.after false .list outer)
    | 123 => advance; return some (.after false .object outer)
    | _ =>
      if Cursor.isDigit b then
        ignoredNumber
        match outer with
        | [] => return none
        | f :: fs => return some (.after true f fs)
      else failNext .expectedValue
  | .after comma frame outer => do
    let enter : Decode (Option Pass) := do
      if frame = .object then ignoredKey
      return some (.value (frame :: outer))
    match ← peekToken with
    | none => failNext (if frame = .list then .eofList else .eofObject)
    | some b =>
      if comma ∧ b = 44 then
        advance
        enter
      else if b = frame.close then
        advance
        match outer with
        | [] => return none
        | f :: fs => return some (.after true f fs)
      else if comma then
        failNext (if frame = .list then .expectedListCommaOrEnd else .expectedObjectCommaOrEnd)
      else enter

def pass : Nat → Pass → Decode Unit
  | 0, _ => fail .eofValue
  | fuel + 1, p => do
    match ← passStep p with
    | none => return ()
    | some q => pass fuel q

/-- Pass over a value of any shape. Every second step moves the cursor, so that twice the bytes
left, and two more, are steps enough. -/
def ignored : Decode Unit := do pass (2 * (← get).rest.length + 2) (.value [])

/-! ### Values of a known shape -/

/-- The fault of a value that is not of the expected shape. -/
def unexpected (expected : String) : Decode α := settled do
  let complainOf (f : Found) : Decode α := complain (.invalidType f expected)
  match ← peek with
  | some 110 => advance; word [117, 108, 108]; complainOf .null
  | some 116 => advance; word [114, 117, 101]; complainOf (.boolean true)
  | some 102 => advance; word [97, 108, 115, 101]; complainOf (.boolean false)
  | some 45 => advance; complainOf (← number false).found
  | some 34 => advance; complainOf (.string (← stringBody))
  | some 91 => complainOf .sequence
  | some 123 => complainOf .map
  | some b =>
    if Cursor.isDigit b then complainOf (← number true).found else failNext .expectedValue
  | none => failNext .expectedValue

def stringOf (expected : String) : Decode String := do
  match ← peekValue with
  | 34 => advance; stringBody
  | _ => unexpected expected

def string : Decode String := stringOf "a string"

def boolean : Decode Bool := do
  match ← peekValue with
  | 116 => advance; word [114, 117, 101]; return true
  | 102 => advance; word [97, 108, 115, 101]; return false
  | _ => unexpected "a boolean"

def null : Decode Unit := do
  match ← peekValue with
  | 110 => advance; word [117, 108, 108]
  | _ => unexpected "unit"

def optional (d : Decode α) : Decode (Option α) := do
  match ← peekToken with
  | some 110 => advance; word [117, 108, 108]; return none
  | _ => return some (← d)

def colon : Decode Unit := do
  match ← peekToken with
  | some 58 => advance
  | some _ => failNext .expectedColon
  | none => failNext .eofObject

/-- Whether a list has a further element; `first` holds before the first one. -/
def moreElements (first : Bool) : Decode Bool := do
  match ← peekToken with
  | none => failNext .eofList
  | some 93 => return false
  | some b =>
    if first then return true
    else if b = 44 then
      advance
      match ← peekToken with
      | some 93 => failNext .trailingComma
      | some _ => return true
      | none => failNext .eofValue
    else failNext .expectedListCommaOrEnd

/-- Whether an object has a further key. -/
def moreKeys (first : Bool) : Decode Bool := do
  match ← peekToken with
  | none => failNext .eofObject
  | some 125 => return false
  | some b =>
    if first then if b = 34 then return true else failNext .keyMustBeString
    else if b = 44 then
      advance
      match ← peekToken with
      | some 34 => return true
      | some 125 => failNext .trailingComma
      | some _ => failNext .keyMustBeString
      | none => failNext .eofValue
    else failNext .expectedObjectCommaOrEnd

def closeList : Decode Unit := do
  match ← peekToken with
  | some 93 => advance
  | some 44 =>
    advance
    match ← peekToken with
    | some 93 => failNext .trailingComma
    | _ => failNext .trailingCharacters
  | some _ => failNext .trailingCharacters
  | none => failNext .eofList

def closeObject : Decode Unit := do
  match ← peekToken with
  | some 125 => advance
  | some 44 => failNext .trailingComma
  | some _ => failNext .trailingCharacters
  | none => failNext .eofObject

/-- One of the given names, as a string or as the only key of an object with the value null. -/
def oneOf (ofName? : String → Option α) (known : List String) : Decode α := do
  let variantName : Decode α := settled do
    let s ← stringOf "variant identifier"
    match ofName? s with
    | some a => return a
    | none => complain (.unknownVariant s known)
  match ← peekToken with
  | some 34 => variantName
  | some 123 =>
    advance
    let a ← variantName
    colon
    null
    match ← peekToken with
    | some 125 => advance; return a
    | some _ => fail .expectedValue
    | none => fail .eofObject
  | some _ => failNext .expectedValue
  | none => failNext .eofValue

/-- A field of a record that is being put together. -/
structure Field (σ : Type) where
  name : String
  present : σ → Bool
  read : σ → Decode σ

/-- A record: its description, its fields in order, and how it is finished; a field that is missing
is named by `finish`. -/
structure Record (σ α : Type) where
  name : String
  blank : σ
  fields : List (Field σ)
  finish : σ → Except String α

namespace Record

def complete (r : Record σ α) (s : σ) : Decode α :=
  match r.finish s with
  | .ok a => return a
  | .error name => complain (.missingField name)

/-- The fields in order, as the elements of a list. -/
def elements (r : Record σ α) : Nat → List (Field σ) → σ → Decode α
  | _, [], s => r.complete s
  | i, f :: fs, s => do
    if ← moreElements (i == 0) then
      elements r (i + 1) fs (← inside (.element i) (f.read s))
    else
      let count := String.ofList (decimal r.fields.length)
      complain (.invalidLength i (r.name ++ " with " ++ count ++
        (if r.fields.length = 1 then " element" else " elements")))

/-- The fields in any order, as the members of an object; other members are passed over. -/
def members (r : Record σ α) : Nat → (first : Bool) → σ → Decode α
  | 0, _, _ => fail .eofObject
  | fuel + 1, first, s => do
    if ← moreKeys first then
      advance
      let key ← stringBody
      match r.fields.find? (·.name == key) with
      | none =>
        colon
        inside (.field key) ignored
        members r fuel false s
      | some f =>
        if f.present s then complain (.duplicateField key)
        else
          colon
          members r fuel false (← inside (.field key) (f.read s))
    else r.complete s

def decode (r : Record σ α) : Decode α := do
  match ← peekValue with
  | 91 =>
    settled do
      advance
      enclosed (r.elements 0 r.fields r.blank) closeList
  | 123 =>
    settled do
      advance
      enclosed (r.members ((← get).rest.length + 1) true r.blank) closeObject
  | _ => unexpected r.name

end Record

/-- The elements of a list after its opening bracket; each takes up at least one byte. -/
def elements (d : Decode α) : Nat → (index : Nat) → Decode (List α)
  | 0, _ => fail .eofList
  | fuel + 1, i => do
    if ← moreElements (i == 0) then
      let a ← inside (.element i) d
      return a :: (← elements d fuel (i + 1))
    else return []

def list (d : Decode α) : Decode (List α) := do
  match ← peekValue with
  | 91 =>
    settled do
      advance
      enclosed (elements d ((← get).rest.length + 1) 0) closeList
  | _ => unexpected "a sequence"

/-- The value that a whole text denotes. -/
def decode (d : Decode α) (bytes : List UInt8) : Except Fault α :=
  let whole : Decode α := do
    let a ← d
    match ← peekToken with
    | some _ => failNext .trailingCharacters
    | none => return a
  (whole.run.run (.start bytes)).1

end Portkeeper.Json
