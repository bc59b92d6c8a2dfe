import Portkeeper.Http.Message
import Portkeeper.Http.Scan

/-!
Where the body of a message ends: after a given length, after its last chunk, or with the
connection. The fields of the head decide it. A list of transfer codings counts by its last member,
and a length that stands beside one does not count at all.
-/

set_option autoImplicit false

namespace Portkeeper.Http
open Text

inductive Framing where
  | sized (length : Nat)
  | chunked
  | untilEnd
  deriving DecidableEq, Repr

namespace Framing

/-! ### Values of the fields that decide -/

/-- The bytes that a value of plain text consists of. -/
def isPlainByte (b : UInt8) : Bool := b == 9 || (32 ≤ b && b < 127)

def trimBlanks (bs : List UInt8) : List UInt8 := Scan.trimEnd (bs.dropWhile Scan.isBlankByte)

/-- The members of a list with commas between them, in lower case. A value that is not plain text
has none. -/
def members (value : List UInt8) : List (List UInt8) :=
  if value.all isPlainByte then (splitAll 44 value).map fun m => lower (trimBlanks m) else []

/-- Whether chunks are the last coding of a list. -/
def endsChunked (value : List UInt8) : Bool :=
  (members value).getLast? == some (utf8Bytes "chunked")

def isDigitByte (b : UInt8) : Bool := 48 ≤ b && b ≤ 57

/-- Lengths below this bound can be written down. -/
def lengthBound : Nat := Nat.pow 2 64

/-- The largest length that a body may have. -/
def longest : Nat := lengthBound - 3

/-- A length in digits. -/
def readLength? (bs : List UInt8) : Option Nat :=
  let n := bs.foldl (fun n b => n * 10 + (b.toNat - 48)) 0
  if !bs.isEmpty && bs.all isDigitByte && n < lengthBound then some n else none

/-- The framing of a length that is not too large. -/
def ofLength (n : Nat) : Except ScanFault Framing :=
  if n ≤ longest then .ok (.sized n) else .error .headTooLarge

/-! ### Requests -/

/-- What the fields of a request have said so far: whether its last coding is chunks, if it has any,
and its length. -/
structure Draft where
  chunked : Option Bool
  length : Option Nat

/-- One more field of a request. -/
def Draft.add (v : Scan.Version) (d : Draft) (f : List UInt8 × List UInt8) :
    Except ScanFault Draft :=
  if f.1 = utf8Bytes "transfer-encoding" then
    match v with
    | .older => .error .malformed
    | .current => .ok { d with chunked := some (endsChunked f.2) }
  else if f.1 = utf8Bytes "content-length" ∧ d.chunked = none then
    match readLength? f.2, d.length with
    | none, _ => .error .malformed
    | some n, some m => if n = m then .ok d else .error .malformed
    | some n, none => (ofLength n).map fun _ => { d with length := some n }
  else .ok d

/-- The framing of a request. Without a word on its length it has no body. -/
def ofRequest (v : Scan.Version) (hs : Headers) : Except ScanFault Framing := do
  match ← hs.foldlM (Draft.add v) ⟨none, none⟩ with
  | ⟨some true, _⟩ => return .chunked
  | ⟨some false, _⟩ => throw .malformed
  | ⟨none, n⟩ => return .sized (n.getD 0)

/-! ### Responses -/

/-- The length that all fields and all their members agree on. -/
def agreedLength? (hs : Headers) : Option Nat :=
  let values := hs.all "content-length"
  if values.all (·.all isPlainByte) then
    match (values.flatMap members).mapM readLength? with
    | some (n :: ns) => if ns.all (· = n) then some n else none
    | _ => none
  else none

/-- The framing of a response. Some have no body whatever they say; without a word on its length the
body of any other ends with the connection. -/
def ofResponse (method : List UInt8) (status : Nat) (v : Scan.Version) (hs : Headers) :
    Except ScanFault Framing :=
  if status = 101 ∨ status = 204 ∨ status = 304 ∨ method = utf8Bytes "HEAD" ∨
      (method = utf8Bytes "CONNECT" ∧ isSuccess status) then .ok (.sized 0)
  else match (hs.all "transfer-encoding").getLast?, v with
    | some _, .older => .error .malformed
    | some codings, .current => .ok (if endsChunked codings then .chunked else .untilEnd)
    | none, _ =>
      if hs.all "content-length" = [] then .ok .untilEnd
      else match agreedLength? hs with
        | some n => ofLength n
        | none => .error .malformed

end Framing

/-! ### Chunks -/

namespace Chunk

def hexValue? (b : UInt8) : Option Nat := digit? 16 (Char.ofNat b.toNat)

/-- The largest extension of a chunk, and the largest trailer. -/
def extraLimit : Nat := 16384

/-- The size in front of a chunk. -/
def size (bs : List UInt8) : Except ScanFault (Nat × List UInt8) :=
  let digits := bs.takeWhile fun b => (hexValue? b).isSome
  let n := digits.foldl (fun n b => n * 16 + (hexValue? b).getD 0) 0
  if Framing.lengthBound ≤ n then .error .malformed
  else if digits = [] ∧ bs ≠ [] then .error .malformed
  else .ok (n, bs.drop digits.length)

/-- Past the rest of the line that a size stands on: blanks, then perhaps an extension. -/
def sizeEnd (bs : List UInt8) : Except ScanFault (List UInt8) :=
  match bs.dropWhile Scan.isBlankByte with
  | 59 :: rest =>
    let extension := rest.takeWhile fun b => b != 13 && b != 10
    if extraLimit < extension.length then .error .malformed
    else Scan.literal [13, 10] (rest.drop extension.length)
  | rest => Scan.literal [13, 10] rest

/-- The lines of a trailer, up to an empty one; `left` bounds their number. -/
def trailerLines (left : Nat) (bs : List UInt8) : Except ScanFault (List UInt8 × List UInt8) :=
  match left, bs with
  | _, [] => .error .incomplete
  | _, 13 :: rest => do
    let rest ← Scan.literal [10] rest
    return ([], rest)
  | 0, _ => .error .malformed
  | left + 1, bs => do
    let line := bs.takeWhile (· != 13)
    let rest ← Scan.literal [13, 10] (bs.drop line.length)
    let (lines, rest) ← trailerLines left rest
    return (line ++ 13 :: 10 :: lines, rest)

/-- Past the trailer, whose lines have to be fields. -/
def trailer (bs : List UInt8) : Except ScanFault (List UInt8) := do
  let (lines, rest) ← trailerLines bs.length bs
  if extraLimit < lines.length then throw .malformed
  let _ ← Scan.fields Scan.fieldLimit (lines ++ [13, 10])
  return rest

/-- The data of chunks up to the last, which is empty; `left` bounds their number. -/
def body (left : Nat) (bs : List UInt8) : Except ScanFault (List UInt8 × List UInt8) :=
  match left with
  | 0 => .error .incomplete
  | left + 1 => do
    let (n, bs) ← size bs
    let bs ← sizeEnd bs
    if n = 0 then
      let rest ← trailer bs
      return ([], rest)
    else if bs.length < n then .error .incomplete
    else
      let rest ← Scan.literal [13, 10] (bs.drop n)
      let (more, rest) ← body left rest
      return (bs.take n ++ more, rest)

end Chunk

namespace Framing

/-- The body at the front of bytes after which the connection ends, and what follows it. -/
def read (f : Framing) (bs : List UInt8) : Except ScanFault (List UInt8 × List UInt8) :=
  match f with
  | .sized n => if bs.length < n then .error .incomplete else .ok (bs.take n, bs.drop n)
  | .chunked => Chunk.body (bs.length + 1) bs
  | .untilEnd => .ok (bs, [])

end Framing
end Portkeeper.Http
