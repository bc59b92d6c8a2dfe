import Portkeeper.Http.Header

/-!
The head of a message as it comes in, byte by byte. A reader takes a part from the front and leaves
the bytes after it. Bytes that have not come yet are not bytes that are wrong, so it tells one from
the other.
-/

set_option autoImplicit false

namespace Portkeeper.Http
open Text

/-- Why a message cannot be read from the bytes that are there. -/
inductive ScanFault where
  | incomplete
  | malformed
  | headTooLarge
  | targetTooLong
  deriving DecidableEq, Repr

namespace Scan

/-- Past a given text. -/
def literal : (text bytes : List UInt8) → Except ScanFault (List UInt8)
  | [], bs => .ok bs
  | _ :: _, [] => .error .incomplete
  | c :: cs, b :: bs => if b = c then literal cs bs else .error .malformed

/-- Bytes of a class, up to a byte that ends them. -/
def upTo (p : UInt8 → Bool) (mark : UInt8) (bs : List UInt8) :
    Except ScanFault (List UInt8 × List UInt8) :=
  match bs.dropWhile p with
  | [] => .error .incomplete
  | b :: rest => if b = mark then .ok (bs.takeWhile p, rest) else .error .malformed

/-- Past the end of a line: a line feed, or a carriage return before it. -/
def lineEnd : List UInt8 → Except ScanFault (List UInt8)
  | 10 :: rest => .ok rest
  | 13 :: 10 :: rest => .ok rest
  | [] => .error .incomplete
  | [13] => .error .incomplete
  | _ => .error .malformed

/-- Past empty lines, to a byte that starts something. -/
def skipEmptyLines : List UInt8 → Except ScanFault (List UInt8)
  | 10 :: rest => skipEmptyLines rest
  | 13 :: 10 :: rest => skipEmptyLines rest
  | [] => .error .incomplete
  | [13] => .error .incomplete
  | 13 :: _ => .error .malformed
  | bs => .ok bs

/-- The versions of the protocol that are spoken. -/
inductive Version where
  | older
  | current
  deriving DecidableEq, Repr

def Version.text : Version → String
  | .older => "HTTP/1.0"
  | .current => "HTTP/1.1"

def version (bs : List UInt8) : Except ScanFault (Version × List UInt8) := do
  let bs ← literal (utf8Bytes "HTTP/1.") bs
  match bs with
  | [] => .error .incomplete
  | 48 :: rest => .ok (.older, rest)
  | 49 :: rest => .ok (.current, rest)
  | _ => .error .malformed

/-! ### Header fields -/

def isBlankByte (b : UInt8) : Bool := b == 32 || b == 9

/-- Without the blanks at the end. -/
def trimEnd (bs : List UInt8) : List UInt8 := (bs.reverse.dropWhile isBlankByte).reverse

/-- One field: a name with a colon right behind it, and a value on the same line. -/
def field (bs : List UInt8) :
    Except ScanFault ((List UInt8 × List UInt8) × List UInt8) := do
  let (name, bs) ← upTo isTokenByte 58 bs
  let bs := bs.dropWhile isBlankByte
  let value := bs.takeWhile isValueByte
  let rest ← lineEnd (bs.drop value.length)
  return ((lower name, trimEnd value), rest)

/-- Fields up to an empty line, at most `room` of them, each of which starts with its name. -/
def fields : (room : Nat) → (bs : List UInt8) → Except ScanFault (Headers × List UInt8)
  | room, bs =>
    if bs.head?.any isTokenByte then do
      let (f, rest) ← field bs
      match room with
      | 0 => .error .headTooLarge
      | room + 1 =>
        let (fs, rest) ← fields room rest
        return (f :: fs, rest)
    else do
      let rest ← lineEnd bs
      return ([], rest)

/-- The most fields that a head has. -/
def fieldLimit : Nat := 100

end Scan
end Portkeeper.Http
