import Portkeeper.Http.Framing

/-!
The client's side of an exchange: a request as it is sent, and the reply that is read back. News
that precedes a reply is passed over.
-/

set_option autoImplicit false

namespace Portkeeper.Http
open Text

/-- A field as it stands in a head. -/
def fieldLine (name : String) (value : List UInt8) : List UInt8 :=
  utf8Bytes name ++ utf8Bytes ": " ++ value ++ [13, 10]

/-- A length in digits. -/
def lengthText (n : Nat) : List UInt8 := utf8 (decimal n)

/-- A request that a client has in mind: a body makes it one of JSON, even if it is empty. -/
structure Outgoing where
  method : List UInt8
  target : String
  body : Option (List UInt8)
  deriving DecidableEq, Repr

namespace Outgoing

/-- The request to a host of some name. -/
def request (o : Outgoing) (host : String) : Except UriError Request := do
  let uri ← Uri.read (utf8Bytes o.target)
  let kind : Headers := match o.body with
    | some _ => [(utf8Bytes "content-type", utf8Bytes "application/json")]
    | none => []
  return ⟨o.method, uri, (utf8Bytes "host", utf8Bytes host) :: kind, .whole (o.body.getD [])⟩

/-- The bytes that are sent to a host of some name. Only a body that is not empty has its length
stated. -/
def text (o : Outgoing) (host : String) : Except UriError (List UInt8) := do
  let uri ← Uri.read (utf8Bytes o.target)
  let body := o.body.getD []
  return o.method ++ [32] ++ uri.text ++ utf8Bytes " HTTP/1.1\r\n" ++
    fieldLine "host" (utf8Bytes host) ++
    (if o.body.isSome then fieldLine "content-type" (utf8Bytes "application/json") else []) ++
    (if body = [] then [] else fieldLine "content-length" (lengthText body.length)) ++
    [13, 10] ++ body

end Outgoing

/-- The status and the body of a reply. -/
structure Reply where
  status : Nat
  body : List UInt8
  deriving DecidableEq, Repr

namespace Reply

/-- The body as text. -/
def text (r : Reply) : String := lossyString r.body

def isDigitByte (b : UInt8) : Bool := 48 ≤ b && b ≤ 57

/-- A status of three digits. -/
def scanStatus : List UInt8 → Except ScanFault (Nat × List UInt8)
  | a :: b :: c :: rest =>
    if [a, b, c].all isDigitByte then
      .ok (((a.toNat - 48) * 10 + (b.toNat - 48)) * 10 + (c.toNat - 48), rest)
    else .error .malformed
  | bs => if bs.all isDigitByte then .error .incomplete else .error .malformed

/-- Past what follows the status on its line, which may be nothing. -/
def scanReason : List UInt8 → Except ScanFault (List UInt8)
  | 32 :: rest => Scan.lineEnd (rest.dropWhile isValueByte)
  | bs => Scan.lineEnd bs

/-- The head of a reply. -/
def scanHead (bs : List UInt8) :
    Except ScanFault ((Nat × Scan.Version × Headers) × List UInt8) := do
  let bs ← Scan.skipEmptyLines bs
  let (version, bs) ← Scan.version bs
  let bs ← Scan.literal [32] bs
  let (status, bs) ← scanStatus bs
  let bs ← scanReason bs
  let (headers, rest) ← Scan.fields Scan.fieldLimit bs
  if status < 100 then throw .malformed
  return ((status, version, headers), rest)

/-- Whether a status only announces that a reply will come. -/
def isNews (status : Nat) : Bool := 100 ≤ status && status < 200 && status != 101

/-- The reply to a request of a method; `left` bounds the number of heads before it. -/
def scanAfter (left : Nat) (method bs : List UInt8) : Except ScanFault Reply :=
  match left with
  | 0 => .error .incomplete
  | left + 1 => do
    let ((status, version, headers), rest) ← scanHead bs
    if isNews status then scanAfter left method rest
    else
      let framing ← Framing.ofResponse method status version headers
      let (body, _) ← framing.read rest
      return ⟨status, body⟩

/-- The reply that bytes hold, after which the connection ends. -/
def scan (method bs : List UInt8) : Except ScanFault Reply := scanAfter (bs.length + 1) method bs

end Reply
end Portkeeper.Http
