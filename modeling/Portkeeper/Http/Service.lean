import Portkeeper.Http.Exchange

/-!
The server's side of a connection: the requests that come in, one behind the other, and the bytes
that go out. A request that cannot be read is refused, and nothing is read after it.
-/

set_option autoImplicit false

namespace Portkeeper.Http
open Text

structure RequestHead where
  method : List UInt8
  uri : Uri
  version : Scan.Version
  headers : Headers
  deriving DecidableEq, Repr

namespace RequestHead

/-- A byte of a request's target: any but blanks and control characters. -/
def isTargetByte (b : UInt8) : Bool := 0x20 < b && b != 0x7F

/-- The longest target. -/
def targetLimit : Nat := 65534

/-- The head of a request. Its target is looked into when all of the head is there. -/
def scan (bs : List UInt8) : Except ScanFault (RequestHead × List UInt8) := do
  let bs ← Scan.skipEmptyLines bs
  let (method, bs) ← Scan.upTo isTokenByte 32 bs
  if method = [] then throw .malformed
  let (target, bs) ← Scan.upTo isTargetByte 32 bs
  if target = [] then throw .malformed
  let (version, bs) ← Scan.version bs
  let bs ← Scan.lineEnd bs
  let (headers, rest) ← Scan.fields Scan.fieldLimit bs
  if targetLimit < target.length then throw .targetTooLong
  match Uri.read target with
  | .ok uri => return (⟨method, uri, version, headers⟩, rest)
  | .error _ => throw .malformed

def isHead (h : RequestHead) : Bool := h.method == utf8Bytes "HEAD"

/-- Whether the connection is to be kept: usual in the current version, unless a field says
otherwise, and not usual before. -/
def keepsAlive (h : RequestHead) : Bool :=
  (h.headers.all "connection").foldl
    (fun keep value =>
      if keep then !(Framing.members value).contains (utf8Bytes "close")
      else (Framing.members value).contains (utf8Bytes "keep-alive"))
    (h.version == .current)

/-- Whether the client waits for a word before it sends the body. -/
def expectsWord (h : RequestHead) : Bool :=
  h.version == .current &&
    ((h.headers.all "expect").getLast?.map lower) == some (utf8Bytes "100-continue")

end RequestHead

/-- The first line of an answer. -/
def statusLine (v : Scan.Version) (status : Nat) : List UInt8 :=
  utf8Bytes (v.text ++ " " ++ String.ofList (decimal status) ++ " " ++
    (reason? status).getD "<none>" ++ "\r\n")

namespace Response

/-- The field that says what becomes of the connection, where it is not what is usual. -/
def connectionField (h : RequestHead) : List UInt8 :=
  match h.version, h.keepsAlive with
  | .current, false => fieldLine "connection" (utf8Bytes "close")
  | .older, true => fieldLine "connection" (utf8Bytes "keep-alive")
  | _, _ => []

/-- Whether an empty body has its length stated. -/
def statesEmpty (r : Response) (h : RequestHead) : Bool :=
  !(r.status == 204 || r.status == 304 || r.status < 200 || h.isHead)

/-- A field that may be missing. -/
def optionalField (name : String) : Option String → List UInt8
  | some value => fieldLine name (utf8Bytes value)
  | none => []

/-- The bytes of a response to a request with a given head. To a HEAD request only the head of the
response is sent. -/
def text (r : Response) (h : RequestHead) : List UInt8 :=
  statusLine h.version r.status ++
    optionalField "content-type" r.contentType ++ optionalField "allow" r.allow ++
    (if r.body = [] then
      connectionField h ++ if statesEmpty r h then fieldLine "content-length" (lengthText 0) else []
    else fieldLine "content-length" (lengthText r.body.length) ++ connectionField h) ++
    [13, 10] ++ if h.isHead then [] else r.body

end Response

/-- The status of the answer to bytes that are no request; there is none as long as more may come.
-/
def ScanFault.status? : ScanFault → Option Nat
  | .incomplete => none
  | .malformed => some 400
  | .headTooLarge => some 431
  | .targetTooLong => some 414

/-- What is sent in answer to bytes that are no request. -/
def ScanFault.refusal (f : ScanFault) : List UInt8 :=
  match f.status? with
  | none => []
  | some status => statusLine .current status ++ fieldLine "connection" (utf8Bytes "close") ++
      fieldLine "content-length" (lengthText 0) ++ [13, 10]

namespace RequestHead

/-- The largest head that is read. -/
def sizeLimit : Nat := 417792

/-- The head of a request and the bytes behind it. A head that has not ended within the limit is
given up on. -/
def scanWithin (limit : Nat) (bs : List UInt8) : Except ScanFault (RequestHead × List UInt8) :=
  match scan bs with
  | .ok (h, rest) =>
    if bs.length < rest.length + limit then .ok (h, rest) else .error .headTooLarge
  | .error .incomplete => .error (if bs.length < limit then .incomplete else .headTooLarge)
  | .error f => .error f

end RequestHead

/-! ### The binary version -/

namespace Binary

/-- What a client that speaks the binary version sends first. -/
def preface : List UInt8 := utf8Bytes "PRI * HTTP/2.0\r\n\r\nSM\r\n\r\n"

/-- A setting: its number and its value, in six bytes. -/
def setting (number : UInt8) (value : Nat) : List UInt8 :=
  [0, number] ++ [value / 16777216, value / 65536, value / 256, value].map UInt8.ofNat

/-- The frame that a server sends first: how many streams there may be at once, how much may be
under way on each, and how large a frame and a head may be. -/
def settings : List UInt8 :=
  [0, 0, 24, 4, 0, 0, 0, 0, 0] ++ setting 3 200 ++ setting 4 1048576 ++ setting 5 16384 ++
    setting 6 16384

end Binary

/-- How requests are dealt with, by a handler whose state is `σ`. -/
structure Handler (σ : Type) where
  /-- The response to a request, or `none` when the connection breaks off instead. -/
  respond : σ → Request → Option Response × σ
  /-- Whether the body of a request is looked at. -/
  readsBody : Request → Bool
  /-- The largest body that is read to its end. -/
  bodyLimit : Nat

namespace Handler

variable {σ : Type}

/-- Whether all of a body is read, so that the next request can follow it. A body that nobody looks
at is passed over if it is there in one piece. -/
def drains (handler : Handler σ) (framing : Framing) (r : Request) : Bool :=
  match r.body with
  | .broken => false
  | .whole bytes =>
    if handler.readsBody r then bytes.length ≤ handler.bodyLimit
    else framing != .chunked || bytes.isEmpty

/-- The word that a client waits for before it sends a body. -/
def word (handler : Handler σ) (h : RequestHead) (framing : Framing) (r : Request) : List UInt8 :=
  if h.expectsWord && framing != .sized 0 && handler.readsBody r then
    utf8Bytes "HTTP/1.1 100 Continue\r\n\r\n"
  else []

/-- The bytes that are sent on a connection on which some bytes come in and then no more; `left`
bounds the number of requests. -/
def serveSome (handler : Handler σ) (left : Nat) (s : σ) (bs : List UInt8) : List UInt8 × σ :=
  match left with
  | 0 => ([], s)
  | left + 1 =>
    match RequestHead.scanWithin RequestHead.sizeLimit bs with
    | .error f => (f.refusal, s)
    | .ok (h, rest) =>
      match Framing.ofRequest h.version h.headers with
      | .error f => (f.refusal, s)
      | .ok framing =>
        let (body, rest) := match framing.read rest with
          | .ok (bytes, rest) => (Body.whole bytes, rest)
          | .error _ => (Body.broken, [])
        let r : Request := ⟨h.method, h.uri, h.headers, body⟩
        match handler.respond s r with
        | (none, s) => ([], s)
        | (some response, s) =>
          let out := handler.word h framing r ++ response.text h
          if h.keepsAlive && handler.drains framing r then
            let (more, s) := handler.serveSome left s rest
            (out ++ more, s)
          else (out, s)

/-- The bytes that are sent on a connection on which some bytes come in and then no more. A client
that speaks the binary version gets settings, and no request of it is served. -/
def serve (handler : Handler σ) (s : σ) (bs : List UInt8) : List UInt8 × σ :=
  if Binary.preface.isPrefixOf bs then (Binary.settings, s)
  else handler.serveSome (bs.length + 1) s bs

end Handler
end Portkeeper.Http
