import Portkeeper.Http.Header
import Portkeeper.Http.Status
import Portkeeper.Http.Uri

/-!
Requests and responses, apart from the way they travel.
-/

set_option autoImplicit false

namespace Portkeeper.Http
open Text

/-- The body of a request; it is broken when the connection ended before it was complete. -/
inductive Body where
  | whole (bytes : List UInt8)
  | broken
  deriving DecidableEq, Repr

structure Request where
  method : List UInt8
  uri : Uri
  headers : Headers
  body : Body
  deriving DecidableEq, Repr

namespace Request

def hasMethod (r : Request) (name : String) : Bool := r.method == utf8Bytes name

end Request

/-- A request cannot be put together from every method, target and header. -/
inductive RequestError where
  | method
  | uri (cause : UriError)
  | headerName
  | headerValue
  deriving DecidableEq, Repr

def RequestError.message : RequestError → String
  | .method => "invalid HTTP method"
  | .uri e => e.message
  | .headerName => "invalid HTTP header name"
  | .headerValue => "failed to parse header value"

/-- A header field with its name in lower case. -/
def header (name value : List UInt8) : Except RequestError (List UInt8 × List UInt8) :=
  if !isToken name then .error .headerName
  else if !value.all isValueByte then .error .headerValue
  else .ok (lower name, value)

/-- Put a request together; the first fault in the order method, target, headers is reported. -/
def Request.make (method target : List UInt8) (headers : Headers) (body : List UInt8) :
    Except RequestError Request := do
  if !isToken method then throw .method
  let uri ← match Uri.read target with
    | .ok u => pure u
    | .error e => throw (.uri e)
  let headers ← headers.mapM fun (n, v) => header n v
  return ⟨method, uri, headers, .whole body⟩

structure Response where
  status : Nat
  contentType : Option String
  allow : Option String
  body : List UInt8
  deriving DecidableEq, Repr

namespace Response

/-- A response with nothing in it. -/
def bare (status : Nat) : Response := ⟨status, none, none, []⟩

def plain (status : Nat) (text : String) : Response :=
  ⟨status, some "text/plain; charset=utf-8", none, utf8Bytes text⟩

def json (status : Nat) (text : List Char) : Response :=
  ⟨status, some "application/json", none, utf8 text⟩

end Response
end Portkeeper.Http
