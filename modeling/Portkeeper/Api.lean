import Portkeeper.Certificate.Identity
import Portkeeper.EndpointError
import Portkeeper.Http.Message
import Portkeeper.Http.Percent
import Portkeeper.Message

/-!
The request handlers of the endpoints. A router turns a request into a call: an answer that is
ready, a look at the live endpoints, or one change of address. Only a call of the last sort can
change the registry.
-/

set_option autoImplicit false

namespace Portkeeper
open Http Net Text

/-- What is known of the connection on which a request came. -/
structure Connection where
  kind : Kind
  remote : String
  remoteIp : Option IP
  peer : Option Identity
  deriving DecidableEq, Repr

/-- A client's address as a socket bound to some address shows it: on an IPv6 socket that serves
both versions, IPv4 clients appear under mapped addresses. -/
def seenFrom (bound : IP) (client : SocketAddress) : SocketAddress :=
  match bound, client with
  | .v6 _, .v4 v port => .v6 (.mapped v) port 0
  | _, _ => client

namespace Connection

/-- A connection to a unix socket; nothing is known of the client. -/
def unix (k : Kind) : Connection := ⟨k, "unix", none, none⟩

/-- A connection over vsock. -/
def vsock (k : Kind) (client : Vsock) : Connection := ⟨k, String.ofList client.text, none, none⟩

/-- A connection over TCP, from an address as the socket shows it, by a client that may have shown a
certificate. -/
def tcp (k : Kind) (client : SocketAddress) (certificate : Option (List UInt8)) : Connection :=
  ⟨k, String.ofList client.text, some client.ip, certificate >>= Identity.read⟩

end Connection

/-- What a request asks for once it has passed its router. -/
inductive Call where
  | answer (response : Response)
  | list
  | update (kind : Kind) (address : String)
  | crash
  deriving DecidableEq, Repr

/-- The handlers of an endpoint: a greeting, the administrative interface, the greeting for cluster
members only, and a greeting that fails. -/
inductive Router where
  | greeting
  | admin
  | cluster
  | faulty
  deriving DecidableEq, Repr

/-! ### Errors as responses -/

def EndpointError.status : EndpointError → Nat
  | .config _ | .invalidAddress .. => 400
  | .invalidState .. => 409
  | _ => 500

def EndpointError.body (e : EndpointError) : List Char :=
  Json.encodeObject [("error", Json.encodeString e.message)]

def EndpointError.response (e : EndpointError) : Response := .json e.status e.body

/-- The response to a change of address. -/
def updateResponse : Except EndpointError Unit → Response
  | .ok _ => .bare 204
  | .error e => e.response

/-- The response to a look at the live endpoints. -/
def listResponse (es : List EndpointInfo) : Response :=
  .json 200 (Json.encodeList (es.map EndpointInfo.encode))

/-! ### Handlers -/

/-- The greeting of an endpoint: unix sockets and peers with a certificate are trusted. -/
def Connection.hello (c : Connection) : Hello where
  kind := c.kind
  trusted := c.peer.isSome || c.kind.transport == .unix
  peer := c.peer.bind Identity.hostname

def noConnection : String :=
  "Missing request extension: Extension of type `hvd::endpoints::serve::ConnectionInfo` was not " ++
    "found. Perhaps you forgot to add it? See `axum::Extension`."

def helloResponse : Option Connection → Response
  | some c => .json 200 c.hello.encode
  | none => .plain 500 noConnection

/-- Why a cluster member is turned away: `none` for one that connects from an address which its
certificate lists. -/
def rejectPeer : Option Connection → Option (Nat × String)
  | none => some (401, "Unknown connection")
  | some c =>
    match c.peer, c.remoteIp with
    | none, _ => some (401, "No valid certificate")
    | some _, none => some (401, "Can't determine IP address")
    | some peer, some ip =>
      if peer.hasAddress ip then none
      else some (403, "Address " ++ String.ofList ip.text ++
        " mismatched with address in certificate")

/-- The kind that a path segment names. -/
def kindOfSegment (segment : List UInt8) : Except String Kind :=
  match ofUtf8? (percentDecode segment) with
  | none => .error "Invalid UTF-8 in `kind`"
  | some cs =>
    match Kind.ofName? (String.ofList cs) with
    | some k => .ok k
    | none => .error
        (Json.Cause.unknownVariant (String.ofList cs) (Kind.all.map Kind.name)).message

/-- The largest body that is read. -/
def bodyLimit : Nat := 2097152

/-- Whether a request says that its body is JSON. -/
def isJsonRequest (r : Request) : Bool :=
  (r.headers.get? "content-type" >>= MediaType.read).any MediaType.isJson

/-- The change that the body of a request describes, or the response that refuses it. -/
def readUpdate (r : Request) : Except Response AddressUpdate :=
  if !isJsonRequest r then
    .error (.plain 415 "Expected request with `Content-Type: application/json`")
  else match r.body with
    | .broken => .error (.plain 400
        "Failed to buffer the request body: error reading a body from connection")
    | .whole bytes =>
      if bodyLimit < bytes.length then
        .error (.plain 413 "Failed to buffer the request body: length limit exceeded")
      else match Json.decode AddressUpdate.decode bytes with
        | .ok u => .ok u
        | .error f =>
          if f.cause.category = .mismatched then
            .error (.plain 422 ("Failed to deserialize the JSON body into the target type: " ++
              f.messageWithPath))
          else .error (.plain 400 ("Failed to parse the request body as JSON: " ++
            f.messageWithPath))

/-- A request to move the endpoint that a path segment names. A bad path is noticed before a bad
body. -/
def setAddress (segment : List UInt8) (r : Request) : Call :=
  match kindOfSegment segment with
  | .error text => .answer (.plain 400 ("Invalid URL: " ++ text))
  | .ok kind =>
    match readUpdate r with
    | .error response => .answer response
    | .ok u => .update kind u.address

/-! ### Routes -/

inductive Route where
  | root
  | endpoints
  | endpoint (segment : List UInt8)
  deriving DecidableEq, Repr

def endpointsPath : List UInt8 := utf8Bytes "/1.0/endpoints"

/-- The route of a path, taken byte by byte. -/
def Route.ofPath? (path : List UInt8) : Option Route :=
  if path = [47] then some .root
  else if path = endpointsPath then some .endpoints
  else match stripStart? (endpointsPath ++ [47]) path with
    | some segment => if segment = [] ∨ 47 ∈ segment then none else some (.endpoint segment)
    | none => none

/-- The methods of a route. -/
def Route.allow : Route → String
  | .root | .endpoints => "GET,HEAD"
  | .endpoint _ => "PUT"

def Route.accepts (route : Route) (r : Request) : Bool :=
  match route with
  | .root | .endpoints => r.hasMethod "GET" || r.hasMethod "HEAD"
  | .endpoint _ => r.hasMethod "PUT"

/-- The routes of a router; only the administrative interface has more than the root. -/
def Router.route? (router : Router) (r : Request) : Option Route :=
  match Route.ofPath? r.uri.path with
  | some .root => some .root
  | some route => if router = .admin then some route else none
  | none => none

/-- What a route does with a request of one of its methods. -/
def Router.handle (router : Router) (c : Option Connection) (r : Request) : Route → Call
  | .root => if router = .faulty then .crash else .answer (helloResponse c)
  | .endpoints => .list
  | .endpoint segment => setAddress segment r

/-- What a router does with a request that its layers let through. -/
def Router.inner (router : Router) (c : Option Connection) (r : Request) : Call :=
  match router.route? r with
  | none => .answer (.bare 404)
  | some route => if route.accepts r then router.handle c r route else .answer (.bare 405)

/-- The layer before a router, which may answer in its place. -/
def Router.refusal (router : Router) (c : Option Connection) : Option Response :=
  if router = .cluster then (rejectPeer c).map fun (status, text) => .plain status text else none

/-- The call of a request. A route whose methods do not include the request's adds them to the
answer, even to one that a layer gave. -/
def Router.call (router : Router) (c : Option Connection) (r : Request) : Call :=
  let call : Call := match router.refusal c with
    | some response => .answer response
    | none => router.inner c r
  match call, router.route? r with
  | .answer response, some route =>
    if route.accepts r then call else .answer { response with allow := some route.allow }
  | _, _ => call

/-- Whether a handler looks at the body of a request. -/
def Router.readsBody (router : Router) (c : Option Connection) (r : Request) : Bool :=
  match router.refusal c, router.route? r with
  | none, some (.endpoint segment) =>
    (Route.endpoint segment).accepts r && (kindOfSegment segment).isOk && isJsonRequest r
  | _, _ => false

/-- The response as it leaves the router: that to a HEAD request has no body. -/
def finishResponse (r : Request) (response : Response) : Response :=
  if r.hasMethod "HEAD" then { response with body := [] } else response

/-- The router of each kind; a guest agent has none unless it is asked for. -/
def defaultRouter? : Kind → Option Router
  | .localAdmin | .networkAdmin => some .admin
  | .cluster => some .cluster
  | .metrics | .storageObjects | .vmConsole => some .greeting
  | .guestAgent => none

end Portkeeper
