import Portkeeper.Address.Target
import Portkeeper.Host.Basic
import Portkeeper.Http.Exchange
import Portkeeper.Message
import Portkeeper.Net.Lookup
import Portkeeper.Tls.Connector

/-!
The client of a daemon: where it connects to, what it asks the administrative interface, and what it
makes of the replies.
-/

set_option autoImplicit false

namespace Portkeeper
open Http Net Text

/-- The text of the target under which the endpoint of a kind is reached at its address. -/
def Kind.targetText (k : Kind) (address : String) : String :=
  match k.transport with
  | .unix => "unix:" ++ address
  | .tls => address
  | .vsock => "vsock:" ++ address

/-- A client of a daemon; its settings for TLS only matter to TCP. -/
structure Client where
  target : Target
  tls : Option TlsSettings
  deriving DecidableEq, Repr

/-- Why a client has no answer. -/
inductive ClientError where
  | connecting (report : Report)
  | exchange
  | refused (status : Nat) (text : String)
  | decoding (fault : Json.Fault)

namespace ClientError

def report : ClientError → Report
  | .connecting r => r
  | .exchange => .plain "error in the exchange of messages"
  | .refused status text => .plain ("Request failed with " ++ statusText status ++ ": " ++ text)
  | .decoding f => .causedBy "Decoding JSON reply" (.plain f.message)

def message (e : ClientError) : String := e.report.line

end ClientError

namespace Client

/-- The client of a unix socket. -/
def unix (path : List Char) : Client := ⟨.unix path, none⟩

/-- The name of the host in requests. -/
def host (c : Client) : String :=
  match c.target with
  | .tcp .. => String.ofList c.target.text
  | _ => "localhost"

/-- What a client says it was doing when it could not connect. -/
def attempting (t : Target) : String :=
  match t with
  | .tcp .. => "Connecting TCP " ++ String.ofList t.text
  | .unix path => "Connecting unix socket " ++ String.ofList path
  | .vsock _ => "Connecting " ++ String.ofList t.text

/-- Connect from a host. No more than its unix sockets can be reached. -/
def connect [Platform] (c : Client) (h : Host) : Except ClientError SocketId :=
  let fault (e : IoError) : ClientError :=
    .connecting (.causedBy (attempting c.target) (.plain e.message))
  match c.target with
  | .unix path => (h.connectUnix path).mapError fault
  | .tcp name port => match hostAddresses h.now name port with
    | .error e => .error (fault e)
    | .ok as => .error (fault (as.getLast?.elim noAddress fun a =>
        .number (Platform.unreachable a)))
  | .vsock v => .error (fault (.number (Platform.vsockUnreachable v)))

end Client

/-! ### Requests to the administrative interface -/

namespace Admin

/-- The request for the live endpoints. -/
def list : Outgoing := ⟨utf8Bytes "GET", "/1.0/endpoints", none⟩

/-- The request to move an endpoint. -/
def set (k : Kind) (address : String) : Outgoing :=
  ⟨utf8Bytes "PUT", "/1.0/endpoints/" ++ k.name, some (utf8 (AddressUpdate.encode ⟨address⟩))⟩

/-- A reply that reports success. -/
def check (r : Reply) : Except ClientError Reply :=
  if isSuccess r.status then .ok r else .error (.refused r.status r.text)

/-- The live endpoints that a reply lists. -/
def readListing (r : Reply) : Except ClientError (List EndpointInfo) := do
  let r ← check r
  (Json.decode (Json.list EndpointInfo.decode) r.body).mapError .decoding

/-- What a reply says of a change. -/
def readChange (r : Reply) : Except ClientError Unit := do
  let _ ← check r
  return ()

end Admin
end Portkeeper
