import Portkeeper.Client
import Portkeeper.Registry.Service

/-!
Clients on the same host as a registry: the loop behind a socket, and a whole exchange with it.
-/

set_option autoImplicit false

namespace Portkeeper
open Http

namespace World

/-- The loop that accepts on a socket. -/
def loopOn? (w : World) (id : SocketId) : Option LoopId :=
  w.loops.findIdx? fun l => l.listener.socket = id && l.isOpen

variable [Platform]

/-- Send bytes to a loop over a unix socket, and take what comes back. The sender may have closed
its side behind them. -/
def talk (w : World) (l : Loop) (closed : Bool) (bytes : List UInt8) : List UInt8 × World :=
  match (l.listener.receive .unix).connection? fun _ => none with
  | some c => (handler l.router c closed).serve w bytes
  | none => ([], w)

/-- One request of a client that is connected to a loop. -/
def exchange (w : World) (l : Loop) (c : Client) (o : Outgoing) :
    Except ClientError Reply × World :=
  match o.text c.host with
  | .error _ => (.error .exchange, w)
  | .ok bytes =>
    match w.talk l false bytes with
    | (out, w) => match Reply.scan o.method out with
      | .ok reply => (.ok reply, w)
      | .error _ => (.error .exchange, w)

/-- One request of a client on this host. -/
def ask (c : Client) (o : Outgoing) (w : World) : Except ClientError Reply × World :=
  match c.connect w.host with
  | .error e => (.error e, w)
  | .ok id =>
    match w.loopOn? id >>= (w.loops[·]?) with
    | some l => w.exchange l c o
    | none => (.error .exchange, w)

end World
end Portkeeper
