import Portkeeper.Http.Service
import Portkeeper.Registry.Change
import Portkeeper.Registry.Stop

/-!
Requests to the endpoints of a registry. What a request asks for is carried out here; its router has
already said what that is.
-/

set_option autoImplicit false

namespace Portkeeper
open Http

namespace World

variable [Platform]

/-- Carry out a call. A handler that fails gives no response. -/
def perform (w : World) : Call → Option Response × World
  | .answer r => (some r, w)
  | .list => (some (listResponse w.listing), w)
  | .update k address =>
    match w.update k address with
    | (r, w) => (some (updateResponse r), w)
  | .crash => (none, w)

/-- The response to a request that comes in on a connection. -/
def respond (w : World) (router : Router) (c : Option Connection) (r : Request) :
    Option Response × World :=
  w.perform (router.call c r)

/-- Whether a call is answered only after a change of its own. -/
def waits (w : World) : Call → Bool
  | .update k address => match w.check k address with
    | .ok (some _) => true
    | _ => false
  | _ => false

/-- The handler of a connection. A client that has closed its side is given up on while a change is
under way, though the change goes on. -/
def handler (router : Router) (c : Connection) (closed : Bool) : Handler World where
  respond w r :=
    let gone := closed && w.waits (router.call (some c) r)
    match w.respond router (some c) r with
    | (response, w) => (if gone then none else response, w)
  readsBody := router.readsBody (some c)
  bodyLimit := bodyLimit

end World
end Portkeeper
