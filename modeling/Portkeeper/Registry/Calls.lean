import Portkeeper.Registry.Start
import Portkeeper.Registry.Change
import Portkeeper.Registry.Stop

/-!
Calls of a registry by several users at once. A call goes through few steps, each of which has the
registry to itself; between them other calls may take theirs. A call whose caller has gone is left
at the step it has reached: a change that was begun goes on.
-/

set_option autoImplicit false

namespace Portkeeper

/-- What can be asked of a registry. -/
inductive Command where
  | up (config : Config)
  | down
  | update (kind : Kind) (address : String)
  | address (kind : Kind)
  | listing

/-- What comes back. -/
inductive Answer where
  | done (result : Except EndpointError Unit)
  | address (text : String)
  | listing (endpoints : List EndpointInfo)

/-- How far a call has come: nothing done yet; a change to a canonical address, for which the first
look found a reason; all closed, and loops to wait for; or answered. -/
inductive Progress where
  | fresh (command : Command)
  | changing (kind : Kind) (canonical : String)
  | draining (loops : List LoopId)
  | answered (answer : Answer)

namespace Progress

def answer? : Progress → Option Answer
  | .answered a => some a
  | _ => none

/-- What is left of a call when its caller goes: nothing if it has not begun, else all of it. -/
def abandon : Progress → Option Progress
  | .fresh _ => none
  | p => some p

end Progress

namespace World

variable [Platform]

/-- The next step of a call. -/
def stepCall (w : World) : Progress → Progress × World
  | .fresh (.up c) =>
    match w.up c with
    | (r, w) => (.answered (.done r), w)
  | .fresh .down =>
    match w.beginDown with
    | (.error e, w) => (.answered (.done (.error e)), w)
    | (.ok loops, w) => (.draining loops, w)
  | .fresh (.update k address) =>
    match w.check k address with
    | .error e => (.answered (.done (.error e)), w)
    | .ok none => (.answered (.done (.ok ())), w)
    | .ok (some canonical) => (.changing k canonical, w)
  | .fresh (.address k) => (.answered (.address (w.address k)), w)
  | .fresh .listing => (.answered (.listing w.listing), w)
  | .changing k canonical =>
    match w.change k canonical with
    | (r, w) => (.answered (.done r), w)
  | .draining loops => (.answered (.done (.ok ())), w.awaitLoops loops)
  | .answered a => (.answered a, w)

/-- Take the steps of calls in the order of a schedule, which names a call by its place. -/
def interleave (w : World) (calls : List Progress) : List Nat → List Progress × World
  | [] => (calls, w)
  | i :: schedule =>
    match calls[i]? with
    | none => w.interleave calls schedule
    | some p =>
      match w.stepCall p with
      | (p, w) => w.interleave (calls.set i p) schedule

/-- One step of each call, in order. -/
def round (w : World) (calls : List Progress) : List Progress × World :=
  w.interleave calls (List.range calls.length)

/-- All calls from beginning to end, first come, first served: a step of a call that has begun comes
after the calls that have not. No call has more than two steps. -/
def serveInOrder (w : World) (calls : List Command) : List Progress × World :=
  match w.round (calls.map .fresh) with
  | (calls, w) => w.round calls

end World
end Portkeeper
