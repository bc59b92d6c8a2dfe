import Portkeeper.Registry.Basic

/-!
Stopping a registry: all listeners are closed at once, then the loops get time for the connections
that are still in progress, each loop counted from its own closing.
-/

set_option autoImplicit false

namespace Portkeeper
namespace World

/-- Close every listener. The loops that may still have connections are returned. -/
def beginDown (w : World) : Except EndpointError (List LoopId) × World :=
  match w.site? with
  | none => (.error (w.refuse .stop), w)
  | some s =>
    match s.closeAll with
    | (draining, s) => (.ok draining, ⟨s.host, s.loops, .stopped⟩)

/-- Whether some loops have all exited. -/
def areFinished (w : World) (ids : List LoopId) : Bool :=
  ids.all fun id => match w.loops[id]? with
    | some l => l.isFinished w.host.now
    | none => true

/-- The time until the last of some loops has exited. -/
def drainTime (w : World) (ids : List LoopId) : Nat :=
  ids.foldl (fun t id => match w.loops[id]? with
    | some l => max t (l.endsAt - w.host.now)
    | none => t) 0

variable [Platform]

/-- Wait until some loops have exited. -/
def awaitLoops (w : World) (ids : List LoopId) : World :=
  { w with host := w.host.sleep (w.drainTime ids) }

/-- Close every listener and wait for all loops to exit. -/
def down (w : World) : Except EndpointError Unit × World :=
  match w.beginDown with
  | (.error e, w) => (.error e, w)
  | (.ok ids, w) => (.ok (), w.awaitLoops ids)

end World
end Portkeeper
