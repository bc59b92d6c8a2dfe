import Portkeeper.Registry.Basic
import Portkeeper.Registry.Bid

/-!
Moving an endpoint to another address. The old listener is closed first. If no bid for the new
address succeeds the old address is restored, and the error of the new one is still reported; the
endpoint stays down only if that fails as well. A change is a sequence of steps, each a pause and
one attempt to bind, so that one can say what is left of a change that was cut off.
-/

set_option autoImplicit false

namespace Portkeeper

/-- A change under way: a bid for the new address, a bid for the previous one after the first
failed, or its outcome. The previous address is empty when there was none. -/
inductive Change where
  | moving (bid : Bid) (previous : String)
  | restoring (bid : Bid) (failure : EndpointError)
  | done (result : Except EndpointError Unit)

namespace Change

def result? : Change → Option (Except EndpointError Unit)
  | .done r => some r
  | _ => none

/-- The pause before the next attempt. -/
def pause : Change → Nat
  | .moving b _ => b.pause
  | .restoring b _ => b.pause
  | .done _ => 0

/-- The most attempts that are still ahead. -/
def budget : Change → Nat
  | .moving b _ => b.left + 1 + attemptLimit
  | .restoring b _ => b.left + 1
  | .done _ => 0

end Change

namespace Site

/-- Record a fresh listener and serve it. -/
def bring (s : Site) (l : Listener) (address : String) : Except EndpointError Unit × Site :=
  (s.install l address).serve l.kind

variable [Platform]

/-- The next step of a change: one attempt, and what follows from it. -/
def step (s : Site) : Change → Change × Site
  | .moving bid previous =>
    match bid.attempt s.registry.bundle s.host with
    | (.inl bid, h) => (.moving bid previous, { s with host := h })
    | (.inr (.ok l), h) =>
      let (r, s) := { s with host := h }.bring l bid.address
      (.done r, s)
    | (.inr (.error e), h) =>
      (if previous = "" then .done (.error e) else .restoring (.first bid.kind previous) e,
        { s with host := h })
  | .restoring bid failure =>
    match bid.attempt s.registry.bundle s.host with
    | (.inl bid, h) => (.restoring bid failure, { s with host := h })
    | (.inr (.ok l), h) =>
      let (r, s) := { s with host := h }.bring l bid.address
      (.done (match r with
        | .ok _ => .error failure
        | .error e => .error e), s)
    | (.inr (.error e), h) =>
      (.done (.error (.unavailable bid.kind bid.address failure e)), { s with host := h })
  | .done r => (.done r, s)

/-- Some steps of a change. -/
def steps (s : Site) (c : Change) : Nat → Change × Site
  | 0 => (c, s)
  | n + 1 =>
    match s.step c with
    | (c, s) => s.steps c n

/-- The steps of a change that are due by a time, at most `n` of them. -/
def stepsUntil (s : Site) (time : Nat) (c : Change) : Nat → Change × Site
  | 0 => (c, s)
  | n + 1 =>
    if c.result?.isNone ∧ s.now + c.pause ≤ time then
      match s.step c with
      | (c, s) => s.stepsUntil time c n
    else (c, s)

/-- The part of a change that needs the registry to itself, up to the first attempt: nothing is left
to do when the address is current by now or when there is no handler; otherwise the old listener is
closed. -/
def beginChange (s : Site) (k : Kind) (address : String) : Change × Site :=
  if s.isCurrent k address then (.done (.ok ()), s)
  else if address ≠ "" ∧ (s.registry.servers k).isNone then (.done (.error (noHandler k)), s)
  else
    let (previous, s) := s.close k
    if address = "" then (.done (.ok ()), s) else (.moving (.first k address) previous, s)

/-- A change from its beginning to its end. -/
def change (s : Site) (k : Kind) (address : String) : Except EndpointError Unit × Site :=
  let (c, s) := s.beginChange k address
  let (c, s) := s.steps c c.budget
  (c.result?.getD (.ok ()), s)

end Site

namespace World

/-- The error for kinds whose address cannot be changed. -/
def notChangeable (k : Kind) : EndpointError :=
  .config (k.name ++ " address can't be changed at runtime")

/-- The first look at a request to move a kind: `none` when there is nothing to change, else the
canonical address. -/
def check (w : World) (k : Kind) (address : String) : Except EndpointError (Option String) :=
  if !k.isNetwork then .error (notChangeable k)
  else match k.canonicalize address with
    | .error e => .error e
    | .ok canonical =>
      match w.site? with
      | none => .error (w.refuse .reconfigure)
      | some s => .ok (if s.isCurrent k canonical then none else some canonical)

variable [Platform]

/-- The change itself, which looks again: the registry may be another by now. -/
def change (w : World) (k : Kind) (canonical : String) : Except EndpointError Unit × World :=
  match w.site? with
  | none => (.error (w.refuse .reconfigure), w)
  | some s =>
    match s.change k canonical with
    | (r, s) => (r, ofSite s)

/-- Move a network kind to an address; the empty address disables it. -/
def update (w : World) (k : Kind) (address : String) : Except EndpointError Unit × World :=
  match w.check k address with
  | .error e => (.error e, w)
  | .ok none => (.ok (), w)
  | .ok (some canonical) => w.change k canonical

/-- The end of every loop that was started after the first `n`, with its connections. -/
def endLoops (w : World) (n : Nat) : World :=
  let w := ((List.range w.loops.length).drop n).foldl fault w
  { w with loops := w.loops.take n ++ (w.loops.drop n).map fun l => { l with visits := [] } }

/-- A move that runs where everything is torn down after a time. A change that is not over by then
is cut off, and nothing is restored; loops that it started end with it. -/
def updateFor (w : World) (duration : Nat) (k : Kind) (address : String) :
    Except EndpointError Unit × World :=
  match w.check k address with
  | .error e => (.error e, w)
  | .ok none => (.ok (), w)
  | .ok (some canonical) =>
    match w.site? with
    | none => (.error (w.refuse .reconfigure), w)
    | some s =>
      let deadline := s.now + duration
      let (c, s) := s.beginChange k canonical
      let (c, s) := s.stepsUntil deadline c c.budget
      let w' := (ofSite { s with host := s.host.sleep (deadline - s.now) }).endLoops w.loops.length
      match c.result? with
      | some r => (r, w')
      | none => (.error (.interrupted k "task <id> was cancelled"), w')

end World
end Portkeeper
