import Portkeeper.Registry.Loop

/-!
The registry of live endpoints: one entry per kind at most, the handlers and the certificates with
which endpoints are served, and the loops of listeners that were replaced. A `Site` is a running
registry on its host, with every accept loop that was ever started.
-/

set_option autoImplicit false

namespace Portkeeper
open Text

/-- A live endpoint: the address recorded for it, where its listener came from, and the listener
itself until it is handed to an accept loop. -/
structure Entry where
  address : String
  provenance : Provenance
  listener : Option Listener
  serving : Option LoopId
  deriving DecidableEq, Repr

structure Registry where
  entries : Kind → Option Entry
  servers : Kind → Option Router
  bundle : Bundle
  retired : List LoopId

structure Site where
  host : Host
  loops : List Loop
  registry : Registry

/-- Whether an address asks the system to pick a TCP port. -/
def asksForPort (address : String) : Bool := [':', '0'].isSuffixOf address.toList

/-- The error for a kind that nothing would answer for. -/
def noHandler (k : Kind) : EndpointError := .config (k.name ++ " has no request handler")

namespace Registry

/-- Put an entry under a kind, or take it away. -/
def setEntry (r : Registry) (k : Kind) (e : Option Entry) : Registry :=
  { r with entries := fun k' => if k' = k then e else r.entries k' }

@[simp] theorem setEntry_setEntry (r : Registry) (k : Kind) (e e' : Option Entry) :
    (r.setEntry k e).setEntry k e' = r.setEntry k e' := by
  unfold setEntry
  congr 1
  funext k'
  dsimp only
  split <;> rfl

@[simp] theorem entries_setEntry_self (r : Registry) (k : Kind) (e : Option Entry) :
    (r.setEntry k e).entries k = e := by simp [setEntry]

theorem entries_setEntry_of_ne (r : Registry) {k k' : Kind} (e : Option Entry) (h : k' ≠ k) :
    (r.setEntry k e).entries k' = r.entries k' := by simp [setEntry, h]

/-- The live endpoints in the order of their kinds. -/
def listing (r : Registry) : List EndpointInfo :=
  Kind.all.filterMap fun k => (r.entries k).map fun e =>
    ⟨k, e.address, e.provenance = .inherited⟩

end Registry

namespace Site

def now (s : Site) : Nat := s.host.now

/-- Whether a loop has not exited yet. -/
def isRunning (s : Site) (id : LoopId) : Bool :=
  match s.loops[id]? with
  | some l => !l.isFinished s.now
  | none => false

/-- Close the socket of a loop; one whose socket is closed already stays as it is. -/
def closeLoop (s : Site) (id : LoopId) : Site :=
  match s.loops[id]? with
  | none => s
  | some l =>
    if l.isOpen then
      { s with host := s.host.drop l.listener, loops := s.loops.set id (l.close s.now) }
    else s

/-- Record a listener under its kind. What was asked for is kept as its address, unless the system
chose it. -/
def install (s : Site) (l : Listener) (requested : String) : Site :=
  let address := if requested = "" || asksForPort requested then String.ofList (l.address s.host)
    else requested
  { s with registry := s.registry.setEntry l.kind (some ⟨address, l.provenance, some l, none⟩) }

/-- Hand the listener of a kind to an accept loop of its own. -/
def serve (s : Site) (k : Kind) : Except EndpointError Unit × Site :=
  match s.registry.servers k with
  | none => (.error (noHandler k), s)
  | some router =>
    match s.registry.entries k with
    | some ⟨address, provenance, some l, _⟩ =>
      (.ok (), { s with
        loops := s.loops ++ [⟨l, router, none, []⟩]
        registry := s.registry.setEntry k (some ⟨address, provenance, none, some s.loops.length⟩) })
    | _ => (.ok (), s)

/-- Whether an address is what a kind has already: recorded for a loop that runs, or empty for a
kind without an entry. -/
def isCurrent (s : Site) (k : Kind) (address : String) : Bool :=
  match s.registry.entries k with
  | some e => e.address == address && e.serving.any s.isRunning
  | none => address == ""

/-- Close the listening socket of an entry. -/
def release (s : Site) (e : Entry) : Site :=
  let s := match e.listener with
    | some l => { s with host := s.host.drop l }
    | none => s
  match e.serving with
  | some id => s.closeLoop id
  | none => s

/-- Keep the loop of a replaced listener while its connections finish. -/
def retire (s : Site) (id : LoopId) : Site :=
  { s with registry :=
      { s.registry with retired := s.registry.retired.filter s.isRunning ++ [id] } }

/-- Close and forget the listener of a kind, and keep its loop while connections finish. The address
that was recorded is returned, empty if there was none. -/
def close (s : Site) (k : Kind) : String × Site :=
  match s.registry.entries k with
  | none => ("", s)
  | some e =>
    let s := { s with registry := s.registry.setEntry k none }.release e
    (e.address, match e.serving with
      | some id => s.retire id
      | none => s)

/-- The loops that an entry holds. -/
def loopsOf (s : Site) (k : Kind) : List LoopId :=
  match s.registry.entries k with
  | some e => e.serving.toList
  | none => []

/-- Close the listeners of all kinds. The loops that may still have connections are returned. -/
def closeAll (s : Site) : List LoopId × Site :=
  (s.registry.retired ++ Kind.all.flatMap s.loopsOf,
    Kind.all.foldl (fun s k => match s.registry.entries k with
      | some e => { s with registry := s.registry.setEntry k none }.release e
      | none => s) s)

end Site

/-! ### The registry through its life -/

/-- The life of a registry: it is started once and stopped once. -/
inductive Lifecycle where
  | unstarted
  | running (registry : Registry)
  | stopped

def Lifecycle.stage : Lifecycle → Stage
  | .unstarted => .unstarted
  | .running _ => .running
  | .stopped => .stopped

/-- A registry at any stage of its life, on its host. -/
structure World where
  host : Host
  loops : List Loop
  lifecycle : Lifecycle

namespace World

/-- A registry that was never started. -/
def unstarted (h : Host) : World := ⟨h, [], .unstarted⟩

def ofSite (s : Site) : World := ⟨s.host, s.loops, .running s.registry⟩

/-- The running registry, if there is one. -/
def site? (w : World) : Option Site :=
  match w.lifecycle with
  | .running r => some ⟨w.host, w.loops, r⟩
  | _ => none

@[simp] theorem site?_ofSite (s : Site) : (ofSite s).site? = some s := rfl

def stage (w : World) : Stage := w.lifecycle.stage

/-- The error of an operation that this stage does not allow. -/
def refuse (w : World) (op : Operation) : EndpointError := .invalidState op w.stage

/-- The current address of a kind, empty when it has no live listener. -/
def address (w : World) (k : Kind) : String :=
  match w.lifecycle with
  | .running r => ((r.entries k).map Entry.address).getD ""
  | _ => ""

/-- The live endpoints in the order of their kinds. -/
def listing (w : World) : List EndpointInfo :=
  match w.lifecycle with
  | .running r => r.listing
  | _ => []

def provenance? (w : World) (k : Kind) : Option Provenance :=
  match w.lifecycle with
  | .running r => (r.entries k).map Entry.provenance
  | _ => none

/-- Close the socket of a loop because accepting on it failed. -/
def fault (w : World) (id : LoopId) : World :=
  match w.loops[id]? with
  | none => w
  | some l =>
    if l.isOpen then
      { w with host := w.host.drop l.listener, loops := w.loops.set id (l.close w.host.now) }
    else w

/-- Accepting on a loop fails. The loop goes on if only one client is concerned. -/
def failAccept (w : World) (id : LoopId) (e : IoError) : World :=
  if e.isOfClient then w else w.fault id

/-- A connection to a loop is over, however it came to its end. -/
def leave (w : World) (id : LoopId) (visit : Nat) : World :=
  match w.loops[id]? with
  | none => w
  | some l => { w with loops := w.loops.set id (l.leave visit) }

/-- Whether nothing can ever be accepted on the socket of a loop. -/
def isDeaf (w : World) (l : Loop) : Bool :=
  match w.host.sockets.get? l.listener.socket with
  | some s => !(s.listening && s.type == .stream)
  | none => true

/-- Let the loops that cannot accept find out. -/
def settle (w : World) : World :=
  (List.range w.loops.length).foldl (fun w id => match w.loops[id]? with
    | some l => if w.isDeaf l then w.fault id else w
    | none => w) w

end World
end Portkeeper
