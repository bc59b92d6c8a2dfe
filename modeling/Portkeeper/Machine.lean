import Portkeeper.Registry.Reach
import Portkeeper.Sandbox

/-!
A machine in the sandbox: one host with the registries of several programs. All of them share its
files, its sockets and its clock, but each loop belongs to the registry that started it, and the
requests of its clients reach that registry alone.
-/

set_option autoImplicit false

namespace Portkeeper
open Http

structure Machine where
  host : Host
  loops : List Loop
  registries : List Lifecycle
  /-- The registry of each loop. -/
  owners : List Nat

namespace Machine

/-- A machine with one registry, which was never started. -/
def start (h : Host) : Machine := ⟨h, [], [.unstarted], []⟩

/-- What a registry sees of its machine. -/
def world (m : Machine) (i : Nat) : World := ⟨m.host, m.loops, m.registries[i]?.getD .unstarted⟩

/-- Let a registry work. The loops that it starts are its own. -/
def on {α : Type} (m : Machine) (i : Nat) (f : World → α × World) : α × Machine :=
  match f (m.world i) with
  | (a, w) => (a, {
      host := w.host
      loops := w.loops
      registries := m.registries.set i w.lifecycle
      owners := m.owners ++ List.replicate (w.loops.length - m.owners.length) i })

/-- Another registry, which was never started. -/
def another (m : Machine) : Nat × Machine :=
  (m.registries.length, { m with registries := m.registries ++ [.unstarted] })

/-- The registry that a loop belongs to. -/
def owner (m : Machine) (l : LoopId) : Nat := m.owners[l]?.getD 0

/-- The loop that accepts on a socket. -/
def loopOn? (m : Machine) (id : SocketId) : Option LoopId := (m.world 0).loopOn? id

/-- A listener at an IP address that was opened after the first `n` sockets and has no loop. -/
def stranger? (m : Machine) (n : SocketId) (a : Net.SocketAddress) : Option SocketId :=
  (m.host.sockets.find? fun e =>
    n ≤ e.1 && e.2 == ⟨.inet a, .stream, true⟩ && (m.loopOn? e.1).isNone).map (·.1)

/-- Connect to a unix socket. Its loop is returned, if it has one. -/
def connect (m : Machine) (path : List Char) : Except IoError (Option LoopId) :=
  (m.host.connectUnix path).map m.loopOn?

/-- Send bytes on a connection to a loop, and take what comes back. A loop that has exited sends
nothing. -/
def talk (m : Machine) (id : LoopId) (closed : Bool) (bytes : List UInt8) : List UInt8 × Machine :=
  match m.loops[id]? with
  | some l =>
    if l.isFinished m.host.now then ([], m) else m.on (m.owner id) fun w => w.talk l closed bytes
  | none => ([], m)

/-- One request of a client on this machine. -/
def ask (m : Machine) (c : Client) (o : Outgoing) : Except ClientError Reply × Machine :=
  match c.connect m.host with
  | .error e => (.error e, m)
  | .ok id => m.on (((m.loopOn? id).map m.owner).getD 0) (World.ask c o)

/-- A connection is made to a loop. -/
def enter (m : Machine) (id : LoopId) (v : Visit) : Machine :=
  { m with loops := m.loops.modify id (·.enter v) }

/-- A connection to a loop is over. -/
def leave (m : Machine) (id : LoopId) (visit : Nat) : Machine :=
  { m with loops := m.loops.modify id (·.leave visit) }

/-- Let the loops that cannot accept find out. -/
def settle (m : Machine) : Machine := (m.on 0 fun w => ((), w.settle)).2

end Machine
end Portkeeper
