import Portkeeper.Api
import Portkeeper.Listener

/-!
Accept loops: a listener that is being served, and the connections that were accepted on it. When
its socket is closed, for whatever reason, handshakes are dropped at once, and connections that
serve a request have a fixed time to finish.
-/

set_option autoImplicit false

namespace Portkeeper
open Net

/-! ### Connections that are accepted -/

/-- What the system says of a client whose connection is accepted. -/
inductive Arrival where
  | unix
  | vsock (client : Vsock)
  | tcp (client : SocketAddress)
  deriving DecidableEq, Repr

/-- The clients that can come to a socket. -/
inductive SocketName.Admits : SocketName → Arrival → Prop
  | unix (u : UnixName) : Admits (.unix u) .unix
  | vsock (v client : Vsock) : Admits (.vsock v) (.vsock client)
  | tcp (a client : SocketAddress) : Admits (.inet a) (.tcp (seenFrom a.ip client))

/-- How a connection is served: at once and in plain text, or within TLS once a handshake is over, in
which the client may have shown a certificate. -/
inductive Reception where
  | plain (c : Connection)
  | guarded (a : Acceptor) (c : Option (List UInt8) → Connection)

/-- How a listener's connections are served. The acceptor matters to TCP alone. -/
def Listener.receive (l : Listener) : Arrival → Reception
  | .unix => .plain (.unix l.kind)
  | .vsock client => .plain (.vsock l.kind client)
  | .tcp client =>
    match l.tls with
    | none => .plain (.tcp l.kind client none)
    | some a => .guarded a (.tcp l.kind client)

/-- A handshake, as far as it is used: if it succeeds, the certificates that the client has shown, its
own first. -/
abbrev Handshake := Acceptor → Option (List (List UInt8))

/-- The connection on which requests come, unless its handshake fails. -/
def Reception.connection? (shake : Handshake) : Reception → Option Connection
  | .plain c => some c
  | .guarded a c => (shake a).map fun shown => c shown.head?

/-! ### Loops -/

/-- Connections get this long to finish once their listener is closed, in milliseconds. -/
def drainLimit : Nat := 5000

/-- A connection as far as its loop depends on it: whether it is still in its handshake, and when it
will be over by itself, if it will. -/
structure Visit where
  id : Nat
  handshaking : Bool
  ends : Option Nat
  deriving DecidableEq, Repr

def Visit.isOver (now : Nat) (v : Visit) : Bool := v.ends.any (· ≤ now)

abbrev LoopId := Nat

/-- Whether accepting failed because of one client, so that the others can still be accepted. -/
def IoError.isOfClient (e : IoError) : Bool :=
  match e.kind with
  | .connectionRefused | .connectionAborted | .connectionReset => true
  | _ => false

/-- An accept loop; it is closed at a time and lives on until its connections are over. -/
structure Loop where
  listener : Listener
  router : Router
  closedAt : Option Nat
  visits : List Visit
  deriving DecidableEq, Repr

namespace Loop

def isOpen (l : Loop) : Bool := l.closedAt.isNone

/-- Whether a loop has exited by a time: its socket is closed, and its connections are over or their
time is up. -/
def isFinished (now : Nat) (l : Loop) : Bool :=
  match l.closedAt with
  | none => false
  | some t => t + drainLimit ≤ now || l.visits.all (·.isOver now)

/-- The loop with its socket closed. -/
def close (now : Nat) (l : Loop) : Loop :=
  match l.closedAt with
  | some _ => l
  | none => { l with closedAt := some now, visits := l.visits.filter fun v => !v.handshaking }

/-- The loop with one more connection, unless its socket is closed. -/
def enter (v : Visit) (l : Loop) : Loop :=
  if l.isOpen then { l with visits := l.visits ++ [v] } else l

/-- The loop without a connection, which is over. -/
def leave (id : Nat) (l : Loop) : Loop := { l with visits := l.visits.filter fun v => v.id ≠ id }

/-- The time at which the last of some connections is over, not later than a limit. -/
def lastEnd (limit : Nat) (vs : List Visit) : Nat :=
  vs.foldl (fun t v => max t (min limit (v.ends.getD limit))) 0

/-- The time by which a closed loop has exited. -/
def endsAt (l : Loop) : Nat :=
  match l.closedAt with
  | none => 0
  | some t => lastEnd (t + drainLimit) l.visits

@[simp] theorem isOpen_close (now : Nat) (l : Loop) : (l.close now).isOpen = false := by
  unfold close isOpen
  split <;> simp_all

theorem close_of_closed {l : Loop} (now : Nat) (h : l.isOpen = false) : l.close now = l := by
  unfold close
  unfold isOpen at h
  split
  · rfl
  · simp_all

/-- A connection counts as in progress until the loop that accepted it has exited. -/
def inProgress (now : Nat) (l : Loop) : List Visit :=
  if l.isFinished now then [] else l.visits.filter fun v => !v.isOver now

end Loop
end Portkeeper
