import Portkeeper.Host.Files
import Portkeeper.Platform

/-!
A host as the daemon sees it: a clock, a file system, the sockets that are open, the descriptors
that were handed over, and what others will do at times to come. What can be bound on it is up to its
platform. All that can change outside the daemon is in `agenda` and `refusals`; time passes only in
`sleep`.
-/

set_option autoImplicit false

namespace Portkeeper
open Net Text

abbrev SocketId := Nat

/-- What a unix socket is bound to. -/
inductive UnixName where
  | unnamed
  | hidden (name : List Char)
  | path (path : List Char)
  deriving DecidableEq, Repr

/-- What a socket is bound to, by family. -/
inductive SocketName where
  | unix (name : UnixName)
  | inet (address : SocketAddress)
  | vsock (address : Vsock)
  deriving DecidableEq, Repr

inductive SocketType where
  | stream
  | datagram
  deriving DecidableEq, Repr

structure Socket where
  name : SocketName
  type : SocketType
  listening : Bool
  deriving DecidableEq, Repr

inductive DescriptorTarget where
  | socket (id : SocketId)
  | other
  deriving DecidableEq, Repr

/-- A descriptor of the daemon's process that it did not open itself. -/
structure Descriptor where
  closeOnExec : Bool
  target : DescriptorTarget
  deriving DecidableEq, Repr

/-- What someone else does on the host: take an address, or give up a socket. -/
inductive Deed where
  | take (address : SocketAddress)
  | takeVsock (address : Vsock)
  | give (id : SocketId)
  deriving DecidableEq, Repr

/-- An attempt of the daemon to bind a socket: when, and to what. -/
structure Attempt where
  time : Nat
  address : List Char
  deriving DecidableEq, Repr

structure Host where
  now : Nat
  files : Files
  sockets : Table SocketId Socket
  nextSocket : SocketId
  descriptors : Table Int Descriptor
  /-- Ports that the system has picked so far, and the addresses that got them. -/
  picked : List SocketName
  /-- What others do, and when. -/
  agenda : List (Nat × Deed)
  /-- The system's answers to the attempts to come, where it has reasons of its own. -/
  refusals : List (Option IoError)
  /-- The attempts made so far, latest first. -/
  attempts : List Attempt
  deriving Repr

namespace Host

/-- A host on which nothing runs yet. -/
def empty : Host where
  now := 0
  files := ⟨[], []⟩
  sockets := []
  nextSocket := 0
  descriptors := []
  picked := []
  agenda := []
  refusals := []
  attempts := []

def isOpen (h : Host) (id : SocketId) : Bool := (h.sockets.get? id).isSome

/-- Open a socket. -/
def openSocket (h : Host) (s : Socket) : SocketId × Host :=
  (h.nextSocket,
    { h with sockets := h.sockets.insert h.nextSocket s, nextSocket := h.nextSocket + 1 })

def closeSocket (h : Host) (id : SocketId) : Host := { h with sockets := h.sockets.erase id }

/-- Close a descriptor. The socket behind it is closed with the last descriptor that it has. -/
def closeDescriptor (h : Host) (fd : Int) : Host :=
  let others := h.descriptors.erase fd
  let h' := { h with descriptors := others }
  match h.descriptors.get? fd with
  | some ⟨_, .socket id⟩ =>
    if others.any fun e => e.2.target = .socket id then h' else h'.closeSocket id
  | _ => h'

/-- Put something behind a descriptor, or nothing. What was there is closed. -/
def setDescriptor (h : Host) (fd : Int) (target : Option DescriptorTarget) : Host :=
  let h := h.closeDescriptor fd
  { h with descriptors := match target with
    | some t => h.descriptors.insert fd ⟨false, t⟩
    | none => h.descriptors.erase fd }

/-! ### Addresses that exclude each other -/

/-- Whether an IP address covers another: it is equal, or it is a wildcard that stands for it. The
IPv6 wildcard stands for every address of either version. -/
def covers : IP → IP → Bool
  | .v6 v, .v6 w => v == w || v == .unspecified
  | .v6 v, .v4 w => v == .unspecified || v.unmapped? == some w ||
      v.unmapped? == some .unspecified
  | .v4 v, .v4 w => v == w || v == .unspecified
  | .v4 v, .v6 w => match w.unmapped? with
    | some w => v == w || v == .unspecified
    | none => false

/-- Whether two addresses may be on the same link. An address without a scope is on every one. -/
def sameLink : SocketAddress → SocketAddress → Bool
  | .v6 _ _ s, .v6 _ _ t => s == 0 || t == 0 || s == t
  | _, _ => true

/-- Two socket addresses conflict when their ports are equal and one address covers the other. -/
def conflict (a b : SocketAddress) : Bool :=
  a.port == b.port && sameLink a b && (covers a.ip b.ip || covers b.ip a.ip)

/-- The same for vsock addresses, among which one identifier stands for all. -/
def vsockConflict (v w : Vsock) : Bool :=
  v.port == w.port && (v.cid == w.cid || v.cid == Vsock.anyCid || w.cid == Vsock.anyCid)

end Host

/-- Whether a socket stands in the way of a name. A TCP socket that has no port stands in nobody's way,
and a path is free when no file is there. -/
def Socket.bars (s : Socket) (n : SocketName) : Bool :=
  match s.name, n with
  | .inet b, .inet a => s.type == .stream && b.port != 0 && Host.conflict a b
  | .vsock w, .vsock v => Host.vsockConflict v w
  | _, _ => false

namespace Host

/-- Whether some socket stands in the way of a name. -/
def inUse (h : Host) (n : SocketName) : Bool := h.sockets.any fun e => e.2.bars n

/-! ### Binding -/

section
variable [Platform]

/-- The names that an IP address can come to, in the order in which they are tried: the address itself,
or with the ports that are handed out if it leaves its port open. -/
def names (h : Host) (a : SocketAddress) : List SocketName :=
  if a.port = 0 then
    ((Platform.ports h.picked.length a).filter (· ≠ 0)).map fun p => .inet (a.withPort p)
  else [.inet a]

/-- The names that a vsock address can come to. -/
def vsockNames (h : Host) (v : Vsock) : List SocketName :=
  if v.port = Vsock.anyPort then
    ((Platform.vsockPorts h.picked.length v).filter (· ≠ Vsock.anyPort)).map fun p => .vsock ⟨v.cid, p⟩
  else [.vsock v]

/-- Open a listening socket with the first of some names that is free. It is noted if it was picked. -/
def claim (h : Host) (picks : Bool) (names : List SocketName) : Option (SocketId × Host) :=
  (names.find? fun n => !h.inUse n).map fun n =>
    { h with picked := if picks then h.picked ++ [n] else h.picked }.openSocket ⟨n, .stream, true⟩

def claimTcp (h : Host) (a : SocketAddress) : Option (SocketId × Host) :=
  h.claim (a.port = 0) (h.names a)

def claimVsock (h : Host) (v : Vsock) : Option (SocketId × Host) :=
  h.claim (v.port = Vsock.anyPort) (h.vsockNames v)

/-- Bind and listen on an IP address; port zero asks for a free port. -/
def listenTcp (h : Host) (a : SocketAddress) : Except Nat (SocketId × Host) :=
  match Platform.bars? h.now a with
  | some e => .error e
  | none => (h.claimTcp a).elim (.error ErrorNumber.addressInUse) .ok

/-- Bind and listen on the first of some IP addresses for which this succeeds. If it does for none,
the last error counts. -/
def listenFirst (h : Host) (last : IoError) : List SocketAddress → Except IoError (SocketId × Host)
  | [] => .error last
  | a :: as =>
    match h.listenTcp a with
    | .ok r => .ok r
    | .error e => h.listenFirst (.number e) as

/-- Bind and listen on a vsock address. -/
def listenVsock (h : Host) (v : Vsock) : Except Nat (SocketId × Host) :=
  match Platform.vsockBars? h.now v with
  | some e => .error e
  | none => (h.claimVsock v).elim
    (.error (if v.port = Vsock.anyPort then ErrorNumber.addressNotAvailable
      else ErrorNumber.addressInUse)) .ok

end

/-- The longest path of a unix socket, in bytes. -/
def longestSocketPath : Nat := 107

/-- What is wrong with a path as the name of a unix socket, before the system is asked. -/
def socketPathError? (path : List Char) : Option IoError :=
  if '\x00' ∈ path then some (.custom .invalidInput "paths must not contain interior null bytes")
  else if longestSocketPath < (utf8 path).length then
    some (.custom .invalidInput "path must be shorter than SUN_LEN")
  else none

/-- The permissions of a socket file as it is made. -/
def freshMode : Nat := 0o755

/-- Bind a unix socket to a free path. -/
def bindUnix (h : Host) (path : List Char) (type : SocketType) (listening : Bool) :
    Except IoError (SocketId × Host) :=
  match socketPathError? path with
  | some e => .error e
  | none =>
    match h.files.create path (.socket freshMode h.nextSocket) with
    | .error e =>
      .error (.number (if e = ErrorNumber.fileExists then ErrorNumber.addressInUse else e))
    | .ok files => .ok ({ h with files }.openSocket ⟨.unix (.path path), type, listening⟩)

/-! ### Connecting -/

/-- The socket that listens under a name which is no path. -/
def hidden? (h : Host) (name : List Char) : Option SocketId :=
  (h.sockets.find? fun e => e.2 == ⟨.unix (.hidden name), .stream, true⟩).map (·.1)

/-- Connect to the unix socket at a path. A zero byte in front marks a name which is no path. -/
def connectUnix (h : Host) (path : List Char) : Except IoError SocketId :=
  if path.head? = some '\x00' then
    match h.hidden? path.tail with
    | some id => .ok id
    | none => .error (.number ErrorNumber.connectionRefused)
  else match socketPathError? path with
  | some e => .error e
  | none =>
    if path = [] then .error (.number ErrorNumber.invalidArgument)
    else match h.files.find true path with
      | .error e => .error (.number e)
      | .ok (.socket _ id) =>
        match h.sockets.get? id with
        | some ⟨_, .stream, true⟩ => .ok id
        | some ⟨_, .datagram, _⟩ => .error (.number ErrorNumber.wrongSocketType)
        | _ => .error (.number ErrorNumber.connectionRefused)
      | .ok _ => .error (.number ErrorNumber.connectionRefused)

/-! ### Time -/

section
variable [Platform]

/-- What someone else does. What is barred to the daemon may be open to others. -/
def perform (h : Host) : Deed → Host
  | .take a => (h.claimTcp a).elim h (·.2)
  | .takeVsock v => (h.claimVsock v).elim h (·.2)
  | .give id => h.closeSocket id

/-- Someone else will do something after a while. -/
def foresee (h : Host) (time : Nat) (d : Deed) : Host :=
  { h with agenda := h.agenda ++ [(h.now + time, d)] }

/-- All that is due by a time, in order. -/
def catchUp (h : Host) (time : Nat) : Host :=
  let due := (h.agenda.filter (·.1 ≤ time)).mergeSort fun a b => decide (a.1 ≤ b.1)
  (due.foldl (fun h e => h.perform e.2) h) |> fun h' =>
    { h' with agenda := h.agenda.filter fun e => time < e.1 }

/-- Let time pass. -/
def sleep (h : Host) (duration : Nat) : Host :=
  { h.catchUp (h.now + duration) with now := h.now + duration }

end

/-! ### The system's own reasons -/

/-- Note an attempt to bind, and take the system's answer where it has one of its own. -/
def attempt (h : Host) (address : List Char) : Option IoError × Host :=
  let h := { h with attempts := ⟨h.now, address⟩ :: h.attempts }
  match h.refusals with
  | [] => (none, h)
  | r :: rs => (r, { h with refusals := rs })

end Host
end Portkeeper
