import Portkeeper.EndpointError
import Portkeeper.Host.Basic
import Portkeeper.Net.Lookup
import Portkeeper.Tls.Bundle

/-!
Listeners: bound sockets that nothing serves yet. A fresh listener on a unix socket removes its file
when it is closed; one that was handed over leaves the file alone. Listeners of TLS kinds carry the
acceptor that enforces the client policy of their kind, and no others carry one.
-/

set_option autoImplicit false

namespace Portkeeper
open Net Text

/-- Where a listener came from. -/
inductive Provenance where
  | bound
  | inherited
  deriving DecidableEq, Repr

def Provenance.name : Provenance → String
  | .bound => "bound"
  | .inherited => "inherited"

def Provenance.identifier : Provenance → String
  | .bound => "Bound"
  | .inherited => "Inherited"

structure Listener where
  kind : Kind
  socket : SocketId
  /-- The socket file that was created with the socket. -/
  file : Option (List Char)
  /-- The descriptor by which the socket was handed over. -/
  descriptor : Option Int
  tls : Option Acceptor
  provenance : Provenance
  deriving DecidableEq, Repr

/-- The address that a socket is bound to, as text; only a path is one for a unix socket. -/
def SocketName.text : SocketName → List Char
  | .unix (.path p) => p
  | .unix _ => []
  | .inet a => a.text
  | .vsock v => v.text

namespace Listener

/-- The address of a listener: the path of the file it created, or else what its socket is bound to.
-/
def address (l : Listener) (h : Host) : List Char :=
  match l.file with
  | some p => p
  | none =>
    match h.sockets.get? l.socket with
    | some s => s.name.text
    | none => []

/-- How diagnostic output shows a listener. -/
def describe (l : Listener) (h : Host) : String :=
  "BoundListener \x7b kind: " ++ l.kind.identifier ++ ", address: Some(" ++
    quoted (String.ofList (l.address h)) ++ "), tls: " ++ toString l.tls.isSome ++
    ", provenance: " ++ l.provenance.identifier ++ " \x7d"

end Listener

variable [Platform]

/-- The acceptor that a kind's listeners carry: one for TLS kinds, none for others. -/
def Bundle.acceptorFor (b : Bundle) (k : Kind) : Except EndpointError (Option Acceptor) :=
  match k.transport with
  | .tls => match b.acceptor k.clientAuth with
    | .ok a => .ok (some a)
    | .error e => .error (.tls k e.message)
  | .unix | .vsock => .ok none

namespace Host

/-- Remove what stands at a path, if it can be removed. -/
def unlink (h : Host) (path : List Char) : Host :=
  match h.files.remove path with
  | .ok files => { h with files }
  | .error _ => h

/-- Close a listener: the descriptor it came by or its socket, and then the file it created. Whatever
stands at the path by then is removed. -/
def drop (h : Host) (l : Listener) : Host :=
  let h := match l.descriptor with
    | some fd => h.closeDescriptor fd
    | none => h.closeSocket l.socket
  match l.file with
  | some p => h.unlink p
  | none => h

def dropAll (h : Host) (ls : List Listener) : Host := ls.foldl drop h

end Host

/-! ### Fresh listeners -/

namespace Bind

/-- A bound socket, with the file that was created for it. -/
abbrev Bound := SocketId × Option (List Char)

/-- The permissions of the socket files that are created. -/
def socketMode : Nat := 0o660

/-- Whether the directory that a path lies in is missing. -/
def missingParent (h : Host) (path : List Char) : Bool :=
  match PathText.parent? path with
  | some parent => parent != [] && ('\x00' ∈ parent || !h.files.isDirectory parent)
  | none => false

/-- Make way at a path: a file on which nobody answers is removed, whatever it is. -/
def clear (k : Kind) (path : List Char) (h : Host) : Except EndpointError Host :=
  let fault (e : IoError) : EndpointError := .bind k (String.ofList path) e
  match (if '\x00' ∈ path then .error ErrorNumber.noSuchFile else h.files.find false path) with
  | .error _ => .ok h
  | .ok _ =>
    match h.connectUnix path with
    | .ok _ => .error (.socketInUse (String.ofList path))
    | .error e =>
      if e.kind = .connectionRefused then
        match h.files.remove path with
        | .ok files => .ok { h with files }
        | .error n => .error (fault (.number n))
      else .error (fault e)

/-- Bind a unix socket. A name which is no path has no permissions that could be set. -/
def unix (k : Kind) (path : List Char) (h : Host) : Except EndpointError Bound × Host :=
  let fault (e : IoError) : EndpointError := .bind k (String.ofList path) e
  if missingParent h path then (.error (.missingDirectory (String.ofList path)), h)
  else match clear k path h with
    | .error e => (.error e, h)
    | .ok h =>
      match h.attempt path with
      | (some e, h) => (.error (fault e), h)
      | (none, h) =>
        if path.head? = some '\x00' then
          (.error (fault (if (h.hidden? path.tail).isSome then .number ErrorNumber.addressInUse
            else .custom .invalidInput "file name contained an unexpected NUL byte")), h)
        else match h.bindUnix path .stream true with
        | .error e => (.error (fault e), h)
        | .ok (id, h) =>
          match h.files.setMode path socketMode with
          | .ok files => (.ok (id, some path), { h with files })
          | .error n => (.error (fault (.number n)), (h.closeSocket id).unlink path)

/-- Bind a TCP socket to the first address behind a text for which this succeeds. -/
def tcp (k : Kind) (address : List Char) (h : Host) : Except EndpointError Bound × Host :=
  let fault (e : IoError) : EndpointError := .bind k (String.ofList address) e
  match h.attempt address with
  | (some e, h) => (.error (fault e), h)
  | (none, h) =>
    match addresses h.now address >>= h.listenFirst noAddress with
    | .error e => (.error (fault e), h)
    | .ok (id, h) => (.ok (id, none), h)

/-- Bind a vsock socket. -/
def vsock (k : Kind) (address : List Char) (h : Host) : Except EndpointError Bound × Host :=
  let fault (e : IoError) : EndpointError := .bind k (String.ofList address) e
  match Listen.vsock 0 address with
  | .error e =>
    (.error (.invalidAddress k (String.ofList address) e.message), h)
  | .ok v =>
    match h.attempt address with
    | (some e, h) => (.error (fault e), h)
    | (none, h) =>
      match h.listenVsock v with
      | .error n => (.error (fault (.number n)), h)
      | .ok (id, h) => (.ok (id, none), h)

/-- Bind a socket of a kind's transport. -/
def socket (k : Kind) (address : List Char) (h : Host) : Except EndpointError Bound × Host :=
  match k.transport with
  | .unix => unix k address h
  | .tls => tcp k address h
  | .vsock => vsock k address h

end Bind

/-- Bind a fresh listener of a kind at an address. Should TLS fail to be set up, the socket is
closed again. -/
def Host.listen (h : Host) (k : Kind) (address : String) (b : Bundle) :
    Except EndpointError Listener × Host :=
  match k.canonicalize address with
  | .error e => (.error e, h)
  | .ok canonical =>
    if canonical = "" then (.error (.config (k.name ++ " requires an address")), h)
    else match Bind.socket k canonical.toList h with
      | (.error e, h) => (.error e, h)
      | (.ok (id, file), h) =>
        let made (tls : Option Acceptor) : Listener := ⟨k, id, file, none, tls, .bound⟩
        match b.acceptorFor k with
        | .ok tls => (.ok (made tls), h)
        | .error e => (.error e, h.drop (made none))

end Portkeeper
