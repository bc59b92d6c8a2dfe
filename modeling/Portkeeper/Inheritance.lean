import Portkeeper.Listener

/-!
Listeners made from descriptors that were handed over. The handoff carries no names: the place of a
descriptor decides its kind, and descriptors past the agreed places are closed.
-/

set_option autoImplicit false

namespace Portkeeper
open Net

namespace Inheritance

/-- The kinds of the descriptors, in order. -/
def order : List Kind := [.localAdmin, .networkAdmin]

/-- The largest descriptor number. -/
def largest : Int := 2147483647

/-- Take over a descriptor, so that it is closed when another program is run. -/
def adopt (fd : Int) (h : Host) : Except EndpointError (Descriptor × Host) :=
  match h.descriptors.get? fd with
  | none => .error (.activation
      ("Inherited descriptor " ++ toString fd ++ " is not open: EBADF: Bad file number"))
  | some d =>
    let d := { d with closeOnExec := true }
    .ok (d, { h with descriptors := h.descriptors.insert fd d })

/-- The socket behind a descriptor, when its family is that of the kind. Its type, and whether it
listens, are not looked at. -/
def socketOf (k : Kind) (d : Descriptor) (h : Host) : Except IoError SocketId :=
  match d.target with
  | .other => .error (.number ErrorNumber.notASocket)
  | .socket id =>
    match h.sockets.get? id with
    | none => .error (.number ErrorNumber.badDescriptor)
    | some s =>
      match k.transport, s.name with
      | .unix, .unix _ => .ok id
      | .unix, _ =>
        .error (.custom .invalidInput "file descriptor did not correspond to a Unix socket")
      | .tls, .inet _ => .ok id
      | .tls, _ => .error (.custom .invalidInput "invalid argument")
      | .vsock, _ => .error (.custom .unsupported "vsock listeners can't be inherited")

variable [Platform]

/-- A listener of a kind from an adopted descriptor, which is closed if it does not serve. -/
def listener (k : Kind) (fd : Int) (d : Descriptor) (b : Bundle) (h : Host) :
    Except EndpointError Listener × Host :=
  match socketOf k d h with
  | .error e => (.error (.activation
      ("Descriptor " ++ toString fd ++ " is not a " ++ k.name ++ " listener: " ++ e.message)),
      h.closeDescriptor fd)
  | .ok id =>
    match b.acceptorFor k with
    | .error e => (.error e, h.closeDescriptor fd)
    | .ok tls => (.ok ⟨k, id, none, some fd, tls, .inherited⟩, h)

/-- The listeners of `left` more descriptors from place `place` on, behind those already made, which
are closed when a later descriptor does not serve. -/
def resolve (total : Nat) (first : Int) (b : Bundle) (left place : Nat) (made : List Listener)
    (h : Host) : Except EndpointError (List Listener) × Host :=
  match left with
  | 0 => (.ok made, h)
  | left + 1 =>
    let fd := first + place
    if largest < place ∨ largest < fd then
      (.error (.activation ("Too many descriptors: " ++ toString total)), h.dropAll made)
    else match adopt fd h with
      | .error e => (.error e, h.dropAll made)
      | .ok (d, h) =>
        match order[place]? with
        | none => resolve total first b left (place + 1) made (h.closeDescriptor fd)
        | some k =>
          match listener k fd d b h with
          | (.error e, h) => (.error e, h.dropAll made)
          | (.ok l, h) => resolve total first b left (place + 1) (made ++ [l]) h

end Inheritance

/-- The listeners of `count` descriptors from number `first` on. -/
def Host.inherit [Platform] (h : Host) (count : Nat) (first : Int) (b : Bundle) :
    Except EndpointError (List Listener) × Host :=
  Inheritance.resolve count first b count 0 [] h

end Portkeeper
