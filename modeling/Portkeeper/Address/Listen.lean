import Portkeeper.Address.Error
import Portkeeper.Net.IP

/-!
Listen addresses in canonical form: the form that always carries an explicit port, brackets IPv6
addresses, and writes every number plainly.
-/

set_option autoImplicit false

namespace Portkeeper.Listen
open Text Net

/-- A character of a host name: an ASCII letter or digit, a hyphen or a point. -/
def isHostChar (c : Char) : Bool := c.isAlphanum || c == '-' || c == '.'

/-- A host name has at least one character, each of them a letter, a digit, a hyphen or a point. -/
def isHostName (cs : List Char) : Bool := !cs.isEmpty && cs.all isHostChar

/-- A host name with a port, unless the name is malformed. -/
def named (host : List Char) (port : Nat) : Except AddressError (List Char) :=
  if isHostName host then .ok (host ++ ':' :: decimal port) else .error (.hostName host)

/-- The text between square brackets. -/
def unbracket? (cs : List Char) : Option (List Char) :=
  stripStart? ['['] cs >>= stripEnd? [']']

/-- A text that no IP syntax fits is cut at its last colon. An empty host means all interfaces; a
text without a colon is a host name that takes the default port. -/
def hostPort (defaultPort : UInt16) (cs : List Char) : Except AddressError (List Char) :=
  match cutLast ':' cs with
  | none => named cs defaultPort.toNat
  | some (host, port) =>
    match Numeral.read Numeral.max16 port with
    | .error e => .error (.port cs e)
    | .ok n =>
      if host = [] then .ok (SocketAddress.v6 .unspecified (UInt16.ofNat n) 0).text
      else named host n

/-- The canonical form of a network listen address. An IP address, bare or in brackets, and a host
name without a port take the default port. -/
def network (defaultPort : UInt16) (cs : List Char) : Except AddressError (List Char) :=
  match IP.ofText? cs with
  | some ip => .ok (SocketAddress.ofIP defaultPort ip).text
  | none =>
    match unbracket? cs with
    | some inner =>
      match IPv6.read.whole? inner with
      | some v => .ok (SocketAddress.v6 v defaultPort 0).text
      | none => .error (.ipv6 cs)
    | none =>
      match SocketAddress.ofText? cs with
      | some a => .ok a.text
      | none => hostPort defaultPort cs

/-- A context identifier: one of three names, or a number. -/
def cid (cs : List Char) : Except NumeralError UInt32 :=
  if cs = "any".toList then .ok Vsock.anyCid
  else if cs = "local".toList then .ok Vsock.localCid
  else if cs = "host".toList then .ok Vsock.hostCid
  else (Numeral.read Numeral.max32 cs).map UInt32.ofNat

/-- A context identifier, then perhaps a colon and a port; a fault of the port is reported first. -/
def vsock (defaultPort : UInt32) (cs : List Char) : Except AddressError Vsock :=
  let finish (name : List Char) (port : UInt32) : Except AddressError Vsock :=
    match cid name with
    | .ok c => .ok ⟨c, port⟩
    | .error e => .error (.cid cs e)
  match cutFirst ':' cs with
  | none => finish cs defaultPort
  | some (name, port) =>
    match Numeral.read Numeral.max32 port with
    | .ok n => finish name (UInt32.ofNat n)
    | .error e => .error (.portPart cs e)

/-- The canonical form of a vsock listen address. -/
def vsockText (defaultPort : UInt32) (cs : List Char) : Except AddressError (List Char) :=
  (vsock defaultPort cs).map Vsock.text

end Portkeeper.Listen
