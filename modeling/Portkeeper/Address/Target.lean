import Portkeeper.Address.Listen

/-!
Addresses a client connects to: a TCP host and port, the path of a unix socket, or a vsock address.
-/

set_option autoImplicit false

namespace Portkeeper
open Text Net

/-- Where a client connects to. The host of a TCP target is kept as text and resolved later. -/
inductive Target where
  | tcp (host : List Char) (port : UInt16)
  | unix (path : List Char)
  | vsock (address : Vsock)
  deriving DecidableEq, Repr

namespace Target

/-- A host that holds a colon is written in brackets. -/
def text : Target → List Char
  | .tcp host port =>
    (if ':' ∈ host then '[' :: host ++ [']'] else host) ++ ':' :: decimal port.toNat
  | .unix path => "unix:".toList ++ path
  | .vsock v => "vsock:".toList ++ v.text

/-- A text that neither names its transport nor is an IP socket address is cut at its last colon. -/
def hostPort (cs : List Char) : Except AddressError Target :=
  match SocketAddress.ofText? cs with
  | some a => .ok (.tcp a.ip.text a.port)
  | none =>
    match cutLast ':' cs with
    | none => .error (.hostPortForm cs)
    | some (host, port) =>
      match Numeral.read Numeral.max16 port with
      | .ok n => .ok (.tcp host (UInt16.ofNat n))
      | .error e => .error (.portPart cs e)

def read (cs : List Char) : Except AddressError Target :=
  match stripStart? "unix:".toList cs with
  | some path => .ok (.unix path)
  | none =>
    if cs.head? = some '/' then .ok (.unix cs)
    else match stripStart? "vsock:".toList cs with
      | none => hostPort cs
      | some v =>
        if ':' ∈ v then (Listen.vsock 0 v).map .vsock else .error (.vsockForm cs)

end Target
end Portkeeper
