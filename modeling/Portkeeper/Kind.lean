import Portkeeper.Address.Listen
import Portkeeper.Text.Blank

/-!
The seven kinds of endpoint, their transports, default ports and client policies, and the canonical
listen address of each.
-/

set_option autoImplicit false

namespace Portkeeper
open Text

inductive Transport where
  | unix
  | tls
  | vsock
  deriving DecidableEq, Repr

def Transport.name : Transport → String
  | .unix => "unix"
  | .tls => "tls"
  | .vsock => "vsock"

/-- What a TLS listener asks of its clients: no certificate, one that is verified if presented, or
one without which the handshake fails. -/
inductive ClientAuth where
  | none
  | optional
  | required
  deriving DecidableEq, Repr

def ClientAuth.name : ClientAuth → String
  | .none => "none"
  | .optional => "optional"
  | .required => "required"

/-- The roles in which the daemon listens, in their fixed order. -/
inductive Kind where
  | localAdmin
  | networkAdmin
  | guestAgent
  | metrics
  | storageObjects
  | cluster
  | vmConsole
  deriving DecidableEq, Repr, Inhabited

namespace Kind

def all : List Kind :=
  [.localAdmin, .networkAdmin, .guestAgent, .metrics, .storageObjects, .cluster, .vmConsole]

theorem mem_all (k : Kind) : k ∈ all := by cases k <;> decide

/-- The place of a kind in the order of kinds. -/
def rank : Kind → Nat
  | .localAdmin => 0
  | .networkAdmin => 1
  | .guestAgent => 2
  | .metrics => 3
  | .storageObjects => 4
  | .cluster => 5
  | .vmConsole => 6

theorem rank_injective {a b : Kind} (h : a.rank = b.rank) : a = b := by
  cases a <;> cases b <;> simp_all [rank]

def name : Kind → String
  | .localAdmin => "local-admin"
  | .networkAdmin => "network-admin"
  | .guestAgent => "guest-agent"
  | .metrics => "metrics"
  | .storageObjects => "storage-objects"
  | .cluster => "cluster"
  | .vmConsole => "vm-console"

/-- The bare identifier of a kind, as diagnostic output shows it. -/
def identifier : Kind → String
  | .localAdmin => "LocalAdmin"
  | .networkAdmin => "NetworkAdmin"
  | .guestAgent => "GuestAgent"
  | .metrics => "Metrics"
  | .storageObjects => "StorageObjects"
  | .cluster => "Cluster"
  | .vmConsole => "VmConsole"

def ofName? (s : String) : Option Kind := all.find? (·.name == s)

/-- The complaint about a text that names no kind. -/
def unknownName : String := "Matching variant not found"

def transport : Kind → Transport
  | .localAdmin | .guestAgent => .unix
  | .networkAdmin | .metrics | .storageObjects | .cluster => .tls
  | .vmConsole => .vsock

def defaultPort? : Kind → Option UInt16
  | .localAdmin | .guestAgent => none
  | .networkAdmin | .cluster | .vmConsole => some 8443
  | .metrics => some 9100
  | .storageObjects => some 9000

def clientAuth : Kind → ClientAuth
  | .networkAdmin | .cluster => .required
  | .metrics => .optional
  | .localAdmin | .guestAgent | .storageObjects | .vmConsole => .none

/-- Kinds whose address is configured, and can be changed while the daemon runs. -/
def isNetwork (k : Kind) : Bool := k.transport != .unix

/-- The canonical listen address of a kind, on characters: white space at the ends is dropped, and
what is then empty stays empty. -/
def canonicalText (k : Kind) (cs : List Char) : Except AddressError (List Char) :=
  let cs := trim cs
  let port := k.defaultPort?.getD 0
  if cs = [] then .ok []
  else match k.transport with
    | .unix => .ok cs
    | .tls => Listen.network port cs
    | .vsock => Listen.vsockText port.toUInt32 cs

/-- The canonical listen address of a kind. -/
def canonicalAddress (k : Kind) (address : String) : Except AddressError String :=
  (k.canonicalText address.toList).map String.ofList

/-- The name filled up with blanks to a width of sixteen. -/
def padded (k : Kind) : String := k.name ++ String.ofList (List.replicate (16 - k.name.length) ' ')

end Kind
end Portkeeper
