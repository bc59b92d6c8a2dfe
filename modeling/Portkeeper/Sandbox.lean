import Portkeeper.Certificate.PrivateKey
import Portkeeper.Certificate.Usable
import Portkeeper.Net.Lookup

/-!
A platform that is closed off and small. The names of its hosts are addresses in their usual form, IPv4
addresses in the old forms with fewer or other numerals, and the one name that every host has. Of IPv6
only the wildcard can be bound, of vsock only the identifier that stands for all, and low ports never.
Keys are on the curve P-256.
-/

set_option autoImplicit false

namespace Portkeeper

/-- Why no connection to an IP address can be made from a host whose loopback interface is not up. -/
def Host.connectError : Net.IP → Nat
  | .v4 _ => ErrorNumber.networkUnreachable
  | .v6 v => if v.unmapped?.isSome then ErrorNumber.networkUnreachable
    else ErrorNumber.addressNotAvailable

end Portkeeper

namespace Portkeeper.Sandbox
open Net Text

/-! ### Names of hosts -/

/-- A numeral in the base that its start shows: sixteen after `0x`, eight after another zero. -/
def readOldNumber (cs : List Char) : Option (Nat × List Char) :=
  match cs with
  | '0' :: x :: r =>
    if x = 'x' ∨ x = 'X' then readNumber 16 none true Numeral.max32 r
    else readNumber 8 none true Numeral.max32 cs
  | _ => readNumber 10 none true Numeral.max32 cs

/-- Numerals divided by points, at most `room` of them. -/
def readOldNumbers : (room : Nat) → List Char → Option (List Nat)
  | 0, _ => none
  | room + 1, cs =>
    match readOldNumber cs with
    | none => none
    | some (n, []) => some [n]
    | some (n, '.' :: r) => (readOldNumbers room r).map (n :: ·)
    | some _ => none

/-- An IPv4 address of one to four numerals: each but the last is an octet, the last fills the rest.
-/
def readOldIPv4 (cs : List Char) : Option IPv4 :=
  match readOldNumbers 4 cs with
  | none => none
  | some ns =>
    let octets := ns.dropLast
    let last := ns.getLast?.getD 0
    let width := 4 - octets.length
    if octets.all (· < 256) ∧ last < Nat.pow 256 width then
      let n := octets.foldl (fun v o => v * 256 + o) 0 * Nat.pow 256 width + last
      some ⟨UInt8.ofNat (n >>> 24), UInt8.ofNat (n >>> 16), UInt8.ofNat (n >>> 8), UInt8.ofNat n⟩
    else none

def unknownName : IoError :=
  .custom .uncategorized "failed to lookup address information: Name or service not known"

/-- The address of a host by name. -/
def lookup (host : List Char) : Except IoError IP :=
  match IP.ofText? host with
  | some ip => .ok ip
  | none =>
    match readOldIPv4 host with
    | some v => .ok (.v4 v)
    | none =>
      if host.map Char.toLower = "localhost".toList then .ok (.v4 ⟨127, 0, 0, 1⟩)
      else .error unknownName

/-! ### Addresses and ports -/

/-- Ports below this one are not for everyone. -/
def privileged : Nat := 1024

/-- Every IPv4 address can be bound, also in its mapped form, and of the other IPv6 addresses only the
wildcard. -/
def bars? (a : SocketAddress) : Option Nat :=
  if 0 < a.port.toNat ∧ a.port.toNat < privileged then some ErrorNumber.accessDenied
  else match a with
    | .v4 _ _ => none
    | .v6 v _ scope =>
      if v = .unspecified ∨ v.unmapped?.isSome then none
      else if v.isLinkLocal then
        some (if scope = 0 then ErrorNumber.invalidArgument else ErrorNumber.noDevice)
      else some ErrorNumber.addressNotAvailable

def vsockBars? (v : Vsock) : Option Nat :=
  if v.cid ≠ Vsock.anyCid then some ErrorNumber.addressNotAvailable
  else if v.port.toNat < privileged then some ErrorNumber.accessDenied
  else none

/-- The first port that is handed out, and how many there are. -/
def firstPick : Nat := 32768
def pickCount : Nat := 28232

/-- All of them in turn, from the first one after those handed out before. -/
def ports (picked : Nat) : List UInt16 :=
  (List.range pickCount).map fun i => UInt16.ofNat (firstPick + (picked + i) % pickCount)

/-- Vsock ports are handed out too, apart from the largest, which asks for one. -/
def vsockPickCount : Nat := 4294966271

/-- How many vsock ports are tried. -/
def vsockTries : Nat := 24

def vsockPorts (picked : Nat) : List UInt32 :=
  (List.range vsockTries).map fun i => UInt32.ofNat (privileged + (picked + i) % vsockPickCount)

/-! ### Keys -/

def readKey (key : Section) : Except String (Option (List UInt8)) :=
  match KeyPair.ofSection? key with
  | some pair => .ok (some pair.publicKey)
  | none => .error "unexpected error: failed to parse private key as RSA, ECDSA, or EdDSA"

instance : Platform where
  lookup _ host := (lookup host).map fun ip => [.ofIP 0 ip]
  bars? _ := bars?
  vsockBars? _ := vsockBars?
  ports picked _ := ports picked
  vsockPorts picked _ := vsockPorts picked
  unreachable a := Host.connectError a.ip
  vsockUnreachable _ := ErrorNumber.noDevice
  readKey := readKey
  readCertificate c := (Usable.publicKey c).mapError (·.message)
  checkRoot c := (Usable.checkRoot c).mapError (·.message)

end Portkeeper.Sandbox

namespace Portkeeper.Net

/-- The first address behind a text. In the sandbox there is no other. -/
def resolve (cs : List Char) : Except IoError SocketAddress := do
  match ← addresses 0 cs with
  | [] => .error noAddress
  | a :: _ => .ok a

end Portkeeper.Net
