import Portkeeper.Platform

/-!
The socket addresses behind texts: a socket address stands for itself, and the name of a host with a port
for whatever addresses the host has at the time.
-/

set_option autoImplicit false

namespace Portkeeper.Net
open Text

variable [Platform]

/-- No address is behind the name of a host. -/
def noAddress : IoError := .custom .invalidInput "could not resolve to any address"

/-- The addresses of a host by name, with a port. -/
def hostAddresses (time : Nat) (host : List Char) (port : UInt16) :
    Except IoError (List SocketAddress) :=
  (Platform.lookup time host).map fun as => as.map fun a => (a.withPort port).effective

theorem mem_hostAddresses {time : Nat} {host : List Char} {port : UInt16}
    {as : List SocketAddress} {a : SocketAddress} (h : hostAddresses time host port = .ok as)
    (ha : a ∈ as) : ∃ b : SocketAddress, a = (b.withPort port).effective := by
  unfold hostAddresses at h
  cases hl : Platform.lookup time host with
  | error e =>
    rw [hl] at h
    cases h
  | ok bs =>
    rw [hl] at h
    cases h
    obtain ⟨b, -, rfl⟩ := List.mem_map.mp ha
    exact ⟨b, rfl⟩

/-- The socket addresses that the system makes of a text: an IP socket address, or a host and a port
after the last colon. -/
def addresses (time : Nat) (cs : List Char) : Except IoError (List SocketAddress) :=
  match SocketAddress.ofText? cs with
  | some a => .ok [a.effective]
  | none =>
    match cutLast ':' cs with
    | none => .error (.custom .invalidInput "invalid socket address")
    | some (host, port) =>
      match Numeral.read Numeral.max16 port with
      | .error _ => .error (.custom .invalidInput "invalid port value")
      | .ok n => hostAddresses time host (UInt16.ofNat n)

/-- An address is behind a text, at some time at least. -/
def SocketAddress.Behind (a : SocketAddress) (cs : List Char) : Prop :=
  ∃ time as, addresses time cs = .ok as ∧ a ∈ as

/-- Behind a socket address is nothing else, at no time. -/
theorem addresses_of_ofText? {cs : List Char} {a : SocketAddress}
    (h : SocketAddress.ofText? cs = some a) (time : Nat) : addresses time cs = .ok [a.effective] := by
  unfold addresses
  rw [h]

theorem SocketAddress.behind_of_ofText? {cs : List Char} {a b : SocketAddress}
    (h : SocketAddress.ofText? cs = some b) : a.Behind cs ↔ a = b.effective := by
  constructor
  · rintro ⟨time, as, has, ha⟩
    rw [addresses_of_ofText? h] at has
    cases has
    exact List.mem_singleton.mp ha
  · rintro rfl
    exact ⟨0, _, addresses_of_ofText? h 0, List.mem_singleton.mpr rfl⟩

end Portkeeper.Net
