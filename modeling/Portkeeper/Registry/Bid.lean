import Portkeeper.Listener

/-!
Bids for an address: attempts to listen there, a fixed time apart, until one succeeds, one fails for
a reason that will not pass, or there have been enough of them.
-/

set_option autoImplicit false

namespace Portkeeper

/-- The most attempts of a bid. -/
def attemptLimit : Nat := 10

/-- The time between two attempts, in milliseconds. -/
def retryDelay : Nat := 100

/-- A bid with its next attempt ahead, after a pause, and `left` more after that. -/
structure Bid where
  kind : Kind
  address : String
  left : Nat
  pause : Nat
  deriving DecidableEq, Repr

namespace Bid

/-- A bid of which no attempt has been made: the first one is made at once. -/
def first (kind : Kind) (address : String) : Bid := ⟨kind, address, attemptLimit - 1, 0⟩

/-- The bid after an attempt that failed for a reason which may pass. -/
def next (b : Bid) : Bid := { b with left := b.left - 1, pause := retryDelay }

variable [Platform]

/-- Wait for the next attempt and make it. The bid goes on, or is decided. -/
def attempt (b : Bid) (bundle : Bundle) (h : Host) :
    (Bid ⊕ Except EndpointError Listener) × Host :=
  match (h.sleep b.pause).listen b.kind b.address bundle with
  | (.ok l, h) => (.inr (.ok l), h)
  | (.error e, h) =>
    if e.isTransient ∧ 0 < b.left then (.inl b.next, h) else (.inr (.error e), h)

/-- A bid from its next attempt to its end, which `left` more attempts reach. -/
def run (bundle : Bundle) : (left : Nat) → Bid → Host → Except EndpointError Listener × Host
  | 0, b, h => (h.sleep b.pause).listen b.kind b.address bundle
  | left + 1, b, h =>
    match b.attempt bundle h with
    | (.inl b, h) => run bundle left b h
    | (.inr r, h) => (r, h)

end Bid

/-- Listen at an address as soon as a bid for it succeeds. -/
def Host.listenRetrying [Platform] (h : Host) (k : Kind) (address : String) (bundle : Bundle) :
    Except EndpointError Listener × Host :=
  let b := Bid.first k address
  b.run bundle b.left h

end Portkeeper
