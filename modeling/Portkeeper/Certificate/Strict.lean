import Portkeeper.Certificate.Der

/-!
The distinguished encoding as it is read for certificates and keys in use: every tag takes one byte,
every length the fewest bytes, and no content has bytes left over.
-/

set_option autoImplicit false

namespace Portkeeper.Der

/-- A length in the fewest bytes, of which there are at most `most` after the first. -/
def readShortestLength (most : Nat) : Read Nat
  | [] => none
  | b :: bs =>
    let n := b.toNat
    if n < 128 then some (n, bs)
    else
      let k := n - 128
      if k = 0 ∨ most < k ∨ bs.length < k then none
      else
        let v := ofBytes (bs.take k)
        if (if k = 1 then 128 else Nat.pow 256 (k - 1)) ≤ v then some (v, bs.drop k) else none

/-- The content of an element whose first byte is given. -/
def take (tag : UInt8) : Read (List UInt8)
  | [] => none
  | b :: bs =>
    if b = tag then
      match readShortestLength 2 bs with
      | none => none
      | some (n, r) => if r.length < n ∨ 65535 ≤ n then none else some (r.take n, r.drop n)
    else none

def sequenceTag : UInt8 := 0x30
def integerTag : UInt8 := 0x02
def booleanTag : UInt8 := 0x01
def octetsTag : UInt8 := 0x04
def bitsTag : UInt8 := 0x03
def oidTag : UInt8 := 0x06

/-- The tag of a constructed element that takes its meaning from its place. -/
def placeTag (number : Nat) : UInt8 := 0xA0 + UInt8.ofNat number

/-- The content of an element with nothing after it. -/
def takeAll (tag : UInt8) (bs : List UInt8) : Option (List UInt8) :=
  match take tag bs with
  | some (c, []) => some c
  | _ => none

/-- An element may be absent; if it is there, it must be sound. -/
def takeOptional (tag : UInt8) (bs : List UInt8) : Option (Option (List UInt8) × List UInt8) :=
  match bs with
  | b :: _ => if b = tag then (take tag bs).map fun (c, r) => (some c, r) else some (none, bs)
  | [] => some (none, [])

/-- The bytes of a bit string without unused bits. -/
def takeBits : Read (List UInt8) := fun bs => do
  match ← take bitsTag bs with
  | (0 :: c, r) => some (c, r)
  | _ => none

/-- A number that fits seven bits. -/
def takeDigit : Read Nat := fun bs => do
  match ← take integerTag bs with
  | ([b], r) => if b.toNat < 128 then some (b.toNat, r) else none
  | _ => none

/-- An element with the given first byte around a content. -/
def wrap (tag : UInt8) (content : List UInt8) : List UInt8 :=
  let n := content.length
  if n < 128 then tag :: UInt8.ofNat n :: content
  else if n < 256 then tag :: 0x81 :: UInt8.ofNat n :: content
  else tag :: 0x82 :: UInt8.ofNat (n / 256) :: UInt8.ofNat n :: content

end Portkeeper.Der
