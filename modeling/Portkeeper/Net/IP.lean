import Portkeeper.Text.Cut
import Portkeeper.Text.Numeral

/-!
IP addresses and IP socket addresses, with the one text form in which each is written and the text
forms in which it is read. IPv6 text is compressed at its first longest run of two or more zero
groups, and an IPv4-mapped address keeps its dotted part.
-/

set_option autoImplicit false

namespace Portkeeper.Net
open Text

/-- A reader takes a value off the front of a text and returns what follows it. -/
abbrev Reader (α : Type) := List Char → Option (α × List Char)

/-- A value that takes up the whole text. -/
def Reader.whole? {α : Type} (r : Reader α) (cs : List Char) : Option α :=
  match r cs with
  | some (x, []) => some x
  | _ => none

def expect (c : Char) : List Char → Option (List Char)
  | d :: cs => if d = c then some cs else none
  | [] => none

/-- A number of at most `width` digits (any number of them when `none`) and of value at most
`limit`; `zeros` says whether further digits may follow a leading zero. -/
def readNumber (radix : Nat) (width : Option Nat) (zeros : Bool) (limit : Nat) : Reader Nat :=
  fun cs =>
    let ds := cs.takeWhile (isDigit radix)
    if ds = [] ∨ width.any (· < ds.length) ∨ (zeros = false ∧ ds.head? = some '0' ∧ 1 < ds.length) ∨
        limit < ofDigits radix ds then none
    else some (ofDigits radix ds, cs.dropWhile (isDigit radix))

structure IPv4 where
  a : UInt8
  b : UInt8
  c : UInt8
  d : UInt8
  deriving DecidableEq, Repr, Inhabited

namespace IPv4

def octets (v : IPv4) : List UInt8 := [v.a, v.b, v.c, v.d]

/-- Dotted decimal. -/
def text (v : IPv4) : List Char :=
  decimal v.a.toNat ++ '.' :: decimal v.b.toNat ++ '.' :: decimal v.c.toNat ++ '.' ::
    decimal v.d.toNat

/-- An octet has one to three digits and no needless leading zero. -/
def readOctet : Reader UInt8 := fun cs =>
  (readNumber 10 (some 3) false 255 cs).map fun (n, r) => (UInt8.ofNat n, r)

def read : Reader IPv4 := fun cs => do
  let (a, cs) ← readOctet cs
  let cs ← expect '.' cs
  let (b, cs) ← readOctet cs
  let cs ← expect '.' cs
  let (c, cs) ← readOctet cs
  let cs ← expect '.' cs
  let (d, cs) ← readOctet cs
  return (⟨a, b, c, d⟩, cs)

def unspecified : IPv4 := ⟨0, 0, 0, 0⟩

end IPv4

/-- Eight groups of sixteen bits. -/
structure IPv6 where
  groups : List UInt16
  length_eq : groups.length = 8 := by rfl
  deriving DecidableEq, Repr

namespace IPv6

def unspecified : IPv6 := { groups := [0, 0, 0, 0, 0, 0, 0, 0] }

/-- An address that means something on one link only. -/
def isLinkLocal (v : IPv6) : Bool :=
  match v.groups with
  | g :: _ => 0xfe80 ≤ g && g < 0xfec0
  | [] => false

/-- Two octets as one group. -/
def pair (hi lo : UInt8) : UInt16 := UInt16.ofNat (hi.toNat * 256 + lo.toNat)

/-- The two groups that hold an IPv4 address. -/
def groupsOf (v : IPv4) : List UInt16 := [pair v.a v.b, pair v.c v.d]

/-- The IPv4-mapped address. -/
def mapped (v : IPv4) : IPv6 :=
  { groups := [0, 0, 0, 0, 0, 0xffff, pair v.a v.b, pair v.c v.d] }

def hiByte (g : UInt16) : UInt8 := UInt8.ofNat (g.toNat / 256)
def loByte (g : UInt16) : UInt8 := UInt8.ofNat (g.toNat % 256)

/-- The IPv4 address inside an IPv4-mapped one. -/
def unmapped? (v : IPv6) : Option IPv4 :=
  match v.groups with
  | [0, 0, 0, 0, 0, 0xffff, g, h] => some ⟨hiByte g, loByte g, hiByte h, loByte h⟩
  | _ => none

/-- Start and length of the first longest run of zero groups. -/
def zeroRun : List UInt16 → Nat × Nat
  | [] => (0, 0)
  | g :: gs =>
    let here := ((g :: gs).takeWhile (· == 0)).length
    let (start, length) := zeroRun gs
    if here = 0 ∨ here < length then (start + 1, length) else (0, here)

/-- Groups in hexadecimal, divided by colons. -/
def groupText : List UInt16 → List Char
  | [] => []
  | [g] => hexadecimal g.toNat
  | g :: h :: gs => hexadecimal g.toNat ++ ':' :: groupText (h :: gs)

def text (v : IPv6) : List Char :=
  match v.unmapped? with
  | some w => "::ffff:".toList ++ w.text
  | none =>
    let (start, length) := zeroRun v.groups
    if length ≤ 1 then groupText v.groups
    else groupText (v.groups.take start) ++ ':' :: ':' :: groupText (v.groups.drop (start + length))

/-- The colon that stands before every group but the first. -/
def separator (first : Bool) (cs : List Char) : Option (List Char) :=
  if first then some cs else expect ':' cs

/-- A group has one to four hexadecimal digits. -/
def readGroup : Reader UInt16 := fun cs =>
  (readNumber 16 (some 4) true 65535 cs).map fun (n, r) => (UInt16.ofNat n, r)

/-- Groups divided by colons, at most `room` of them; a dotted IPv4 address counts for two and ends
them. The flag says whether it did. -/
def readGroups : (room : Nat) → (first : Bool) → List Char → List UInt16 × Bool × List Char
  | 0, _, cs => ([], false, cs)
  | room + 1, first, cs =>
    match (if room = 0 then none else separator first cs >>= IPv4.read) with
    | some (v, r) => (groupsOf v, true, r)
    | none =>
      match separator first cs >>= readGroup with
      | none => ([], false, cs)
      | some (g, r) =>
        let (gs, dotted, r) := readGroups room false r
        (g :: gs, dotted, r)

/-- Eight groups, when the two parts leave room for the zeros between them. -/
def join? (head tail : List UInt16) : Option IPv6 :=
  let gs := head ++ List.replicate (8 - head.length - tail.length) 0 ++ tail
  if h : gs.length = 8 then some ⟨gs, h⟩ else none

/-- Either eight groups, or fewer on the two sides of a double colon that stands for one or more
zero groups. A dotted part may not stand before the double colon. -/
def read : Reader IPv6 := fun cs =>
  let (head, dotted, r) := readGroups 8 true cs
  if head.length = 8 then (join? head []).map (·, r)
  else if dotted then none
  else do
    let r ← expect ':' r
    let r ← expect ':' r
    let (tail, _, r) := readGroups (7 - head.length) true r
    return (← join? head tail, r)

end IPv6

/-- An address of either version. -/
inductive IP where
  | v4 (v : IPv4)
  | v6 (v : IPv6)
  deriving DecidableEq, Repr

namespace IP

def text : IP → List Char
  | .v4 v => v.text
  | .v6 v => v.text

/-- The address that a whole text denotes. -/
def ofText? (cs : List Char) : Option IP :=
  match IPv4.read.whole? cs with
  | some v => some (.v4 v)
  | none => (IPv6.read.whole? cs).map .v6

/-- Four octets make an IPv4 address, sixteen an IPv6 one. -/
def ofOctets? : List UInt8 → Option IP
  | [a, b, c, d] => some (.v4 ⟨a, b, c, d⟩)
  | [a, b, c, d, e, f, g, h, i, j, k, l, m, n, o, p] =>
    some (.v6 { groups := [IPv6.pair a b, IPv6.pair c d, IPv6.pair e f, IPv6.pair g h,
      IPv6.pair i j, IPv6.pair k l, IPv6.pair m n, IPv6.pair o p] })
  | _ => none

end IP

/-- An IP address with a port; an IPv6 one may carry a scope. -/
inductive SocketAddress where
  | v4 (ip : IPv4) (port : UInt16)
  | v6 (ip : IPv6) (port : UInt16) (scope : UInt32)
  deriving DecidableEq, Repr

namespace SocketAddress

def ofIP (port : UInt16) : IP → SocketAddress
  | .v4 v => .v4 v port
  | .v6 v => .v6 v port 0

def ip : SocketAddress → IP
  | .v4 v _ => .v4 v
  | .v6 v _ _ => .v6 v

def port : SocketAddress → UInt16
  | .v4 _ p => p
  | .v6 _ p _ => p

def withPort (p : UInt16) : SocketAddress → SocketAddress
  | .v4 v _ => .v4 v p
  | .v6 v _ s => .v6 v p s

/-- The address that the system makes of one: no scope counts but that of a link-local address. -/
def effective : SocketAddress → SocketAddress
  | .v4 v p => .v4 v p
  | .v6 v p s => .v6 v p (if v.isLinkLocal then s else 0)

/-- The scope is written only when it is not zero. -/
def scopeText (scope : UInt32) : List Char :=
  if scope = 0 then [] else '%' :: decimal scope.toNat

def text : SocketAddress → List Char
  | .v4 v p => v.text ++ ':' :: decimal p.toNat
  | .v6 v p s => '[' :: v.text ++ scopeText s ++ ']' :: ':' :: decimal p.toNat

/-- A colon and a port in digits, with any leading zeros. -/
def readPort : Reader UInt16 := fun cs => do
  let cs ← expect ':' cs
  let (n, r) ← readNumber 10 none true Numeral.max16 cs
  return (UInt16.ofNat n, r)

/-- A percent sign and a scope in digits; zero when there is none. -/
def readScope (cs : List Char) : UInt32 × List Char :=
  match expect '%' cs >>= readNumber 10 none true Numeral.max32 with
  | some (n, r) => (UInt32.ofNat n, r)
  | none => (0, cs)

def read4 : Reader SocketAddress := fun cs => do
  let (v, cs) ← IPv4.read cs
  let (p, cs) ← readPort cs
  return (.v4 v p, cs)

def read6 : Reader SocketAddress := fun cs => do
  let cs ← expect '[' cs
  let (v, cs) ← IPv6.read cs
  let (s, cs) := readScope cs
  let cs ← expect ']' cs
  let (p, cs) ← readPort cs
  return (.v6 v p s, cs)

/-- The socket address that a whole text denotes. -/
def ofText? (cs : List Char) : Option SocketAddress :=
  match Reader.whole? read4 cs with
  | some a => some a
  | none => Reader.whole? read6 cs

end SocketAddress

/-- A vsock address: context identifier and port. -/
structure Vsock where
  cid : UInt32
  port : UInt32
  deriving DecidableEq, Repr, Inhabited

namespace Vsock

/-- The context identifier that stands for every one of the host. -/
def anyCid : UInt32 := 4294967295
def localCid : UInt32 := 1
def hostCid : UInt32 := 2
/-- The port that asks the system to pick one. -/
def anyPort : UInt32 := 4294967295

def text (v : Vsock) : List Char := decimal v.cid.toNat ++ ':' :: decimal v.port.toNat

end Vsock

end Portkeeper.Net
