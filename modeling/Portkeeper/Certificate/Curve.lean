/-!
The curve P-256: the points of y² = x³ - 3x + b over a prime field, and their multiples. It serves
to check that the two halves of a key pair belong together.
-/

set_option autoImplicit false

namespace Portkeeper.Curve

def fieldOrder : Nat := 0xffffffff00000001000000000000000000000000ffffffffffffffffffffffff
def groupOrder : Nat := 0xffffffff00000000ffffffffffffffffbce6faada7179e84f3b9cac2fc632551

def generatorX : Nat := 0x6b17d1f2e12c4247f8bce6e563a440f277037d812deb33a0f4a13945d898c296
def generatorY : Nat := 0x4fe342e2fe1a7f9b8ee7eb4a7c0f9e162bce33576b315ececbb6406837bf51f5

def add (a b : Nat) : Nat := (a + b) % fieldOrder
def sub (a b : Nat) : Nat := (a + fieldOrder - b) % fieldOrder
def mul (a b : Nat) : Nat := a * b % fieldOrder

/-- A power in the field, by as many squarings as there is fuel. -/
def power : Nat → Nat → Nat → Nat
  | 0, _, _ => 1
  | fuel + 1, a, e =>
    if e = 0 then 1
    else
      let half := power fuel (mul a a) (e / 2)
      if e % 2 = 1 then mul a half else half

/-- The inverse of a field element that is not zero. -/
def inverse (a : Nat) : Nat := power 256 a (fieldOrder - 2)

/-- A point in projective form: (x / z², y / z³), or the point at infinity when z is zero. -/
structure Point where
  x : Nat
  y : Nat
  z : Nat
  deriving DecidableEq, Repr

def infinity : Point := ⟨1, 1, 0⟩
def generator : Point := ⟨generatorX, generatorY, 1⟩

def Point.double (p : Point) : Point :=
  if p.z = 0 ∨ p.y = 0 then infinity
  else
    let yy := mul p.y p.y
    let s := mul 4 (mul p.x yy)
    let zz := mul p.z p.z
    let m := mul 3 (mul (sub p.x zz) (add p.x zz))
    let x := sub (mul m m) (mul 2 s)
    ⟨x, sub (mul m (sub s x)) (mul 8 (mul yy yy)), mul 2 (mul p.y p.z)⟩

def Point.plus (p q : Point) : Point :=
  if p.z = 0 then q
  else if q.z = 0 then p
  else
    let pz := mul p.z p.z
    let qz := mul q.z q.z
    let u := mul p.x qz
    let v := mul q.x pz
    let s := mul p.y (mul q.z qz)
    let t := mul q.y (mul p.z pz)
    if u = v then if s = t then p.double else infinity
    else
      let h := sub v u
      let r := sub t s
      let hh := mul h h
      let hhh := mul h hh
      let w := mul u hh
      let x := sub (sub (mul r r) hhh) (mul 2 w)
      ⟨x, sub (mul r (sub w x)) (mul s hhh), mul h (mul p.z q.z)⟩

/-- A multiple of a point, by as many doublings as there is fuel. -/
def Point.times : Nat → Nat → Point → Point
  | 0, _, _ => infinity
  | fuel + 1, k, p =>
    if k = 0 then infinity
    else
      let rest := times fuel (k / 2) p.double
      if k % 2 = 1 then p.plus rest else rest

/-- The coordinates of a point, unless it is at infinity. -/
def Point.coordinates? (p : Point) : Option (Nat × Nat) :=
  if p.z = 0 then none
  else
    let i := inverse p.z
    let ii := mul i i
    some (mul p.x ii, mul p.y (mul i ii))

/-- The public point of a secret, which lies between zero and the order of the group. -/
def publicPoint? (secret : Nat) : Option (Nat × Nat) :=
  if 0 < secret ∧ secret < groupOrder then (Point.times 256 secret generator).coordinates? else none

end Portkeeper.Curve
