import Portkeeper.Text.Numeral

/-!
The shortest decimal that reads back as a given double: among the decimals inside the interval that
rounds to it, those with the fewest digits, and of these the nearest. `floatText` writes it with a
point when its decimal exponent is between -5 and 15, and with a signed exponent otherwise.
-/

set_option autoImplicit false

namespace Portkeeper.Decimal

/-- A non-negative fraction. -/
structure Ratio where
  num : Nat
  den : Nat
  deriving Repr

namespace Ratio

def le (a b : Ratio) : Bool := a.num * b.den ≤ b.num * a.den
def lt (a b : Ratio) : Bool := a.num * b.den < b.num * a.den

/-- The distance between two fractions. -/
def dist (a b : Ratio) : Ratio :=
  ⟨(a.num * b.den - b.num * a.den) + (b.num * a.den - a.num * b.den), a.den * b.den⟩

/-- `n` times a power of `base`. -/
def scaled (n base : Nat) : Int → Ratio
  | .ofNat k => ⟨n * Nat.pow base k, 1⟩
  | .negSucc k => ⟨n, Nat.pow base (k + 1)⟩

def floor (a : Ratio) : Nat := a.num / a.den

end Ratio

/-- A positive double: `mantissa * 2 ^ exponent`. -/
structure Binary where
  mantissa : Nat
  exponent : Int
  deriving Repr

namespace Binary

/-- The magnitude held in the bits of a finite double. -/
def ofBits (bits : UInt64) : Binary :=
  let fraction : Nat := bits.toNat % Nat.pow 2 52
  let biased : Nat := bits.toNat / Nat.pow 2 52 % Nat.pow 2 11
  if biased = 0 then ⟨fraction, -1074⟩ else ⟨fraction + Nat.pow 2 52, (biased : Int) - 1075⟩

def value (b : Binary) : Ratio := .scaled b.mantissa 2 b.exponent

/-- Half way to the double above. -/
def upper (b : Binary) : Ratio := .scaled (4 * b.mantissa + 2) 2 (b.exponent - 2)

/-- Half way to the double below, which is nearer when the mantissa is the least of its range. -/
def lower (b : Binary) : Ratio :=
  let gap := if b.mantissa = Nat.pow 2 52 ∧ b.exponent ≠ -1074 then 1 else 2
  .scaled (4 * b.mantissa - gap) 2 (b.exponent - 2)

/-- Whether a fraction rounds to the double; a tie goes to the even mantissa. -/
def rounds (b : Binary) (r : Ratio) : Bool :=
  if b.mantissa % 2 = 0 then b.lower.le r && r.le b.upper else b.lower.lt r && r.lt b.upper

end Binary

/-- The exponent of the power of ten at or below a positive fraction. -/
def magnitude (r : Ratio) : Int :=
  if r.den ≤ r.num then ((Text.decimal r.floor).length : Int) - 1
  else match (List.range 400).find? fun k => r.den ≤ r.num * Nat.pow 10 k with
    | some k => -(k : Int)
    | none => 0

/-- The digits of a decimal and the exponent of the first of them. -/
structure Digits where
  digits : List Char
  exponent : Int
  deriving Repr, DecidableEq

/-- The better of the two decimals of `n` digits next to a double, if one of them rounds to it. -/
def nearest? (b : Binary) (n : Nat) : Option (Nat × Int) :=
  let v := b.value
  let place := magnitude v - (n : Int) + 1
  let below := match place with
    | .ofNat k => v.num / (v.den * Nat.pow 10 k)
    | .negSucc k => v.num * Nat.pow 10 (k + 1) / v.den
  let grid (d : Nat) : Ratio := .scaled d 10 place
  let fits (d : Nat) : Bool := b.rounds (grid d)
  match fits below, fits (below + 1) with
  | false, false => none
  | true, false => some (below, place)
  | false, true => some (below + 1, place)
  | true, true =>
    let low := v.dist (grid below)
    let high := v.dist (grid (below + 1))
    if low.lt high || (low.le high && below % 2 == 0) then some (below, place)
    else some (below + 1, place)

/-- The digits without zeros at their end, with the exponent of the first of them. -/
def Digits.ofScaled (d : Nat) (place : Int) : Digits :=
  let cs := Text.decimal d
  ⟨(cs.reverse.dropWhile (· == '0')).reverse, place + (cs.length : Int) - 1⟩

/-- The shortest decimal of a positive double. -/
def shortest (b : Binary) : Digits :=
  match (List.range 17).findSome? fun i => nearest? b (i + 1) with
  | some (d, place) => .ofScaled d place
  | none => ⟨[], 0⟩

/-- Digits with a point in their midst, after zeros, or before a closing zero. -/
def pointText (d : Digits) : List Char :=
  match d.exponent with
  | .negSucc k => '0' :: '.' :: List.replicate k '0' ++ d.digits
  | .ofNat k =>
    let whole := d.digits.take (k + 1)
    let rest := d.digits.drop (k + 1)
    whole ++ List.replicate (k + 1 - whole.length) '0' ++ '.' :: (if rest = [] then ['0'] else rest)

/-- One digit, a point before further ones, and an exponent with its sign. -/
def exponentText (d : Digits) : List Char :=
  let mark := if d.exponent < 0 then '-' else '+'
  let rest := d.digits.drop 1
  d.digits.take 1 ++ (if rest = [] then [] else '.' :: rest) ++
    'e' :: mark :: Text.decimal d.exponent.natAbs

def Digits.text (d : Digits) : List Char :=
  if -5 ≤ d.exponent ∧ d.exponent ≤ 15 then pointText d else exponentText d

/-- The text of a finite double. -/
def floatText (x : Float) : List Char :=
  let bits := x.toBits
  let sign := if Nat.pow 2 63 ≤ bits.toNat then ['-'] else []
  let b := Binary.ofBits bits
  sign ++ if b.mantissa = 0 then ['0', '.', '0'] else (shortest b).text

end Portkeeper.Decimal
