/-!
Unsigned decimal numerals: `Numeral.read limit` accepts an optional plus sign and one or more digits
whose value is at most `limit`, and names the first thing wrong with any other text.
-/

set_option autoImplicit false

namespace Portkeeper.Text

/-- The value of a digit in a radix of at most sixteen. -/
def digit? (radix : Nat) (c : Char) : Option Nat :=
  let n := c.toNat
  let v := if '0' ≤ c ∧ c ≤ '9' then n - 48
    else if 'a' ≤ c ∧ c ≤ 'f' then n - 87
    else if 'A' ≤ c ∧ c ≤ 'F' then n - 55
    else radix
  if v < radix then some v else none

def isDigit (radix : Nat) (c : Char) : Bool := (digit? radix c).isSome

/-- The number that digits, most significant first, denote in a radix. -/
def ofDigits (radix : Nat) (cs : List Char) : Nat :=
  cs.foldl (fun n c => n * radix + (digit? radix c).getD 0) 0

/-- Why a text is not an unsigned numeral. -/
inductive NumeralError where
  | empty
  | invalidDigit
  | tooLarge
  deriving DecidableEq, Repr

def NumeralError.message : NumeralError → String
  | .empty => "cannot parse integer from empty string"
  | .invalidDigit => "invalid digit found in string"
  | .tooLarge => "number too large to fit in target type"

namespace Numeral

/-- The digits are read from the left: a character that is no digit is noticed before the overflow
that reading on would bring. -/
def readDigits (limit : Nat) : Nat → List Char → Except NumeralError Nat
  | n, [] => .ok n
  | n, c :: cs =>
    match digit? 10 c with
    | none => .error .invalidDigit
    | some d => if n * 10 + d ≤ limit then readDigits limit (n * 10 + d) cs else .error .tooLarge

/-- Read a numeral of value at most `limit`. -/
def read (limit : Nat) : List Char → Except NumeralError Nat
  | [] => .error .empty
  | ['+'] => .error .invalidDigit
  | '+' :: cs => readDigits limit 0 cs
  | cs => readDigits limit 0 cs

def max16 : Nat := 65535
def max32 : Nat := 4294967295
def max64 : Nat := 18446744073709551615

end Numeral

/-- The plain decimal text of a number. -/
def decimal (n : Nat) : List Char := Nat.toDigits 10 n

/-- The lower-case hexadecimal text of a number. -/
def hexadecimal (n : Nat) : List Char := Nat.toDigits 16 n

/-- Two hexadecimal digits to a byte; `none` when the text is anything else. -/
def bytesOfHex? : List Char → Option (List UInt8)
  | [] => some []
  | [_] => none
  | a :: b :: cs => do
    let hi ← digit? 16 a
    let lo ← digit? 16 b
    return UInt8.ofNat (hi * 16 + lo) :: (← bytesOfHex? cs)

end Portkeeper.Text
