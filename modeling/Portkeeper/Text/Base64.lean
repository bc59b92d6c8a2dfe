/-!
Bytes as base64 text. Blanks and line ends may stand anywhere, padding only at the end; the bits
that padding stands for are not looked at.
-/

set_option autoImplicit false

namespace Portkeeper.Text

inductive Base64Error where
  | invalidCharacter (byte : UInt8)
  | prematurePadding
  | invalidTrailingPadding
  deriving DecidableEq, Repr

def Base64Error.message : Base64Error → String
  | .invalidCharacter b => "InvalidCharacter(" ++ toString b.toNat ++ ")"
  | .prematurePadding => "PrematurePadding"
  | .invalidTrailingPadding => "InvalidTrailingPadding"

namespace Base64

/-- A symbol of the text: six bits, or padding. -/
inductive Symbol where
  | bits (value : Nat)
  | pad
  deriving DecidableEq, Repr

def isBlank (b : UInt8) : Bool := b == 9 || b == 10 || b == 13 || b == 32

def symbol? (b : UInt8) : Option Symbol :=
  let n := b.toNat
  if 65 ≤ n ∧ n ≤ 90 then some (.bits (n - 65))
  else if 97 ≤ n ∧ n ≤ 122 then some (.bits (n - 71))
  else if 48 ≤ n ∧ n ≤ 57 then some (.bits (n + 4))
  else if n = 43 then some (.bits 62)
  else if n = 47 then some (.bits 63)
  else if n = 61 then some .pad
  else none

/-- The symbols before the first byte that is neither a symbol nor blank, and that byte. -/
def symbols : List UInt8 → List Symbol × Option UInt8
  | [] => ([], none)
  | b :: bs =>
    if isBlank b then symbols bs
    else match symbol? b with
      | none => ([], some b)
      | some s => let (ss, stop) := symbols bs; (s :: ss, stop)

def Symbol.value : Symbol → Nat
  | .bits n => n
  | .pad => 0

/-- The three bytes of four symbols. -/
def quad (a b c d : Nat) : List UInt8 :=
  [UInt8.ofNat (a * 4 + b / 16), UInt8.ofNat (b % 16 * 16 + c / 4), UInt8.ofNat (c % 4 * 64 + d)]

/-- The bytes of at most four symbols that end a text: a missing symbol counts as padding. -/
def decodeEnd : List Symbol → Except Base64Error (List UInt8)
  | [] => .ok []
  | [.bits a, .bits b] | [.bits a, .bits b, .pad, .pad] => .ok ((quad a b 0 0).take 1)
  | [.bits a, .bits b, .bits c] | [.bits a, .bits b, .bits c, .pad] => .ok ((quad a b c 0).take 2)
  | [.bits a, .bits b, .bits c, .bits d] => .ok (quad a b c d)
  | _ => .error .invalidTrailingPadding

/-- The bytes of groups of eight symbols that are each followed by another symbol, and what is left
over, at most eight symbols. Padding in such a group comes too early. -/
def decodeGroups : List Symbol → Except Base64Error (List UInt8 × List Symbol)
  | a :: b :: c :: d :: e :: f :: g :: h :: i :: rest =>
    if .pad ∈ [a, b, c, d, e, f, g, h] then .error .prematurePadding
    else (decodeGroups (i :: rest)).map fun (bytes, left) =>
      (quad a.value b.value c.value d.value ++ quad e.value f.value g.value h.value ++ bytes, left)
  | left => .ok ([], left)

/-- The bytes of the last group. -/
def decodeLast (left : List Symbol) : Except Base64Error (List UInt8) :=
  match left with
  | a :: b :: c :: d :: e :: rest =>
    if .pad ∈ [a, b, c, d] then .error .prematurePadding
    else (decodeEnd (e :: rest)).map (quad a.value b.value c.value d.value ++ ·)
  | left => decodeEnd left

/-- The bytes that a text stands for, or the first thing that is wrong with it. -/
def decode (text : List UInt8) : Except Base64Error (List UInt8) :=
  match symbols text with
  | (ss, stop) =>
    match decodeGroups ss, stop with
    | .error e, _ => .error e
    | .ok _, some b => .error (.invalidCharacter b)
    | .ok (bytes, left), none => (decodeLast left).map (bytes ++ ·)

end Base64
end Portkeeper.Text
