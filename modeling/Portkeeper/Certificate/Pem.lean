import Portkeeper.Text.Base64
import Portkeeper.Text.Cut
import Portkeeper.Text.Quoted
import Portkeeper.Text.Utf8

/-!
Armoured texts: sections of base64 between a line that begins them and a line that ends them, each
with a label. Text outside the sections, and sections of unknown labels, are passed over.
-/

set_option autoImplicit false

namespace Portkeeper
open Text

/-- A section of an armoured text, decoded. -/
structure Section where
  label : List UInt8
  content : List UInt8
  deriving DecidableEq, Repr

inductive PemError where
  | missingEnd (label : List UInt8)
  | illegalStart (line : List UInt8)
  | base64 (error : Base64Error)
  deriving DecidableEq, Repr

def PemError.message : PemError → String
  | .missingEnd label => "section end " ++ quoted (lossyString label) ++ " missing"
  | .illegalStart line => "illegal section start: " ++ quoted (lossyString line)
  | .base64 e => e.message

namespace Pem

def certificateLabel : List UInt8 := utf8Bytes "CERTIFICATE"

/-- The labels of private keys. -/
def keyLabels : List (List UInt8) :=
  ["RSA PRIVATE KEY", "PRIVATE KEY", "EC PRIVATE KEY"].map utf8Bytes

/-- The labels of sections that are decoded. -/
def labels : List (List UInt8) :=
  certificateLabel :: keyLabels ++
    ["PUBLIC KEY", "X509 CRL", "CERTIFICATE REQUEST", "ECHCONFIG"].map utf8Bytes

/-- The lines of a text, each with its end: a line feed or a carriage return. -/
def lines : List UInt8 → List (List UInt8)
  | [] => []
  | b :: bs =>
    if b = 10 ∨ b = 13 then [b] :: lines bs
    else match lines bs with
      | [] => [[b]]
      | l :: ls => (b :: l) :: ls

def isLineEnd (b : UInt8) : Bool := b == 10 || b == 13 || b == 32

/-- The label of a line that begins a section: what stands between the opening and exactly five
hyphens, which blanks may part. -/
def label? (opened : List UInt8) : Option (List UInt8) :=
  let r := opened.reverse
  let trailer := r.takeWhile fun b => b == 45 || isLineEnd b
  if trailer.count 45 = 5 then
    let after := (trailer.reverse.dropWhile (· ≠ 45)).length
    some (opened.take (opened.length - after))
  else none

def opening : List UInt8 := utf8Bytes "-----BEGIN "
def closing (label : List UInt8) : List UInt8 :=
  utf8Bytes "-----END " ++ label ++ utf8Bytes "-----"

/-- The sections of a text up to the first fault, and that fault. `within` is the label of the
section that is open, `text` what it holds so far. A section that begins inside another takes over
what the other holds. -/
def read (within : Option (List UInt8)) (text : List UInt8) :
    List (List UInt8) → List Section × Option PemError
  | [] => ([], within.map PemError.missingEnd)
  | line :: rest =>
    match stripStart? opening line with
    | some opened =>
      match label? opened with
      | none => ([], some (.illegalStart line))
      | some label => read (some label) text rest
    | none =>
      match within with
      | none => read none text rest
      | some label =>
        if (stripStart? (closing label) line).isSome then
          if label ∈ labels then
            match Base64.decode text with
            | .error e => ([], some (.base64 e))
            | .ok content =>
              let (sections, fault) := read none [] rest
              (⟨label, content⟩ :: sections, fault)
          else read none [] rest
        else read (some label) (text ++ line) rest

def sections (bytes : List UInt8) : List Section × Option PemError := read none [] (lines bytes)

/-- The certificates of a text, none if it has a fault. -/
def certificates (bytes : List UInt8) : Except PemError (List (List UInt8)) :=
  match sections bytes with
  | (_, some e) => .error e
  | (ss, none) => .ok ((ss.filter (·.label = certificateLabel)).map Section.content)

/-- The first private key of a text; faults after it do not matter. -/
def privateKey (bytes : List UInt8) : Except PemError (Option Section) :=
  let (ss, fault) := sections bytes
  match ss.find? (·.label ∈ keyLabels), fault with
  | some key, _ => .ok (some key)
  | none, some e => .error e
  | none, none => .ok none

end Pem
end Portkeeper
