import Portkeeper.Certificate.Curve
import Portkeeper.Certificate.Pem
import Portkeeper.Certificate.Strict

/-!
Private keys on the curve P-256, in the general wrapping and in the wrapping of the curve alone. A
key is only read when its secret and its public half belong together.
-/

set_option autoImplicit false

namespace Portkeeper
open Der Text

/-- A key pair, as the content of the description of its public key. -/
structure KeyPair where
  publicKey : List UInt8
  deriving DecidableEq, Repr

namespace KeyPair

/-- The object identifier of the curve, 1.2.840.10045.3.1.7, as an element. -/
def curveName : List UInt8 := [0x06, 0x08, 0x2a, 0x86, 0x48, 0xce, 0x3d, 0x03, 0x01, 0x07]

/-- The algorithm of keys on the curve: 1.2.840.10045.2.1 with the name of the curve. -/
def algorithm : List UInt8 := [0x06, 0x07, 0x2a, 0x86, 0x48, 0xce, 0x3d, 0x02, 0x01] ++ curveName

/-- The description of a public key: the algorithm and the point. -/
def describe (point : List UInt8) : List UInt8 :=
  wrap sequenceTag algorithm ++ wrap bitsTag (0 :: point)

/-- Whether the bytes of a point, uncompressed, are those of a secret's public half. -/
def belongs (secret point : List UInt8) : Bool :=
  match point with
  | 4 :: xy =>
    xy.length == 64 && secret.length == 32 &&
      Curve.publicPoint? (ofBytes secret) == some (ofBytes (xy.take 32), ofBytes (xy.drop 32))
  | _ => false

/-- A key in the wrapping of its curve. -/
def ofCurveKey? (bs : List UInt8) : Option KeyPair := do
  let c ← takeAll sequenceTag bs
  let (version, c) ← takeDigit c
  if version ≠ 1 then none
  let (secret, c) ← take octetsTag c
  let (curve, c) ← takeOptional (placeTag 0) c
  if curve.getD curveName ≠ curveName then none
  let wrapped ← takeAll (placeTag 1) c
  let (point, r) ← takeBits wrapped
  if r = [] ∧ belongs secret point then some ⟨describe point⟩ else none

/-- A key in the general wrapping, perhaps with attributes, which are not looked at. -/
def ofGeneralKey? (bs : List UInt8) : Option KeyPair := do
  let c ← takeAll sequenceTag bs
  let (version, c) ← takeDigit c
  if version ≠ 0 then none
  let (named, c) ← take sequenceTag c
  if named ≠ algorithm then none
  let (key, c) ← take octetsTag c
  let (_, c) ← takeOptional (placeTag 0) c
  if c = [] then ofCurveKey? key else none

/-- The key of a section, by its label. -/
def ofSection? (s : Section) : Option KeyPair :=
  if s.label = utf8Bytes "PRIVATE KEY" then ofGeneralKey? s.content
  else if s.label = utf8Bytes "EC PRIVATE KEY" then ofCurveKey? s.content
  else none

end KeyPair
end Portkeeper
