import Portkeeper.Certificate.Der

/-!
Certificates, as far as they are used: the public key and the extensions. `Certificate.read` follows
the outer structure of the standard and does not check the signature.
-/

set_option autoImplicit false

namespace Portkeeper
open Der

structure Extension where
  oid : List UInt8
  critical : Bool
  value : List UInt8
  deriving DecidableEq, Repr

/-- A certificate: the algorithm and the bits of its public key, and its extensions in order. -/
structure Certificate where
  algorithm : List UInt8
  publicKey : List UInt8
  extensions : List Extension
  deriving DecidableEq, Repr

namespace Certificate

/-- An algorithm: an identifier, then perhaps parameters. -/
def readAlgorithm : Read (List UInt8) := fun bs => do
  let (c, r) ← readSequence bs
  let (_, parameters) ← readOid c
  if parameters = [] ∨ (Der.read parameters).isSome then some (c, r) else none

/-- An extension: an identifier, perhaps a mark that it is critical, and a value. -/
def readExtension : Read Extension := fun bs => do
  let (c, r) ← readSequence bs
  let (oid, c) ← readOid c
  let (critical, c) := (readBoolean c).getD (false, c)
  let (value, _) ← readOctets c
  return (⟨oid, critical, value⟩, r)

/-- Extensions up to the end of a content. -/
def readExtensions : Nat → List UInt8 → Option (List Extension)
  | _, [] => some []
  | 0, _ => none
  | fuel + 1, bs => do
    let (e, r) ← readExtension bs
    return e :: (← readExtensions fuel r)

/-- The extensions behind their tag, which take up all that is left. -/
def optionalExtensions (bs : List UInt8) : Option (List Extension) :=
  match bs with
  | [] => some []
  | _ => do
    let (tag, r) ← readTag bs
    let (_, r) ← readLength r
    if tag.cls = .context ∧ tag.number = 3 then
      let (c, r) ← readSequence r
      if r = [] then readExtensions c.length c else none
    else none

/-- An optional unique identifier under the given tag. -/
def skipIdentifier (number : Nat) (bs : List UInt8) : Option (List UInt8) :=
  match optionalContext number bs with
  | (none, r) => some r
  | (some c, r) => if isBits c then some r else none

/-- The part of a certificate that is signed. -/
def readSigned (bs : List UInt8) : Option Certificate := do
  let (version, bs) := optionalContext 0 bs
  match version with
  | some v => let _ ← readSmall v
  | none => pure ()
  let (_, bs) ← readInteger bs
  let (_, bs) ← readAlgorithm bs
  let (_, bs) ← readSequence bs
  let (validity, bs) ← readSequence bs
  let (_, after) ← readTime validity
  let _ ← readTime after
  let (_, bs) ← readSequence bs
  let (key, bs) ← readSequence bs
  let (algorithm, key) ← readAlgorithm key
  let (publicKey, _) ← readBits key
  let bs ← skipIdentifier 1 bs
  let bs ← skipIdentifier 2 bs
  return ⟨algorithm, publicKey, ← optionalExtensions bs⟩

/-- A certificate; bytes after it are left alone. -/
def read (bs : List UInt8) : Option Certificate := do
  let (c, _) ← readSequence bs
  let (signed, c) ← readSequence c
  let certificate ← readSigned signed
  let (_, c) ← readAlgorithm c
  let _ ← readBits c
  return certificate

end Certificate
end Portkeeper
