import Portkeeper.Certificate.Strict

/-!
Certificates that can be put to use, by the strict reading: the description of the public key is
taken from them, and their extensions must be of known sorts unless they are not critical.
-/

set_option autoImplicit false

namespace Portkeeper
open Der

/-- Why a certificate cannot be put to use. -/
inductive CertificateFault where
  | badEncoding
  | unsupportedVersion
  | algorithmMismatch
  | repeatedExtension
  | unhandledCriticalExtension
  deriving DecidableEq, Repr

def CertificateFault.name : CertificateFault → String
  | .badEncoding => "BadEncoding"
  | .unsupportedVersion => "Other(OtherError(UnsupportedCertVersion))"
  | .algorithmMismatch => "Other(OtherError(SignatureAlgorithmMismatch))"
  | .repeatedExtension => "Other(OtherError(ExtensionValueInvalid))"
  | .unhandledCriticalExtension => "UnhandledCriticalExtension"

def CertificateFault.message (f : CertificateFault) : String :=
  "invalid peer certificate: " ++ f.name

namespace Usable

abbrev Check (α : Type) := Except CertificateFault α

/-- A part that does not read is badly encoded. -/
def sound {α : Type} : Option α → Check α
  | some a => .ok a
  | none => .error .badEncoding

/-- The last byte of the identifiers 2.5.29.n of extensions that are looked at: usages of the key,
names, constraints and distribution points. -/
def knownExtensions : List UInt8 := [15, 17, 19, 30, 31, 37]

/-- The sort of a known extension. -/
def known? (oid : List UInt8) : Option UInt8 :=
  match oid with
  | [0x55, 0x1D, n] => if n ∈ knownExtensions then some n else none
  | _ => none

def takeExtension : Read (List UInt8 × Bool) := fun bs => do
  let (c, r) ← take sequenceTag bs
  let (oid, c) ← take oidTag c
  let (mark, c) ← takeOptional booleanTag c
  let critical ← match mark with
    | none | some [0] => some false
    | some [255] => some true
    | some _ => none
  let _ ← takeAll octetsTag c
  return ((oid, critical), r)

/-- Extensions up to the end; `seen` are the known sorts that came before. -/
def checkExtensions (fuel : Nat) (seen : List UInt8) (bs : List UInt8) : Check Unit :=
  match fuel, bs with
  | _, [] => .ok ()
  | 0, _ => .error .badEncoding
  | fuel + 1, bs => do
    let ((oid, critical), r) ← sound (takeExtension bs)
    match known? oid with
    | some n => if n ∈ seen then .error .repeatedExtension else checkExtensions fuel (n :: seen) r
    | none => if critical then .error .unhandledCriticalExtension else checkExtensions fuel seen r

/-- The description of the public key of a certificate that can be put to use. -/
def publicKey (bytes : List UInt8) : Check (List UInt8) := do
  let certificate ← sound (takeAll sequenceTag bytes)
  let (signed, c) ← sound (take sequenceTag certificate)
  let (algorithm, c) ← sound (take sequenceTag c)
  let (_, c) ← sound (takeBits c)
  if c ≠ [] then throw .badEncoding
  let (version, s) ← (take (placeTag 0) signed).elim (.error .unsupportedVersion) .ok
  match takeDigit version with
  | some (2, []) => .ok ()
  | some _ => throw .unsupportedVersion
  | none => throw .badEncoding
  let (_, s) ← sound (take integerTag s)
  let (signature, s) ← sound (take sequenceTag s)
  if signature ≠ algorithm then throw .algorithmMismatch
  let (_, s) ← sound (take sequenceTag s)
  let (_, s) ← sound (take sequenceTag s)
  let (_, s) ← sound (take sequenceTag s)
  let (key, s) ← sound (take sequenceTag s)
  if s ≠ [] then
    let outer ← sound (takeAll (placeTag 3) s)
    let inner ← sound (takeAll sequenceTag outer)
    checkExtensions inner.length [] inner
  return key

/-- Whether bytes are a certificate of the first version, which names no version. -/
def isFirstVersion (bytes : List UInt8) : Bool := Option.isSome do
  let c ← takeAll sequenceTag bytes
  let (s, c) ← take sequenceTag c
  let (_, s) ← take integerTag s
  let (_, s) ← take sequenceTag s
  let (_, s) ← take sequenceTag s
  let (_, s) ← take sequenceTag s
  let (_, s) ← take sequenceTag s
  let (_, s) ← take sequenceTag s
  let (_, c) ← take sequenceTag c
  let _ ← takeAll bitsTag c
  if s = [] then some () else none

/-- A certificate may be a root of trust when it can be put to use, or is of the first version. -/
def checkRoot (bytes : List UInt8) : Check Unit :=
  match publicKey bytes with
  | .ok _ => .ok ()
  | .error .unsupportedVersion => if isFirstVersion bytes then .ok () else .error .badEncoding
  | .error f => .error f

end Usable
end Portkeeper
