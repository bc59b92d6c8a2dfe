import Portkeeper.Certificate.X509
import Portkeeper.Text.Quoted
import Portkeeper.Text.Utf8

/-!
The identity that a peer's certificate gives: the host names and the IP addresses among its
alternative names, in the order in which they stand.
-/

set_option autoImplicit false

namespace Portkeeper
open Der Net Text

/-- An alternative name of a certificate's subject. -/
inductive AlternativeName where
  | dns (name : List Char)
  | address (octets : List UInt8)
  | other
  deriving DecidableEq, Repr

namespace AlternativeName

/-- The extension of a certificate that holds the alternative names of its subject: 2.5.29.17. -/
def oid : List UInt8 := [0x55, 0x1D, 0x11]

/-- Whether a content is a single distinguished name. -/
def isName (bs : List UInt8) : Bool :=
  match readSequence bs with
  | some (_, []) => true
  | _ => false

/-- The name in an element; `none` for what is no name at all. A text that is not UTF-8 is a name
of another sort. -/
def ofElement? (e : Element) : Option AlternativeName :=
  if e.tag.cls ≠ .context then none
  else match e.tag.number with
    | 0 => (readOid e.content).map fun _ => .other
    | 2 => some ((ofUtf8? e.content).elim .other .dns)
    | 4 => if isName e.content then some .other else none
    | 7 => some (.address e.content)
    | 1 | 3 | 5 | 6 | 8 => some .other
    | _ => none

/-- The names in the value of an extension; none when one of them is malformed. -/
def ofExtension (x : Extension) : List AlternativeName :=
  if x.oid ≠ oid then []
  else (do
    let (c, _) ← readSequence x.value
    let es ← readAll c
    es.mapM ofElement?).getD []

end AlternativeName

/-- Host names and addresses of a peer. -/
structure Identity where
  dnsNames : List String
  addresses : List IP
  deriving DecidableEq, Repr

namespace Identity

/-- The identity that alternative names give. An address of neither four nor sixteen octets gives
nothing. -/
def ofNames (ns : List AlternativeName) : Identity where
  dnsNames := ns.filterMap fun
    | .dns name => some (String.ofList name)
    | _ => none
  addresses := ns.filterMap fun
    | .address octets => IP.ofOctets? octets
    | _ => none

def ofCertificate (c : Certificate) : Identity :=
  ofNames (c.extensions.flatMap AlternativeName.ofExtension)

/-- The identity in the encoding of a certificate. -/
def read (bs : List UInt8) : Option Identity := (Certificate.read bs).map ofCertificate

/-- Whether an address is one of the peer's. -/
def hasAddress (i : Identity) (ip : IP) : Bool := ip ∈ i.addresses

/-- The first host name. -/
def hostname (i : Identity) : Option String := i.dnsNames.head?

/-- The identity in diagnostic form. -/
def describe (i : Identity) : String :=
  "SecurityInfo \x7b dns_names: [" ++ String.intercalate ", " (i.dnsNames.map quoted) ++
    "], ip_addrs: [" ++ String.intercalate ", " (i.addresses.map (String.ofList ·.text)) ++ "] \x7d"

end Identity
end Portkeeper
