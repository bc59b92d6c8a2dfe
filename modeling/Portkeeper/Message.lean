import Portkeeper.Json.Decode
import Portkeeper.Json.Encode
import Portkeeper.Kind

/-!
The messages of the administrative interface and their JSON forms: a live endpoint, a request to
change an address, and the greeting of an endpoint.
-/

set_option autoImplicit false

namespace Portkeeper
open Json

namespace Kind

def encode (k : Kind) : List Char := encodeString k.name

def decode : Decode Kind := oneOf ofName? (all.map name)

end Kind

/-- One live endpoint. -/
structure EndpointInfo where
  kind : Kind
  address : String
  inherited : Bool
  deriving DecidableEq, Repr

namespace EndpointInfo

structure Draft where
  kind : Option Kind
  address : Option String
  inherited : Option Bool

def Draft.finish (d : Draft) : Except String EndpointInfo := do
  let kind ← (d.kind.elim (.error "kind") .ok : Except String Kind)
  let address ← (d.address.elim (.error "address") .ok : Except String String)
  let inherited ← (d.inherited.elim (.error "inherited") .ok : Except String Bool)
  return ⟨kind, address, inherited⟩

def record : Record Draft EndpointInfo where
  name := "struct EndpointInfo"
  blank := ⟨none, none, none⟩
  fields := [
    ⟨"kind", (·.kind.isSome), fun d => return { d with kind := some (← Kind.decode) }⟩,
    ⟨"address", (·.address.isSome), fun d => return { d with address := some (← Json.string) }⟩,
    ⟨"inherited", (·.inherited.isSome), fun d => return { d with inherited := some (← boolean) }⟩]
  finish := Draft.finish

def decode : Decode EndpointInfo := record.decode

def encode (e : EndpointInfo) : List Char :=
  encodeObject [("kind", e.kind.encode), ("address", encodeString e.address),
    ("inherited", encodeBool e.inherited)]

end EndpointInfo

/-- A request to move an endpoint; an empty address disables it. -/
structure AddressUpdate where
  address : String
  deriving DecidableEq, Repr

namespace AddressUpdate

def record : Record (Option String) AddressUpdate where
  name := "struct AddressUpdate"
  blank := none
  fields := [⟨"address", Option.isSome, fun _ => return some (← Json.string)⟩]
  finish := fun a => a.elim (.error "address") fun a => .ok ⟨a⟩

def decode : Decode AddressUpdate := record.decode

def encode (u : AddressUpdate) : List Char := encodeObject [("address", encodeString u.address)]

end AddressUpdate

/-- What an endpoint answers to a plain request for its root. -/
structure Hello where
  kind : Kind
  trusted : Bool
  peer : Option String
  deriving DecidableEq, Repr

namespace Hello

structure Draft where
  kind : Option Kind
  trusted : Option Bool
  peer : Option (Option String)

/-- A peer that is not given is none. -/
def Draft.finish (d : Draft) : Except String Hello := do
  let kind ← (d.kind.elim (.error "kind") .ok : Except String Kind)
  let trusted ← (d.trusted.elim (.error "trusted") .ok : Except String Bool)
  return ⟨kind, trusted, d.peer.getD none⟩

def record : Record Draft Hello where
  name := "struct Hello"
  blank := ⟨none, none, none⟩
  fields := [
    ⟨"kind", (·.kind.isSome), fun d => return { d with kind := some (← Kind.decode) }⟩,
    ⟨"trusted", (·.trusted.isSome), fun d => return { d with trusted := some (← boolean) }⟩,
    ⟨"peer", (·.peer.isSome), fun d => return { d with peer := some (← optional Json.string) }⟩]
  finish := Draft.finish

def decode : Decode Hello := record.decode

def encode (h : Hello) : List Char :=
  encodeObject [("kind", h.kind.encode), ("trusted", encodeBool h.trusted),
    ("peer", encodeOption encodeString h.peer)]

end Hello

end Portkeeper
