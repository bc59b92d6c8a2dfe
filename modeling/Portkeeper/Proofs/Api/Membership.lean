import Portkeeper.Proofs.Address.Groups
import Portkeeper.Registry.Service

/-!
Who gets through to the endpoint for members of the cluster: a peer that connects from an address which
its certificate lists. Every request passes the layer that decides about this, those that no route or no
method of a route is there for as well, and the layer looks at nothing but the connection.
-/

set_option autoImplicit false

namespace Portkeeper

/-! ### Addresses in certificates -/

namespace Net

namespace IPv6

theorem hiByte_pair (hi lo : UInt8) : hiByte (pair hi lo) = hi := by
  have hhi := hi.toNat_lt
  have hlo := lo.toNat_lt
  unfold hiByte pair
  apply UInt8.toNat_inj.mp
  simp only [UInt8.toNat_ofNat', UInt16.toNat_ofNat']
  omega

theorem loByte_pair (hi lo : UInt8) : loByte (pair hi lo) = lo := by
  have hhi := hi.toNat_lt
  have hlo := lo.toNat_lt
  unfold loByte pair
  apply UInt8.toNat_inj.mp
  simp only [UInt8.toNat_ofNat', UInt16.toNat_ofNat']
  omega

/-- Sixteen octets, two for each group. -/
def octets (v : IPv6) : List UInt8 := v.groups.flatMap fun g => [hiByte g, loByte g]

end IPv6

namespace IP

/-- The octets of an address: four or sixteen. -/
def octets : IP → List UInt8
  | .v4 v => v.octets
  | .v6 v => v.octets

theorem ofOctets?_octets (ip : IP) : ofOctets? ip.octets = some ip := by
  cases ip with
  | v4 v => rfl
  | v6 v =>
    obtain ⟨groups, hlength⟩ := v
    match groups, hlength with
    | [a, b, c, d, e, f, g, h], _ =>
      simp only [octets, IPv6.octets, List.flatMap_cons, List.flatMap_nil, List.cons_append,
        List.nil_append, ofOctets?, IPv6.pair_bytes]

/-- Only the octets of an address make the address. -/
theorem ofOctets?_eq_some_iff {bs : List UInt8} {ip : IP} :
    ofOctets? bs = some ip ↔ bs = ip.octets := by
  constructor
  · intro h
    unfold ofOctets? at h
    split at h
    · cases h
      rfl
    · cases h
      simp [octets, IPv6.octets, IPv6.hiByte_pair, IPv6.loByte_pair]
    · cases h
  · rintro rfl
    exact ofOctets?_octets ip

end IP
end Net

open Net

/-- An address stands among the alternative names of a certificate's subject, wherever that is. -/
def Certificate.Lists (c : Certificate) (ip : IP) : Prop :=
  ∃ x ∈ c.extensions, .address ip.octets ∈ AlternativeName.ofExtension x

/-- The addresses of an identity are those that the certificate lists. -/
theorem Identity.hasAddress_ofCertificate {c : Certificate} {ip : IP} :
    (ofCertificate c).hasAddress ip = true ↔ c.Lists ip := by
  unfold hasAddress ofCertificate ofNames Certificate.Lists
  rw [decide_eq_true_eq, List.mem_filterMap]
  constructor
  · rintro ⟨n, hn, hip⟩
    obtain ⟨x, hx, hmem⟩ := List.mem_flatMap.mp hn
    cases n with
    | address octets =>
      obtain rfl := IP.ofOctets?_eq_some_iff.mp hip
      exact ⟨x, hx, hmem⟩
    | _ => cases hip
  · rintro ⟨x, hx, hmem⟩
    exact ⟨_, List.mem_flatMap.mpr ⟨x, hx, hmem⟩, IP.ofOctets?_eq_some_iff.mpr rfl⟩

/-! ### The layer before the routes -/

/-- The client of a connection has an identity with the address it connects from. -/
def Connection.Belongs (c : Connection) : Prop :=
  ∃ peer ip, c.peer = some peer ∧ c.remoteIp = some ip ∧ peer.hasAddress ip = true

/-- Where the identity comes from a certificate, it is the certificate that has to list the address. -/
theorem Connection.belongs_iff {c : Connection} {bytes : List UInt8} (h : c.peer = Identity.read bytes) :
    c.Belongs ↔ ∃ certificate ip, Certificate.read bytes = some certificate ∧ c.remoteIp = some ip ∧
      certificate.Lists ip := by
  unfold Belongs
  rw [h, Identity.read]
  constructor
  · rintro ⟨peer, ip, hpeer, hip, hhas⟩
    obtain ⟨certificate, hread, rfl⟩ := Option.map_eq_some_iff.mp hpeer
    exact ⟨certificate, ip, hread, hip, Identity.hasAddress_ofCertificate.mp hhas⟩
  · rintro ⟨certificate, ip, hread, hip, hlists⟩
    exact ⟨_, ip, Option.map_eq_some_iff.mpr ⟨certificate, hread, rfl⟩, hip,
      Identity.hasAddress_ofCertificate.mpr hlists⟩

theorem rejectPeer_eq_none_iff {c : Option Connection} :
    rejectPeer c = none ↔ ∃ conn, c = some conn ∧ conn.Belongs := by
  unfold Connection.Belongs
  cases c with
  | none => simp [rejectPeer]
  | some conn =>
    obtain ⟨kind, remote, remoteIp, peer⟩ := conn
    cases peer with
    | none => simp [rejectPeer]
    | some peer => cases remoteIp <;> simp [rejectPeer]

theorem status_of_rejectPeer {c : Option Connection} {status : Nat} {text : String}
    (h : rejectPeer c = some (status, text)) : status ∈ [401, 403] := by
  unfold rejectPeer at h
  split at h
  · cases h
    decide
  · split at h
    · cases h
      decide
    · cases h
      decide
    · split at h
      · cases h
      · cases h
        decide

namespace Router
open Http

variable {router : Router} {c : Option Connection} {r : Request} {response : Response}

/-- An answer as it is given to a request: a route that is not for the request's method adds the
methods that it is for. -/
def given (router : Router) (r : Request) (response : Response) : Response :=
  match router.route? r with
  | some route => if route.accepts r then response else { response with allow := some route.allow }
  | none => response

theorem call_of_refused (h : router.refusal c = some response) :
    router.call c r = .answer (router.given r response) := by
  unfold call given
  rw [h]
  cases router.route? r with
  | none => rfl
  | some route =>
    dsimp only
    split <;> rfl

theorem call_of_answer (h : router.refusal c = none) (hr : router.inner c r = .answer response) :
    router.call c r = .answer (router.given r response) := by
  unfold call given
  rw [h]
  dsimp only
  rw [hr]
  cases router.route? r with
  | none => rfl
  | some route =>
    dsimp only
    split <;> rfl

/-- Whoever is let through has the answer of the routes behind the layer. -/
theorem call_cluster (h : Router.cluster.refusal c = none) :
    Router.cluster.call c r = Router.greeting.call c r := by
  have hroute : Router.cluster.route? r = Router.greeting.route? r := by
    unfold route?
    simp
  have hinner : Router.cluster.inner c r = Router.greeting.inner c r := by
    unfold inner handle
    rw [hroute]
    simp
  have hopen : Router.greeting.refusal c = none := rfl
  unfold call
  rw [h, hopen, hroute, hinner]

theorem status_given (router : Router) (r : Request) (response : Response) :
    (router.given r response).status = response.status := by
  unfold given
  split
  · split <;> rfl
  · rfl

/-- The routes behind the layer never answer as the layer does. -/
theorem call_greeting (c : Option Connection) (r : Request) : ∃ response,
    Router.greeting.call c r = .answer response ∧ response.status ∈ [200, 404, 405, 500] := by
  have hello : (helloResponse c).status ∈ [200, 404, 405, 500] := by
    cases c with
    | none => decide
    | some conn => exact List.mem_cons_self
  have hinner : ∃ response, Router.greeting.inner c r = .answer response ∧
      response.status ∈ [200, 404, 405, 500] := by
    unfold inner route?
    cases Route.ofPath? r.uri.path with
    | none => exact ⟨_, rfl, by decide⟩
    | some route =>
      cases route with
      | root =>
        dsimp only
        split
        · exact ⟨_, rfl, hello⟩
        · exact ⟨_, rfl, by decide⟩
      | _ => exact ⟨_, rfl, by decide⟩
  obtain ⟨response, hcall, hstatus⟩ := hinner
  exact ⟨_, call_of_answer rfl hcall, by rwa [status_given]⟩

variable [Platform]

/-- A request is turned away, with a text and whatever it asks for: no handler gets to see it, its body
is not read, and the registry stays as it is. -/
structure TurnsAway (router : Router) (c : Option Connection) (r : Request) (status : Nat)
    (text : String) : Prop where
  answers : router.call c r = .answer (router.given r (.plain status text))
  unread : router.readsBody c r = false
  untouched : ∀ w : World, w.respond router c r = (some (router.given r (.plain status text)), w)

theorem turnsAway_of_refused {status : Nat} {text : String}
    (h : router.refusal c = some (.plain status text)) : router.TurnsAway c r status text where
  answers := call_of_refused h
  unread := by
    unfold readsBody
    rw [h]
  untouched w := by
    unfold World.respond
    rw [call_of_refused h]
    rfl

theorem turnsAway_cluster {status : Nat} {text : String} (h : rejectPeer c = some (status, text)) :
    Router.cluster.TurnsAway c r status text :=
  turnsAway_of_refused (by rw [refusal, if_pos rfl, h]; rfl)

/-- A request gets through, whatever it asks for, if and only if the client belongs. -/
theorem through_iff (c : Option Connection) (r : Request) :
    Router.cluster.call c r = Router.greeting.call c r ↔ ∃ conn, c = some conn ∧ conn.Belongs := by
  rw [← rejectPeer_eq_none_iff]
  constructor
  · intro hsame
    cases hreject : rejectPeer c with
    | none => rfl
    | some why =>
      -- What the layer answers has a status that the routes behind it never give.
      obtain ⟨status, text⟩ := why
      obtain ⟨response, hcall, hstatus⟩ := call_greeting c r
      rw [(turnsAway_cluster hreject).answers, hcall] at hsame
      have hgiven : status = response.status :=
        (status_given _ r _).symm.trans (congrArg Response.status (Call.answer.inj hsame))
      have hrejected : status ∈ [401, 403] := status_of_rejectPeer hreject
      rw [hgiven] at hrejected
      simp only [List.mem_cons, List.not_mem_nil, or_false] at hstatus hrejected
      omega
  · exact fun h => call_cluster (by rw [refusal, if_pos rfl, h]; rfl)

theorem turnsAway_elsewhere {conn : Connection} {peer : Identity} {ip : IP}
    (hpeer : conn.peer = some peer) (hip : conn.remoteIp = some ip) (hhas : peer.hasAddress ip = false) :
    Router.cluster.TurnsAway (some conn) r 403
      ("Address " ++ String.ofList ip.text ++ " mismatched with address in certificate") :=
  turnsAway_cluster (by simp only [rejectPeer, hpeer, hip, hhas, Bool.false_eq_true, if_false])

/-- What becomes of a request to the endpoint for members of the cluster. -/
structure Guards (c : Option Connection) (r : Request) : Prop where
  /-- It gets through if and only if the client has an identity with the address it connects from. -/
  admits : Router.cluster.call c r = Router.greeting.call c r ↔ ∃ conn, c = some conn ∧ conn.Belongs
  /-- With an identity from a certificate, this means that the certificate lists the address. -/
  listed : ∀ {conn : Connection} {bytes : List UInt8}, c = some conn →
    conn.peer = Identity.read bytes → (conn.Belongs ↔ ∃ certificate ip,
      Certificate.read bytes = some certificate ∧ conn.remoteIp = some ip ∧ certificate.Lists ip)
  unknown : c = none → Router.cluster.TurnsAway c r 401 "Unknown connection"
  anonymous : ∀ {conn : Connection}, c = some conn → conn.peer = none →
    Router.cluster.TurnsAway c r 401 "No valid certificate"
  placeless : ∀ {conn : Connection} {peer : Identity}, c = some conn → conn.peer = some peer →
    conn.remoteIp = none → Router.cluster.TurnsAway c r 401 "Can't determine IP address"
  elsewhere : ∀ {conn : Connection} {peer : Identity} {ip : IP}, c = some conn →
    conn.peer = some peer → conn.remoteIp = some ip → peer.hasAddress ip = false →
    Router.cluster.TurnsAway c r 403
      ("Address " ++ String.ofList ip.text ++ " mismatched with address in certificate")

/-- Nobody gets through to the endpoint for members of the cluster but a client that connects from an
address which its certificate lists, and every such client does, whatever it asks for. -/
theorem cluster_guards (c : Option Connection) (r : Request) : Guards c r where
  admits := through_iff c r
  listed _ hpeer := Connection.belongs_iff hpeer
  unknown hc := turnsAway_cluster (by rw [hc]; rfl)
  anonymous hc hpeer := turnsAway_cluster (by rw [hc]; simp only [rejectPeer, hpeer])
  placeless hc hpeer hip := turnsAway_cluster (by rw [hc]; simp only [rejectPeer, hpeer, hip])
  elsewhere hc hpeer hip hhas := hc ▸ turnsAway_elsewhere hpeer hip hhas

end Router
end Portkeeper
