import Portkeeper.Proofs.Address.Fixpoint
import Portkeeper.Proofs.Api.Membership
import Portkeeper.Proofs.Registry.Updating
import Portkeeper.Registry.Loop

/-!
Members of the cluster that connect from an IPv4 address. A socket for all interfaces serves both versions
of IP, and shows such a member under the mapped form of the address, which is another address than the one
in the member's certificate. So it depends on the socket whether the member gets through.
-/

set_option autoImplicit false

namespace Portkeeper
open Text Net Http

/-! ### Where a listen address leads -/

namespace Listen

/-- A port without a host means all interfaces, of both versions. -/
theorem network_port (d p : UInt16) :
    network d (':' :: decimal p.toNat) = .ok (SocketAddress.v6 .unspecified p 0).text :=
  network_everywhere ⟨_, digits_decimal _, .inl rfl⟩ d

end Listen

namespace Kind

variable [Platform] {k : Kind}

/-- A socket is bound at the IP address that the canonical form of a listen address names. -/
theorem Asks.ip {address : String} {a b : SocketAddress} (ha : k.Asks address (.inet a))
    (hc : k.canonicalize address = .ok (String.ofList b.text)) : a.ip = b.ip := by
  obtain ⟨c, hc', hy⟩ := ha
  rw [hc] at hc'
  cases hc'
  unfold Yields at hy
  cases ht : k.transport with
  | unix =>
    rw [ht] at hy
    cases hy
  | vsock =>
    rw [ht] at hy
    obtain ⟨v, -, hn⟩ := hy
    cases hn
  | tls =>
    rw [String.toList_ofList] at hy
    have hyields := yields_text ht hy
    cases hyields with
    | itself => exact ip_effective b
    | picked => rw [ip_withPort, ip_effective]

omit [Platform] in
theorem canonicalize_port (ht : k.transport = .tls) (p : UInt16) :
    k.canonicalize (String.ofList (':' :: decimal p.toNat)) =
      .ok (String.ofList (SocketAddress.v6 .unspecified p 0).text) := by
  have hp : Ported (':' :: decimal p.toNat) p.toNat := ⟨Listen.toNat_le p, [], rfl⟩
  have htight : Tight (':' :: decimal p.toNat) := by
    refine ⟨fun c hc => ?_, fun c hc => isBlank_of_isDigit (Listen.getLast?_ported hp hc)⟩
    cases hc
    decide
  simp [canonicalize, canonicalAddress, canonicalText, trim_of_tight htight, ht, Listen.network_port,
    Except.map]

/-- All interfaces are served by one socket, of both versions. -/
theorem Asks.everywhere {address : String} {a : SocketAddress}
    (ha : Kind.cluster.Asks address (.inet a))
    (h : address = "::" ∨ ∃ p : UInt16, address = String.ofList (':' :: decimal p.toNat)) :
    a.ip = .v6 .unspecified := by
  rcases h with rfl | ⟨p, rfl⟩
  · exact ha.ip (b := .v6 .unspecified 8443 0) (by decide +kernel)
  · exact ha.ip (canonicalize_port rfl p)

end Kind

/-! ### A member that connects over IPv4 -/

theorem Net.IPv6.text_mapped (v : IPv4) : (IPv6.mapped v).text = "::ffff:".toList ++ v.text := by
  simp [IPv6.text, IPv6.unmapped?, IPv6.mapped, IPv6.hiByte_pair, IPv6.loByte_pair]

/-- A member is known by the address that the socket shows, and the certificate has to list that. -/
theorem Connection.belongs_seenFrom {bytes : List UInt8} {certificate : Certificate} {v : IPv4}
    (hread : Certificate.read bytes = some certificate) (hlists : certificate.Lists (.v4 v)) (k : Kind)
    (a : SocketAddress) (port : UInt16) :
    (Connection.tcp k (seenFrom a.ip (.v4 v port)) (some bytes)).Belongs ↔
      (∃ w, a.ip = .v4 w) ∨ certificate.Lists (.v6 (.mapped v)) := by
  have hshown : (Connection.tcp k (seenFrom a.ip (.v4 v port)) (some bytes)).Belongs ↔
      certificate.Lists (seenFrom a.ip (.v4 v port)).ip := by
    rw [Connection.belongs_iff (show _ = Identity.read bytes from rfl)]
    constructor
    · rintro ⟨certificate', ip, hread', hip, hlists'⟩
      cases hread.symm.trans hread'
      cases hip
      exact hlists'
    · exact fun hlists' => ⟨certificate, _, hread, rfl, hlists'⟩
  rw [hshown]
  unfold seenFrom
  cases a with
  | v4 w p => exact iff_of_true hlists (Or.inl ⟨w, rfl⟩)
  | v6 w p s =>
    constructor
    · exact Or.inr
    · rintro (⟨w', hw⟩ | hmapped)
      · cases hw
      · exact hmapped

/-- Who is shown under a mapped address that the certificate does not list is turned away. -/
theorem Router.turnsAway_mapped [Platform] {bytes : List UInt8} {certificate : Certificate}
    {v : IPv4} (hread : Certificate.read bytes = some certificate)
    (hmapped : ¬certificate.Lists (.v6 (.mapped v))) {a : SocketAddress} (ha : ∃ w, a.ip = .v6 w)
    (k : Kind) (port : UInt16) (r : Request) :
    Router.cluster.TurnsAway (some (.tcp k (seenFrom a.ip (.v4 v port)) (some bytes))) r 403
      ("Address ::ffff:" ++ String.ofList v.text ++ " mismatched with address in certificate") := by
  obtain ⟨w, hw⟩ := ha
  have hpeer : Identity.read bytes = some (Identity.ofCertificate certificate) := by
    rw [Identity.read, hread]
    rfl
  have hhas : (Identity.ofCertificate certificate).hasAddress (.v6 (.mapped v)) = false :=
    Bool.eq_false_iff.mpr fun hc => hmapped (Identity.hasAddress_ofCertificate.mp hc)
  have htext : "Address " ++ String.ofList (IP.v6 (.mapped v)).text =
      "Address ::ffff:" ++ String.ofList v.text := by
    rw [IP.text, IPv6.text_mapped]
    simp [← String.toList_inj]
  rw [← htext, hw]
  exact turnsAway_elsewhere hpeer rfl hhas

namespace Listener

variable {l : Listener} {acceptor : Acceptor} {shake : Handshake} {bytes : List UInt8}
  {chain : List (List UInt8)}

theorem receive_tcp (htls : l.tls = some acceptor) (hshake : shake acceptor = some (bytes :: chain))
    (client : SocketAddress) : (l.receive (.tcp client)).connection? shake =
      some (.tcp l.kind client (some bytes)) := by
  simp [receive, htls, Reception.connection?, hshake]

variable [Platform]

/-- A member whose certificate lists the IPv4 address it connects from gets through on every socket that
is bound at an IPv4 address. On any other the member gets through only if the certificate also lists the
mapped form of the address, and is turned away if not. The socket for all interfaces is such a one, and a
socket is bound at the very IP address that the canonical form of its listen address names. -/
theorem members_over_IPv4 {certificate : Certificate} {v : IPv4} {address : String}
    {a : SocketAddress} (htls : l.tls = some acceptor)
    (hshake : shake acceptor = some (bytes :: chain))
    (hread : Certificate.read bytes = some certificate) (hlists : certificate.Lists (.v4 v))
    (ha : Kind.cluster.Asks address (.inet a)) (port : UInt16) :
    (∃ c, (l.receive (.tcp (seenFrom a.ip (.v4 v port)))).connection? shake = some c ∧ ∀ r,
      (Router.cluster.call (some c) r = Router.greeting.call (some c) r ↔
        (∃ w, a.ip = .v4 w) ∨ certificate.Lists (.v6 (.mapped v))) ∧
      ((∃ w, a.ip = .v6 w) → ¬certificate.Lists (.v6 (.mapped v)) →
        Router.cluster.TurnsAway (some c) r 403
          ("Address ::ffff:" ++ String.ofList v.text ++ " mismatched with address in certificate"))) ∧
    (∀ b : SocketAddress, Kind.cluster.canonicalize address = .ok (String.ofList b.text) →
      a.ip = b.ip) ∧
    (address = "::" ∨ (∃ p : UInt16, address = String.ofList (':' :: decimal p.toNat)) →
      a.ip = .v6 .unspecified) := by
  refine ⟨⟨_, receive_tcp htls hshake _, fun r => ⟨?_, fun hwide hmapped => ?_⟩⟩, fun b => ha.ip,
    ha.everywhere⟩
  · simp [Router.through_iff, Connection.belongs_seenFrom hread hlists]
  · exact Router.turnsAway_mapped hread hmapped hwide _ port r

end Listener

/-! ### One member on two addresses -/

open Der in
/-- A certificate for the address of the loopback interface, with no more than is looked at. -/
def Certificate.loopback : List UInt8 :=
  let empty := wrap sequenceTag []
  let time := wrap 0x17 (utf8Bytes "250101000000Z")
  let names := wrap sequenceTag (wrap 0x87 [127, 0, 0, 1])
  let extension := wrap sequenceTag (wrap oidTag AlternativeName.oid ++ wrap octetsTag names)
  let algorithm := wrap sequenceTag (wrap oidTag [42])
  let key := wrap sequenceTag (algorithm ++ wrap bitsTag [0])
  let signed := wrap integerTag [1] ++ algorithm ++ empty ++ wrap sequenceTag (time ++ time) ++ empty ++
    key ++ wrap (placeTag 3) (wrap sequenceTag extension)
  wrap sequenceTag (wrap sequenceTag signed ++ algorithm ++ wrap bitsTag [0])

theorem Certificate.read_loopback : ∃ certificate, Certificate.read loopback = some certificate ∧
    certificate.Lists (.v4 ⟨127, 0, 0, 1⟩) ∧ ¬certificate.Lists (.v6 (.mapped ⟨127, 0, 0, 1⟩)) := by
  have h : ((Certificate.read loopback).any fun certificate =>
      (Identity.ofCertificate certificate).hasAddress (.v4 ⟨127, 0, 0, 1⟩) ∧
      ¬(Identity.ofCertificate certificate).hasAddress (.v6 (.mapped ⟨127, 0, 0, 1⟩))) = true := by
    decide +kernel
  obtain ⟨certificate, hread, hd⟩ := (Option.any_eq_true _ _).mp h
  obtain ⟨hlists, hmapped⟩ := of_decide_eq_true hd
  exact ⟨certificate, hread, Identity.hasAddress_ofCertificate.mp hlists,
    fun hc => hmapped (Identity.hasAddress_ofCertificate.mpr hc)⟩

/-- A client that shows the certificate. -/
def Handshake.loopback : Handshake := fun _ => some [Certificate.loopback]

/-- What there is to know of a listener of the cluster's endpoint that could be made. -/
theorem Host.listen_handed {address : String}
    (hok : (Host.handed.listen .cluster address .least).1.isOk = true) :
    ∃ l h a acceptor, Host.handed.listen .cluster address .least = (.ok l, h) ∧
      l.tls = some acceptor ∧ Kind.cluster.Asks address (.inet a) ∧
      h.sockets.get? l.socket = some ⟨.inet a, .stream, true⟩ := by
  cases hl : Host.handed.listen .cluster address .least with
  | mk r h =>
    cases r with
    | error e =>
      rw [hl] at hok
      cases hok
    | ok l =>
      have ho : Host.handed.Opens h .cluster address .least l :=
        Host.listen_spec Host.sound_handed hl
      obtain ⟨n, hasks, hgains⟩ := ho.name
      obtain ⟨a, rfl⟩ : ∃ a, n = .inet a := Kind.family_of_asks hasks
      rcases Bundle.acceptorFor_ok ho.tls with ⟨-, acceptor, htls, -⟩ | ⟨hno, -⟩
      · exact ⟨l, h, a, acceptor, rfl, htls, hasks, ho.socket ▸ hgains.get?_self⟩
      · exact absurd rfl hno

namespace Listener

theorem members_over_IPv4_loopback : ∃ l h a acceptor certificate c,
    Host.handed.listen .cluster ":7002" .least = (.ok l, h) ∧ l.tls = some acceptor ∧
    h.sockets.get? l.socket = some ⟨.inet a, .stream, true⟩ ∧ a.ip = .v6 .unspecified ∧
    Certificate.read Certificate.loopback = some certificate ∧ certificate.Lists (.v4 ⟨127, 0, 0, 1⟩) ∧
    (l.receive (.tcp (seenFrom a.ip (.v4 ⟨127, 0, 0, 1⟩ 40000)))).connection?
      Handshake.loopback = some c ∧
    ∀ r, Router.cluster.TurnsAway (some c) r 403
      "Address ::ffff:127.0.0.1 mismatched with address in certificate" := by
  obtain ⟨l, h, a, acceptor, hl, htls, hasks, hsk⟩ :=
    @Host.listen_handed ":7002" (by decide +kernel)
  obtain ⟨certificate, hread, hlists, hmapped⟩ := Certificate.read_loopback
  have hshake : Handshake.loopback acceptor = some [Certificate.loopback] := rfl
  obtain ⟨⟨c, hc, hr⟩, -, hwide⟩ := members_over_IPv4 htls hshake hread hlists hasks 40000
  have ha := hwide (Or.inr ⟨7002, by decide +kernel⟩)
  exact ⟨l, h, a, acceptor, certificate, c, hl, htls, hsk, ha, hread, hlists, hc,
    fun r => (hr r).2 ⟨_, ha⟩ hmapped⟩

/-- The member gets through where the daemon listens on all interfaces over IPv4, and not where it listens
on all interfaces. -/
theorem members_over_IPv4_elsewhere : ∃ l h a l' h' a' certificate c c',
    Host.handed.listen .cluster "0.0.0.0:7002" .least = (.ok l, h) ∧
    h.sockets.get? l.socket = some ⟨.inet a, .stream, true⟩ ∧ a.ip = .v4 ⟨0, 0, 0, 0⟩ ∧
    Host.handed.listen .cluster ":7002" .least = (.ok l', h') ∧
    h'.sockets.get? l'.socket = some ⟨.inet a', .stream, true⟩ ∧ a'.ip = .v6 .unspecified ∧
    Certificate.read Certificate.loopback = some certificate ∧ certificate.Lists (.v4 ⟨127, 0, 0, 1⟩) ∧
    (l.receive (.tcp (seenFrom a.ip (.v4 ⟨127, 0, 0, 1⟩ 40000)))).connection?
      Handshake.loopback = some c ∧
    (l'.receive (.tcp (seenFrom a'.ip (.v4 ⟨127, 0, 0, 1⟩ 40000)))).connection?
      Handshake.loopback = some c' ∧
    ∀ r, Router.cluster.call (some c) r = Router.greeting.call (some c) r ∧
      Router.cluster.TurnsAway (some c') r 403
        "Address ::ffff:127.0.0.1 mismatched with address in certificate" := by
  obtain ⟨l, h, a, acceptor, hl, htls, hasks, hsk⟩ :=
    @Host.listen_handed "0.0.0.0:7002" (by decide +kernel)
  obtain ⟨l', h', a', acceptor', hl', htls', hasks', hsk'⟩ :=
    @Host.listen_handed ":7002" (by decide +kernel)
  obtain ⟨certificate, hread, hlists, hmapped⟩ := Certificate.read_loopback
  have ha : a.ip = .v4 ⟨0, 0, 0, 0⟩ := hasks.ip (b := .v4 ⟨0, 0, 0, 0⟩ 7002) (by decide +kernel)
  have ha' : a'.ip = .v6 .unspecified := hasks'.everywhere (Or.inr ⟨7002, by decide +kernel⟩)
  refine ⟨l, h, a, l', h', a', certificate, _, _, hl, hsk, ha, hl', hsk', ha', hread, hlists,
    receive_tcp htls rfl _, receive_tcp htls' rfl _, fun r => ⟨?_, ?_⟩⟩
  · exact (Router.through_iff _ r).mpr
      ⟨_, rfl, (Connection.belongs_seenFrom hread hlists _ a 40000).mpr (Or.inl ⟨_, ha⟩)⟩
  · exact Router.turnsAway_mapped hread hmapped ⟨_, ha'⟩ _ 40000 r

end Listener
end Portkeeper
