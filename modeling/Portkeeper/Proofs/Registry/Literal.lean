import Portkeeper.Proofs.Registry.Canonical
import Portkeeper.Proofs.Registry.Answering

/-!
Addresses written in numbers, and the sockets that they are recorded for. What is recorded is the name of
the socket wherever the text of the request shows that the system is to pick the port. A vsock address
does not show it, and is recorded as it was asked for.
-/

set_option autoImplicit false

namespace Portkeeper
open Text Net

namespace Listen

/-- A text with a host in numbers, or with none at all. -/
def Numeric (cs : List Char) : Prop :=
  (IP.ofText? cs).isSome = true ∨ (unbracket? cs).isSome = true ∨
    (SocketAddress.ofText? cs).isSome = true ∨
    ∃ host port, cutLast ':' cs = some (host, port) ∧ (host = [] ∨ (IP.ofText? host).isSome = true)

/-- A host name that is an IP address is an IPv4 address, since the others have colons. -/
theorem ipv4_of_name {host : List Char} (hn : isHostName host = true)
    (hip : (IP.ofText? host).isSome = true) : ∃ v : IPv4, host = v.text := by
  unfold IP.ofText? at hip
  split at hip
  · rename_i v hv
    exact ⟨v, (IPv4.eq_of_read (eq_of_whole? hv)).trans (List.append_nil _)⟩
  · rw [Option.isSome_map] at hip
    obtain ⟨v, hv⟩ := Option.isSome_iff_exists.mp hip
    exact absurd (IPv6.whole?_eq_some_iff.mp hv).colon_mem (colon_notMem_host hn)

/-- The canonical form of such a text is a socket address. -/
theorem Numeric.network {d : UInt16} {cs c : List Char} (hn : Numeric cs)
    (h : Listen.network d cs = .ok c) : ∃ a : SocketAddress, c = a.text := by
  unfold Listen.network at h
  split at h
  · cases h
    exact ⟨_, rfl⟩
  · rename_i hip
    split at h
    · split at h
      · cases h
        exact ⟨_, rfl⟩
      · cases h
    · rename_i hbr
      split at h
      · cases h
        exact ⟨_, rfl⟩
      · rename_i hsa
        -- Such a text is no socket address, say for a sign in front of its port, but its host still is in numbers.
        obtain ⟨host, port, hcut, hhost⟩ : ∃ host port, cutLast ':' cs = some (host, port) ∧
            (host = [] ∨ (IP.ofText? host).isSome = true) := by
          simpa [Numeric, hip, hbr, hsa] using hn
        unfold hostPort at h
        rw [hcut] at h
        dsimp only at h
        split at h
        · cases h
        · rename_i p hp
          split at h
          · cases h
            exact ⟨_, rfl⟩
          · rename_i hne
            unfold named at h
            split at h
            · rename_i hname
              cases h
              obtain ⟨v, rfl⟩ := ipv4_of_name hname (hhost.resolve_left hne)
              exact ⟨.v4 v (UInt16.ofNat p), by
                rw [SocketAddress.text, toNat_ofNat_of_le (Numeral.read_le hp)]⟩
            · cases h

end Listen

namespace Kind

/-- An address recorded in numbers. -/
def Literal (k : Kind) (address : String) : Prop :=
  match k.transport with
  | .unix => False
  | .tls => ∃ a : SocketAddress, address.toList = a.text
  | .vsock => ∃ v : Vsock, address.toList = v.text

/-- A request that gives its host in numbers, or not at all. Vsock has nothing else. -/
def AsksLiterally (k : Kind) (text : String) : Prop :=
  match k.transport with
  | .unix => False
  | .tls => Listen.Numeric (trim text.toList)
  | .vsock => True

/-- A socket is bound at the address that a text denotes, as the system has it. -/
def LiterallyAt (k : Kind) (address : String) (n : SocketName) : Prop :=
  match k.transport with
  | .unix => False
  | .tls => ∃ a : SocketAddress, address.toList = a.text ∧ (n = .inet a ∨ n = .inet a.effective)
  | .vsock => ∃ v : Vsock, address.toList = v.text ∧ n = .vsock v

/-- An address with a scope that the system has no use for. -/
def IdleScope (k : Kind) (address : String) : Prop :=
  k.transport = .tls ∧ ∃ a : SocketAddress, address.toList = a.text ∧ a.effective ≠ a

variable [Platform]

/-- How an address that is recorded tells the name of its socket. -/
structure Tells (k : Kind) (address : String) (n : SocketName) : Prop where
  picked : asksForPort address = true → address = String.ofList n.text
  bound : k.Literal address → (k.LiterallyAt address n ↔ ¬k.PicksUnseen address)
  exact : k.Literal address → ¬k.IdleScope address →
    (address = String.ofList n.text ↔ ¬k.PicksUnseen address)
  named : ¬k.Literal address → asksForPort address = false ∧ k.Asks address n

variable {k : Kind} {address text c : String} {n : SocketName}

omit [Platform] in
theorem AsksLiterally.literal (ha : k.AsksLiterally text) (hc : k.canonicalize text = .ok c)
    (hne : c ≠ "") : k.Literal c := by
  unfold AsksLiterally at ha
  unfold Literal
  have hf := formed_canonicalize hc hne
  unfold Formed at hf
  cases ht : k.transport with
  | unix => simp [ht] at ha
  | tls =>
    rw [ht] at ha
    have hcan := canonicalize_ok hc
    unfold canonicalText at hcan
    dsimp only at hcan
    split at hcan
    · exact absurd (String.toList_inj.mp (Except.ok.inj hcan).symm) hne
    · rw [ht] at hcan
      exact ha.network hcan
  | vsock =>
    rw [ht] at hf
    exact hf

omit [Platform] in
theorem literal_name (hk : k.isNetwork = true) (hn : k.Family n) : k.Literal (String.ofList n.text) := by
  unfold Family at hn
  unfold Literal
  cases ht : k.transport with
  | unix => simp [isNetwork, ht] at hk
  | tls =>
    rw [ht] at hn
    obtain ⟨a, rfl⟩ := hn
    exact ⟨a, by simp [SocketName.text]⟩
  | vsock =>
    rw [ht] at hn
    obtain ⟨v, rfl, -⟩ := hn
    exact ⟨v, by simp [SocketName.text]⟩

omit [Platform] in
theorem text_injective {a b : SocketAddress} (h : a.text = b.text) : a = b := by
  have ha := SocketAddress.ofText?_text a
  rw [h, SocketAddress.ofText?_text] at ha
  exact (Option.some.inj ha).symm

theorem asks_tls {a : SocketAddress} (ht : k.transport = .tls) (ha : address.toList = a.text)
    (hp : asksForPort address = false) (hn : k.Asks address n) : n = .inet a.effective := by
  have htext : String.ofList a.text = address := String.toList_inj.mp (by simp [ha])
  have hyields := asks_text ht (htext ▸ hn)
  cases hyields with
  | itself => rfl
  | picked free =>
    rw [port_effective] at free
    have hzero : asksForPort address = true :=
      (Ported.asksForPort_iff (ha ▸ ported_text a)).mpr (by rw [free]; rfl)
    rw [hp] at hzero
    cases hzero

/-- A recorded address in numbers is where its socket is bound, but for a vsock port that was picked. -/
theorem Recorded.literallyAt_iff (h : k.Recorded address n) (hl : k.Literal address) :
    k.LiterallyAt address n ↔ ¬k.PicksUnseen address := by
  have hfam := h.family
  unfold Literal at hl
  unfold LiterallyAt
  unfold Family at hfam
  cases ht : k.transport with
  | unix => simp [ht] at hl
  | tls =>
    rw [ht] at hl hfam
    obtain ⟨a, ha⟩ := hl
    obtain ⟨b, rfl⟩ := hfam
    refine iff_of_true ⟨a, ha, ?_⟩ (by simp [PicksUnseen, ht])
    rcases h.origin with he | ⟨hp, hn⟩
    · rw [he, String.toList_ofList] at ha
      exact Or.inl (by rw [text_injective ha])
    · exact Or.inr (asks_tls ht ha hp hn)
  | vsock =>
    rw [ht] at hl hfam
    obtain ⟨v, hv⟩ := hl
    obtain ⟨u, rfl, hu⟩ := hfam
    have hat : (∃ w : Vsock, address.toList = w.text ∧ SocketName.vsock u = .vsock w) ↔ u = v := by
      constructor
      · rintro ⟨w, hw, he⟩
        cases he
        exact vsock_text_injective (hw.symm.trans hv)
      · rintro rfl
        exact ⟨u, hv, rfl⟩
    -- The socket has a port of its own, so it is where the text says unless that says any port.
    have hpicks : k.PicksUnseen address ↔ v.port = Vsock.anyPort := by
      constructor
      · rintro ⟨-, w, hw, hany⟩
        exact vsock_text_injective (hw.symm.trans hv) ▸ hany
      · exact fun hany => ⟨ht, v, hv, hany⟩
    rw [hpicks]
    refine hat.trans ?_
    rcases h.origin with he | ⟨-, hn⟩
    · rw [he, String.toList_ofList] at hv
      obtain rfl : u = v := vsock_text_injective hv
      exact iff_of_true rfl hu
    · obtain ⟨-, u', he, ⟨rfl, hany⟩ | ⟨hany, hu'⟩⟩ := asks_vsock ht hv hn
      · cases he
        exact iff_of_true rfl hany
      · exact iff_of_false (fun hc => hu (hc ▸ hany)) (not_not_intro hany)

theorem Recorded.tells (hk : k.isNetwork = true) (h : k.Recorded address n) : k.Tells address n where
  picked hp := by
    rcases h.origin with he | ⟨hno, -⟩
    · exact he
    · rw [hp] at hno
      cases hno
  bound := h.literallyAt_iff
  exact hl hno := by
    have hfam := h.family
    rw [← h.literallyAt_iff hl]
    unfold LiterallyAt
    unfold Family at hfam
    cases ht : k.transport with
    | unix => simp [isNetwork, ht] at hk
    | tls =>
      rw [ht] at hfam
      obtain ⟨b, rfl⟩ := hfam
      constructor
      · intro he
        exact ⟨b, by rw [he, String.toList_ofList]; rfl, Or.inl rfl⟩
      · rintro ⟨a, ha, he⟩
        have hsame : a.effective = a := Classical.not_not.mp fun hc => hno ⟨ht, a, ha, hc⟩
        rw [hsame, or_self] at he
        cases he
        exact String.toList_inj.mp (by rw [ha, String.toList_ofList]; rfl)
    | vsock =>
      rw [ht] at hfam
      obtain ⟨u, rfl, -⟩ := hfam
      constructor
      · intro he
        exact ⟨u, by rw [he, String.toList_ofList]; rfl, rfl⟩
      · rintro ⟨v, hv, he⟩
        cases he
        exact String.toList_inj.mp (by rw [hv, String.toList_ofList]; rfl)
  named hl := by
    rcases h.origin with he | hasked
    · exact absurd (he ▸ literal_name hk h.family) hl
    · exact hasked

end Kind

section Install

variable {t : Site} {l : Listener} {requested : String} {sk : Socket} {e : Entry}

theorem Site.install_picked (hl : l.file = none) (hsk : t.host.sockets.get? l.socket = some sk)
    (hr : requested = "" ∨ asksForPort requested = true)
    (he : (t.install l requested).registry.entries l.kind = some e) :
    e.address = String.ofList sk.name.text := by
  have hentry : some ⟨l.recordAs t.host requested, l.provenance, some l, none⟩ = some e :=
    (Registry.entries_setEntry_self _ _ _).symm.trans he
  cases hentry
  dsimp only
  rw [Listener.recordAs_network hl hsk, if_pos]
  rcases hr with rfl | hr
  · simp
  · simp [hr]

theorem Site.install_literal (hk : l.kind.isNetwork = true) (hl : l.file = none)
    (hsk : t.host.sockets.get? l.socket = some sk) (hn : l.kind.Family sk.name)
    (hr : requested = "" ∨ l.kind.Literal requested)
    (he : (t.install l requested).registry.entries l.kind = some e) : l.kind.Literal e.address := by
  by_cases hp : requested = "" ∨ asksForPort requested = true
  · rw [Site.install_picked hl hsk hp he]
    exact Kind.literal_name hk hn
  · have hentry : some ⟨l.recordAs t.host requested, l.provenance, some l, none⟩ = some e :=
      (Registry.entries_setEntry_self _ _ _).symm.trans he
    cases hentry
    dsimp only
    rw [not_or, Bool.not_eq_true] at hp
    rw [Listener.recordAs_network hl hsk, if_neg (by simp [hp])]
    exact hr.resolve_left hp.1

end Install

namespace Scene

variable [Platform] {s : Scene} {t : Site} {k : Kind}

/-- What a recorded address tells about the socket of its kind. Requests in numbers have canonical forms
in numbers, and are recorded in numbers, whatever becomes of their ports; a TCP port that is asked for is
recorded as it was picked. The address that is recorded and reported is then where the socket is bound,
and is the very text that the system reports, unless it is a vsock address by which a port was picked. -/
theorem records_names (hr : s.Reachable) (ht : s.world.site? = some t) (hk : k.isNetwork = true) :
    (∀ text c, k.AsksLiterally text → k.canonicalize text = .ok c → c = "" ∨ k.Literal c) ∧
    (∀ l requested sk e, l.kind = k → l.file = none → t.host.sockets.get? l.socket = some sk →
      k.Family sk.name → (t.install l requested).registry.entries k = some e →
      (requested = "" ∨ asksForPort requested = true → e.address = String.ofList sk.name.text) ∧
      (requested = "" ∨ k.Literal requested → k.Literal e.address)) ∧
    ∀ e id l, t.registry.entries k = some e → e.serving = some id → t.loops[id]? = some l →
      l.isOpen = true → ∃ sk, t.host.sockets.get? l.listener.socket = some sk ∧
        s.world.address k = e.address ∧
        ⟨k, e.address, e.provenance = .inherited⟩ ∈ s.world.listing ∧ k.Tells e.address sk.name := by
  refine ⟨fun text c ha hc => ?_, fun l requested sk e hkind hl hsk hn he => ?_,
    fun e id l he hid hl ho => ?_⟩
  · by_cases hne : c = ""
    · exact Or.inl hne
    · exact Or.inr (ha.literal hc hne)
  · subst hkind
    exact ⟨fun hp => Site.install_picked hl hsk hp he, fun hreq => Site.install_literal hk hl hsk hn hreq he⟩
  · obtain ⟨id', l', hv⟩ := (hr.sound.site ht).1.serves he
    obtain rfl : id = id' := Option.some.inj (hid.symm.trans hv.serving)
    obtain rfl : l = l' := Option.some.inj (hl.symm.trans hv.loop)
    obtain ⟨sk, hsk, hrec, -⟩ := hv.socket ho
    exact ⟨sk, hsk, World.address_eq ht he, World.mem_listing ht he, (hrec hk).tells hk⟩

end Scene

namespace Scene

/-- An endpoint that was handed over before it was bound has the address that is recorded for it. -/
theorem records_names_handed : ∃ (t : Site) (e : Entry) (id : LoopId) (l : Loop) (sk : Socket),
    Reachable ⟨World.handed, none, [], none⟩ ∧ World.handed.site? = some t ∧
    Kind.networkAdmin.isNetwork = true ∧ t.registry.entries .networkAdmin = some e ∧
    e.serving = some id ∧ t.loops[id]? = some l ∧ l.isOpen = true ∧
    t.host.sockets.get? l.listener.socket = some sk ∧ World.handed.address .networkAdmin = e.address ∧
    asksForPort e.address = true ∧ e.address = String.ofList sk.name.text := by
  have h : (World.handed.site?.any fun t => (t.registry.entries .networkAdmin).any fun e =>
      asksForPort e.address && e.serving.any fun id => t.loops[id]?.any (·.isOpen)) = true := by
    decide +kernel
  obtain ⟨t, ht, h⟩ := (Option.any_eq_true _ _).mp h
  obtain ⟨e, he, h⟩ := (Option.any_eq_true _ _).mp h
  obtain ⟨hport, h⟩ := (Bool.and_eq_true _ _).mp h
  obtain ⟨id, hid, h⟩ := (Option.any_eq_true _ _).mp h
  obtain ⟨l, hl, ho⟩ := (Option.any_eq_true _ _).mp h
  have hk : Kind.networkAdmin.isNetwork = true := rfl
  obtain ⟨-, -, hlive⟩ := records_names World.reachable_handed ht hk
  obtain ⟨sk, hsk, haddress, -, htells⟩ := hlive e id l he hid hl ho
  exact ⟨t, e, id, l, sk, World.reachable_handed, ht, hk, he, hid, hl, ho, hsk, haddress, hport,
    htells.picked hport⟩

/-- A vsock port that is asked for is picked by the system, and what is recorded is the request. -/
theorem records_names_elsewhere : ∃ (t : Site) (e : Entry) (id : LoopId) (l : Loop) (sk : Socket),
    Reachable ⟨World.picking, none, [], none⟩ ∧ World.picking.site? = some t ∧
    Kind.vmConsole.isNetwork = true ∧ Kind.vmConsole.AsksLiterally "any:4294967295" ∧
    Config.picking.addresses .vmConsole = some "any:4294967295" ∧
    t.registry.entries .vmConsole = some e ∧ e.serving = some id ∧ t.loops[id]? = some l ∧
    l.isOpen = true ∧ t.host.sockets.get? l.listener.socket = some sk ∧
    World.picking.address .vmConsole = e.address ∧ e.address = "4294967295:4294967295" ∧
    e.address ≠ String.ofList sk.name.text ∧ ¬Kind.vmConsole.LiterallyAt e.address sk.name := by
  have h : (World.picking.site?.any fun t => (t.registry.entries .vmConsole).any fun e =>
      decide (e.address = "4294967295:4294967295") &&
        e.serving.any fun id => t.loops[id]?.any (·.isOpen)) = true := by decide +kernel
  obtain ⟨t, ht, h⟩ := (Option.any_eq_true _ _).mp h
  obtain ⟨e, he, h⟩ := (Option.any_eq_true _ _).mp h
  obtain ⟨ha, h⟩ := (Bool.and_eq_true _ _).mp h
  obtain ⟨id, hid, h⟩ := (Option.any_eq_true _ _).mp h
  obtain ⟨l, hl, ho⟩ := (Option.any_eq_true _ _).mp h
  replace ha := of_decide_eq_true ha
  obtain ⟨id', l', hv⟩ := (World.reachable_picking.sound.site ht).1.serves he
  obtain rfl : id = id' := Option.some.inj (hid.symm.trans hv.serving)
  obtain rfl : l = l' := Option.some.inj (hl.symm.trans hv.loop)
  obtain ⟨sk, hsk, hrec, -⟩ := hv.socket ho
  have hpicks : Kind.vmConsole.PicksUnseen e.address := ha ▸ World.picksUnseen_picking
  have htells := Kind.Recorded.tells rfl (hrec rfl)
  have hlit : Kind.vmConsole.Literal e.address := hpicks.2.imp fun v hv => hv.1
  have hno : ¬Kind.vmConsole.IdleScope e.address := fun hc => by cases hc.1
  exact ⟨t, e, id, l, sk, World.reachable_picking, ht, rfl, trivial, rfl, he, hid, hl, ho, hsk,
    World.address_eq ht he, ha, fun hc => (htells.exact hlit hno).mp hc hpicks,
    fun hc => (htells.bound hlit).mp hc hpicks⟩

end Scene
end Portkeeper
