import Portkeeper.Proofs.Registry.Exclusive

/-!
What guards the listening sockets of a registry. However a listener came about, it is of its kind's family
and carries the acceptor that enforces what the bundle has to demand of the kind's clients; so no client of
a TLS kind is ever served in plain text, and none of the others is asked for anything.
-/

set_option autoImplicit false

namespace Portkeeper
open Net

/-! ### What is demanded of clients -/

namespace Bundle

variable {b : Bundle} {k : Kind}

/-- What is demanded of the clients of a kind. The clients of other kinds use no TLS. -/
def Demands (b : Bundle) : Kind → ClientPolicy → Prop
  | .networkAdmin, p | .cluster, p => b.authority ≠ [] ∧ p = .verified true b.authority
  | .metrics, p => p = if b.hasAuthority then .verified false b.authority else .anonymous
  | .storageObjects, p => p = .anonymous
  | _, _ => False

/-- The certificates with which a client gets past the demands, where there is a way to tell whether
certificates chain to given roots. -/
def Passes (b : Bundle) (chains : List (List UInt8) → List (List UInt8) → Prop) :
    Kind → List (List UInt8) → Prop
  | .networkAdmin, shown | .cluster, shown => shown ≠ [] ∧ chains b.authority shown
  | .metrics, shown => shown = [] ∨ b.authority ≠ [] ∧ chains b.authority shown
  | _, shown => shown = []

theorem authority_ne_nil_iff : b.authority ≠ [] ↔ b.hasAuthority = true := by
  simp [hasAuthority]

variable [Platform]

theorem policy_required {p : ClientPolicy} (h : b.policy .required = .ok p) :
    b.authority ≠ [] ∧ p = .verified true b.authority := by
  unfold policy at h
  dsimp only at h
  split at h
  · rename_i hb
    exact ⟨authority_ne_nil_iff.mpr hb, eq_verified_of_verifyAgainst h⟩
  · cases h

theorem policy_optional {p : ClientPolicy} (h : b.policy .optional = .ok p) :
    p = if b.hasAuthority then .verified false b.authority else .anonymous := by
  unfold policy at h
  dsimp only at h
  split at h
  · rename_i hb
    rw [if_pos hb, eq_verified_of_verifyAgainst h]
  · rename_i hb
    rw [if_neg hb, Except.ok.inj h]

/-- An acceptor for what is asked of a kind's clients demands just that. -/
theorem demands_of_acceptor (hk : k.transport = .tls) {a : Acceptor}
    (h : b.acceptor k.clientAuth = .ok a) : b.Demands k a.policy := by
  have hp := acceptor_policy h
  cases k with
  | networkAdmin => exact policy_required hp
  | cluster => exact policy_required hp
  | metrics => exact policy_optional hp
  | storageObjects => exact (Except.ok.inj hp).symm
  | _ => cases hk

end Bundle

/-- A handshake lets nobody through who does not meet the demands of its acceptor. -/
def Handshake.Honours (shake : Handshake)
    (chains : List (List UInt8) → List (List UInt8) → Prop) : Prop :=
  ∀ {a : Acceptor} {shown : List (List UInt8)}, shake a = some shown → match a.policy with
    | .anonymous => shown = []
    | .verified mandatory roots =>
      (shown = [] → mandatory = false) ∧ (shown ≠ [] → chains roots shown)

theorem Handshake.Honours.passes {shake : Handshake}
    {chains : List (List UInt8) → List (List UInt8) → Prop} (hs : shake.Honours chains) {b : Bundle}
    {k : Kind} {a : Acceptor} (hd : b.Demands k a.policy) {shown : List (List UInt8)}
    (h : shake a = some shown) : b.Passes chains k shown := by
  have hhonours := hs h
  have required (hd : b.authority ≠ [] ∧ a.policy = .verified true b.authority) :
      shown ≠ [] ∧ chains b.authority shown := by
    rw [hd.2] at hhonours
    have hne : shown ≠ [] := fun hc => absurd (hhonours.1 hc) (by decide)
    exact ⟨hne, hhonours.2 hne⟩
  cases k with
  | networkAdmin => exact required hd
  | cluster => exact required hd
  | metrics =>
    have hd : a.policy = if b.hasAuthority then .verified false b.authority else .anonymous := hd
    split at hd
    · rename_i hb
      rw [hd] at hhonours
      by_cases hne : shown = []
      · exact Or.inl hne
      · exact Or.inr ⟨Bundle.authority_ne_nil_iff.mpr hb, hhonours.2 hne⟩
    · rw [hd] at hhonours
      exact Or.inl hhonours
  | storageObjects =>
    rw [show a.policy = .anonymous from hd] at hhonours
    exact hhonours
  | _ => exact hd.elim

/-! ### Where listening sockets come from -/

namespace Posts

variable [Platform] {p q : Posts} {k : Kind} {l : Listener}

theorem Effect.bundle (he : Effect p q) : q.bundle = p.bundle := by
  cases he <;> rfl

omit [Platform] in
/-- What goes on meanwhile is no matter for a listening socket. -/
theorem Manned.stands (hm : p.Manned) (hl : Listens p.loops p.ready k l) {h : Host}
    (hlater : p.host.Later h) : h.sockets.get? l.socket = p.host.sockets.get? l.socket := by
  have hh := hm.holds_of_listens hl
  exact hlater.sockets hh.bounded hh.spares

/-- Whatever listens did so before, on a socket that is as it was, or has just been opened. -/
theorem Manned.arises (hm : p.Manned) (he : Effect p q) (hl : Listens q.loops q.ready k l) :
    Listens p.loops p.ready k l ∧ q.host.sockets.get? l.socket = p.host.sockets.get? l.socket ∨
      ∃ (h : Host) (address : String), h.Opens q.host k address p.bundle l := by
  cases he with
  | leaves hs hloops hready =>
    refine Or.inl ⟨hl, ?_⟩
    rcases hl with hl | ⟨i, n, hn, -, rfl, -⟩
    · exact (hready hl).socket
    · exact (hloops hn).socket
  | @visit id m n hn hk hc =>
    refine Or.inl ⟨hl.imp_right ?_, rfl⟩
    rintro ⟨i, n', hn', ho, hk', hkind⟩
    rcases Loop.of_getElem?_set hn' with ⟨rfl, rfl⟩ | ⟨-, hn'⟩
    · exact ⟨i, m, hn, by rwa [Loop.isOpen, ← hc], hk ▸ hk', hkind⟩
    · exact ⟨i, n', hn', ho, hk', hkind⟩
  | @close id m hn ho now =>
    have hh := hm.wired.holds hn ho
    rcases hl with hl | ⟨i, n, hn', ho', rfl, hkind⟩
    · exact Or.inl ⟨Or.inl hl, hh.get?_drop (hm.apart hl hn).symm⟩
    · rcases Loop.of_getElem?_set hn' with ⟨-, rfl⟩ | ⟨hi, hn'⟩
      · simp at ho'
      · exact Or.inl ⟨Or.inr ⟨i, n, hn', ho', rfl, hkind⟩,
          hh.get?_drop fun hc => hi (hm.wired.apart hn' hn hc)⟩
  | @drop k' l' ready hl' hr =>
    have hh := hm.holds hl'
    rcases hl with hl | ⟨i, n, hn, ho, rfl, hkind⟩
    · have hl := (hr k).symm.trans hl
      split at hl
      · cases hl
      · rename_i hk
        exact Or.inl ⟨Or.inl hl, hh.get?_drop fun hc => hk (hm.distinct hl hl' hc)⟩
    · exact Or.inl ⟨Or.inr ⟨i, n, hn, ho, rfl, hkind⟩, hh.get?_drop (hm.apart hl' hn)⟩
  | forget hc hs => exact Or.inl ⟨hl, rfl⟩
  | @opens h h' k' address l' ready hlater hs ho hv hno hr =>
    have hstands (hl : Listens p.loops p.ready k l) := hm.stands hl (hlater.trans ho.later)
    rcases hl with hl | hl
    · have hl := (hr k).symm.trans hl
      split at hl
      · rename_i hk
        cases hl
        exact Or.inr ⟨h, address, hk ▸ ho⟩
      · exact Or.inl ⟨Or.inl hl, hstands (Or.inl hl)⟩
    · exact Or.inl ⟨Or.inr hl, hstands (Or.inr hl)⟩
  | @serve k' l' n ready served hl' hn ho hr hs =>
    refine Or.inl ⟨?_, rfl⟩
    rcases hl with hl | ⟨i, m, hm', hmo, rfl, hkind⟩
    · have hl := (hr k).symm.trans hl
      split at hl
      · cases hl
      · exact Or.inl hl
    · rcases Loop.of_getElem?_push hm' with hm' | ⟨-, rfl⟩
      · exact Or.inr ⟨i, m, hm', hmo, rfl, hkind⟩
      · refine Or.inl ?_
        rw [hn, ← hkind, hn, hm.kinds hl', hl']
  | @bring h h' k' address n served hlater hs ho hv hno hn hk =>
    have hstands (hl : Listens p.loops p.ready k l) := hm.stands hl (hlater.trans ho.later)
    rcases hl with hl | ⟨i, m, hm', hmo, rfl, hkind⟩
    · exact Or.inl ⟨Or.inl hl, hstands (Or.inl hl)⟩
    · rcases Loop.of_getElem?_push hm' with hm' | ⟨-, rfl⟩
      · have hl : Listens p.loops p.ready k m.listener := Or.inr ⟨i, m, hm', hmo, rfl, hkind⟩
        exact Or.inl ⟨hl, hstands hl⟩
      · exact Or.inr ⟨h, address, hkind ▸ ho.kind ▸ ho⟩

/-- Every listening socket is of its kind's family, and what listens on it carries what the bundle has
for its kind. -/
def Equipped (p : Posts) : Prop :=
  ∀ {k : Kind} {l : Listener}, Listens p.loops p.ready k l → p.bundle.acceptorFor k = .ok l.tls ∧
    ∃ sk, p.host.sockets.get? l.socket = some sk ∧ k.Family sk.name

theorem Equipped.effect (hp : p.Equipped) (hm : p.Manned) (he : Effect p q) : q.Equipped := by
  intro k l hl
  rw [he.bundle]
  rcases hm.arises he hl with ⟨hl, hsame⟩ | ⟨h, address, ho⟩
  · obtain ⟨htls, hsk⟩ := hp hl
    exact ⟨htls, hsame ▸ hsk⟩
  · obtain ⟨n, hasks, hgains⟩ := ho.name
    exact ⟨ho.tls, _, ho.socket ▸ hgains.get?_self, Kind.family_of_asks hasks⟩

end Posts

/-! ### What guards them -/

namespace Yard

variable [Platform] {y y' : Yard}

/-- A start has taken over nothing but what its kinds are to have. -/
theorem equipped_start {c : Config} {h h₁ : Host} {ls : List Listener}
    {plan : List (Kind × String)} (ht : c.TakenOver h ls h₁) :
    (start c (ls.map (·, "")) h₁ plan).posts.Equipped := by
  intro k l hl
  rcases hl with hl | ⟨i, n, hn, -⟩
  · have hl : Opened.on (ls.map (·, "")) k = some l := hl
    obtain ⟨d, hd, rfl⟩ := Option.map_eq_some_iff.mp hl
    obtain rfl : d.1.kind = k := by simpa using List.find?_some hd
    obtain ⟨l, hmem, rfl⟩ := List.mem_map.mp (List.mem_of_find?_eq_some hd)
    obtain ⟨i, -, -, hinherited⟩ := ht.partway.place_of_mem hmem
    obtain ⟨sk, hsk, hfamily⟩ := hinherited.name
    exact ⟨hinherited.tls, sk, (ht.partway.kept l hmem).trans hsk, hfamily⟩
  · cases hn

theorem Kept.equipped (hy : y.Kept) (hp : y.posts.Equipped) (hst : Step y y') :
    y'.posts.Equipped := by
  rcases hy.effect hst with he | he
  · rwa [he]
  · exact hp.effect hy.manned he

theorem Kept.bundle (hy : y.Kept) (hst : Step y y') :
    y'.site.registry.bundle = y.site.registry.bundle := by
  rcases hy.effect hst with he | he
  · exact congrArg Posts.bundle he
  · exact he.bundle

theorem Reachable.equipped (hr : y.Reachable) : y.posts.Equipped := by
  obtain ⟨c, h, base, h₁, plan, hs, hi, -, hrun⟩ := hr
  obtain ⟨ls, rfl, ht⟩ := Config.inheritAll_ok hs hi
  have hkept : (start c _ h₁ plan).Kept := kept_start ht.has
  induction hrun with
  | refl => exact equipped_start ht
  | step hrun hst ih => exact (hkept.run hrun).equipped ih hst

/-- What guards the listening sockets of a registry at any moment. -/
structure Guarded (y : Yard) : Prop where
  /-- Every listening socket is there, and of its kind's family. -/
  socket : ∀ {k : Kind} {l : Listener}, y.Listens k l →
    ∃ sk, y.site.host.sockets.get? l.socket = some sk ∧ k.Family sk.name
  /-- The listeners of TLS kinds have acceptors that demand of clients what there is to demand. -/
  acceptor : ∀ {k : Kind} {l : Listener}, y.Listens k l → k.transport = .tls →
    ∃ a, l.tls = some a ∧ y.site.registry.bundle.Demands k a.policy
  /-- No others have one. -/
  bare : ∀ {k : Kind} {l : Listener}, y.Listens k l → k.transport ≠ .tls → l.tls = none
  /-- Without an authority nothing listens for administrators on the network or for the cluster. -/
  authority : ∀ {k : Kind} {l : Listener}, y.Listens k l → k = .networkAdmin ∨ k = .cluster →
    y.site.registry.bundle.hasAuthority = true
  /-- Over TCP no client is served but within TLS. -/
  guarded : ∀ {k : Kind} {l : Listener} {sk : Socket} {client : SocketAddress}, y.Listens k l →
    y.site.host.sockets.get? l.socket = some sk → sk.name.Admits (.tcp client) →
    ∃ a, l.tls = some a ∧ l.receive (.tcp client) = .guarded a (.tcp k client)
  /-- A client of a TLS kind that is served has got past what is demanded. -/
  passed : ∀ {k : Kind} {l : Listener} {sk : Socket} {x : Arrival} {c : Connection}
    {shake : Handshake} {chains : List (List UInt8) → List (List UInt8) → Prop}, y.Listens k l →
    k.transport = .tls → y.site.host.sockets.get? l.socket = some sk → sk.name.Admits x →
    shake.Honours chains → (l.receive x).connection? shake = some c →
    ∃ client shown, c = .tcp k client shown.head? ∧ y.site.registry.bundle.Passes chains k shown
  /-- The bundle never changes. -/
  lasting : ∀ {y' : Yard}, Step y y' → y'.site.registry.bundle = y.site.registry.bundle

variable {k : Kind} {l : Listener}

theorem Reachable.acceptor (hr : y.Reachable) (hl : y.Listens k l) (hk : k.transport = .tls) :
    ∃ a, l.tls = some a ∧ y.site.registry.bundle.Demands k a.policy := by
  rcases Bundle.acceptorFor_ok (hr.equipped hl).1 with ⟨-, a, htls, ha⟩ | ⟨hno, -⟩
  · exact ⟨a, htls, Bundle.demands_of_acceptor hk ha⟩
  · exact absurd hk hno

theorem Reachable.kind_eq (hr : y.Reachable) (hl : y.Listens k l) : l.kind = k := by
  rcases hl with hl | ⟨i, m, -, -, -, hkind⟩
  · exact hr.kept.manned.kinds hl
  · exact hkind

theorem Reachable.transport_eq (hr : y.Reachable) (hl : y.Listens k l) {sk : Socket}
    (hsk : y.site.host.sockets.get? l.socket = some sk) : k.transport = sk.name.transport := by
  obtain ⟨sk', hsk', hfamily⟩ := (hr.equipped hl).2
  obtain rfl : sk = sk' := Option.some.inj (hsk.symm.trans hsk')
  exact Kind.transport_of_family hfamily

theorem Reachable.receive (hr : y.Reachable) (hl : y.Listens k l) {a : Acceptor}
    (htls : l.tls = some a) (client : SocketAddress) :
    l.receive (.tcp client) = .guarded a (.tcp k client) := by
  simp [Listener.receive, htls, hr.kind_eq hl]

/-- However a listener came about and whatever its registry is in the middle of, it is guarded as the
bundle can guard its kind, and no client of a TLS kind is served in plain text. -/
theorem listeners_guarded (hr : y.Reachable) : y.Guarded where
  socket hl := (hr.equipped hl).2
  acceptor := hr.acceptor
  bare hl hk := by
    rcases Bundle.acceptorFor_ok (hr.equipped hl).1 with ⟨hno, -⟩ | ⟨-, htls⟩
    · exact absurd hno hk
    · exact htls
  authority hl hk := by
    rw [← Bundle.authority_ne_nil_iff]
    rcases hk with rfl | rfl
    · obtain ⟨a, -, ha⟩ := hr.acceptor hl rfl
      exact ha.1
    · obtain ⟨a, -, ha⟩ := hr.acceptor hl rfl
      exact ha.1
  guarded {k l sk client} hl hsk hx := by
    -- Only sockets of the internet are connected to over TCP, and only TLS kinds have these.
    have hk : k.transport = .tls := by
      rw [hr.transport_eq hl hsk]
      generalize sk.name = n at hx
      cases hx
      rfl
    obtain ⟨a, htls, -⟩ := hr.acceptor hl hk
    exact ⟨a, htls, hr.receive hl htls client⟩
  passed {k l sk x c shake chains} hl hk hsk hx hshake hc := by
    obtain ⟨a, htls, ha⟩ := hr.acceptor hl hk
    rw [hr.transport_eq hl hsk] at hk
    generalize sk.name = n at hk hx
    cases hx with
    | tcp bound client =>
      rw [hr.receive hl htls] at hc
      obtain ⟨shown, hshown, rfl⟩ := Option.map_eq_some_iff.mp hc
      exact ⟨_, shown, rfl, hshake.passes ha hshown⟩
    | _ => cases hk
  lasting := hr.kept.bundle

end Yard

namespace Yard

/-- Administrators on the network are asked for a certificate, though their socket was handed over. -/
theorem listeners_guarded_handed : ∃ (y : Yard) (l : Listener) (a : Acceptor), y.Reachable ∧ y.Guarded ∧
    y.Listens .networkAdmin l ∧ l.provenance = .inherited ∧ l.tls = some a ∧
    a.policy = .verified true Bundle.least.authority := by
  have h : (World.handed.site?.any fun t => t.registry.bundle = .least ∧ t.loops.any fun m =>
      m.isOpen ∧ m.listener.kind = .networkAdmin ∧ m.listener.provenance = .inherited) = true := by
    decide +kernel
  obtain ⟨t, ht, hd⟩ := (Option.any_eq_true _ _).mp h
  obtain ⟨hbundle, hloop⟩ := of_decide_eq_true hd
  obtain ⟨m, hm, hd⟩ := List.any_eq_true.mp hloop
  obtain ⟨ho, hkind, hprovenance⟩ := of_decide_eq_true hd
  obtain ⟨id, hlt, hid⟩ := List.getElem_of_mem hm
  obtain ⟨y, hy, hsh⟩ := World.reachable_handed.at_work (by
    rw [World.ofSite_of_site? ht]
    nofun)
  obtain ⟨rfl, -⟩ := hsh.site ht
  have hl : y.Listens .networkAdmin m.listener :=
    Or.inr ⟨id, m, List.getElem?_eq_some_iff.mpr ⟨hlt, hid⟩, ho, rfl, hkind⟩
  obtain ⟨a, htls, ha⟩ := (listeners_guarded hy).acceptor hl rfl
  exact ⟨y, m.listener, a, hy, listeners_guarded hy, hl, hprovenance, htls, hbundle ▸ ha.2⟩

end Yard
end Portkeeper
