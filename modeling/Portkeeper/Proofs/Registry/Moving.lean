import Portkeeper.Proofs.Registry.Bidding

/-!
What the steps of a change do to a registry. While a change is under way its kind has no entry, and
the addresses that it bids for are in canonical form; every step preserves this, and with it the
invariant of the registry.
-/

set_option autoImplicit false

namespace Portkeeper

namespace Host.Wins

variable [Platform] {h h' : Host} {k : Kind} {address : String} {b : Bundle} {l : Listener}

theorem later (hw : h.Wins h' k address b l) : h.Later h' := by
  obtain ⟨h₁, hl, -, -, ho⟩ := hw
  exact hl.trans ho.later

theorem sound (hw : h.Wins h' k address b l) : h'.Sound := by
  obtain ⟨h₁, -, -, -, ho⟩ := hw
  exact ho.sound

theorem files (hk : k.isNetwork = true) (hw : h.Wins h' k address b l) : h'.files = h.files := by
  obtain ⟨h₁, -, -, hf, ho⟩ := hw
  exact (ho.network hk).2.trans hf

end Host.Wins

namespace Site

/-- A kind can be brought up at an address: it has a handler and no entry. -/
structure Admits (s : Site) (k : Kind) (address : String) : Prop where
  network : k.isNetwork = true
  handler : ∃ router, s.registry.servers k = some router
  vacant : s.registry.entries k = none
  formed : k.Formed address

variable [Platform] {s : Site} {k : Kind} {address : String} {l : Listener} {h : Host}

/-- A listener that a bid won is served. -/
theorem Sound.bring (hs : s.Sound) (ha : s.Admits k address)
    (hw : s.host.Wins h k address s.registry.bundle l) :
    ∃ router n, s.registry.servers k = some router ∧ k.Asks address n ∧
      h.sockets.get? l.socket = some ⟨n, .stream, true⟩ ∧
      Site.bring { s with host := h } l address =
        (.ok (), Site.hand { s with host := h } l router address) ∧
      (Site.hand { s with host := h } l router address).Sound := by
  obtain ⟨h₁, hlater, hsound, -, ho⟩ := id hw
  obtain ⟨router, hr⟩ := ha.handler
  obtain ⟨n, hn, hg⟩ := ho.named
  obtain rfl := ho.kind
  have hs' : Sound { s with host := h } := hs.later hw.sound hw.later
  refine ⟨router, n, hr, hn, hg, serve_install _ address hr,
    hs'.hand ha.vacant hr (ho.holds hsound) (fun {i m} hm he => ?_) (fun hk => (ho.network hk).1)
      ⟨_, hg, fun hk => ?_, fun _ => ⟨rfl, rfl⟩⟩⟩
  · have hlt := Nat.lt_of_lt_of_le (hs.wired.bounded hm) hlater.next
    rw [he, ho.socket] at hlt
    exact Nat.lt_irrefl _ hlt
  · exact Listener.recorded_fresh (ho.network hk).1 hg hn ha.formed

/-- So is what an attempt comes to when it succeeds. -/
theorem Sound.bring_won (hs : s.Sound) {b : Bid} (ha : s.Admits b.kind b.address)
    (hatt : b.attempt s.registry.bundle s.host = (.inr (.ok l), h)) :
    ∃ router, Site.bring { s with host := h } l b.address =
      (.ok (), Site.hand { s with host := h } l router b.address) := by
  obtain ⟨router, n, -, -, -, hb, -⟩ := hs.bring ha (Bid.attempt_wins hs.wired.sound hatt)
  exact ⟨router, hb⟩

/-- What a change that is under way relies on. -/
def Carries (s : Site) : Change → Prop
  | .moving b previous => s.Admits b.kind b.address ∧ (previous ≠ "" → b.kind.Formed previous)
  | .restoring b _ => s.Admits b.kind b.address
  | .done _ => True

omit [Platform] in
theorem Admits.of_host (ha : s.Admits k address) (h : Host) :
    Admits { s with host := h } k address :=
  ⟨ha.network, ha.handler, ha.vacant, ha.formed⟩

/-- Everything that one step of a change can do: nothing, when the change is done; an attempt that
comes to nothing, after which the change goes on or has failed; or an attempt that wins, after which
a listener is served at the new address or at the previous one. -/
theorem Sound.step_cases (hs : s.Sound) {c : Change} (hc : s.Carries c) :
    (∃ r, c = .done r ∧ s.step c = (c, s)) ∨
      (∃ k h, k.isNetwork = true ∧ s.host.Waits h k ∧ (s.step c).2 = { s with host := h } ∧
        Carries { s with host := h } (s.step c).1 ∧ (s.step c).1 ≠ .done (.ok ())) ∨
      ∃ b h l router, s.Admits b.kind b.address ∧
        s.host.Wins h b.kind b.address s.registry.bundle l ∧
        s.registry.servers b.kind = some router ∧
        (s.step c).2 = Site.hand { s with host := h } l router b.address ∧
        ((∃ previous, c = .moving b previous ∧ (s.step c).1 = .done (.ok ())) ∨
          ∃ failure, c = .restoring b failure ∧ (s.step c).1 = .done (.error failure)) := by
  have hhost := hs.wired.sound
  obtain ⟨c', s', hstep, hst⟩ := s.exists_stepped c
  rw [hstep]
  cases hst with
  | ended => exact Or.inl ⟨_, rfl, rfl⟩
  | @moves b previous h left goes =>
    obtain ⟨ha, hp⟩ := hc
    refine Or.inr (Or.inl ⟨b.kind, h, ha.network, Bid.attempt_goes hhost goes, rfl, ?_, nofun⟩)
    exact ⟨ha.of_host h, hp⟩
  | @moved b previous l h won =>
    have hw := Bid.attempt_wins hhost won
    obtain ⟨router, n, hr, -, -, hb, -⟩ := hs.bring hc.1 hw
    rw [hb]
    exact Or.inr (Or.inr ⟨b, h, l, router, hc.1, hw, hr, rfl, Or.inl ⟨previous, rfl, rfl⟩⟩)
  | @failed b e h lost =>
    exact Or.inr (Or.inl ⟨b.kind, h, hc.1.network, Bid.attempt_loses hhost lost, rfl, trivial, nofun⟩)
  | @returns b previous e h known lost =>
    obtain ⟨ha, hp⟩ := hc
    refine Or.inr (Or.inl ⟨b.kind, h, ha.network, Bid.attempt_loses hhost lost, rfl, ?_, nofun⟩)
    exact ⟨ha.network, ha.handler, ha.vacant, hp known⟩
  | @restores b failure h left goes =>
    have ha : s.Admits b.kind b.address := hc
    refine Or.inr (Or.inl ⟨b.kind, h, ha.network, Bid.attempt_goes hhost goes, rfl, ?_, nofun⟩)
    exact ha.of_host h
  | @restored b failure l h won =>
    have hw := Bid.attempt_wins hhost won
    obtain ⟨router, n, hr, -, -, hb, -⟩ := hs.bring hc hw
    rw [hb]
    exact Or.inr (Or.inr ⟨b, h, l, router, hc, hw, hr, rfl, Or.inr ⟨failure, rfl, rfl⟩⟩)
  | @stranded b failure e h lost =>
    have ha : s.Admits b.kind b.address := hc
    exact Or.inr (Or.inl ⟨b.kind, h, ha.network, Bid.attempt_loses hhost lost, rfl, trivial, nofun⟩)

/-- A step of a change keeps the registry sound. -/
theorem Sound.step (hs : s.Sound) {c : Change} (hc : s.Carries c) :
    (s.step c).2.Sound ∧ (s.step c).2.Carries (s.step c).1 := by
  rcases hs.step_cases hc with ⟨r, rfl, he⟩ | ⟨k, h, -, hw, he, hc', -⟩ |
    ⟨b, h, l, router, ha, hw, hr, he, hdone⟩
  · rw [he]
    exact ⟨hs, trivial⟩
  · rw [he]
    exact ⟨hs.later hw.sound hw.later, hc'⟩
  · obtain ⟨router', n, hr', -, -, -, hsound⟩ := hs.bring ha hw
    obtain rfl : router = router' := Option.some.inj (hr.symm.trans hr')
    rw [he]
    refine ⟨hsound, ?_⟩
    rcases hdone with ⟨previous, -, hd⟩ | ⟨failure, -, hd⟩
    · rw [hd]
      trivial
    · rw [hd]
      trivial

omit [Platform] in
/-- How a change begins: there is nothing to do, or nobody to serve the kind, or the kind makes way,
and is disabled or bid for. -/
theorem beginChange_cases (s : Site) (k : Kind) (address : String) :
    s.isCurrent k address = true ∧ s.beginChange k address = (.done (.ok ()), s) ∨
      s.isCurrent k address = false ∧
        (address ≠ "" ∧ s.registry.servers k = none ∧
            s.beginChange k address = (.done (.error (noHandler k)), s) ∨
          address = "" ∧ s.beginChange k address = (.done (.ok ()), (s.close k).2) ∨
          address ≠ "" ∧ (∃ router, s.registry.servers k = some router) ∧
            s.beginChange k address = (.moving (.first k address) (s.close k).1, (s.close k).2)) := by
  unfold beginChange
  cases hcur : s.isCurrent k address with
  | true => exact Or.inl ⟨rfl, if_pos rfl⟩
  | false =>
    refine Or.inr ⟨rfl, ?_⟩
    rw [if_neg Bool.false_ne_true]
    by_cases hne : address = ""
    · exact Or.inr (Or.inl ⟨hne, by simp [hne]⟩)
    · cases hr : s.registry.servers k with
      | none => exact Or.inl ⟨hne, rfl, by simp [hne]⟩
      | some router => exact Or.inr (Or.inr ⟨hne, ⟨router, rfl⟩, by simp [hne]⟩)

omit [Platform] in
theorem beginChange_current (hcur : s.isCurrent k address = true) :
    s.beginChange k address = (.done (.ok ()), s) := by
  unfold beginChange
  rw [if_pos hcur]

omit [Platform] in
/-- How a change begins that has something to change. -/
theorem beginChange_eq (hn : s.isCurrent k address = false)
    (hh : address ≠ "" → (s.registry.servers k).isSome = true) : s.beginChange k address =
      (if address = "" then .done (.ok ()) else .moving (.first k address) (s.close k).1,
        (s.close k).2) := by
  rcases s.beginChange_cases k address with ⟨hcur, -⟩ | ⟨-, ⟨hne, hr, -⟩ | ⟨he, hb⟩ | ⟨hne, -, hb⟩⟩
  · cases hn.symm.trans hcur
  · have hsome := hh hne
    rw [hr] at hsome
    cases hsome
  · rw [hb, if_pos he]
  · rw [hb, if_neg hne]

/-- A change that is over at its beginning. -/
theorem change_of_done {r : Except EndpointError Unit} {s' : Site}
    (hb : s.beginChange k address = (.done r, s')) : s.change k address = (r, s') := by
  unfold change
  simp only [hb, steps_done, Change.result?, Option.getD_some]

omit [Platform] in
/-- Two registries that have the same reasons to begin a change in some way begin it in the same way. -/
theorem beginChange_congr {R : Site → Site → Prop} {s' : Site}
    (hcur : s'.isCurrent k address = s.isCurrent k address)
    (hr : s'.registry.servers = s.registry.servers) (hp : (s'.close k).1 = (s.close k).1)
    (hs : R s s') (hc : R (s.close k).2 (s'.close k).2) :
    (s'.beginChange k address).1 = (s.beginChange k address).1 ∧
      R (s.beginChange k address).2 (s'.beginChange k address).2 := by
  unfold beginChange
  rw [hcur, hr]
  split
  · exact ⟨rfl, hs⟩
  · split
    · exact ⟨rfl, hs⟩
    · dsimp only
      rw [hp]
      split <;> exact ⟨rfl, hc⟩

/-- A registry that is sound stays so when a change begins. -/
theorem Sound.beginChange (hs : s.Sound) (hk : k.isNetwork = true)
    (hf : address ≠ "" → k.Formed address) :
    (s.beginChange k address).2.Sound ∧
      (s.beginChange k address).2.Carries (s.beginChange k address).1 := by
  have hclose := hs.close k
  rcases s.beginChange_cases k address with ⟨-, hb⟩ | ⟨-, ⟨-, -, hb⟩ | ⟨-, hb⟩ | ⟨hne, ⟨router, hr⟩, hb⟩⟩
  · rw [hb]
    exact ⟨hs, trivial⟩
  · rw [hb]
    exact ⟨hs, trivial⟩
  · rw [hb]
    exact ⟨hclose, trivial⟩
  · rw [hb]
    cases he : s.registry.entries k with
    | none =>
      rw [close_none he]
      exact ⟨hs, ⟨hk, ⟨router, hr⟩, he, hf hne⟩, fun hc => absurd rfl hc⟩
    | some e =>
      obtain ⟨id, l, hv⟩ := hs.serves he
      rw [close_eq hs he hv.serving] at hclose ⊢
      refine ⟨hclose, ⟨hk, ?_, ?_, hf hne⟩, fun _ => hv.formed hk⟩
      · exact ⟨router, (congrFun (congrArg Registry.servers (registry_closeLoop s id)) k).trans hr⟩
      · exact (entries_forget _ k k id).trans (if_pos rfl)

end Site
end Portkeeper
