import Portkeeper.Proofs.Registry.Pacing
import Portkeeper.Proofs.Registry.Repeating
import Portkeeper.Proofs.Registry.Withstanding

/-!
Moves that succeed at once. A kind that has a handler and the certificates it needs comes to any
address that can be bound, if nobody is in the way who stays there: with its first attempt, and in
no time.
-/

set_option autoImplicit false

namespace Portkeeper

namespace Site

variable [Platform] {t g g' : Site} {k : Kind} {address : String}

/-- Nothing keeps a kind from an address: not its policy, not the system, no socket, and nobody who
is due to act. -/
structure Unimpeded (g : Site) (k : Kind) (address : String) : Prop where
  policy : ∃ tls, g.registry.bundle.acceptorFor k = .ok tls
  name : ∃ n, g.host.Offers k address n ∧ ∀ e ∈ g.host.sockets, e.2.bars n = false
  quiet : ∀ e ∈ g.host.agenda, g.now < e.1

theorem Unimpeded.of_shrinks (hg : g.Unimpeded k address)
    (hb : g'.registry.bundle = g.registry.bundle) (hh : g.host.Shrinks g'.host) :
    g'.Unimpeded k address where
  policy := hb ▸ hg.policy
  name := by
    obtain ⟨n, hoffers, hclear⟩ := hg.name
    exact ⟨n, hoffers.of_same hh.refusals hh.now hh.picked,
      fun e he => hclear e (hh.sockets e he)⟩
  quiet := by
    rw [hh.agenda, now, hh.now]
    exact hg.quiet

/-- Once it has made way it needs no more than one attempt. -/
theorem Sound.step_lands (hg : g.Sound) (ha : g.Admits k address) (hc : k.Canonical address)
    (hunimpeded : g.Unimpeded k address) (previous : String) :
    (g.step (.moving (.first k address) previous)).1 = .done (.ok ()) := by
  obtain ⟨tls, htls⟩ := hunimpeded.policy
  obtain ⟨n, hoffers, hclear⟩ := hunimpeded.name
  have hfree : g.host.inUse n = false :=
    List.any_eq_false.mpr fun e he => Bool.not_eq_true _ ▸ hclear e he
  obtain ⟨l, h, hl⟩ := Host.exists_listen hc (ha.formed.ne_empty ha.network) htls
    ((Bind.exists_socket_iff ha.network).mpr ⟨n, hoffers, hfree⟩)
  have hattempt : ((Bid.first k address).attempt g.registry.bundle g.host).1 = .inr (.ok l) := by
    have hsleep : g.host.sleep (Bid.first k address).pause = g.host :=
      Host.sleep_zero hunimpeded.quiet
    unfold Bid.attempt
    rw [hsleep]
    simp only [Bid.first, hl]
  rw [(hg.step_moving ha).2, hattempt]

/-- The host can bind an address of a kind: the system offers a name for it, and whatever bars that
name either is the kind's own or listens where the address itself is, not at a port picked for it. -/
def CanBind (t : Site) (k : Kind) (address : String) : Prop :=
  ∃ n, t.host.Offers k address n ∧ ∀ e ∈ t.host.sockets, t.InWay k e.1 → e.2.bars n = true →
    e.2.listening = true ∧ k.Names t.now address n

/-- Only what stays open keeps a kind from being ready once it has made way. -/
theorem Sound.unimpeded_close (hs : t.Sound)
    (hpolicy : ∃ tls, t.registry.bundle.acceptorFor k = .ok tls)
    (hbind : t.CanBind k address)
    (hfree : ∀ e ∈ t.host.sockets, t.InWay k e.1 → e.2.listening = true →
      ¬e.2.Obstructs k t.now address)
    (hquiet : ∀ e ∈ t.host.agenda, t.now < e.1) : (t.close k).2.Unimpeded k address := by
  have hshrinks := hs.close_shrinks k
  obtain ⟨n, hoffers, hbars⟩ := hbind
  refine ⟨(hs.confined_close k).bundle ▸ hpolicy,
    ⟨n, hoffers.of_same hshrinks.refusals hshrinks.now hshrinks.picked, fun e he => ?_⟩, ?_⟩
  · obtain ⟨hopen, hway⟩ := hs.inWay_of_close he
    cases hb : e.2.bars n with
    | false => rfl
    | true =>
      obtain ⟨hlistening, hnames⟩ := hbars e hopen hway hb
      exact absurd ⟨n, hnames, hb⟩ (hfree e hopen hway hlistening)
  · rw [hshrinks.agenda, now, hshrinks.now]
    exact hquiet

theorem Sound.change_lands (hs : t.Sound) (ht : t.Canonical) (hk : k.isNetwork = true)
    {router : Router} (hr : t.registry.servers k = some router) (hc : k.Canonical address)
    (hne : address ≠ "") (hn : t.isCurrent k address = false)
    (hunimpeded : (t.close k).2.Unimpeded k address) :
    (t.change k address).1 = .ok () ∧ (t.change k address).2.now = t.now ∧
      (t.change k address).2.host.attempts = ⟨t.now, address.toList⟩ :: t.host.attempts := by
  obtain ⟨hs', hcarried⟩ := hs.beginChange hk (Kind.formed_canonicalize hc)
  have hcanonical := (ht.beginChange hs hk hc).2
  rw [beginChange_eq hn fun _ => by rw [hr]; rfl, if_neg hne] at hs' hcarried hcanonical
  dsimp only at hs' hcarried hcanonical
  have hland : ((t.close k).2.step (.moving (.first k address) (t.close k).1)).1 = .done (.ok ()) :=
    hs'.step_lands hcarried.1 hc hunimpeded _
  have hchange : t.change k address =
      (.ok (), ((t.close k).2.step (.moving (.first k address) (t.close k).1)).2) := by
    have hbudget : (Change.moving (.first k address) (t.close k).1).budget = 19 + 1 := rfl
    rw [change_eq hr hn, if_neg hne, hbudget, steps_succ, hland, steps_done]
    rfl
  rw [hchange]
  refine ⟨rfl, (now_step hs' _).trans (hs.now_close k), ?_⟩
  rw [hs'.attempts_step hcarried hcanonical, (hs.close_shrinks k).attempts, ← hs.now_close k]
  rfl

end Site

namespace Scene

/-- What happens inside a registry, on its own account: accepting fails on loops, and connections
come and go. -/
inductive Inside (s : Scene) : Scene → Prop
  | refl : Inside s s
  | fault {s' : Scene} (since : Inside s s') (id : LoopId) :
      Inside s { s' with world := s'.world.fault id }
  | visit {s' : Scene} {id : LoopId} {l l' : Loop} (since : Inside s s')
      (loop : s'.world.loops[id]? = some l) (meets : l.Meets s'.world.host.now l') :
      Inside s { s' with world := { s'.world with loops := s'.world.loops.set id l' } }

variable [Platform] {s s' : Scene} {t : Site} {m : Move}

theorem Inside.reachable (hi : Inside s s') (hr : s.Reachable) : s'.Reachable := by
  induction hi with
  | refl => exact hr
  | fault since id ih => exact ih.step (.fault id)
  | visit since loop meets ih => exact ih.step (.visit loop meets)

omit [Platform] in
/-- It changes nothing about a change that is under way, and closes sockets at most. -/
theorem Inside.keeps (hi : Inside s s') : s'.underway = s.underway ∧
    s'.world.lifecycle = s.world.lifecycle ∧ s.world.host.Shrinks s'.world.host := by
  induction hi with
  | refl => exact ⟨rfl, rfl, .refl _⟩
  | fault since id ih =>
    obtain ⟨hu, hl, hh⟩ := ih
    exact ⟨hu, (World.lifecycle_fault _ id).trans hl,
      World.fault_stable (Site.stable_shrinks _) hh id⟩
  | visit since loop meets ih => exact ih

/-- None of it keeps a kind that has made way from where it is going. -/
theorem Inside.lands {s₁ s₂ s₃ : Scene} {g₁ g : Site} {c : Change} {r : Option Notice}
    {previous : String} (hr : s₁.Reachable) (hw : s₁.world = .ofSite g₁)
    (hu : s₁.underway = some (m, .moving (.first m.kind m.canonical) previous))
    (hunimpeded : g₁.Unimpeded m.kind m.canonical) (hi : Inside s₁ s₂)
    (hu₂ : s₂.underway = some (m, c))
    (hg : s₂.world.site? = some g) (hgo : s₂.resume m (g.step c).2 (g.step c).1 = (r, s₃)) :
    r = some (.update m.kind m.text (.ok ())) ∧ s₃.world.host.now = g₁.now := by
  obtain ⟨hsame, hlife, hshrinks⟩ := hi.keeps
  obtain ⟨hlife₂, hhost₂, -⟩ := World.site?_eq_some hg
  obtain rfl : c = .moving (.first m.kind m.canonical) previous := by
    rw [hsame, hu] at hu₂
    exact (congrArg Prod.snd (Option.some.inj hu₂)).symm
  have hregistry : g.registry = g₁.registry := by
    rw [hlife, hw] at hlife₂
    exact (Lifecycle.running.inj hlife₂).symm
  rw [hw, hhost₂] at hshrinks
  obtain ⟨hs, -, hunder⟩ := (hi.reachable hr).sound.site hg
  have hpursues := hunder hu₂
  have ha : g.Admits m.kind m.canonical := hpursues.carried.1
  have hland := hs.step_lands ha (Kind.canonical_canonicalize hpursues.valid.canonical)
    (hunimpeded.of_shrinks (by rw [hregistry]) hshrinks) previous
  rw [hland] at hgo
  cases hgo
  exact ⟨rfl, (Site.now_step hs _).trans hshrinks.now⟩

/-- A request is granted by its first attempt, in no time. -/
structure Lands (s : Scene) (t : Site) (m : Move) : Prop where
  /-- Left to itself it makes one attempt, or none if there is nothing to change. -/
  alone : (s.world.update m.kind m.text).1 = .ok () ∧
    (s.world.update m.kind m.text).2.host.now = s.world.host.now ∧
    (s.world.update m.kind m.text).2.host.attempts =
      (if t.isCurrent m.kind m.canonical then [] else [⟨t.now, m.canonical.toList⟩]) ++
        s.world.host.attempts
  /-- Whatever happens inside the registry between its turn and the attempt. -/
  inside : ∀ {before after : List Move} {r r' : Option Notice} {s₁ s₂ s₃ : Scene} {g : Site}
      {c : Change}, s.underway = none → s.waiting = before ++ m :: after →
    resume { s with waiting := before ++ after } m (t.beginChange m.kind m.canonical).2
      (t.beginChange m.kind m.canonical).1 = (r, s₁) →
    r = some (.update m.kind m.text (.ok ())) ∨
      (Inside s₁ s₂ → s₂.underway = some (m, c) → s₂.world.site? = some g →
        s₂.resume m (g.step c).2 (g.step c).1 = (r', s₃) →
        r' = some (.update m.kind m.text (.ok ())) ∧ s₃.world.host.now = s.world.host.now)
  /-- What may be in its way is no socket that the registry has left open: no step of it does so. -/
  strays : ∀ {s' : Scene} {r : Option Notice} {id : SocketId}, Step False s r s' →
    s'.world.host.Stray s'.world.loops id → s.world.host.Stray s.world.loops id ∨
      (∃ time, (s.world.host.sleep time).Stray s.world.loops id) ∨
      ∃ h, s.world.Shares h ∧ s' = { s with world := { s.world with host := h } }

/-- A request to move a kind of a running registry is granted at once, in whatever way the registry
has come there, if the kind has a handler and the certificates that its policy takes, the address
can be bound, and no socket is in the way that stays open. -/
theorem update_lands (hr : s.Reachable) (ht : s.world.site? = some t) (hm : m.Valid)
    (hne : m.canonical ≠ "") {router : Router} (hserver : t.registry.servers m.kind = some router)
    (hpolicy : ∃ tls, t.registry.bundle.acceptorFor m.kind = .ok tls)
    (hbind : t.CanBind m.kind m.canonical)
    (hfree : ∀ e ∈ t.host.sockets, t.InWay m.kind e.1 → e.2.listening = true →
      ¬e.2.Obstructs m.kind t.now m.canonical)
    (hquiet : ∀ e ∈ t.host.agenda, t.now < e.1) : s.Lands t m := by
  obtain ⟨hs, -⟩ := hr.sound.site ht
  obtain ⟨hlife, hhost, -⟩ := World.site?_eq_some ht
  have hunimpeded := hs.unimpeded_close hpolicy hbind hfree hquiet
  refine ⟨?_, fun {before after r r' s₁ s₂ s₃ g c} free queued hbegin => ?_,
    fun hst h => hr.sound.stray_step (by simp [World.stage, hlife, Lifecycle.stage]) hst h⟩
  · cases hn : t.isCurrent m.kind m.canonical with
    | true =>
      rw [(World.keeps_of_current hm.network hm.canonical ht hn).update]
      exact ⟨rfl, rfl, rfl⟩
    | false =>
      rw [World.update_eq hm ht hn, hhost]
      exact hs.change_lands (hr.canonical ht) hm.network hserver
        (Kind.canonical_canonicalize hm.canonical) hne hn hunimpeded
  · have hr₁ := hr.step (.begin free queued ht hbegin)
    cases hn : t.isCurrent m.kind m.canonical with
    | true =>
      rw [Site.beginChange, if_pos hn] at hbegin
      cases hbegin
      exact Or.inl rfl
    | false =>
      rw [Site.beginChange_eq hn fun _ => by rw [hserver]; rfl, if_neg hne] at hbegin
      cases hbegin
      refine Or.inr fun hinside hu₂ hg hgo => ?_
      obtain ⟨hok, hnow⟩ := hinside.lands hr₁ rfl rfl hunimpeded hu₂ hg hgo
      exact ⟨hok, by rw [hnow, hs.now_close, hhost]; rfl⟩

end Scene

/-! ### From one address to all, on the same port -/

/-- A request for the port that administrators on the network have at one address, at all of them. -/
def Move.widened : Move := ⟨.networkAdmin, "0.0.0.0:7001", "0.0.0.0:7001"⟩

theorem Move.valid_widened : Move.widened.Valid where
  network := rfl
  canonical := by decide +kernel

namespace World

/-- The one name of the address that is asked for. -/
theorem names_widened (time : Nat) (n : SocketName) :
    Kind.networkAdmin.Names time "0.0.0.0:7001" n ↔ n = .inet (.v4 ⟨0, 0, 0, 0⟩ 7001) := by
  have haddresses : Net.addresses time "0.0.0.0:7001".toList = .ok [.v4 ⟨0, 0, 0, 0⟩ 7001] :=
    Net.addresses_of_ofText? (a := .v4 ⟨0, 0, 0, 0⟩ 7001) (by decide +kernel) time
  show (∃ as a, Net.addresses time "0.0.0.0:7001".toList = .ok as ∧ a ∈ as ∧ n = .inet a) ↔ _
  rw [haddresses]
  simp

/-- Their own socket, and no other, stands in the way of that request. -/
theorem watched_eq : ∃ (t : Site) (l : Loop), watched.site? = some t ∧
    t.registry.servers .networkAdmin = some .greeting ∧
    (∃ tls, t.registry.bundle.acceptorFor .networkAdmin = .ok tls) ∧
    t.isCurrent .networkAdmin "0.0.0.0:7001" = false ∧
    t.host.Offers .networkAdmin "0.0.0.0:7001" (.inet (.v4 ⟨0, 0, 0, 0⟩ 7001)) ∧
    t.host.agenda = [] ∧ t.loops[1]? = some l ∧ 1 ∈ t.loopsOf .networkAdmin ∧ t.Sole l ∧
    (∃ e ∈ t.host.sockets, e.2.bars (.inet (.v4 ⟨0, 0, 0, 0⟩ 7001)) = true) ∧
    ∀ e ∈ t.host.sockets, e.2.bars (.inet (.v4 ⟨0, 0, 0, 0⟩ 7001)) = true →
      e.1 = l.listener.socket := by
  have h : (watched.site?.any fun t => t.loops[1]?.any fun l =>
      t.registry.servers .networkAdmin = some .greeting ∧
      (t.registry.bundle.acceptorFor .networkAdmin).toOption.isSome ∧
      t.isCurrent .networkAdmin "0.0.0.0:7001" = false ∧
      t.host.refusals.head?.join = none ∧
      t.host.agenda.isEmpty ∧ 1 ∈ t.loopsOf .networkAdmin ∧
      (∀ d ∈ t.host.descriptors, d.2.target = .socket l.listener.socket →
        l.listener.descriptor = some d.1) ∧
      (t.host.sockets.any fun e => e.2.bars (.inet (.v4 ⟨0, 0, 0, 0⟩ 7001))) = true ∧
      ∀ e ∈ t.host.sockets, e.2.bars (.inet (.v4 ⟨0, 0, 0, 0⟩ 7001)) = true →
        e.1 = l.listener.socket) = true := by decide +kernel
  obtain ⟨t, ht, h⟩ := (Option.any_eq_true _ _).mp h
  obtain ⟨l, hl, h⟩ := (Option.any_eq_true _ _).mp h
  obtain ⟨hserver, hpolicy, hn, hrefusals, hquiet, hid, hsole, hany, hbars⟩ := of_decide_eq_true h
  refine ⟨t, l, ht, hserver, ?_, hn, ⟨hrefusals, ?_⟩, List.isEmpty_iff.mp hquiet, hl, hid, hsole,
    List.any_eq_true.mp hany, hbars⟩
  · cases hp : t.registry.bundle.acceptorFor .networkAdmin with
    | ok tls => exact ⟨tls, rfl⟩
    | error e =>
      rw [hp] at hpolicy
      cases hpolicy
  · obtain ⟨as, a, has, ha, he⟩ := (names_widened t.host.now _).mpr rfl
    obtain rfl := SocketName.inet.inj he
    exact ⟨as, _, has, ha, rfl, List.mem_singleton.mpr rfl⟩

end World

namespace Scene

/-- The registry of a host whose TCP socket does not listen, with that request. -/
def watched : Scene := ⟨World.watched, none, [.widened], none⟩

theorem reachable_widened : watched.Reachable := by
  obtain ⟨t, -, ht, -, -, hn, -⟩ := World.watched_eq
  have hn : t.isCurrent Move.widened.kind Move.widened.canonical = false := hn
  exact World.reachable_watched.step (.queue rfl (World.check_eq Move.valid_widened ht hn))

theorem update_lands_widened : ∃ t, watched.Reachable ∧ watched.world.site? = some t ∧
    (∃ e ∈ t.host.sockets, e.2.Obstructs .networkAdmin t.now "0.0.0.0:7001") ∧
    (∀ e ∈ t.host.sockets, t.InWay .networkAdmin e.1 →
      ¬e.2.Obstructs .networkAdmin t.now "0.0.0.0:7001") ∧ watched.Lands t .widened := by
  obtain ⟨t, l, ht, hserver, hpolicy, -, hoffers, hquiet, hl, hid, hsole, hown, honly⟩ :=
    World.watched_eq
  have hname (n : SocketName) := World.names_widened t.now n
  have hclear : ∀ e ∈ t.host.sockets, t.InWay .networkAdmin e.1 →
      ¬e.2.bars (.inet (.v4 ⟨0, 0, 0, 0⟩ 7001)) = true := fun e he hway hbars =>
    (hway 1 l hl (honly e he hbars).symm hsole).2 hid
  have hfree : ∀ e ∈ t.host.sockets, t.InWay .networkAdmin e.1 →
      ¬e.2.Obstructs .networkAdmin t.now "0.0.0.0:7001" := by
    rintro e he hway ⟨n, hn, hbars⟩
    obtain rfl := (hname n).mp hn
    exact hclear e he hway hbars
  obtain ⟨e, he, hbars⟩ := hown
  exact ⟨t, reachable_widened, ht, ⟨e, he, _, (hname _).mpr rfl, hbars⟩, hfree,
    update_lands reachable_widened ht Move.valid_widened (by decide) hserver hpolicy
      ⟨_, hoffers, fun e he hway hbars => absurd hbars (hclear e he hway)⟩
      (fun e he hway _ => hfree e he hway) (by rw [hquiet]; nofun)⟩

end Scene
end Portkeeper
