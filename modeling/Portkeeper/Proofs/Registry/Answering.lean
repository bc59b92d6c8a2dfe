import Portkeeper.Proofs.Registry.Updating

/-!
What a caller knows who was told that a kind is at an address. Its loop has not exited. That is less than
that its socket is open, since a loop whose socket was closed lives on with its connections, and less
than that the socket has the recorded address, since a vsock address can ask for a port and be recorded
all the same.
-/

set_option autoImplicit false

namespace Portkeeper
namespace Site

variable [Platform]

/-- The socket of a kind is open, and bound at the address recorded for the kind. -/
def Answers (t : Site) (k : Kind) : Prop :=
  ∃ (e : Entry) (id : LoopId) (l : Loop) (sk : Socket), t.registry.entries k = some e ∧
    e.serving = some id ∧ t.loops[id]? = some l ∧ l.isOpen = true ∧
    t.host.sockets.get? l.listener.socket = some sk ∧ k.BoundAt e.address sk.name

variable {t : Site} {k : Kind} {address : String}

/-- A kind answers when its loop is open and its address does not hide a port that was picked. -/
theorem Serves.answers_iff {e : Entry} {id : LoopId} {l : Loop} (hv : t.Serves k e id l)
    (he : t.registry.entries k = some e) (hk : k.isNetwork = true) :
    t.Answers k ↔ l.isOpen = true ∧ ¬k.PicksUnseen e.address := by
  constructor
  · rintro ⟨e', id', l', sk, he', hid, hl, ho, hsk, hb⟩
    obtain rfl : e = e' := Option.some.inj (he.symm.trans he')
    obtain rfl : id = id' := Option.some.inj (hv.serving.symm.trans hid)
    obtain rfl : l = l' := Option.some.inj (hv.loop.symm.trans hl)
    obtain ⟨sk', hsk', hrec, -⟩ := hv.socket ho
    obtain rfl : sk = sk' := Option.some.inj (hsk.symm.trans hsk')
    exact ⟨ho, (Kind.Recorded.boundAt_iff hk (hrec hk)).mp hb⟩
  · rintro ⟨ho, hno⟩
    obtain ⟨sk, hsk, hrec, -⟩ := hv.socket ho
    exact ⟨e, id, l, sk, he, hv.serving, hv.loop, ho, hsk,
      (Kind.Recorded.boundAt_iff hk (hrec hk)).mpr hno⟩

/-- An address is current for a kind whose loop has not exited. -/
theorem Sound.of_current (hs : t.Sound) (hc : t.isCurrent k address = true) (hne : address ≠ "") :
    ∃ e id l, t.registry.entries k = some e ∧ t.Serves k e id l ∧ l.isFinished t.now = false := by
  unfold isCurrent at hc
  cases he : t.registry.entries k with
  | none => simp [he, hne] at hc
  | some e =>
    obtain ⟨id, l, hv⟩ := hs.serves he
    refine ⟨e, id, l, rfl, hv, ?_⟩
    simp only [he, hv.serving, Option.any_some, isRunning, hv.loop, Bool.and_eq_true,
      Bool.not_eq_true'] at hc
    exact hc.2

omit [Platform] in
/-- A kind that was just handed to a loop is current at the address recorded for it. -/
theorem isCurrent_hand (t : Site) (l : Listener) (router : Router) (requested : String) :
    (t.hand l router requested).isCurrent l.kind (l.recordAs t.host requested) = true := by
  unfold isCurrent isRunning
  rw [entries_hand, if_pos rfl]
  dsimp only [Option.any_some]
  rw [getElem?_hand, if_pos rfl]
  simp [Loop.isFinished]

omit [Platform] in
/-- Only a change that has nothing to do is over at once. -/
theorem beginChange_done (hd : (t.beginChange k address).1 = .done (.ok ())) (hne : address ≠ "") :
    t.isCurrent k address = true ∧ (t.beginChange k address).2 = t := by
  rcases t.beginChange_cases k address with ⟨hc, hb⟩ | ⟨-, ⟨-, -, hb⟩ | ⟨he, -⟩ | ⟨-, -, hb⟩⟩
  · rw [hb]
    exact ⟨hc, rfl⟩
  · rw [hb] at hd
    cases hd
  · exact absurd he hne
  · rw [hb] at hd
    cases hd

end Site

namespace Scene

variable [Platform] {s s' : Scene} {k : Kind} {text : String}

/-- Whoever is told that a kind was moved can rely on an address that is current. -/
theorem Sound.current_of_update (hs : s.Sound) (hb : Text.trim text.toList ≠ [])
    (hst : Step False s (some (.update k text (.ok ()))) s') : ∃ t address,
      s'.world.site? = some t ∧ t.Sound ∧ k.isNetwork = true ∧ address ≠ "" ∧
      t.isCurrent k address = true := by
  have hs' := hs.step hst
  generalize hr : some (Notice.update k text (.ok ())) = r at hst
  cases hst with
  | keep free hc =>
    cases hr
    obtain ⟨canonical, t, hk, hcan, ht, hcur⟩ := World.check_ok_none hc
    exact ⟨t, canonical, ht, (hs.site ht).1, hk,
      (Kind.formed_of_nonblank hcan hb).ne_empty hk, hcur⟩
  | begin free hw ht hres =>
    rename_i t m before after
    have hm : m.Valid := hs.waiting m (by simp [hw])
    obtain ⟨hworld, -, -, ⟨o, hdone, ho, -⟩ | ⟨hnone, -⟩⟩ := resume_cases hres
    · rw [← hr] at ho
      cases ho
      have hne := (Kind.formed_of_nonblank hm.canonical hb).ne_empty hm.network
      obtain ⟨hcur, hsame⟩ := Site.beginChange_done hdone hne
      rw [hsame] at hworld
      exact ⟨t, m.canonical, hworld ▸ World.site?_ofSite t, (hs.site ht).1, hm.network, hne, hcur⟩
    · rw [hnone] at hr
      cases hr
  | go hu ht hres =>
    rename_i t m c
    obtain ⟨hsite, -, hunder⟩ := hs.site ht
    have hp := hunder hu
    have hsound := (hsite.step hp.carried).1
    obtain ⟨hworld, -, -, ⟨o, hdone, ho, -⟩ | ⟨hnone, -⟩⟩ := resume_cases hres
    · rw [← hr] at ho
      cases ho
      -- A change that is under way is not over, and one that comes to nothing does not end well.
      rcases hsite.step_cases hp.carried with ⟨o, rfl, -⟩ | ⟨_, _, -, -, -, -, hno⟩ |
        ⟨b, h, l, router, ha, hw, -, he, ⟨previous, rfl, -⟩ | ⟨failure, -, hfail⟩⟩
      · cases hp.undone
      · exact absurd hdone hno
      · obtain ⟨h₁, -, -, -, hopens⟩ := hw
        obtain ⟨hkind, haddress⟩ := hp.target
        have hcur := Site.isCurrent_hand { t with host := h } l router b.address
        rw [he] at hsound hworld
        obtain ⟨id, l', hv⟩ := hsound.serves ((Site.entries_hand _ _ _ _ _).trans (if_pos rfl))
        rw [hopens.kind, hkind] at hcur hv
        exact ⟨_, _, hworld ▸ World.site?_ofSite _, hsound, hp.valid.network,
          (hv.formed hp.valid.network).ne_empty hp.valid.network, hcur⟩
      · rw [hdone] at hfail
        cases hfail
    · rw [hnone] at hr
      cases hr
  | _ => cases hr

/-- Whoever is told that a kind was moved knows that the kind is recorded, with a loop that has not
exited. Its socket is open and bound at the recorded address unless the loop was closed and waits for
connections, or the address is one for which a vsock port was picked. -/
theorem update_acknowledged (hr : s.Reachable) (hb : Text.trim text.toList ≠ [])
    (hst : Step False s (some (.update k text (.ok ()))) s') :
    ∃ (t : Site) (e : Entry) (id : LoopId) (l : Loop), s'.world.site? = some t ∧
      t.registry.entries k = some e ∧ t.Serves k e id l ∧ l.isFinished t.now = false ∧
      (t.Answers k ↔ l.isOpen = true ∧ ¬k.PicksUnseen e.address) := by
  obtain ⟨t, address, ht, hsite, hk, hne, hcur⟩ := hr.sound.current_of_update hb hst
  obtain ⟨e, id, l, he, hv, hf⟩ := hsite.of_current hcur hne
  exact ⟨t, e, id, l, ht, he, hv, hf, hv.answers_iff he hk⟩

end Scene

/-! ### A vsock port that was picked -/

/-- Consoles are to be reached over vsock, at a port that the system picks. -/
def Config.picking : Config where
  directory := "s"
  unixSocket := none
  bundle := .least
  servers := fun k => if k ∈ [.localAdmin, .vmConsole] then some .greeting else none
  addresses := fun k => if k = .vmConsole then some "any:4294967295" else none
  handedOver := some 1
  firstDescriptor := Config.usualFirstDescriptor

namespace World

@[irreducible] def picking : World := ((unstarted Host.handed).up Config.picking).2

theorem reachable_picking : Scene.Reachable ⟨picking, none, [], none⟩ := by
  unfold picking
  exact Scene.reachable_up Host.sound_handed Config.picking

theorem step_picking : Scene.Step False ⟨picking, none, [], none⟩
    (some (.update .vmConsole "any:4294967295" (.ok ()))) ⟨picking, none, [], none⟩ := by
  have hc : picking.check .vmConsole "any:4294967295" = .ok none := by decide +kernel
  exact .keep rfl hc

theorem picking_eq : ∃ (t : Site) (e : Entry), picking.site? = some t ∧
    t.registry.entries .vmConsole = some e ∧ e.address = "4294967295:4294967295" := by
  have h : (picking.site?.any fun t =>
      (t.registry.entries .vmConsole).map Entry.address = some "4294967295:4294967295") = true := by
    decide +kernel
  obtain ⟨t, ht, hd⟩ := (Option.any_eq_true _ _).mp h
  obtain ⟨e, he, ha⟩ := Option.map_eq_some_iff.mp (of_decide_eq_true hd)
  exact ⟨t, e, ht, he, ha⟩

theorem picksUnseen_picking : Kind.vmConsole.PicksUnseen "4294967295:4294967295" :=
  ⟨rfl, ⟨Net.Vsock.anyCid, Net.Vsock.anyPort⟩, by decide, rfl⟩

end World

namespace Scene

theorem update_acknowledged_picking : ∃ (s s' : Scene) (t : Site) (e : Entry) (id : LoopId)
    (l : Loop), s.Reachable ∧
    Step False s (some (.update .vmConsole "any:4294967295" (.ok ()))) s' ∧
    s'.world.site? = some t ∧ t.registry.entries .vmConsole = some e ∧
    t.Serves .vmConsole e id l ∧ l.isFinished t.now = false ∧
    (t.Answers .vmConsole ↔ l.isOpen = true ∧ ¬Kind.vmConsole.PicksUnseen e.address) := by
  have hb : Text.trim "any:4294967295".toList ≠ [] := by decide
  obtain ⟨t, e, id, l, h⟩ := update_acknowledged World.reachable_picking hb World.step_picking
  exact ⟨_, _, t, e, id, l, World.reachable_picking, World.step_picking, h⟩

/-- A request can be answered as if all were well, although the socket does not have the address that is
recorded. -/
theorem update_acknowledged_elsewhere : ∃ (s s' : Scene) (t : Site), s.Reachable ∧
    Text.trim "any:4294967295".toList ≠ [] ∧
    Step False s (some (.update .vmConsole "any:4294967295" (.ok ()))) s' ∧
    s'.world.site? = some t ∧ ¬t.Answers .vmConsole := by
  obtain ⟨t, e, ht, he, ha⟩ := World.picking_eq
  obtain ⟨hsite, -⟩ := World.reachable_picking.sound.site ht
  obtain ⟨id, l, hv⟩ := hsite.serves he
  refine ⟨_, _, t, World.reachable_picking, by decide, World.step_picking, ht, fun hans => ?_⟩
  exact ((hv.answers_iff he rfl).mp hans).2 (ha ▸ World.picksUnseen_picking)

end Scene
end Portkeeper
