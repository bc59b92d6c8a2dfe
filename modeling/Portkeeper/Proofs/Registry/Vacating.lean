import Portkeeper.Proofs.Host.Binding
import Portkeeper.Proofs.Registry.Updating

/-!
What is out of the way once a kind has made way. Closing does nothing but take sockets and
descriptors away, and of the sockets that loops have to themselves only those are left that other
kinds are served on: whatever else a loop had was closed with it, however it came to be closed.
-/

set_option autoImplicit false

namespace Portkeeper

/-! ### Hosts on which things are closed -/

/-- A host on which nothing has happened but that sockets and descriptors were closed, and files
removed. -/
structure Host.Shrinks (h h' : Host) : Prop where
  now : h'.now = h.now
  agenda : h'.agenda = h.agenda
  refusals : h'.refusals = h.refusals
  picked : h'.picked = h.picked
  attempts : h'.attempts = h.attempts
  sockets : ∀ e ∈ h'.sockets, e ∈ h.sockets
  descriptors : ∀ e ∈ h'.descriptors, e ∈ h.descriptors

namespace Host.Shrinks

theorem refl (h : Host) : h.Shrinks h := ⟨rfl, rfl, rfl, rfl, rfl, fun _ he => he, fun _ he => he⟩

theorem trans {a b c : Host} (hab : a.Shrinks b) (hbc : b.Shrinks c) : a.Shrinks c :=
  ⟨hbc.now.trans hab.now, hbc.agenda.trans hab.agenda, hbc.refusals.trans hab.refusals,
    hbc.picked.trans hab.picked, hbc.attempts.trans hab.attempts,
    fun e he => hab.sockets e (hbc.sockets e he),
    fun e he => hab.descriptors e (hbc.descriptors e he)⟩

theorem closeSocket (h : Host) (id : SocketId) : h.Shrinks (h.closeSocket id) :=
  ⟨rfl, rfl, rfl, rfl, rfl, fun _ he => (Table.mem_erase.mp he).1, fun _ he => he⟩

theorem closeDescriptor (h : Host) (fd : Int) : h.Shrinks (h.closeDescriptor fd) := by
  rcases h.closeDescriptor_cases fd with ⟨he, -⟩ | ⟨b, id, -, -, he⟩
  · rw [he]
    exact ⟨rfl, rfl, rfl, rfl, rfl, fun _ he => he, fun _ he => (Table.mem_erase.mp he).1⟩
  · rw [he]
    exact ⟨rfl, rfl, rfl, rfl, rfl, fun _ he => (Table.mem_erase.mp he).1,
      fun _ he => (Table.mem_erase.mp he).1⟩

theorem drop (h : Host) (l : Listener) : h.Shrinks (h.drop l) := by
  have hletGo : h.Shrinks (h.letGo l) := by
    unfold Host.letGo
    split
    · exact closeDescriptor h _
    · exact closeSocket h _
  obtain ⟨files, he, -⟩ := h.drop_keeps l
  rw [he]
  exact ⟨hletGo.now, hletGo.agenda, hletGo.refusals, hletGo.picked, hletGo.attempts,
    hletGo.sockets, hletGo.descriptors⟩

end Host.Shrinks

theorem Host.isOpen_iff_mem {h : Host} {id : SocketId} :
    h.isOpen id = true ↔ ∃ e ∈ h.sockets, e.1 = id := by
  unfold isOpen Table.get?
  rw [Option.isSome_map, List.find?_isSome]
  simp only [decide_eq_true_eq]

/-- When nothing is due there is nothing to wait for. -/
theorem Host.sleep_zero [Platform] {h : Host} (hq : ∀ e ∈ h.agenda, h.now < e.1) :
    h.sleep 0 = h := by
  have hdue : h.agenda.filter (·.1 ≤ h.now) = [] :=
    List.filter_eq_nil_iff.mpr fun e he => by simpa using hq e he
  have hrest : h.agenda.filter (fun e => h.now < e.1) = h.agenda :=
    List.filter_eq_self.mpr fun e he => by simpa using hq e he
  unfold sleep catchUp
  simp only [Nat.add_zero, hdue, hrest, List.mergeSort_nil, List.foldl_nil]

/-- What a listener has let go of is open only because somebody else has it. -/
theorem Listener.Released.shared_of_mem {l : Listener} {h : Host} (hl : l.Released h) (hs : h.Sound)
    {e : SocketId × Socket} (he : e ∈ h.sockets) (hid : l.socket = e.1) :
    ∃ d ∈ h.descriptors, d.2.target = .socket l.socket ∧ l.descriptor ≠ some d.1 := by
  obtain ⟨d, hd, ht⟩ := hl.shared (Host.isOpen_iff_mem.mpr ⟨e, he, hid.symm⟩)
  refine ⟨d, hd, ht, fun hdesc => ?_⟩
  have hnone := hl.inherited d.1 hdesc
  rw [Table.get?_of_mem hs.distinct hd] at hnone
  cases hnone

/-! ### What a loop has to itself -/

namespace Site

variable {t : Site} {k : Kind}

/-- A loop has its socket to itself: no descriptor but its own stands for it, and so closing the loop
is closing the socket. -/
def Sole (t : Site) (l : Loop) : Prop :=
  ∀ d ∈ t.host.descriptors, d.2.target = .socket l.listener.socket →
    l.listener.descriptor = some d.1

/-- A socket that may be in the way of a kind. Those of the kind itself are not, and neither are
those of loops that were closed, as far as the loops had them to themselves. -/
def InWay (t : Site) (k : Kind) (id : SocketId) : Prop :=
  ∀ i l, t.loops[i]? = some l → l.listener.socket = id → t.Sole l →
    l.isOpen = true ∧ i ∉ t.loopsOf k

theorem stable_shrinks (h : Host) : Stable fun h' _ => h.Shrinks h' :=
  ⟨fun hs _ _ => hs.trans (.drop _ _)⟩

variable [Platform]

theorem Sound.close_shrinks (hs : t.Sound) (k : Kind) : t.host.Shrinks (t.close k).2.host :=
  close_stable (stable_shrinks t.host) hs (.refl _) k

/-- Once a kind has made way, nothing is open but what may be in its way. -/
theorem Sound.inWay_of_close (hs : t.Sound) {e : SocketId × Socket}
    (he : e ∈ (t.close k).2.host.sockets) : e ∈ t.host.sockets ∧ t.InWay k e.1 := by
  have hshrinks := hs.close_shrinks k
  have hclosed := hs.confined_close k
  refine ⟨hshrinks.sockets e he, fun i l hl hid hsole => ?_⟩
  -- What was let go of is open only through another descriptor, and this loop's socket has none.
  have hkept : ¬l.listener.Released (t.close k).2.host := by
    intro hreleased
    obtain ⟨d, hd, htarget, hne⟩ := hreleased.shared_of_mem hclosed.sound.wired.sound he hid
    exact hne (hsole d (hshrinks.descriptors d hd) htarget)
  have hother : i ∉ t.loopsOf k := fun hi => hkept (hclosed.replaced hl hi).2.1
  refine ⟨?_, hother⟩
  cases ho : l.isOpen with
  | true => rfl
  | false => exact absurd (hclosed.sound.wired.released (hclosed.loops hl hother) ho) hkept

end Site

/-! ### Sockets that no loop has -/

/-- A socket that is open, and that no loop has ever had. -/
def Host.Stray (h : Host) (loops : List Loop) (id : SocketId) : Prop :=
  h.isOpen id = true ∧ ∀ (i : LoopId) (l : Loop), loops[i]? = some l → l.listener.socket ≠ id

theorem Loop.exists_getElem?_set {loops : List Loop} {id i : LoopId} {l l' m : Loop}
    (hl : loops[id]? = some l) (hk : l'.listener = l.listener) (hm : loops[i]? = some m) :
    ∃ m', (loops.set id l')[i]? = some m' ∧ m'.listener = m.listener := by
  by_cases hi : i = id
  · subst hi
    obtain rfl : l = m := Option.some.inj (hl.symm.trans hm)
    exact ⟨l', List.getElem?_set_self (List.getElem?_eq_some_iff.mp hl).1, hk⟩
  · exact ⟨m, (List.getElem?_set_ne (Ne.symm hi)).trans hm, rfl⟩

namespace Host

variable {h h' : Host} {loops loops' : List Loop} {id : SocketId}

/-- Where nothing but closing happens no socket goes astray. -/
theorem Stray.of_shrinks (hs : h'.Stray loops' id) (hh : h.Shrinks h')
    (hl : ∀ (i : LoopId) (l : Loop), loops[i]? = some l →
      ∃ l', loops'[i]? = some l' ∧ l'.listener = l.listener) : h.Stray loops id := by
  obtain ⟨e, he, hid⟩ := isOpen_iff_mem.mp hs.1
  refine ⟨isOpen_iff_mem.mpr ⟨e, hh.sockets e he, hid⟩, fun i l hi => ?_⟩
  obtain ⟨l', hl', hsame⟩ := hl i l hi
  exact hsame ▸ hs.2 i l' hl'

theorem stable_stray (h : Host) (loops : List Loop) (id : SocketId) :
    Stable fun h' loops' => h'.Stray loops' id → h.Stray loops id where
  close hP hl _ hs := hP (hs.of_shrinks (.drop _ _) fun _ _ hm =>
    Loop.exists_getElem?_set hl (Loop.listener_close _ _) hm)

end Host

/-- An attempt opens one socket at most, and that one is its listener's. -/
theorem Bid.isOpen_attempt [Platform] {b : Bid} {u : Bundle} {h h' : Host}
    {a : Bid ⊕ Except EndpointError Listener} (hs : h.Sound) (ha : b.attempt u h = (a, h'))
    {id : SocketId} (ho : h'.isOpen id = true) :
    (h.sleep b.pause).isOpen id = true ∨ ∃ l, a = .inr (.ok l) ∧ l.socket = id := by
  unfold attempt at ha
  split at ha
  · rename_i l h₁ hl
    cases ha
    have hopens : (h.sleep b.pause).Opens h' b.kind b.address u l :=
      Host.listen_spec (hs.sleep _) hl
    obtain ⟨n, -, hg⟩ := hopens.name
    rw [Host.isOpen, hg.sockets] at ho
    split at ho
    · rename_i hid
      exact Or.inr ⟨l, rfl, hopens.socket.trans hid.symm⟩
    · exact Or.inl ho
  · rename_i e h₁ hl
    have hdeclines : (h.sleep b.pause).Declines h₁ b.kind b.address e :=
      Host.listen_spec (hs.sleep _) hl
    have hsame : h' = h₁ := by
      split at ha <;> cases ha <;> rfl
    rw [Host.isOpen, hsame, hdeclines.steady.sockets] at ho
    exact Or.inl ho

/-- So a step of a change leaves no socket astray: what was opened is its loop's. -/
theorem Site.Sound.stray_step [Platform] {t : Site} (hs : t.Sound) {c : Change} (hc : t.Carries c)
    (hu : c.result? = none) {id : SocketId}
    (h : (t.step c).2.host.Stray (t.step c).2.loops id) :
    (t.host.sleep c.pause).Stray t.loops id := by
  have lost {b : Bid} {a : Bid ⊕ Except EndpointError Listener} {h : Host}
      (ha : b.attempt t.registry.bundle t.host = (a, h)) (hno : ∀ l, a ≠ .inr (.ok l))
      (hstray : h.Stray t.loops id) : (t.host.sleep b.pause).Stray t.loops id := by
    refine ⟨(Bid.isOpen_attempt hs.wired.sound ha hstray.1).resolve_right ?_, hstray.2⟩
    rintro ⟨l, hl, -⟩
    exact hno l hl
  have won {b : Bid} {l : Listener} {h : Host} (hb : t.Admits b.kind b.address)
      (ha : b.attempt t.registry.bundle t.host = (.inr (.ok l), h))
      (hstray : (Site.bring { t with host := h } l b.address).2.host.Stray
        (Site.bring { t with host := h } l b.address).2.loops id) :
      (t.host.sleep b.pause).Stray t.loops id := by
    obtain ⟨router, hbring⟩ := hs.bring_won hb ha
    rw [hbring] at hstray
    -- What the attempt has opened belongs to the loop that is added for it, behind all others.
    refine ⟨(Bid.isOpen_attempt hs.wired.sound ha hstray.1).resolve_right ?_, fun i m hm => ?_⟩
    · rintro ⟨l', hl', hid⟩
      cases hl'
      refine hstray.2 t.loops.length ⟨l, router, none, []⟩ ?_ hid
      rw [getElem?_hand, if_pos rfl]
    · refine hstray.2 i m ?_
      rw [getElem?_hand, if_neg (Nat.ne_of_lt (List.getElem?_eq_some_iff.mp hm).1)]
      exact hm
  obtain ⟨c', s', hstep, hst⟩ := t.exists_stepped c
  rw [hstep] at h
  cases hst with
  | ended => cases hu
  | moves _ ha => exact lost ha nofun h
  | moved ha => exact won hc.1 ha h
  | failed ha => exact lost ha nofun h
  | returns _ ha => exact lost ha nofun h
  | restores _ ha => exact lost ha nofun h
  | restored ha => exact won hc ha h
  | stranded ha => exact lost ha nofun h

namespace Scene

variable [Platform]

/-- Whatever a registry does once it has been started, it leaves no socket open that no loop has.
What no loop has was there before, or has come while time passed, or others have brought it. -/
theorem Sound.stray_step {s s' : Scene} (hs : s.Sound) (hn : s.world.stage ≠ .unstarted)
    {r : Option Notice} (hst : Step False s r s') {id : SocketId}
    (h : s'.world.host.Stray s'.world.loops id) :
    s.world.host.Stray s.world.loops id ∨
      (∃ time, (s.world.host.sleep time).Stray s.world.loops id) ∨
      ∃ h, s.world.Shares h ∧ s' = { s with world := { s.world with host := h } } := by
  have site {t : Site} (ht : s.world.site? = some t) (hstray : t.host.Stray t.loops id) :
      s.world.host.Stray s.world.loops id := by
    obtain ⟨-, hh, hl⟩ := World.site?_eq_some ht
    rwa [hh, hl]
  cases hst with
  | up free hr =>
    rw [World.up_refused hn] at hr
    cases hr
    exact Or.inl h
  | giveUp free hl ha => exact absurd (by rw [World.stage, hl]; rfl) hn
  | begin free hw ht hr =>
    obtain ⟨hsite, -⟩ := hs.site ht
    rw [(resume_cases hr).1] at h
    exact Or.inl (site ht
      (Site.beginChange_stable (Host.stable_stray _ _ id) hsite (fun h => h) _ _ h))
  | go hu ht hr =>
    obtain ⟨hsite, -, hunder⟩ := hs.site ht
    have hp := hunder hu
    rw [(resume_cases hr).1] at h
    obtain ⟨-, hh, hl⟩ := World.site?_eq_some ht
    rw [hh, hl]
    exact Or.inr (Or.inl ⟨_, hsite.stray_step hp.carried hp.undone h⟩)
  | down free hd =>
    obtain ⟨t, ht, -, rfl⟩ := World.beginDown_ok hd
    exact Or.inl (site ht (Site.closeAll_stable (Host.stable_stray t.host t.loops id)
      (hs.site ht).1 (fun h => h) h))
  | noDown free hd =>
    obtain rfl := World.beginDown_error hd
    exact Or.inl h
  | fault i => exact Or.inl (World.fault_stable (Host.stable_stray _ _ id) (fun h => h) i h)
  | visit hl hm =>
    exact Or.inl (h.of_shrinks (.refl _) fun _ _ hi => Loop.exists_getElem?_set hl hm.listener hi)
  | wait time => exact Or.inr (Or.inl ⟨time, h⟩)
  | others ho ht => exact Or.inr (Or.inr ⟨_, ho, rfl⟩)
  | _ => exact Or.inl h

end Scene
end Portkeeper
