import Portkeeper.Proofs.Registry.Updating
import Portkeeper.Proofs.Registry.Upkeep

/-!
Kinds that are recorded while their loops accept nothing. A kind comes to this when a socket is taken
over that does not listen, or when accepting on its socket fails and the entry outlives the socket.
Nothing else leads there.
-/

set_option autoImplicit false

namespace Portkeeper

/-- Connections can be made to a socket. -/
def Host.Hears (h : Host) (id : SocketId) : Prop :=
  ∃ sk, h.sockets.get? id = some sk ∧ sk.type = .stream ∧ sk.listening = true

/-- A loop has an open socket that listens. -/
def Loop.Accepts (l : Loop) (h : Host) : Prop := l.isOpen = true ∧ h.Hears l.listener.socket

theorem Loop.Accepts.of_same {l l' : Loop} {h h' : Host} (ha : l.Accepts h)
    (hl : l'.listener = l.listener) (ho : l'.isOpen = l.isOpen)
    (hs : h'.sockets.get? l.listener.socket = h.sockets.get? l.listener.socket) : l'.Accepts h' := by
  unfold Accepts Host.Hears at ha ⊢
  rwa [hl, ho, hs]

/-- A kind is recorded, and yet its loop does not accept. -/
def Site.Idles (t : Site) (k : Kind) : Prop :=
  ∃ (e : Entry) (id : LoopId) (l : Loop), t.registry.entries k = some e ∧ e.serving = some id ∧
    t.loops[id]? = some l ∧ ¬l.Accepts t.host

namespace World

def Idles (w : World) (k : Kind) : Prop := ∃ t, w.site? = some t ∧ t.Idles k

variable {w : World} {t : Site} {k : Kind} {e : Entry}

theorem idles_iff (ht : w.site? = some t) : w.Idles k ↔ t.Idles k := by
  constructor
  · rintro ⟨t', ht', hi⟩
    rwa [Option.some.inj (ht.symm.trans ht')]
  · exact fun hi => ⟨t, ht, hi⟩

theorem provenance?_eq (ht : w.site? = some t) (he : t.registry.entries k = some e) :
    w.provenance? k = some e.provenance := by
  obtain ⟨hl, -, -⟩ := site?_eq_some ht
  simp [provenance?, hl, he]

end World

/-! ### What lets a kind idle -/

namespace Site

variable [Platform] {t t' : Site} {k k' : Kind}

/-- A kind that idles did so before, if it was recorded the same and its loop accepts if it did. -/
theorem Sound.idles_of_same (hs : t.Sound) (hi : t'.Idles k)
    (he : t'.registry.entries k = t.registry.entries k)
    (hl : ∀ {e : Entry} {id : LoopId} {l : Loop}, t.Serves k e id l →
      ∃ l', t'.loops[id]? = some l' ∧ (l.Accepts t.host → l'.Accepts t'.host)) : t.Idles k := by
  obtain ⟨e, id, l', he', hid, hl', hno⟩ := hi
  rw [he] at he'
  obtain ⟨id', l, hv⟩ := hs.serves he'
  obtain rfl : id' = id := Option.some.inj (hv.serving.symm.trans hid)
  obtain ⟨m, hm, ha⟩ := hl hv
  obtain rfl : m = l' := Option.some.inj (hm.symm.trans hl')
  exact ⟨e, id', l, he', hid, hv.loop, fun hc => hno (ha hc)⟩

theorem Serves.idles_iff {e : Entry} {id : LoopId} {l : Loop} (hv : t.Serves k e id l)
    (he : t.registry.entries k = some e) : t.Idles k ↔ ¬l.Accepts t.host := by
  constructor
  · rintro ⟨e', id', l', he', hid, hl', hno⟩
    obtain rfl := Option.some.inj (he.symm.trans he')
    obtain rfl : id = id' := Option.some.inj (hv.serving.symm.trans hid)
    rwa [Option.some.inj (hv.loop.symm.trans hl')]
  · exact fun hno => ⟨e, id, l, he, hv.serving, hv.loop, hno⟩

/-- A loop with an open socket is the one that is recorded for its kind. -/
theorem Sound.recorded (hs : t.Sound) {id : LoopId} {l : Loop} (hl : t.loops[id]? = some l)
    (hk : l.listener.kind = k) (ho : l.isOpen = true) :
    ∃ e, t.registry.entries k = some e ∧ t.Serves k e id l := by
  obtain ⟨k', e, he, hid⟩ := hs.live hl ho
  obtain ⟨id', l', hv⟩ := hs.serves he
  obtain rfl : id' = id := Option.some.inj (hv.serving.symm.trans hid)
  obtain rfl : l' = l := Option.some.inj (hv.loop.symm.trans hl)
  obtain rfl : k' = k := hv.kind.symm.trans hk
  exact ⟨e, he, hv⟩

/-- Two kinds do not share a loop. -/
theorem Serves.not_mem_loopsOf (hs : t.Sound) {e : Entry} {id : LoopId} {l : Loop}
    (hv : t.Serves k e id l) (hk : k ≠ k') : id ∉ t.loopsOf k' := by
  unfold loopsOf
  cases he : t.registry.entries k' with
  | none => simp
  | some e' =>
    obtain ⟨id', l', hv'⟩ := hs.serves he
    dsimp only
    rw [hv'.serving, Option.toList_some, List.mem_singleton]
    rintro rfl
    obtain rfl : l = l' := Option.some.inj (hv.loop.symm.trans hv'.loop)
    exact hk (hv.kind.symm.trans hv'.kind)

theorem Sound.idles_close (hs : t.Sound) (hi : (t.close k').2.Idles k) : t.Idles k := by
  have hc := hs.confined_close k'
  by_cases hk : k = k'
  · obtain ⟨e, -, -, he, -⟩ := hi
    rw [entries_close hs, if_pos hk] at he
    cases he
  · refine hs.idles_of_same hi (hc.entries k hk) fun hv => ?_
    have hid := hv.not_mem_loopsOf hs hk
    exact ⟨_, hc.loops hv.loop hid, fun ha => ha.of_same rfl rfl (hc.sockets hv.loop ha.1 hid)⟩

theorem Sound.idles_beginChange (hs : t.Sound) {address : String}
    (hi : (t.beginChange k' address).2.Idles k) : t.Idles k := by
  rcases t.beginChange_cases k' address with ⟨-, hb⟩ | ⟨-, ⟨-, -, hb⟩ | ⟨-, hb⟩ | ⟨-, -, hb⟩⟩ <;>
    rw [hb] at hi
  · exact hi
  · exact hi
  · exact hs.idles_close hi
  · exact hs.idles_close hi

theorem Sound.idles_later (hs : t.Sound) {h : Host} (hh : t.host.Later h)
    (hi : Idles { t with host := h } k) : t.Idles k := by
  refine hs.idles_of_same hi rfl fun hv => ⟨_, hv.loop, fun ha => ha.of_same rfl rfl ?_⟩
  exact (hh.leaves (hs.wired.bounded hv.loop) (hs.wired.spares hv.loop)).socket

/-- A kind does not idle once a bid for it was won. -/
theorem Sound.idles_step (hs : t.Sound) {c : Change} (hc : t.Carries c) (hi : (t.step c).2.Idles k) :
    t.Idles k := by
  rcases hs.step_cases hc with ⟨r, rfl, hsame⟩ | ⟨k', h, -, hw, hsite, -⟩ |
    ⟨b, h, l, router, ha, hw, hr, hsite, -⟩
  · rwa [hsame] at hi
  · rw [hsite] at hi
    exact hs.idles_later hw.later hi
  · -- The kind of the bid has a socket that was bound for it and listens; the others keep theirs.
    rw [hsite] at hi
    obtain ⟨-, n, -, -, hsk, -⟩ := hs.bring ha hw
    by_cases hk : k = l.kind
    · obtain ⟨e, id, m, he, hid, hm, hno⟩ := hi
      rw [entries_hand, if_pos hk] at he
      cases he
      obtain rfl := Option.some.inj hid
      rw [getElem?_hand, if_pos rfl] at hm
      cases hm
      exact absurd ⟨rfl, _, hsk, rfl, rfl⟩ hno
    · refine hs.idles_of_same hi ((entries_hand _ _ _ _ k).trans (if_neg hk)) fun {e id m} hv => ?_
      have hlt : id < t.loops.length := (List.getElem?_eq_some_iff.mp hv.loop).1
      refine ⟨m, (getElem?_hand _ _ _ _ id).trans ((if_neg (Nat.ne_of_lt hlt)).trans hv.loop),
        fun ha => ?_⟩
      have hleaves := hw.later.leaves (hs.wired.bounded hv.loop) (hs.wired.spares hv.loop)
      exact ha.of_same rfl rfl hleaves.socket

end Site

/-- A kind that idles as soon as its registry is up is one that was handed over. -/
theorem Config.Started.inherited_of_idles [Platform] {c : Config} {h : Host}
    {plan : List (Kind × String)} {t : Site} {k : Kind} (hst : c.Started h plan t)
    (hi : t.Idles k) :
    ∃ e, t.registry.entries k = some e ∧ e.provenance = .inherited := by
  obtain ⟨e, id, l, he, hid, hl, hno⟩ := hi
  refine ⟨e, he, ?_⟩
  obtain ⟨id', l', hv, hopen, -⟩ := hst.live he
  obtain rfl : id' = id := Option.some.inj (hv.serving.symm.trans hid)
  obtain rfl : l' = l := Option.some.inj (hv.loop.symm.trans hl)
  have ho : l'.isOpen = true := by rw [Loop.isOpen, hopen]; rfl
  obtain ⟨sk, hsk, -, hbound⟩ := hv.socket ho
  cases hp : e.provenance with
  | bound => exact absurd ⟨ho, sk, hsk, hbound hp⟩ hno
  | inherited => rfl

namespace Scene

variable {tidy : Prop} {s s' : Scene} {k : Kind}

/-- What makes a kind idle: a start that takes over a socket which does not listen, or a fault of the loop
that serves the kind. -/
inductive Lapse (k : Kind) (s : Scene) : Scene → Prop
  | start {s' : Scene} (unstarted : s.world.stage = .unstarted)
      (inherited : s'.world.provenance? k = some .inherited) : Lapse k s s'
  | fault {id : LoopId} {l : Loop} (loop : s.world.loops[id]? = some l) (kind : l.listener.kind = k) :
      Lapse k s { s with world := s.world.fault id }

variable [Platform]

theorem Sound.lapse_up (hs : s.Sound) {c : Config} {r : Except EndpointError Unit} {w : World}
    (hr : s.world.up c = (r, w)) (hi : w.Idles k) :
    s.world.Idles k ∨ Lapse k s { s with world := w } := by
  by_cases hu : s.world.stage = .unstarted
  · obtain ⟨hsound, hw⟩ := hs.unstarted hu
    rw [hw] at hr
    obtain ⟨t, ht, hidle⟩ := hi
    rcases World.up_cases hsound hr with ⟨-, t', plan, rfl, hst⟩ | ⟨e, h', n, -, rfl, -⟩
    · obtain rfl : t' = t := Option.some.inj ht
      obtain ⟨e, he, hp⟩ := hst.inherited_of_idles hidle
      exact Or.inr (.start hu ((World.provenance?_eq rfl he).trans (congrArg some hp)))
    · cases ht
  · rw [World.up_refused hu] at hr
    cases hr
    exact Or.inl hi

/-- A kind that idles while the registry is as it was did so before, if its loop accepts if it did. -/
theorem Sound.idles_of_lifecycle (hs : s.Sound) {w : World} (hi : w.Idles k)
    (hw : w.lifecycle = s.world.lifecycle)
    (hl : ∀ {id : LoopId} {l : Loop}, s.world.loops[id]? = some l → l.listener.kind = k →
      ∃ l', w.loops[id]? = some l' ∧ (l.Accepts s.world.host → l'.Accepts w.host)) :
    s.world.Idles k := by
  obtain ⟨t', ht', hidle⟩ := hi
  obtain ⟨hlife, hh, hls⟩ := World.site?_eq_some ht'
  have ht : s.world.site? = some ⟨s.world.host, s.world.loops, t'.registry⟩ := by
    rw [World.site?, ← hw, hlife]
  refine ⟨_, ht, (hs.site ht).1.idles_of_same hidle rfl fun hv => ?_⟩
  rw [← hh, ← hls]
  exact hl hv.loop hv.kind

theorem Sound.lapse_fault (hs : s.Sound) (id : LoopId) (hi : (s.world.fault id).Idles k) :
    s.world.Idles k ∨ Lapse k s { s with world := s.world.fault id } := by
  by_cases hk : ∃ l, s.world.loops[id]? = some l ∧ l.listener.kind = k
  · obtain ⟨l, hl, hk⟩ := hk
    exact Or.inr (.fault hl hk)
  · refine Or.inl (hs.idles_of_lifecycle hi (World.lifecycle_fault _ id) fun {i m} hm hmk => ?_)
    -- The faulty loop is another kind's, and so is the socket that is closed with it.
    have hne : i ≠ id := by
      rintro rfl
      exact hk ⟨m, hm, hmk⟩
    rcases s.world.fault_cases id with hf | ⟨l, hl, ho, hf⟩
    · rw [hf]
      exact ⟨m, hm, fun ha => ha⟩
    · rw [hf]
      refine ⟨m, (List.getElem?_set_ne (Ne.symm hne)).trans hm, fun ha => ha.of_same rfl rfl ?_⟩
      exact (hs.wired.holds hl ho).get?_drop fun hc => hne (hs.wired.apart hm hl hc)

/-- Nothing else makes a kind idle. -/
theorem Sound.lapse (hs : s.Sound) {r : Option Notice} (hst : Step tidy s r s')
    (hi : s'.world.Idles k) : s.world.Idles k ∨ Lapse k s s' := by
  have resumed {s s' : Scene} {m : Move} {t t' : Site} {c : Change} {r : Option Notice}
      (hr : s.resume m t c = (r, s')) (ht' : s'.world.site? = some t') : t = t' := by
    rw [(resume_cases hr).1] at ht'
    exact Option.some.inj ht'
  obtain ⟨t', ht', hidle⟩ := id hi
  cases hst with
  | up free hr => exact hs.lapse_up hr hi
  | giveUp free hl ha => simp [World.site?, hl] at ht'
  | begin free hw ht hr =>
    obtain rfl := resumed hr ht'
    exact Or.inl ⟨_, ht, (hs.site ht).1.idles_beginChange hidle⟩
  | go hu ht hr =>
    obtain rfl := resumed hr ht'
    obtain ⟨hsite, -, hunder⟩ := hs.site ht
    exact Or.inl ⟨_, ht, hsite.idles_step (hunder hu).carried hidle⟩
  | down free hd =>
    obtain ⟨t, -, -, rfl⟩ := World.beginDown_ok hd
    cases ht'
  | noDown free hd =>
    obtain rfl := World.beginDown_error hd
    exact Or.inl hi
  | fault id => exact hs.lapse_fault id hi
  | @visit i l l' hl hm =>
    refine Or.inl (hs.idles_of_lifecycle hi rfl fun {j m} hm' _ => ?_)
    by_cases hj : j = i
    · subst hj
      obtain rfl : l = m := Option.some.inj (hl.symm.trans hm')
      have hlt := (List.getElem?_eq_some_iff.mp hl).1
      exact ⟨l', List.getElem?_set_self hlt, fun ha => ha.of_same hm.listener hm.isOpen rfl⟩
    · exact ⟨m, (List.getElem?_set_ne (Ne.symm hj)).trans hm', fun ha => ha⟩
  | wait time =>
    have hlater := hs.wired.sound.later_sleep time
    refine Or.inl (hs.idles_of_lifecycle hi rfl fun hl _ => ⟨_, hl, fun ha => ha.of_same rfl rfl ?_⟩)
    exact (hlater.leaves (hs.wired.bounded hl) (hs.wired.spares hl)).socket
  | others ho htidy =>
    exact Or.inl (hs.idles_of_lifecycle hi rfl fun hl _ =>
      ⟨_, hl, fun ha => ha.of_same rfl rfl (ho.sockets hl).socket⟩)
  | _ => exact Or.inl hi

end Scene
end Portkeeper
