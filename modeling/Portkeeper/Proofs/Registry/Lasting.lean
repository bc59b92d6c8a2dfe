import Portkeeper.Proofs.Registry.Scene
import Portkeeper.Proofs.Registry.Moving
import Portkeeper.Proofs.Registry.Stopping

/-!
What lasts through everything that can happen to a registry among its callers: the loops are wired at
every stage, a running registry is sound, a change under way is one for the request that led to it, and
a stopped registry has nothing open and waits for all loops that have not exited.
-/

set_option autoImplicit false

namespace Portkeeper

/-- A request that has been looked at: it can be carried out by network kinds, and its address is in
canonical form. -/
structure Move.Valid (m : Move) : Prop where
  network : m.kind.isNetwork = true
  canonical : m.kind.canonicalize m.text = .ok m.canonical

/-- A change that a request has led to. -/
def Change.IsFor (m : Move) : Change → Prop
  | .moving b _ => b.kind = m.kind ∧ b.address = m.canonical
  | .restoring b _ => b.kind = m.kind
  | .done _ => True

/-- A change that is under way for a request, and not over. -/
structure Site.Pursues (t : Site) (m : Move) (c : Change) : Prop where
  valid : m.Valid
  target : c.IsFor m
  carried : t.Carries c
  undone : c.result? = none

namespace Scene

variable [Platform]

/-- What holds at each stage of a registry's life. -/
def Stands (s : Scene) : Lifecycle → Prop
  | .unstarted => s.world.host.Sound ∧ s.world.loops = [] ∧ s.underway = none ∧ s.stopping = none
  | .running r => Site.Sound ⟨s.world.host, s.world.loops, r⟩ ∧ s.stopping = none ∧
      ∀ {m : Move} {c : Change}, s.underway = some (m, c) →
        Site.Pursues ⟨s.world.host, s.world.loops, r⟩ m c
  | .stopped => Wired s.world.host s.world.loops ∧ s.underway = none ∧
      ∀ {id : LoopId} {l : Loop}, s.world.loops[id]? = some l → l.isOpen = false ∧
        (l.isFinished s.world.host.now = true ∨ ∃ ids, s.stopping = some ids ∧ id ∈ ids)

structure Sound (s : Scene) : Prop where
  waiting : ∀ m ∈ s.waiting, m.Valid
  stands : s.Stands s.world.lifecycle

theorem sound_start {h : Host} (hs : h.Sound) : (start h).Sound := ⟨by simp [start], hs, rfl, rfl, rfl⟩

end Scene

/-! ### What single steps keep -/

theorem Move.Valid.formed {m : Move} (hm : m.Valid) (hne : m.canonical ≠ "") :
    m.kind.Formed m.canonical :=
  Kind.formed_canonicalize hm.canonical hne

theorem Loop.Meets.isOpen {now : Nat} {l l' : Loop} (hm : l.Meets now l') : l'.isOpen = l.isOpen := by
  rw [Loop.isOpen, Loop.isOpen, hm.closedAt]

/-- A loop that has exited stays so. -/
theorem Loop.Meets.isFinished {now : Nat} {l l' : Loop} (hm : l.Meets now l')
    (hf : l.isFinished now = true) : l'.isFinished now = true := by
  unfold Loop.isFinished at hf ⊢
  rw [hm.closedAt]
  cases hc : l.closedAt with
  | none => simp [hc] at hf
  | some t =>
    simp only [hc, Bool.or_eq_true, List.all_eq_true] at hf ⊢
    refine hf.imp_right fun hover v' hv' => ?_
    obtain ⟨v, hv, -, hmono⟩ := hm.visits (by simp [Loop.isOpen, hc]) v' hv'
    exact hmono (hover v hv)

/-- A fault does no more than closing. -/
theorem World.fault_stable {P : Host → List Loop → Prop} {w : World} (hP : Stable P)
    (hw : P w.host w.loops) (id : LoopId) : P (w.fault id).host (w.fault id).loops := by
  rcases w.fault_cases id with hf | ⟨l, hl, ho, hf⟩
  · rwa [hf]
  · rw [hf]
    exact hP.close hw hl ho

namespace Site

variable {s t : Site}

/-- Connections are no matter for a registry. -/
theorem Sound.visit [Platform] (hs : s.Sound) {id : LoopId} {l l' : Loop}
    (hl : s.loops[id]? = some l) (hm : l.Meets s.now l') :
    Sound { s with loops := s.loops.set id l' } := by
  have hlt : id < s.loops.length := (List.getElem?_eq_some_iff.mp hl).1
  have hself : (s.loops.set id l')[id]? = some l' := by rw [List.getElem?_set_self hlt]
  have hother {i : LoopId} (hi : i ≠ id) : (s.loops.set id l')[i]? = s.loops[i]? :=
    List.getElem?_set_ne (Ne.symm hi)
  have hcases {i : LoopId} {m : Loop} (hm' : (s.loops.set id l')[i]? = some m) :
      i = id ∧ m = l' ∨ i ≠ id ∧ s.loops[i]? = some m := by
    by_cases hi : i = id
    · subst hi
      exact Or.inl ⟨rfl, Option.some.inj (hm'.symm.trans hself)⟩
    · exact Or.inr ⟨hi, (hother hi).symm.trans hm'⟩
  refine ⟨hs.wired.visit hl hm.listener hm.closedAt, fun {k e} he => ?_, fun {i m} hm' ho => ?_,
    fun {i m} hm' hf => ?_, fun {i m} hm' hk => ?_⟩
  · obtain ⟨i, m, hv⟩ := hs.serves he
    by_cases hi : i = id
    · subst hi
      obtain rfl : m = l := Option.some.inj (hv.loop.symm.trans hl)
      refine ⟨i, l', hv.listener, hv.serving, hself, hm.listener ▸ hv.kind,
        hm.listener ▸ hv.provenance, hm.router ▸ hv.router, hv.formed, fun ho => ?_⟩
      rw [hm.listener]
      exact hv.socket (hm.isOpen ▸ ho)
    · exact ⟨i, m, hv.of_same ((hother hi).trans hv.loop) rfl fun _ => rfl⟩
  · rcases hcases hm' with ⟨rfl, rfl⟩ | ⟨-, hm'⟩
    · exact hs.live hl (hm.isOpen ▸ ho)
    · exact hs.live hm' ho
  · rcases hcases hm' with ⟨rfl, rfl⟩ | ⟨-, hm'⟩
    · refine hs.owned hl ?_
      cases hf' : l.isFinished s.now with
      | false => rfl
      | true =>
        have hf'' := hm.isFinished hf'
        rw [show m.isFinished s.now = false from hf] at hf''
        cases hf''
    · exact hs.owned hm' hf
  · rcases hcases hm' with ⟨rfl, rfl⟩ | ⟨-, hm'⟩
    · rw [hm.listener] at hk ⊢
      exact hs.fileless hl hk
    · exact hs.fileless hm' hk

/-- What a change relies on is in the registry alone, and is no matter of pauses. -/
theorem Carries.of_registry {c : Change} (hc : s.Carries c) (hr : t.registry = s.registry) :
    t.Carries c := by
  have hagain {k : Kind} {address : String} (ha : s.Admits k address) : t.Admits k address :=
    ⟨ha.network, hr ▸ ha.handler, hr ▸ ha.vacant, ha.formed⟩
  cases c with
  | moving b previous => exact ⟨hagain hc.1, hc.2⟩
  | restoring b failure => exact hagain hc
  | done r => trivial

theorem Pursues.of_registry {m : Move} {c : Change} (hp : s.Pursues m c)
    (hr : t.registry = s.registry) : t.Pursues m c :=
  ⟨hp.valid, hp.target, hp.carried.of_registry hr, hp.undone⟩

theorem Pursues.rest {m : Move} {c : Change} (hp : s.Pursues m c) (time : Nat) :
    s.Pursues m (c.rest time) := by
  cases c with
  | moving b previous => exact ⟨hp.valid, hp.target, hp.carried, rfl⟩
  | restoring b failure => exact ⟨hp.valid, hp.target, hp.carried, rfl⟩
  | done r => exact hp

/-- A change stays one for its request. -/
theorem isFor_step [Platform] {c : Change} {m : Move} (hc : c.IsFor m) : (s.step c).1.IsFor m := by
  obtain ⟨c', t, hstep, hst⟩ := s.exists_stepped c
  rw [hstep]
  cases hst with
  | ended => trivial
  | moves => exact hc
  | moved => trivial
  | failed => trivial
  | returns => exact hc.1
  | restores => exact hc
  | restored => trivial
  | stranded => trivial

theorem isFor_beginChange (s : Site) (m : Move) :
    (s.beginChange m.kind m.canonical).1.IsFor m := by
  rcases s.beginChange_cases m.kind m.canonical with
    ⟨-, hb⟩ | ⟨-, ⟨-, -, hb⟩ | ⟨-, hb⟩ | ⟨-, -, hb⟩⟩ <;> rw [hb]
  · trivial
  · trivial
  · trivial
  · exact ⟨rfl, rfl⟩

/-- A change begins with no more than closing. -/
theorem beginChange_stable [Platform] {P : Host → List Loop → Prop} (hP : Stable P) (hs : t.Sound)
    (ht : P t.host t.loops) (k : Kind) (address : String) :
    P (t.beginChange k address).2.host (t.beginChange k address).2.loops := by
  have hclose := close_stable hP hs ht k
  rcases t.beginChange_cases k address with ⟨-, hb⟩ | ⟨-, ⟨-, -, hb⟩ | ⟨-, hb⟩ | ⟨-, -, hb⟩⟩ <;> rw [hb]
  · exact ht
  · exact ht
  · exact hclose
  · exact hclose

end Site

namespace Scene

variable [Platform] {tidy : Prop} {s s' : Scene}

theorem Sound.resume {m : Move} {t : Site} {c : Change} {r : Option Notice}
    (hw : ∀ m ∈ s.waiting, m.Valid) (hstop : s.stopping = none) (hs : t.Sound) (hm : m.Valid)
    (hf : c.IsFor m) (hc : t.Carries c) (hr : s.resume m t c = (r, s')) : s'.Sound := by
  obtain ⟨hworld, hwait, hstop', hcase⟩ := resume_cases hr
  refine ⟨fun m' hm' => hw m' (hwait ▸ hm'), ?_⟩
  rw [hworld]
  refine ⟨?_, hstop'.trans hstop, fun {m' c'} hu => ?_⟩
  · rw [hworld]
    exact hs
  · rcases hcase with ⟨-, -, -, hnone⟩ | ⟨-, hsome, hundone⟩
    · rw [hnone] at hu
      cases hu
    · rw [hsome] at hu
      cases hu
      rw [hworld]
      exact ⟨hm, hf, hc, hundone⟩

/-- The registry that runs in a scene is sound. -/
theorem Sound.site (hs : s.Sound) {t : Site} (ht : s.world.site? = some t) :
    t.Sound ∧ s.stopping = none ∧
      ∀ {m : Move} {c : Change}, s.underway = some (m, c) → t.Pursues m c := by
  have hst := hs.stands
  obtain ⟨hl, hh, hls⟩ := World.site?_eq_some ht
  rw [hl] at hst
  unfold Stands at hst
  rwa [hh, hls] at hst

/-- Before its start a registry has nothing but its host. -/
theorem Sound.unstarted (hs : s.Sound) (hstage : s.world.stage = .unstarted) :
    s.world.host.Sound ∧ s.world = .unstarted s.world.host := by
  have hst := hs.stands
  obtain ⟨⟨host, loops, life⟩, u, wait, stop⟩ := s
  cases life with
  | unstarted =>
    obtain ⟨hsound, rfl, -⟩ := hst
    exact ⟨hsound, rfl⟩
  | running r => cases hstage
  | stopped => cases hstage

/-- The loops in a scene are wired at every stage. -/
theorem Sound.wired (hs : s.Sound) : Wired s.world.host s.world.loops := by
  have hst := hs.stands
  cases hl : s.world.lifecycle with
  | unstarted =>
    rw [hl] at hst
    rw [hst.2.1]
    exact Wired.nil hst.1
  | running r =>
    rw [hl] at hst
    exact hst.1.wired
  | stopped =>
    rw [hl] at hst
    exact hst.1

/-- A change of the host that leaves the registry as it is at every stage. -/
theorem Sound.of_host (hs : s.Sound) {h : Host} (hsound : h.Sound) (hn : s.world.host.now ≤ h.now)
    (hl : ∀ {id : LoopId} {l : Loop}, s.world.loops[id]? = some l →
      s.world.host.Leaves h l.listener.socket) {u : Option (Move × Change)}
    (hu : ∀ {m : Move} {c : Change}, u = some (m, c) → ∃ c', s.underway = some (m, c') ∧
      ∀ t : Site, t.Pursues m c' → t.Pursues m c) :
    Sound { s with world := { s.world with host := h }, underway := u } := by
  have hst := hs.stands
  have hnone (hno : s.underway = none) : u = none := by
    cases u with
    | none => rfl
    | some mc =>
      obtain ⟨c', hc', -⟩ := hu (m := mc.1) (c := mc.2) rfl
      rw [hno] at hc'
      cases hc'
  refine ⟨hs.waiting, ?_⟩
  show Stands _ s.world.lifecycle
  cases hlife : s.world.lifecycle with
  | unstarted =>
    rw [hlife] at hst
    obtain ⟨-, hloops, hno, hstop⟩ := hst
    exact ⟨hsound, hloops, hnone hno, hstop⟩
  | running r =>
    rw [hlife] at hst
    obtain ⟨hsite, hstop, hunder⟩ := hst
    refine ⟨hsite.leaves hsound hn hl, hstop, fun {m c} hmc => ?_⟩
    obtain ⟨c', hc', hcarry⟩ := hu hmc
    exact hcarry _ ((hunder hc').of_registry rfl)
  | stopped =>
    rw [hlife] at hst
    obtain ⟨hwired, hno, hclosed⟩ := hst
    refine ⟨hwired.leaves hsound hl, hnone hno, fun {id l} hid => ?_⟩
    obtain ⟨ho, hf⟩ := hclosed hid
    exact ⟨ho, hf.imp_left fun hf => Loop.isFinished_mono hn hf⟩

theorem Sound.up (hs : s.Sound) (free : s.underway = none) {c : Config}
    {r : Except EndpointError Unit} {w : World} (hr : s.world.up c = (r, w)) :
    Sound { s with world := w } := by
  have hst := hs.stands
  cases hl : s.world.lifecycle with
  | unstarted =>
    rw [hl] at hst
    obtain ⟨-, -, -, hstop⟩ := hst
    obtain ⟨hsound, hw⟩ := hs.unstarted (by rw [World.stage, hl]; rfl)
    rw [hw] at hr
    rcases World.up_cases hsound hr with ⟨-, t, plan, rfl, hstart⟩ | ⟨-, h', n, -, rfl, -, -, hu, -⟩
    · refine ⟨hs.waiting, hstart.sound, hstop, fun {m c'} hmc => ?_⟩
      rw [show s.underway = some (m, c') from hmc] at free
      cases free
    · exact ⟨hs.waiting, hu.sound, rfl, free, hstop⟩
  | running reg =>
    rw [World.up_refused (by simp [World.stage, hl, Lifecycle.stage])] at hr
    cases hr
    exact hs
  | stopped =>
    rw [World.up_refused (by simp [World.stage, hl, Lifecycle.stage])] at hr
    cases hr
    exact hs

theorem Sound.down (hs : s.Sound) {ids : List LoopId} {w : World} (free : s.underway = none)
    (hd : s.world.beginDown = (.ok ids, w)) :
    Sound { s with world := w, stopping := some ids } := by
  obtain ⟨t, ht, rfl, rfl⟩ := World.beginDown_ok hd
  obtain ⟨hsite, -, -⟩ := hs.site ht
  obtain ⟨hwired, hnow, hloops⟩ := Site.closeAll_spec hsite
  refine ⟨hs.waiting, hwired, free, fun {id l} hid => ?_⟩
  obtain ⟨ho, hw⟩ := hloops hid
  refine ⟨ho, ?_⟩
  cases hf : l.isFinished t.closeAll.2.host.now with
  | true => exact Or.inl rfl
  | false =>
    rw [show t.closeAll.2.host.now = t.now from hnow] at hf
    exact Or.inr ⟨_, rfl, hw hf⟩

theorem Sound.fault (hs : s.Sound) (id : LoopId) : Sound { s with world := s.world.fault id } := by
  have hst := hs.stands
  cases hl : s.world.lifecycle with
  | unstarted =>
    rw [hl] at hst
    rw [World.fault_of_closed fun l hid => by simp [hst.2.1] at hid]
    exact hs
  | running r =>
    obtain ⟨t, ht⟩ : ∃ t, s.world.site? = some t := ⟨_, by simp only [World.site?, hl]; rfl⟩
    obtain ⟨hsite, hstop, hu⟩ := hs.site ht
    have hclosed : (t.closeLoop id).Sound := by
      cases hid : t.loops[id]? with
      | none => simpa only [Site.closeLoop, hid] using hsite
      | some l => exact hsite.closeLoop hid
    rw [World.ofSite_of_site? ht, World.fault_ofSite]
    exact ⟨hs.waiting, hclosed, hstop, fun hmc => (hu hmc).of_registry (t.registry_closeLoop id)⟩
  | stopped =>
    rw [hl] at hst
    rw [World.fault_of_closed fun l hid => (hst.2.2 hid).1]
    exact hs

theorem Sound.visit (hs : s.Sound) {id : LoopId} {l l' : Loop} (hl : s.world.loops[id]? = some l)
    (hm : l.Meets s.world.host.now l') :
    Sound { s with world := { s.world with loops := s.world.loops.set id l' } } := by
  have hst := hs.stands
  refine ⟨hs.waiting, ?_⟩
  show Stands _ s.world.lifecycle
  cases hlife : s.world.lifecycle with
  | unstarted =>
    rw [hlife] at hst
    simp [hst.2.1] at hl
  | running r =>
    rw [hlife] at hst
    obtain ⟨hsite, hstop, hu⟩ := hst
    exact ⟨hsite.visit hl hm, hstop, fun hmc => (hu hmc).of_registry rfl⟩
  | stopped =>
    rw [hlife] at hst
    obtain ⟨hwired, hno, hclosed⟩ := hst
    refine ⟨hwired.visit hl hm.listener hm.closedAt, hno, fun {i m} hi => ?_⟩
    have hget : (s.world.loops.set id l')[i]? = some m := hi
    rw [List.getElem?_set] at hget
    split at hget
    · rename_i he
      subst he
      split at hget
      · cases hget
        obtain ⟨ho, hf⟩ := hclosed hl
        exact ⟨hm.isOpen ▸ ho, hf.imp_left hm.isFinished⟩
      · cases hget
    · exact hclosed hget

/-- A start that is given up leaves nothing but the host behind. -/
theorem Sound.giveUp (hs : s.Sound) (free : s.underway = none)
    (hl : s.world.lifecycle = .unstarted) {c : Config} {h : Host} (ha : c.Abandons s.world.host h) :
    Sound { s with world := { s.world with host := h } } := by
  have hst := hs.stands
  rw [hl] at hst
  obtain ⟨hsound, hloops, -, hstop⟩ := hst
  refine ⟨hs.waiting, ?_⟩
  show Stands _ s.world.lifecycle
  rw [hl]
  refine ⟨?_, hloops, free, hstop⟩
  rcases World.abandons_cases hsound ha with rfl | ⟨hu, -⟩
  · exact hsound
  · exact hu.sound

/-- When all loops that a stop waits for have exited, none is left that has not. -/
theorem Sound.drained (hs : s.Sound) {ids : List LoopId} (hi : s.stopping = some ids)
    (hf : s.world.areFinished ids = true) : Sound { s with stopping := none } := by
  have hst := hs.stands
  refine ⟨hs.waiting, ?_⟩
  show Stands _ s.world.lifecycle
  cases hl : s.world.lifecycle with
  | unstarted =>
    rw [hl] at hst
    rw [hst.2.2.2] at hi
    cases hi
  | running reg =>
    rw [hl] at hst
    rw [hst.2.1] at hi
    cases hi
  | stopped =>
    rw [hl] at hst
    obtain ⟨hwired, hno, hclosed⟩ := hst
    refine ⟨hwired, hno, fun {id l} hid => ⟨(hclosed hid).1, Or.inl ?_⟩⟩
    rcases (hclosed hid).2 with hfin | ⟨ids, hids, hmem⟩
    · exact hfin
    · rw [hi] at hids
      cases hids
      have hall := List.all_eq_true.mp hf id hmem
      rwa [show s.world.loops[id]? = some l from hid] at hall

/-- Every step keeps a scene sound. -/
theorem Sound.step (hs : s.Sound) {r : Option Notice} (hst : Step tidy s r s') : s'.Sound := by
  have stays {s' : Scene} (hw : s'.world = s.world) (hm : ∀ m ∈ s'.waiting, m.Valid)
      (hu : s'.underway = s.underway) (hp : s'.stopping = s.stopping) : s'.Sound := by
    refine ⟨hm, ?_⟩
    have hstands := hs.stands
    unfold Stands at hstands ⊢
    rwa [hw, hu, hp]
  have rest {before after : List Move} {m : Move} (hw : s.waiting = before ++ m :: after) :
      m.Valid ∧ ∀ m ∈ before ++ after, m.Valid := by
    refine ⟨hs.waiting m (by simp [hw]), fun m' hm' => hs.waiting m' ?_⟩
    rw [hw]
    rcases List.mem_append.mp hm' with hm' | hm'
    · exact List.mem_append_left _ hm'
    · exact List.mem_append_right _ (List.mem_cons_of_mem _ hm')
  cases hst with
  | up free hr => exact hs.up free hr
  | giveUp free hl ha => exact hs.giveUp free hl ha
  | refuse free hc => exact hs
  | keep free hc => exact hs
  | queue free hc =>
    refine stays rfl (fun m hm => ?_) rfl rfl
    rcases List.mem_append.mp hm with hm | hm
    · exact hs.waiting m hm
    · obtain ⟨hk, hcan, -⟩ := World.check_ok_some hc
      rw [List.mem_singleton.mp hm]
      exact ⟨hk, hcan⟩
  | late free hw hn => exact stays rfl (rest hw).2 rfl rfl
  | begin free hw ht hr =>
    obtain ⟨hm, hwait⟩ := rest hw
    obtain ⟨hsite, hstop, -⟩ := hs.site ht
    obtain ⟨hsound, hc⟩ := hsite.beginChange hm.network hm.formed
    exact Sound.resume (s := { s with waiting := _ }) hwait hstop hsound hm
      (Site.isFor_beginChange _ _) hc hr
  | go hu ht hr =>
    obtain ⟨hsite, hstop, hunder⟩ := hs.site ht
    have hp := hunder hu
    obtain ⟨hsound, hc⟩ := hsite.step hp.carried
    exact Sound.resume hs.waiting hstop hsound hp.valid (Site.isFor_step hp.target) hc hr
  | down free hd => exact hs.down free hd
  | noDown free hd =>
    obtain rfl := World.beginDown_error hd
    exact hs
  | isDown hi hf => exact hs.drained hi hf
  | fault id => exact hs.fault id
  | visit hl hm => exact hs.visit hl hm
  | wait time =>
    have hw := hs.wired
    have hlater := hw.sound.later_sleep time
    refine hs.of_host (hw.sound.sleep time) hlater.now
      (fun hl => hlater.leaves (hw.bounded hl) (hw.spares hl)) fun {m c} hu => ?_
    obtain ⟨⟨m', c'⟩, hc', he⟩ := Option.map_eq_some_iff.mp hu
    cases he
    exact ⟨c', hc', fun _ hp => hp.rest time⟩
  | others ho ht =>
    exact hs.of_host ho.sound ho.now ho.sockets fun hu => ⟨_, hu, fun _ hp => hp⟩

/-- Only a start that succeeds leads on from the beginning. -/
theorem Sound.comes_up (hs : s.Sound) (hu : s.world.stage = .unstarted) {r : Option Notice}
    (hst : Step tidy s r s') (hn : s'.world.stage ≠ .unstarted) :
    ∃ c t, s.world.host.Sound ∧ (World.unstarted s.world.host).up c = (.ok (), .ofSite t) ∧
      s.underway = none ∧ s' = { s with world := .ofSite t } := by
  obtain ⟨hsound, hw⟩ := hs.unstarted hu
  have hno : s.world.site? = none := by
    rw [hw]
    rfl
  cases hst with
  | @up c _ _ free hup =>
    rw [hw] at hup
    rcases World.up_cases hsound hup with ⟨rfl, t, plan, rfl, -⟩ | ⟨e, h', n, -, rfl, -⟩
    · exact ⟨c, t, hsound, hup, free, rfl⟩
    · exact absurd rfl hn
  | begin free hq ht hr => cases hno.symm.trans ht
  | go hq ht hr => cases hno.symm.trans ht
  | down free hd =>
    rw [World.beginDown, hno] at hd
    cases hd
  | noDown free hd =>
    rw [World.beginDown, hno] at hd
    cases hd
    exact absurd hu hn
  | fault id =>
    rw [hw] at hn
    exact absurd rfl hn
  | _ => exact absurd hu hn

theorem Sound.run (hs : s.Sound) (hr : Run tidy s s') : s'.Sound := by
  induction hr with
  | refl => exact hs
  | step _ hst ih => exact ih.step hst

theorem Reachable.sound (hr : s.Reachable) : s.Sound := by
  obtain ⟨h, hs, hrun⟩ := hr
  exact (sound_start hs).run hrun

end Scene
end Portkeeper
