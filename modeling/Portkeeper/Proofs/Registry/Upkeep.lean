import Portkeeper.Proofs.Registry.Lasting

/-!
Keeping up properties of a registry. What it has recorded is touched by nothing but starts and changes:
who shows that the steps of a change preserve a property of that knows it for as long as the registry
runs, and of every scene that can be reached if starts bring it about. What its loops have to do with
their sockets is a matter of closing them, of starting more of them, and of nothing else.
-/

set_option autoImplicit false

namespace Portkeeper

/-! ### Entries -/

/-- A property of the entries of a registry, and one of changes, that are kept up together. -/
structure Upkeep [Platform] (P : Site → Prop) (Q : Change → Prop) : Prop where
  same : ∀ {t t' : Site}, t'.registry.entries = t.registry.entries → P t → P t'
  begins : ∀ {t : Site} {m : Move}, t.Sound → P t → m.Valid →
    P (t.beginChange m.kind m.canonical).2 ∧
      ((t.beginChange m.kind m.canonical).1.result? = none →
        Q (t.beginChange m.kind m.canonical).1)
  goes : ∀ {t : Site} {m : Move} {c : Change}, t.Sound → t.Pursues m c → P t → Q c →
    P (t.step c).2 ∧ Q (t.step c).1
  rests : ∀ {c : Change} (time : Nat), Q c → Q (c.rest time)

/-- A property that every registry has when it comes up, and that is kept up. -/
structure Invariance [Platform] (P : Site → Prop) (Q : Change → Prop) :
    Prop extends Upkeep P Q where
  starts : ∀ {h : Host} {c : Config} {t : Site}, h.Sound →
    (World.unstarted h).up c = (.ok (), .ofSite t) → P t

namespace Scene

/-- A scene in which properties of entries and changes hold. -/
structure Bears (P : Site → Prop) (Q : Change → Prop) (s : Scene) : Prop where
  site : ∀ {t : Site}, s.world.site? = some t → P t
  change : ∀ {m : Move} {c : Change}, s.underway = some (m, c) → Q c

variable {P : Site → Prop} {Q : Change → Prop} {tidy : Prop} {s s' : Scene}

theorem bears_start (h : Host) : (start h).Bears P Q := ⟨nofun, nofun⟩

variable [Platform]

/-- What is no matter for the registry is none for its entries. -/
theorem Bears.of_lifecycle (hu : Upkeep P Q) (hb : s.Bears P Q)
    (hw : s'.world.lifecycle = s.world.lifecycle)
    (hc : ∀ {m : Move} {c : Change}, s'.underway = some (m, c) → Q c) : s'.Bears P Q where
  site {t} ht := by
    obtain ⟨hlife, -, -⟩ := World.site?_eq_some ht
    have hsite : s.world.site? = some ⟨s.world.host, s.world.loops, t.registry⟩ := by
      simp [World.site?, ← hw, hlife]
    refine hu.same ?_ (hb.site hsite)
    rfl
  change := hc

omit [Platform] in
theorem Bears.resume {m : Move} {t : Site} {c : Change} {r : Option Notice} (ht : P t)
    (hc : c.result? = none → Q c) (hr : s.resume m t c = (r, s')) : s'.Bears P Q := by
  obtain ⟨hw, -, -, hcase⟩ := resume_cases hr
  refine ⟨fun {t'} ht' => ?_, fun {m' c'} hu => ?_⟩
  · rw [hw, World.site?_ofSite] at ht'
    exact Option.some.inj ht' ▸ ht
  · rcases hcase with ⟨-, -, -, hnone⟩ | ⟨-, hsome, hundone⟩
    · rw [hnone] at hu
      cases hu
    · rw [hsome] at hu
      cases hu
      exact hc hundone

theorem Bears.up (hn : s.world.stage = .unstarted → Invariance P Q) (hs : s.Sound)
    (hb : s.Bears P Q) {c : Config} {r : Except EndpointError Unit} {w : World}
    (hr : s.world.up c = (r, w)) : Bears P Q { s with world := w } := by
  by_cases hstage : s.world.stage = .unstarted
  · obtain ⟨hsound, hw⟩ := hs.unstarted hstage
    rw [hw] at hr
    rcases World.up_cases hsound hr with ⟨rfl, t, plan, rfl, -⟩ | ⟨-, h', n, -, rfl, -⟩
    · refine ⟨fun {t'} ht' => ?_, hb.change⟩
      obtain rfl : t = t' := Option.some.inj ht'
      exact (hn hstage).starts hsound hr
    · exact ⟨nofun, hb.change⟩
  · rw [World.up_refused hstage] at hr
    cases hr
    exact hb

/-- Every step keeps up what is kept up. -/
theorem Bears.step (hu : Upkeep P Q) (hn : s.world.stage = .unstarted → Invariance P Q)
    (hs : s.Sound) (hb : s.Bears P Q) {r : Option Notice} (hst : Step tidy s r s') :
    s'.Bears P Q := by
  cases hst with
  | up free hr => exact hb.up hn hs hr
  | giveUp free hw ha => exact hb.of_lifecycle hu rfl hb.change
  | refuse free hc => exact hb
  | keep free hc => exact hb
  | queue free hc => exact hb.of_lifecycle hu rfl hb.change
  | late free hw hn => exact hb.of_lifecycle hu rfl hb.change
  | begin free hw ht hr =>
    rename_i t m before after
    obtain ⟨hsite, -, -⟩ := hs.site ht
    obtain ⟨hp, hq⟩ := hu.begins hsite (hb.site ht) (hs.waiting m (by simp [hw]))
    exact Bears.resume hp hq hr
  | go hc ht hr =>
    obtain ⟨hsite, -, hunder⟩ := hs.site ht
    obtain ⟨hp, hq⟩ := hu.goes hsite (hunder hc) (hb.site ht) (hb.change hc)
    exact Bears.resume hp (fun _ => hq) hr
  | down free hd =>
    obtain ⟨t, -, -, rfl⟩ := World.beginDown_ok hd
    exact ⟨nofun, hb.change⟩
  | noDown free hd =>
    obtain rfl := World.beginDown_error hd
    exact hb
  | isDown hi hf => exact hb.of_lifecycle hu rfl hb.change
  | fault id => exact hb.of_lifecycle hu (World.lifecycle_fault _ id) hb.change
  | visit hl hm => exact hb.of_lifecycle hu rfl hb.change
  | wait time =>
    refine hb.of_lifecycle hu rfl fun {m c} hc => ?_
    obtain ⟨⟨m', c'⟩, hc', he⟩ := Option.map_eq_some_iff.mp hc
    cases he
    exact hu.rests time (hb.change hc')
  | others ho ht => exact hb.of_lifecycle hu rfl hb.change

/-- What has been started is not unstarted again. -/
theorem Step.started {r : Option Notice} (hst : Step tidy s r s') (hn : s.world.stage ≠ .unstarted) :
    s'.world.stage ≠ .unstarted := by
  have running {m : Move} {t : Site} {c : Change} {s : Scene} (hr : s.resume m t c = (r, s')) :
      s'.world.stage ≠ .unstarted := by
    simp [(resume_cases hr).1, World.stage, World.ofSite, Lifecycle.stage]
  cases hst with
  | up free hr =>
    rw [World.up_refused hn] at hr
    cases hr
    exact hn
  | giveUp free hl ha => exact absurd (by rw [World.stage, hl]; rfl) hn
  | begin free hw ht hr => exact running hr
  | go hu ht hr => exact running hr
  | down free hd =>
    obtain ⟨t, -, -, rfl⟩ := World.beginDown_ok hd
    simp [World.stage, Lifecycle.stage]
  | noDown free hd =>
    obtain rfl := World.beginDown_error hd
    exact hn
  | fault id =>
    show (s.world.fault id).lifecycle.stage ≠ .unstarted
    rwa [World.lifecycle_fault]
  | _ => exact hn

theorem Run.started (hr : Run tidy s s') (hn : s.world.stage ≠ .unstarted) :
    s'.world.stage ≠ .unstarted := by
  induction hr with
  | refl => exact hn
  | step _ hst ih => exact hst.started ih

theorem Bears.run (hu : Upkeep P Q) (hn : s.world.stage ≠ .unstarted) (hs : s.Sound)
    (hb : s.Bears P Q) (hr : Run tidy s s') : s'.Bears P Q := by
  induction hr with
  | refl => exact hb
  | step hrun hst ih => exact ih.step hu (fun hc => absurd hc (hrun.started hn)) (hs.run hrun) hst

theorem Reachable.bears (hr : s.Reachable) (hi : Invariance P Q) : s.Bears P Q := by
  obtain ⟨h, hs, hrun⟩ := hr
  induction hrun with
  | refl => exact bears_start h
  | step hrun hst ih => exact ih.step hi.toUpkeep (fun _ => hi) ((sound_start hs).run hrun) hst

end Scene

/-! ### Loops and their sockets -/

/-- A property of a host and loops that has to do with nothing but the sockets of these loops. -/
structure Enduring (P : Host → List Loop → Prop) : Prop where
  close : ∀ {h : Host} {loops : List Loop} {id : LoopId} {l : Loop}, Wired h loops → P h loops →
    loops[id]? = some l → l.isOpen = true → P (h.drop l.listener) (loops.set id (l.close h.now))
  leaves : ∀ {h h' : Host} {loops : List Loop}, P h loops →
    (∀ {id : LoopId} {l : Loop}, loops[id]? = some l → h.Leaves h' l.listener.socket) → P h' loops
  push : ∀ {h : Host} {loops : List Loop} (l : Loop), P h loops → P h (loops ++ [l])
  visit : ∀ {h : Host} {loops : List Loop} {id : LoopId} {l l' : Loop}, P h loops →
    loops[id]? = some l → l'.listener = l.listener → l'.closedAt = l.closedAt →
    P h (loops.set id l')

namespace Enduring

variable {P : Host → List Loop → Prop} {t : Site}

theorem stable (hp : Enduring P) : Stable fun h loops => Wired h loops ∧ P h loops :=
  ⟨fun ht hl ho => ⟨ht.1.close hl ho _, hp.close ht.1 ht.2 hl ho⟩⟩

theorem later (hp : Enduring P) {h h' : Host} {loops : List Loop} (hw : Wired h loops)
    (ht : P h loops) (hl : h.Later h') : P h' loops :=
  hp.leaves ht fun hi => hl.leaves (hw.bounded hi) (hw.spares hi)

variable [Platform]

theorem beginChange (hp : Enduring P) (hs : t.Sound) (ht : P t.host t.loops) (k : Kind)
    (address : String) :
    P (t.beginChange k address).2.host (t.beginChange k address).2.loops :=
  (Site.beginChange_stable hp.stable hs ⟨hs.wired, ht⟩ k address).2

theorem change (hp : Enduring P) (hs : t.Sound) {c : Change} (hc : t.Carries c)
    (ht : P t.host t.loops) : P (t.step c).2.host (t.step c).2.loops := by
  rcases hs.step_cases hc with ⟨r, rfl, he⟩ | ⟨k, h, -, hw, he, -⟩ |
    ⟨b, h, l, router, -, hw, -, he, -⟩
  · rw [he]
    exact ht
  · rw [he]
    exact hp.later hs.wired ht hw.later
  · rw [he]
    exact hp.push _ (hp.later hs.wired ht hw.later)

/-- No step of a registry that was started is a matter for such a property. -/
theorem step (hp : Enduring P) {tidy : Prop} {s s' : Scene} (hs : s.Sound)
    (hn : s.world.stage ≠ .unstarted) (ht : P s.world.host s.world.loops) {r : Option Notice}
    (hst : Scene.Step tidy s r s') : P s'.world.host s'.world.loops := by
  have resumed {s s' : Scene} {m : Move} {t : Site} {c : Change} {r : Option Notice}
      (hr : s.resume m t c = (r, s')) (ht : P t.host t.loops) : P s'.world.host s'.world.loops := by
    obtain ⟨hw, -⟩ := Scene.resume_cases hr
    rw [hw]
    exact ht
  have site {t : Site} (hsite : s.world.site? = some t) : P t.host t.loops := by
    obtain ⟨-, hh, hl⟩ := World.site?_eq_some hsite
    rwa [hh, hl] at ht
  cases hst with
  | up free hr =>
    rw [World.up_refused hn] at hr
    cases hr
    exact ht
  | giveUp free hl ha => exact absurd (by rw [World.stage, hl]; rfl) hn
  | refuse free hc => exact ht
  | keep free hc => exact ht
  | queue free hc => exact ht
  | late free hw hno => exact ht
  | begin free hw hsite hr =>
    obtain ⟨hsound, -, -⟩ := hs.site hsite
    exact resumed hr (hp.beginChange hsound (site hsite) _ _)
  | go hu hsite hr =>
    obtain ⟨hsound, -, hunder⟩ := hs.site hsite
    exact resumed hr (hp.change hsound (hunder hu).carried (site hsite))
  | down free hd =>
    obtain ⟨t, hsite, -, rfl⟩ := World.beginDown_ok hd
    obtain ⟨hsound, -, -⟩ := hs.site hsite
    exact (Site.closeAll_stable hp.stable hsound ⟨hsound.wired, site hsite⟩).2
  | noDown free hd =>
    obtain rfl := World.beginDown_error hd
    exact ht
  | isDown hi hf => exact ht
  | fault id => exact (World.fault_stable hp.stable ⟨hs.wired, ht⟩ id).2
  | visit hl hm => exact hp.visit ht hl hm.listener hm.closedAt
  | wait time => exact hp.later hs.wired ht (hs.wired.sound.later_sleep time)
  | others ho htidy => exact hp.leaves ht ho.sockets

theorem run (hp : Enduring P) {tidy : Prop} {s s' : Scene} (hs : s.Sound)
    (hn : s.world.stage ≠ .unstarted) (ht : P s.world.host s.world.loops)
    (hr : Scene.Run tidy s s') : P s'.world.host s'.world.loops := by
  induction hr with
  | refl => exact ht
  | step hrun hst ih => exact hp.step (hs.run hrun) (hrun.started hn) ih hst

end Enduring
end Portkeeper
