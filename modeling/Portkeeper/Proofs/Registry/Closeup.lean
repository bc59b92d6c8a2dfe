import Portkeeper.Proofs.Registry.Keeping
import Portkeeper.Proofs.Registry.Lasting

/-!
The operations of a registry, seen closely. A start, a change, a stop and the end of a loop are runs of
single steps, so whatever state a registry comes to between its operations, it comes to at work too.
-/

set_option autoImplicit false

namespace Portkeeper

/-- A loop whose socket is closed here is shut. -/
theorem Site.shut_closeLoop {s : Site} {id : LoopId} {l : Loop} (hl : s.loops[id]? = some l) :
    Shut (s.closeLoop id).loops id :=
  ⟨l.close s.now, by rw [getElem?_closeLoop hl, if_pos rfl], Loop.isOpen_close _ _⟩

/-- To close a kind is to take out its entry, release what is left of it, and keep its loop. -/
theorem Site.close_some {s : Site} {k : Kind} {e : Entry} (he : s.registry.entries k = some e) :
    s.close k = (e.address,
      ({ s with registry := s.registry.setEntry k none }.release e).keep e.serving) := by
  unfold close
  simp only [he]
  cases e.serving <;> rfl

namespace Yard

variable [Platform] {y y' y₁ y₂ y₃ : Yard} {k : Kind} {e : Entry}

theorem Run.trans (h : Run y₁ y₂) (h' : Run y₂ y₃) : Run y₁ y₃ := by
  induction h' with
  | refl => exact h
  | step _ hst ih => exact .step ih hst

theorem Step.run (h : Step y y') : Run y y' := .step .refl h

theorem Reachable.run (hr : y.Reachable) (h : Run y y') : y'.Reachable := by
  obtain ⟨c, h₀, base, h₁, plan, hs, hi, hp, hrun⟩ := hr
  exact ⟨c, h₀, base, h₁, plan, hs, hi, hp, hrun.trans h⟩

/-! ### Starting -/

/-- A plan is bound one listener after the other. -/
theorem run_bindAll {c : Config} {plan : List (Kind × String)} {o o' : Opened} {h' : Host}
    (hj : y.job = .opening o plan) (hb : y.site.registry.bundle = c.bundle)
    (hr : c.bindAll o y.site.host plan = (.ok o', h')) :
    Run y { y with site := { y.site with host := h' }, job := .opening o' [] } := by
  induction plan generalizing y o with
  | nil =>
    obtain ⟨site, job, signalled, left, told⟩ := y
    obtain rfl := hj
    cases hr
    exact .refl
  | cons p plan ih =>
    obtain ⟨k, address⟩ := p
    rw [Config.bindAll] at hr
    split at hr
    · rename_i hk
      exact (Step.skip hj hk).run.trans (ih (y := { y with job := .opening o plan }) rfl hb hr)
    · rename_i hk
      cases hl : y.site.host.listen k address c.bundle with
      | mk r h =>
        rw [hl] at hr
        cases r with
        | error e => cases hr
        | ok l =>
          have hst := Step.bind hj (by simpa using hk) (hb ▸ hl)
          exact hst.run.trans (ih (y := { y with
            site := { y.site with host := h }
            job := .opening (o ++ [(l, address)]) plan }) rfl hb hr)

/-- Kinds are served one after the other. -/
theorem run_serveAll {ks : List Kind} {s' : Site} (hj : y.job = .idle)
    (hr : y.site.serveAll ks = (.ok (), s')) : Run y { y with site := s' } := by
  induction ks generalizing y with
  | nil =>
    cases hr
    exact .refl
  | cons k ks ih =>
    rw [Site.serveAll] at hr
    cases hs : y.site.serve k with
    | mk r s =>
      rw [hs] at hr
      cases r with
      | error e => cases hr
      | ok u =>
        have hst := Step.serve k hj
        rw [hs] at hst
        exact hst.run.trans (ih (y := { y with site := s }) hj hr)

/-- A registry that has come up is at work, and in the middle of nothing. -/
theorem exists_of_up {h : Host} (hs : h.Sound) {c : Config} {w : World}
    (hu : (World.unstarted h).up c = (.ok (), w)) :
    ∃ y : Yard, y.Reachable ∧ y.job = .idle ∧ w = .ofSite y.site := by
  unfold World.up World.unstarted at hu
  dsimp only at hu
  split at hu
  · cases hu
  · rename_i o h' hopen
    split at hu
    · rename_i u s hserve
      cases hu
      unfold Config.openAll at hopen
      split at hopen
      · cases hopen
      · rename_i base h₁ hi
        split at hopen
        · cases hopen
        · rename_i plan hp
          have hbind := run_bindAll (y := start c base h₁ plan) rfl rfl hopen
          have hall := hbind.step (.record rfl)
          exact ⟨_, ⟨c, h, base, h₁, plan, hs, hi, hp,
            hall.trans (run_serveAll rfl hserve)⟩, rfl, rfl⟩
    · cases hu

/-! ### Closing -/

/-- What is left of an entry is released, whatever its loop was doing. -/
theorem Kept.run_release (hy : y.Kept) {p : Purpose} (hj : y.job = .releasing k e p) :
    ∃ y', Run y y' ∧ y'.job = .releasing k { e with listener := none } p ∧
      y'.site = y.site.release e ∧
      ∀ id, e.serving = some id → id ∈ y'.signalled ∧ id ∈ y'.told := by
  obtain ⟨address, provenance, listener, serving⟩ := e
  obtain ⟨y₁, hr₁, hj₁, hs₁⟩ : ∃ y₁, Run y y₁ ∧
      y₁.job = .releasing k ⟨address, provenance, none, serving⟩ p ∧
      y₁.site = y.site.release ⟨address, provenance, listener, none⟩ := by
    cases listener with
    | some l => exact ⟨_, (Step.unlisten hj rfl).run, rfl, rfl⟩
    | none => exact ⟨y, .refl, hj, rfl⟩
  cases serving with
  | none => exact ⟨y₁, hr₁, hj₁, hs₁, nofun⟩
  | some id =>
    have hserved : y₁.served k = some id := by
      rw [served, held_hand (k := k) (e := ⟨address, provenance, none, some id⟩) (by rw [hj₁]; rfl),
        if_pos rfl]
      rfl
    obtain ⟨-, l, hl, -⟩ := (hy.run hr₁).manned.serves hserved
    have hall := (((hr₁.step (.signal hj₁ rfl rfl)).step (.heed List.mem_cons_self)).step
      (.drop List.mem_cons_self)).step (.tell (Site.shut_closeLoop hl))
    refine ⟨_, hall, hj₁, ?_, fun i hi => ?_⟩
    · show y₁.site.closeLoop id = _
      rw [hs₁]
      rfl
    · cases hi
      exact ⟨List.mem_cons_self, List.mem_cons_self⟩

/-- The beginning of a change, up to the first attempt. -/
theorem Kept.run_beginChange (hy : y.Kept) (hj : y.job = .idle) (hk : k.isNetwork = true)
    (address : String) : ∃ y', Run y y' ∧ y'.site = (y.site.beginChange k address).2 ∧
      y'.job = .after (y.site.beginChange k address).1 := by
  rcases y.site.beginChange_cases k address with ⟨-, hb⟩ | ⟨hn, ⟨-, -, hb⟩ | hway⟩
  · rw [hb]
    exact ⟨y, .refl, rfl, hj⟩
  · rw [hb]
    exact ⟨y, .refl, rfl, hj⟩
  · have hserver (hne : address ≠ "") : (y.site.registry.servers k).isSome = true := by
      rcases hway with ⟨he, -⟩ | ⟨-, ⟨router, hr⟩, -⟩
      · exact absurd he hne
      · rw [hr]
        rfl
    rw [Site.beginChange_eq hn hserver]
    cases he : y.site.registry.entries k with
    | none =>
      rw [Site.close_none he]
      dsimp only
      split
      · exact ⟨y, .refl, rfl, hj⟩
      · rename_i hne
        exact ⟨_, (Step.enter hj hk hne (hserver hne) he).run, rfl, rfl⟩
    | some e =>
      have htake := Step.take hj hk hn ((Decidable.em _).imp_right hserver) he
      obtain ⟨y₂, hr₂, hj₂, hs₂, ht₂⟩ := (hy.step htake).run_release rfl
      have hclose : y.site.close k = (e.address, y₂.site.keep e.serving) := by
        rw [Site.close_some he, hs₂]
      refine ⟨_, (htake.run.trans hr₂).step (.closed hj₂ rfl ht₂), ?_, ?_⟩
      · rw [hclose]
      · rw [hclose]

/-- Closing all listeners, one kind after the other. -/
theorem Kept.run_closeAll (hy : y.Kept) {d : List LoopId} (hj : y.job = .stopping d)
    (ks : List Kind) : ∃ y' d', Run y y' ∧ y'.job = .stopping d' ∧
      y'.site = ks.foldl (fun s k => match s.registry.entries k with
        | some e => { s with registry := s.registry.setEntry k none }.release e
        | none => s) y.site := by
  induction ks generalizing y d with
  | nil => exact ⟨y, d, .refl, hj, rfl⟩
  | cons k ks ih =>
    cases he : y.site.registry.entries k with
    | none =>
      obtain ⟨y', d', hr, hj', hs⟩ := ih hy hj
      refine ⟨y', d', hr, hj', ?_⟩
      rw [hs, List.foldl_cons, he]
    | some e =>
      have hpop := Step.pop hj he
      obtain ⟨y₂, hr₂, hj₂, hs₂, ht₂⟩ := (hy.step hpop).run_release rfl
      have hr₃ := (hpop.run.trans hr₂).step (.popped hj₂ rfl ht₂)
      obtain ⟨y', d', hr, hj', hs⟩ := ih (hy.run hr₃) rfl
      refine ⟨y', d', hr₃.trans hr, hj', ?_⟩
      rw [hs, List.foldl_cons, he]
      dsimp only
      rw [hs₂]

/-- A stop, up to the moment when the loops are waited for. -/
theorem Kept.run_stop (hy : y.Kept) (hj : y.job = .idle) (hs : y.site.Sound) :
    ∃ y', Run y y' ∧ y'.job = .over ∧ (∀ k, y'.site.registry.entries k = none) ∧
      y'.site.host = y.site.closeAll.2.host ∧ y'.site.loops = y.site.closeAll.2.loops := by
  have hstop := Step.stop hj
  obtain ⟨y', d, hr, hj', hs'⟩ := (hy.step hstop).run_closeAll rfl Kind.all
  have hkept : Site.Mirrors { y.site with registry := { y.site.registry with retired := [] } }
      y.site := ⟨rfl, rfl, rfl⟩
  have hm : y'.site.Mirrors (y.site.closeEach Kind.all) := by
    rw [hs']
    exact hkept.releases hs Kind.all
  have hall := Site.closeAll_mirrors hs
  have hnone (k : Kind) : y'.site.registry.entries k = none := by
    rw [hm.entries, (Site.closeEach_spec hs Kind.all).1, if_pos k.mem_all]
  exact ⟨_, (hstop.run.trans hr).step (.stopped hj' hnone), rfl, hnone, hm.host.trans hall.host.symm,
    hm.loops.trans hall.loops.symm⟩

/-- A loop breaks off. -/
theorem run_fault (y : Yard) (id : LoopId) :
    ∃ y', Run y y' ∧ y'.site = y.site.closeLoop id ∧ y'.job = y.job := by
  cases hl : y.site.loops[id]? with
  | none => exact ⟨y, .refl, by simp only [Site.closeLoop, hl], rfl⟩
  | some l => exact ⟨_, (Step.fault hl).run.step (.drop List.mem_cons_self), rfl, rfl⟩

/-! ### Scenes at work -/

/-- What a registry is in the middle of, in a scene at each stage of its life after the start. -/
def Minds (y : Yard) (u : Option (Move × Change)) : Lifecycle → Prop
  | .unstarted => False
  | .running r => y.site.registry = r ∧ y.job = match u with
    | some (_, c) => .changing c
    | none => .idle
  | .stopped => y.job = .over ∧ ∀ k, y.site.registry.entries k = none

/-- A registry at work that has come as far as the one in a scene. -/
structure Shows (y : Yard) (s : Scene) : Prop where
  host : y.site.host = s.world.host
  loops : y.site.loops = s.world.loops
  minds : y.Minds s.underway s.world.lifecycle

variable {s s' : Scene} {t : Site} {m : Move} {c : Change} {r : Option Notice} {tidy : Prop}

omit [Platform] in
theorem Shows.site (h : y.Shows s) (ht : s.world.site? = some t) :
    y.site = t ∧ y.job = match s.underway with
      | some (_, c) => .changing c
      | none => .idle := by
  obtain ⟨hlife, hh, hl⟩ := World.site?_eq_some ht
  have hm := h.minds
  rw [hlife] at hm
  exact ⟨Site.mk.injEq .. ▸ ⟨h.host.trans hh, h.loops.trans hl, hm.1⟩, hm.2⟩

omit [Platform] in
/-- A change has come this far. -/
theorem shows_resume (hy : y.site = t) (hj : y.job = .after c) (hr : s.resume m t c = (r, s')) :
    y.Shows s' := by
  obtain ⟨hw, -, -, hc⟩ := Scene.resume_cases hr
  subst hy
  refine ⟨by rw [hw]; rfl, by rw [hw]; rfl, ?_⟩
  rw [hw]
  refine ⟨rfl, ?_⟩
  rcases hc with ⟨o, rfl, -, hu⟩ | ⟨-, hu, hn⟩
  · rw [hj, hu]
    rfl
  · rw [hj, hu]
    cases c with
    | done o => cases hn
    | _ => rfl

omit [Platform] in
/-- What a scene does to its host or its loops alone. -/
theorem Shows.of_same (h : y.Shows s) {w : World} (hl : w.lifecycle = s.world.lifecycle)
    (hh : y'.site.host = w.host) (hls : y'.site.loops = w.loops)
    (hr : y'.site.registry = y.site.registry) (hj : y'.job = y.job) :
    y'.Shows { s with world := w } := by
  refine ⟨hh, hls, ?_⟩
  have hm := h.minds
  show y'.Minds s.underway w.lifecycle
  rw [hl]
  cases hlife : s.world.lifecycle with
  | unstarted =>
    rw [hlife] at hm
    exact hm
  | running reg =>
    rw [hlife] at hm
    exact ⟨hr.trans hm.1, hj.trans hm.2⟩
  | stopped =>
    rw [hlife] at hm
    exact ⟨hj.trans hm.1, fun k => (congrArg (fun g => g.entries k) hr).trans (hm.2 k)⟩

/-- A scene has no listeners that nobody serves. -/
theorem Shows.ready (h : y.Shows s) (hs : s.Sound) (k : Kind) : y.ready k = none := by
  have hm := h.minds
  cases hlife : s.world.lifecycle with
  | unstarted =>
    rw [hlife] at hm
    exact hm.elim
  | running reg =>
    obtain ⟨t, ht⟩ : ∃ t, s.world.site? = some t := ⟨_, by simp only [World.site?, hlife]; rfl⟩
    obtain ⟨rfl, hj⟩ := h.site ht
    have hjob : y.job.opened? = none ∧ y.job.hand? = none := by
      rw [hj]
      cases s.underway <;> exact ⟨rfl, rfl⟩
    rw [ready_running hjob.1, held_idle hjob.2]
    cases he : y.site.registry.entries k with
    | none => rfl
    | some e =>
      obtain ⟨id, l, hv⟩ := (hs.site ht).1.serves he
      exact hv.listener
  | stopped =>
    rw [hlife] at hm
    exact (ready_of_vacant (by rw [hm.1]; rfl) (by rw [hm.1]; rfl) (hm.2 k)).1

omit [Platform] in
/-- A loop that breaks off in a scene does so at work. -/
theorem Shows.fault (h : y.Shows s) (id : LoopId) (hs : y'.site = y.site.closeLoop id)
    (hj : y'.job = y.job) : y'.Shows { s with world := s.world.fault id } := by
  have hcongr : (s.world.fault id).lifecycle = s.world.lifecycle ∧
      (y.site.closeLoop id).host = (s.world.fault id).host ∧
      (y.site.closeLoop id).loops = (s.world.fault id).loops := by
    unfold World.fault Site.closeLoop
    rw [h.loops]
    cases s.world.loops[id]? with
    | none => exact ⟨rfl, h.host, h.loops⟩
    | some l =>
      dsimp only
      split
      · exact ⟨rfl, congrArg (fun g => g.drop l.listener) h.host, by rw [Site.now, h.host]⟩
      · exact ⟨rfl, h.host, h.loops⟩
  exact h.of_same hcongr.1 (hs ▸ hcongr.2.1) (hs ▸ hcongr.2.2)
    (by rw [hs, Site.registry_closeLoop]) hj

/-- Time that passes in a scene passes at work. -/
theorem Shows.wait (h : y.Shows s) (time : Nat) :
    Shows { y with
      site := { y.site with host := y.site.host.sleep time }
      job := y.job.rest time } { s with
      world := { s.world with host := s.world.host.sleep time }
      underway := s.underway.map fun u => (u.1, u.2.rest time) } := by
  refine ⟨congrArg (fun g => g.sleep time) h.host, h.loops, ?_⟩
  have hm := h.minds
  show Minds _ _ s.world.lifecycle
  cases hlife : s.world.lifecycle with
  | unstarted =>
    rw [hlife] at hm
    exact hm
  | running reg =>
    rw [hlife] at hm
    refine ⟨hm.1, ?_⟩
    dsimp only
    rw [hm.2]
    cases s.underway <;> rfl
  | stopped =>
    rw [hlife] at hm
    refine ⟨?_, hm.2⟩
    dsimp only
    rw [hm.1]
    rfl

/-- Whatever happens in a scene is a run at work. -/
theorem Shows.step (h : y.Shows s) (hy : y.Kept) (hs : s.Sound) (hst : Scene.Step tidy s r s') :
    ∃ y', Run y y' ∧ y'.Shows s' := by
  have hstage : s.world.stage ≠ .unstarted := by
    have hm := h.minds
    unfold World.stage
    cases hlife : s.world.lifecycle with
    | unstarted =>
      rw [hlife] at hm
      exact hm.elim
    | _ => simp [Lifecycle.stage]
  have stays (hw : s'.world = s.world) (hu : s'.underway = s.underway) : ∃ y', Run y y' ∧ y'.Shows s' :=
    ⟨y, .refl, by rw [hw]; exact h.host, by rw [hw]; exact h.loops, by rw [hw, hu]; exact h.minds⟩
  cases hst with
  | up free hr =>
    rw [World.up_refused hstage] at hr
    cases hr
    exact stays rfl rfl
  | giveUp free hl ha => exact absurd (by rw [World.stage, hl]; rfl) hstage
  | refuse free hc => exact stays rfl rfl
  | keep free hc => exact stays rfl rfl
  | queue free hc => exact stays rfl rfl
  | late free hw hn => exact stays rfl rfl
  | begin free hw ht hr =>
    obtain ⟨rfl, hj⟩ := h.site ht
    rw [free] at hj
    have hm := hs.waiting _ (by rw [hw]; exact List.mem_append_right _ List.mem_cons_self)
    obtain ⟨y', hrun, hsite, hjob⟩ := hy.run_beginChange hj hm.network _
    exact ⟨y', hrun, shows_resume hsite hjob hr⟩
  | go hu ht hr =>
    obtain ⟨rfl, hj⟩ := h.site ht
    rw [hu] at hj
    exact ⟨_, (Step.bid hj).run, shows_resume rfl rfl hr⟩
  | down free hd =>
    obtain ⟨t, ht, -, rfl⟩ := World.beginDown_ok hd
    obtain ⟨rfl, hj⟩ := h.site ht
    rw [free] at hj
    obtain ⟨y', hrun, hover, hnone, hhost, hloops⟩ := hy.run_stop hj (hs.site ht).1
    exact ⟨y', hrun, hhost, hloops, hover, hnone⟩
  | noDown free hd =>
    obtain rfl := World.beginDown_error hd
    exact stays rfl rfl
  | isDown hi hf => exact stays rfl rfl
  | fault id =>
    obtain ⟨y', hrun, hsite, hjob⟩ := run_fault y id
    exact ⟨y', hrun, h.fault id hsite hjob⟩
  | @visit id l l' hl hm =>
    have hmeets : l.Meets y.site.now l' := by
      rw [Site.now, h.host]
      exact hm
    exact ⟨_, (Step.visit (h.loops ▸ hl) hmeets).run, h.of_same rfl h.host
      (congrArg (fun ls : List Loop => ls.set id l') h.loops) rfl rfl⟩
  | wait time => exact ⟨_, (Step.wait time).run, h.wait time⟩
  | others ho ht =>
    have hst := Step.others (y := y) ⟨ho.sound, h.host ▸ ho.now, h.host ▸ ho.attempts,
      fun hl => h.host ▸ ho.sockets (h.loops ▸ hl), fun {k l} hl => by
        rw [h.ready hs] at hl
        cases hl⟩
    exact ⟨_, hst.run, h.of_same rfl rfl h.loops rfl rfl⟩

end Yard

namespace Scene

variable [Platform] {s s' : Scene} {r : Option Notice} {tidy : Prop}

theorem Sound.starts (hs : s.Sound) (hu : s.world.stage = .unstarted) (hst : Step tidy s r s')
    (hn : s'.world.stage ≠ .unstarted) : ∃ y : Yard, y.Reachable ∧ y.Shows s' := by
  obtain ⟨c, t, hsound, hup, free, rfl⟩ := hs.comes_up hu hst hn
  obtain ⟨y, hy, hj, hsame⟩ := Yard.exists_of_up hsound hup
  obtain rfl : t = y.site := Option.some.inj (congrArg World.site? hsame)
  exact ⟨y, hy, rfl, rfl, rfl, by rw [hj, free]⟩

/-- Every state of a registry that was started is one of a registry at work. -/
theorem Reachable.at_work (hr : s.Reachable) (hn : s.world.stage ≠ .unstarted) :
    ∃ y : Yard, y.Reachable ∧ y.Shows s := by
  obtain ⟨h, hs, hrun⟩ := hr
  induction hrun with
  | refl => exact absurd rfl hn
  | @step s₁ s₂ r hrun hst ih =>
    have hs₁ := (sound_start hs).run hrun
    by_cases hu : s₁.world.stage = .unstarted
    · exact hs₁.starts hu hst hn
    · obtain ⟨y, hy, hsh⟩ := ih hu
      obtain ⟨y', hyr, hsh'⟩ := hsh.step hy.kept hs₁ hst
      exact ⟨y', hy.run hyr, hsh'⟩

end Scene
end Portkeeper
