import Portkeeper.Proofs.Registry.Shutdown

/-!
What becomes of loops. A step of a scene starts loops, lets time pass for them, closes their sockets, or
gives word from the connections of one; it does nothing else to them. So a loop that is closed is left
to itself: its connections go when they are over, and none is ended before their time is up.
-/

set_option autoImplicit false

namespace Portkeeper

/-! ### Loops that are closed, and no others -/

/-- Some loops of a list were closed at a time. -/
structure Closings (time : Nat) (loops : List Loop) (h : Host) (loops' : List Loop) : Prop where
  now : h.now = time
  length : loops'.length = loops.length
  loop : ∀ {id : LoopId} {l' : Loop}, loops'[id]? = some l' → loops[id]? = some l' ∨
    ∃ l, loops[id]? = some l ∧ l.isOpen = true ∧ l' = l.close time

theorem Closings.refl {h : Host} (loops : List Loop) : Closings h.now loops h loops :=
  ⟨rfl, rfl, Or.inl⟩

theorem Closings.stable (time : Nat) (loops : List Loop) : Stable (Closings time loops) where
  close {h loops' id l} hc hl ho := by
    refine ⟨(Host.now_drop _ _).trans hc.now, List.length_set.trans hc.length, fun {i m} hm => ?_⟩
    rcases Loop.of_getElem?_set hm with ⟨rfl, rfl⟩ | ⟨-, hm⟩
    · rw [hc.now]
      rcases hc.loop hl with hl' | ⟨l', -, -, rfl⟩
      · exact Or.inr ⟨l, hl', ho, rfl⟩
      · simp at ho
    · exact hc.loop hm

/-- When nothing is left open, all loops have been closed at that time or before. -/
theorem Closings.eq_map {time : Nat} {loops loops' : List Loop} {h : Host}
    (hc : Closings time loops h loops')
    (hall : ∀ {id : LoopId} {l : Loop}, loops'[id]? = some l → l.isOpen = false) :
    loops' = loops.map (Loop.close time) := by
  refine List.ext_getElem (by rw [hc.length, List.length_map]) fun id hid hid' => ?_
  have hl' := List.getElem?_eq_getElem hid
  rw [List.getElem_map]
  rcases hc.loop hl' with hl | ⟨l, hl, -, he⟩
  · rw [(List.getElem?_eq_some_iff.mp hl).2, Loop.close_of_closed _ (hall hl')]
  · rw [he, (List.getElem?_eq_some_iff.mp hl).2]

namespace Site

variable [Platform] {t : Site}

theorem closings_beginChange (hs : t.Sound) (k : Kind) (address : String) :
    Closings t.now t.loops (t.beginChange k address).2.host (t.beginChange k address).2.loops :=
  beginChange_stable (Closings.stable t.now t.loops) hs (.refl t.loops) k address

theorem closings_closeAll (hs : t.Sound) :
    Closings t.now t.loops (t.closeAll).2.host (t.closeAll).2.loops :=
  closeAll_stable (Closings.stable t.now t.loops) hs (.refl t.loops)

end Site

namespace World

theorem closings_fault (w : World) (id : LoopId) :
    Closings w.host.now w.loops (w.fault id).host (w.fault id).loops :=
  fault_stable (Closings.stable w.host.now w.loops) (.refl w.loops) id

end World

namespace Scene

/-! ### The steps of a scene -/

def now (s : Scene) : Nat := s.world.host.now

/-- A loop of a scene. -/
def loop? (s : Scene) (id : LoopId) : Option Loop := s.world.loops[id]?

/-- How a scene goes on when there is word from the connections of a loop. -/
def hear (s : Scene) (id : LoopId) (l : Loop) : Scene :=
  { s with world := { s.world with loops := s.world.loops.set id l } }

/-- What can become of a loop in a step. -/
inductive Fares (s s' : Scene) (id : LoopId) : Option Loop → Loop → Prop
  | starts {l : Loop} (isOpen : l.isOpen = true) : Fares s s' id none l
  | stays {l : Loop} (later : s.now ≤ s'.now) : Fares s s' id (some l) l
  | closes {l : Loop} (isOpen : l.isOpen = true) (now : s'.now = s.now) :
      Fares s s' id (some l) (l.close s.now)
  | gets_on {l l' : Loop} (meets : l.Meets s.now l') (heard : s' = s.hear id l') :
      Fares s s' id (some l) l'

variable {tidy : Prop} {s s' : Scene} {r : Option Notice} {id : LoopId} {l l' : Loop}

theorem Fares.of_closings (hc : Closings s.now s.world.loops s'.world.host s'.world.loops)
    (hl : s'.loop? id = some l') : s.Fares s' id (s.loop? id) l' := by
  rcases hc.loop hl with hm | ⟨l, hm, ho, rfl⟩
  · rw [show s.loop? id = some l' from hm]
    exact .stays (Nat.le_of_eq hc.now.symm)
  · rw [show s.loop? id = some l from hm]
    exact .closes ho hc.now

theorem Fares.of_same (hloop : s.loop? id = s'.loop? id) (hn : s.now ≤ s'.now)
    (hl : s'.loop? id = some l') : s.Fares s' id (s.loop? id) l' := by
  rw [hloop, hl]
  exact .stays hn

variable [Platform]

theorem Sound.loop?_unstarted (hs : s.Sound) (hu : s.world.stage = .unstarted) (id : LoopId) :
    s.loop? id = none := by
  rw [loop?, (hs.unstarted hu).2]
  rfl

/-- The loops of a registry that comes up are open. -/
theorem Sound.fares_up (hs : s.Sound) {c : Config} {o : Except EndpointError Unit} {w : World}
    (hup : s.world.up c = (o, w)) (hl : w.loops[id]? = some l') :
    s.Fares { s with world := w } id (s.loop? id) l' := by
  by_cases hu : s.world.stage = .unstarted
  · obtain ⟨hsound, hw⟩ := hs.unstarted hu
    rw [hw] at hup
    rcases World.up_cases hsound hup with ⟨-, t, plan, rfl, hst⟩ | ⟨-, h', -, -, rfl, -⟩
    · rw [hs.loop?_unstarted hu]
      exact .starts (hst.filed hl).1
    · cases hl
  · rw [World.up_refused hu] at hup
    cases hup
    exact .of_same rfl (Nat.le_refl _) hl

/-- An attempt that is won starts a loop, and any other lets time pass at most. -/
theorem Sound.fares_go (hs : s.Sound) {t : Site} {m : Move} {c : Change}
    (hu : s.underway = some (m, c)) (ht : s.world.site? = some t)
    (hw : s'.world = .ofSite (t.step c).2) (hl : s'.loop? id = some l') :
    s.Fares s' id (s.loop? id) l' := by
  obtain ⟨hsite, -, hunder⟩ := hs.site ht
  obtain ⟨-, hh, hls⟩ := World.site?_eq_some ht
  rcases hsite.step_cases (hunder hu).carried with ⟨o, rfl, hsame⟩ | ⟨k, h, -, hwait, hsame, -⟩ |
    ⟨b, h, n, router, -, hwin, -, hsame, -⟩
  · rw [hsame] at hw
    refine .of_same ?_ ?_ hl
    · rw [loop?, loop?, hw, hls]
      rfl
    · rw [now, now, hw, hh]
      exact Nat.le_refl _
  · rw [hsame] at hw
    refine .of_same ?_ ?_ hl
    · rw [loop?, loop?, hw, hls]
      rfl
    · rw [now, now, hw, hh]
      exact hwait.later.now
  · rw [hsame] at hw
    have hn : s.now ≤ s'.now := by
      rw [now, now, hw, hh]
      exact hwin.later.now
    have hpush : (t.loops ++ [⟨n, router, none, []⟩])[id]? = some l' := by
      rw [loop?, hw] at hl
      exact hl
    rw [loop?, hls]
    rcases Loop.of_getElem?_push hpush with hm | ⟨rfl, rfl⟩
    · rw [hm]
      exact .stays hn
    · rw [List.getElem?_eq_none (Nat.le_refl _)]
      exact .starts rfl

/-- Nothing else becomes of any loop, whatever happens to a registry. -/
theorem Sound.fares (hs : s.Sound) (hst : Step tidy s r s') (hl : s'.loop? id = some l') :
    s.Fares s' id (s.loop? id) l' := by
  cases hst with
  | up free hr => exact hs.fares_up hr hl
  | giveUp free hu ha =>
    have hnone := hs.loop?_unstarted (by rw [World.stage, hu]; rfl) id
    cases hnone.symm.trans hl
  | begin free hw ht hr =>
    rename_i t m before after
    have hcl := Site.closings_beginChange (hs.site ht).1 m.kind m.canonical
    obtain ⟨-, hh, hls⟩ := World.site?_eq_some ht
    have hworld := (resume_cases hr).1
    refine Fares.of_closings ?_ hl
    rw [hworld, now, hh, hls]
    exact hcl
  | go hu ht hr => exact hs.fares_go hu ht (resume_cases hr).1 hl
  | down free hd =>
    obtain ⟨t, ht, -, rfl⟩ := World.beginDown_ok hd
    obtain ⟨-, hh, hls⟩ := World.site?_eq_some ht
    refine Fares.of_closings ?_ hl
    rw [now, hh, hls]
    exact Site.closings_closeAll (hs.site ht).1
  | noDown free hd =>
    obtain rfl := World.beginDown_error hd
    exact .of_same rfl (Nat.le_refl _) hl
  | fault i => exact .of_closings (World.closings_fault s.world i) hl
  | @visit i l m hi hm =>
    rcases Loop.of_getElem?_set hl with ⟨rfl, rfl⟩ | ⟨-, hl⟩
    · rw [show s.loop? id = some l from hi]
      exact .gets_on hm rfl
    · rw [show s.loop? id = some l' from hl]
      exact .stays (Nat.le_refl _)
  | wait time =>
    refine .of_same rfl ?_ hl
    rw [now, now, Host.now_sleep]
    exact Nat.le_add_right _ _
  | others ho ht => exact .of_same rfl ho.now hl
  | _ => exact .of_same rfl (Nat.le_refl _) hl

/-- The same, for a loop that is there before the step. -/
theorem Sound.fares_on (hs : s.Sound) (hst : Step tidy s r s') (hl : s.loop? id = some l) :
    ∃ l', s'.loop? id = some l' ∧ s.Fares s' id (some l) l' := by
  obtain ⟨l', hl', -⟩ := hs.extends hst id l hl
  exact ⟨l', hl', hl ▸ hs.fares hst hl'⟩

omit [Platform] in
theorem Fares.later (hf : s.Fares s' id (some l) l') : s.now ≤ s'.now := by
  cases hf with
  | stays later => exact later
  | closes _ now => exact Nat.le_of_eq now.symm
  | gets_on _ heard => exact heard ▸ Nat.le_refl _

/-- No loop was closed in the future. -/
def Timely (s : Scene) : Prop :=
  ∀ (id : LoopId) (l : Loop) (c : Nat), s.loop? id = some l → l.closedAt = some c → c ≤ s.now

theorem Timely.step (ht : s.Timely) (hs : s.Sound) (hst : Step tidy s r s') : s'.Timely := by
  intro id l' c hl' hc
  have hf := hs.fares hst hl'
  cases hl : s.loop? id with
  | none =>
    rw [hl] at hf
    cases hf with
    | starts isOpen => simp [Loop.isOpen, hc] at isOpen
  | some l =>
    rw [hl] at hf
    cases hf with
    | stays later => exact Nat.le_trans (ht _ _ _ hl hc) later
    | closes isOpen now =>
      unfold Loop.close at hc
      split at hc
      · rename_i hclosed
        simp [Loop.isOpen, hclosed] at isOpen
      · cases hc
        exact Nat.le_of_eq now.symm
    | gets_on meets heard =>
      subst heard
      exact ht _ _ _ hl (meets.closedAt.symm.trans hc)

theorem Reachable.timely (hr : s.Reachable) : s.Timely := by
  obtain ⟨h, hsound, hrun⟩ := hr
  induction hrun with
  | refl =>
    intro id l c hl
    cases hl
  | step hrun hst ih => exact ih.step ((sound_start hsound).run hrun) hst

end Scene
end Portkeeper
