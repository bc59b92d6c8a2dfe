import Portkeeper.Proofs.Registry.Lasting

/-!
The files of a registry through its life. Every loop takes its socket file with it when its socket is
closed, whatever else happens, and the files of inherited sockets stay where they were.
-/

set_option autoImplicit false

namespace Portkeeper
open Listener

/-- The socket files of loops are where they belong, and those of inherited sockets, if there are any,
where they once were. -/
structure Tended (cut adopts : Prop) (f₀ : Files) (h : Host) (loops : List Loop) : Prop where
  filed : ∀ {id : LoopId} {l : Loop}, loops[id]? = some l →
    l.listener.Filed h.files (cut ∧ l.listener.kind = .localAdmin) l.isOpen
  adopted : ∀ {id : LoopId} {l : Loop}, loops[id]? = some l → l.listener.descriptor ≠ none →
    l.listener.file = none ∧ adopts
  kept : ∀ {id : LoopId} {l : Loop}, loops[id]? = some l → l.listener.descriptor ≠ none →
    ∀ {q : Place} {m : Nat}, f₀.at? q = some (.socket m l.listener.socket) →
    h.files.at? q = some (.socket m l.listener.socket)

variable {cut adopts : Prop} {f₀ : Files} {h h' : Host} {loops : List Loop}

namespace Tended

/-- Closing the socket of a loop. -/
theorem close (hw : Wired h loops) (ht : Tended cut adopts f₀ h loops) {id : LoopId} {l : Loop}
    (hl : loops[id]? = some l) (ho : l.isOpen = true) (now : Nat) :
    Tended cut adopts f₀ (h.drop l.listener) (loops.set id (l.close now)) := by
  have hfiled : l.listener.Filed h.files (cut ∧ l.listener.kind = .localAdmin) true := ho ▸ ht.filed hl
  have hcases {i : LoopId} {m : Loop} (hm : (loops.set id (l.close now))[i]? = some m) :
      m = l.close now ∨ loops[i]? = some m ∧ m.listener.socket ≠ l.listener.socket := by
    rw [List.getElem?_set] at hm
    split at hm
    · split at hm
      · exact Or.inl (Option.some.inj hm).symm
      · cases hm
    · rename_i hne
      exact Or.inr ⟨hm, fun hc => hne (hw.apart hm hl hc).symm⟩
  refine ⟨fun {i m} hm => ?_, fun {i m} hm hd => ?_, fun {i m} hm hd q n hq => ?_⟩
  · rcases hcases hm with rfl | ⟨hm, hne⟩
    · rw [Loop.listener_close, Loop.isOpen_close]
      exact hfiled.drop
    · have hother := ht.filed hm
      exact hother.untouched (hfiled.untouched_drop hne hother.plain)
  · rcases hcases hm with rfl | ⟨hm, -⟩
    · rw [Loop.listener_close] at hd ⊢
      exact ht.adopted hl hd
    · exact ht.adopted hm hd
  · rcases hcases hm with rfl | ⟨hm, hne⟩
    · rw [Loop.listener_close] at hd hq ⊢
      rw [Host.drop_eq, (ht.adopted hl hd).1]
      show (h.letGo l.listener).files.at? q = _
      rw [Host.files_letGo]
      exact ht.kept hl hd hq
    · refine hfiled.at?_drop (ht.kept hm hd hq) fun n' hc => hne ?_
      simp only [Node.socket.injEq] at hc
      exact hc.2

/-- The file of a closed loop is gone, unless its path was cut off. -/
theorem forgot_iff (ht : Tended cut adopts f₀ h loops) {id : LoopId} {l : Loop}
    (hl : loops[id]? = some l) (ho : l.isOpen = false) {p : List Char}
    (hp : l.listener.file = some p) :
    h.files.Forgot l.listener.socket ↔ ¬(cut ∧ l.listener.kind = .localAdmin) := by
  have hfiled := ht.filed hl
  rw [ho] at hfiled
  obtain ⟨-, hcut, hno⟩ := hfiled p hp
  constructor
  · intro hforgot hc
    obtain ⟨⟨q, hq⟩, -⟩ := hcut hc
    obtain ⟨m, hm⟩ := hq.node
    exact hforgot q m hm
  · intro hc
    exact hno hc

theorem stable (cut adopts : Prop) (f₀ : Files) :
    Stable fun h loops => Wired h loops ∧ Tended cut adopts f₀ h loops :=
  ⟨fun ht hl ho => ⟨ht.1.close hl ho _, ht.2.close ht.1 hl ho _⟩⟩

/-- Other people's tidiness. -/
theorem untouched (ht : Tended cut adopts f₀ h loops)
    (hu : ∀ {id : LoopId} {l : Loop}, loops[id]? = some l → l.listener.Untouched h.files h'.files) :
    Tended cut adopts f₀ h' loops where
  filed hl := (ht.filed hl).untouched (hu hl)
  adopted := ht.adopted
  kept hl hd _ _ hq := ((hu hl).nodes _ _).mpr (ht.kept hl hd hq)

theorem same (ht : Tended cut adopts f₀ h loops) (hf : h'.files = h.files) : Tended cut adopts f₀ h' loops :=
  ht.untouched fun _ => Untouched.of_eq _ hf

/-- One more loop, which has no file. -/
theorem push (ht : Tended cut adopts f₀ h loops) {l : Loop} (hf : l.listener.file = none)
    (hd : l.listener.descriptor = none) : Tended cut adopts f₀ h (loops ++ [l]) := by
  have hcases {i : LoopId} {m : Loop} (hm : (loops ++ [l])[i]? = some m) :
      loops[i]? = some m ∨ m = l := by
    rw [List.getElem?_append] at hm
    split at hm
    · exact Or.inl hm
    · rw [List.getElem?_singleton] at hm
      split at hm
      · exact Or.inr (Option.some.inj hm).symm
      · cases hm
  refine ⟨fun {i m} hm => ?_, fun {i m} hm hm' => ?_, fun {i m} hm hm' q n hq => ?_⟩
  · rcases hcases hm with hm | rfl
    · exact ht.filed hm
    · exact filed_none hf
  · rcases hcases hm with hm | rfl
    · exact ht.adopted hm hm'
    · exact absurd hd hm'
  · rcases hcases hm with hm | rfl
    · exact ht.kept hm hm' hq
    · exact absurd hd hm'

theorem visit (ht : Tended cut adopts f₀ h loops) {id : LoopId} {l l' : Loop} {now : Nat}
    (hl : loops[id]? = some l) (hm : l.Meets now l') : Tended cut adopts f₀ h (loops.set id l') := by
  have hcases {i : LoopId} {m : Loop} (hi : (loops.set id l')[i]? = some m) :
      ∃ m', loops[i]? = some m' ∧ m.listener = m'.listener ∧ m.isOpen = m'.isOpen := by
    rw [List.getElem?_set] at hi
    split at hi
    · rename_i he
      subst he
      split at hi
      · cases hi
        exact ⟨l, hl, hm.listener, hm.isOpen⟩
      · cases hi
    · exact ⟨m, hi, rfl, rfl⟩
  refine ⟨fun {i m} hi => ?_, fun {i m} hi hd => ?_, fun {i m} hi hd q n hq => ?_⟩
  · obtain ⟨m', hi', hk, ho⟩ := hcases hi
    rw [hk, ho]
    exact ht.filed hi'
  · obtain ⟨m', hi', hk, -⟩ := hcases hi
    rw [hk] at hd ⊢
    exact ht.adopted hi' hd
  · obtain ⟨m', hi', hk, -⟩ := hcases hi
    rw [hk] at hd hq ⊢
    exact ht.kept hi' hd hq

variable [Platform]

/-- A change does nothing to files but close what it replaces. -/
theorem step {t : Site} (hs : t.Sound) {c : Change} (hc : t.Carries c)
    (ht : Tended cut adopts f₀ t.host t.loops) :
    Tended cut adopts f₀ (t.step c).2.host (t.step c).2.loops := by
  rcases hs.step_cases hc with ⟨r, rfl, he⟩ | ⟨k, h, hk, hw, he, -⟩ |
    ⟨b, h, l, router, ha, hw, -, he, -⟩
  · rw [he]
    exact ht
  · rw [he]
    exact ht.same (hw.files hk)
  · obtain ⟨h₁, -, -, -, ho⟩ := id hw
    rw [he]
    exact (ht.same (hw.files ha.network)).push (l := ⟨l, router, none, []⟩)
      (ho.network ha.network).1 ho.descriptor

theorem beginChange {t : Site} (hs : t.Sound) (ht : Tended cut adopts f₀ t.host t.loops) (k : Kind)
    (address : String) :
    Tended cut adopts f₀ (t.beginChange k address).2.host (t.beginChange k address).2.loops :=
  (Site.beginChange_stable (Tended.stable cut adopts f₀) hs ⟨hs.wired, ht⟩ k address).2

end Tended

namespace Scene

variable {tidy : Prop} {s s' : Scene}

/-- A registry that was started, with its files. -/
structure Tends (cut adopts : Prop) (f₀ : Files) (s : Scene) : Prop where
  started : s.world.stage ≠ .unstarted
  tended : Tended cut adopts f₀ s.world.host s.world.loops

theorem Tends.of_site {t : Site} (ht : s.world.site? = some t)
    (hs : Tended cut adopts f₀ s.world.host s.world.loops) : Tended cut adopts f₀ t.host t.loops := by
  obtain ⟨-, hh, hl⟩ := World.site?_eq_some ht
  rwa [hh, hl] at hs

variable [Platform]

theorem Tends.step (hs : s.Sound) (ht : s.Tends cut adopts f₀) {r : Option Notice} (tidily : tidy)
    (hst : Step tidy s r s') : s'.Tends cut adopts f₀ := by
  have resumed {s s' : Scene} {m : Move} {t : Site} {c : Change} {r : Option Notice}
      (hr : s.resume m t c = (r, s')) (htt : Tended cut adopts f₀ t.host t.loops) : s'.Tends cut adopts f₀ := by
    obtain ⟨hw, -⟩ := resume_cases hr
    refine ⟨?_, ?_⟩
    · simp [hw, World.stage, World.ofSite, Lifecycle.stage]
    · rw [hw]
      exact htt
  cases hst with
  | up free hr =>
    rw [World.up_refused ht.started] at hr
    cases hr
    exact ht
  | giveUp free hl ha => exact absurd (by rw [World.stage, hl]; rfl) ht.started
  | refuse free hc => exact ht
  | keep free hc => exact ht
  | queue free hc => exact ⟨ht.started, ht.tended⟩
  | late free hw hn => exact ⟨ht.started, ht.tended⟩
  | begin free hw hsite hr =>
    obtain ⟨hsound, -, -⟩ := hs.site hsite
    exact resumed hr ((Tends.of_site hsite ht.tended).beginChange hsound _ _)
  | go hu hsite hr =>
    obtain ⟨hsound, -, hunder⟩ := hs.site hsite
    exact resumed hr ((Tends.of_site hsite ht.tended).step hsound (hunder hu).carried)
  | down free hd =>
    obtain ⟨t, hsite, -, rfl⟩ := World.beginDown_ok hd
    obtain ⟨hsound, -, -⟩ := hs.site hsite
    have hcl := (Site.closeAll_stable (Tended.stable cut adopts f₀) hsound
      ⟨hsound.wired, Tends.of_site hsite ht.tended⟩).2
    exact ⟨by simp [World.stage, Lifecycle.stage], hcl⟩
  | noDown free hd =>
    obtain rfl := World.beginDown_error hd
    exact ht
  | isDown hi hf => exact ⟨ht.started, ht.tended⟩
  | fault id =>
    refine ⟨?_, (World.fault_stable (Tended.stable cut adopts f₀) ⟨hs.wired, ht.tended⟩ id).2⟩
    have hstarted := ht.started
    unfold World.stage at hstarted ⊢
    rwa [World.lifecycle_fault]
  | visit hl hm => exact ⟨ht.started, ht.tended.visit hl hm⟩
  | wait time => exact ⟨ht.started, ht.tended.same (hs.wired.sound.files_sleep time)⟩
  | others ho htidy => exact ⟨ht.started, ht.tended.untouched (htidy tidily)⟩

theorem Tends.run (hs : s.Sound) (ht : s.Tends cut adopts f₀) (tidily : tidy) (hr : Run tidy s s') :
    s'.Tends cut adopts f₀ := by
  induction hr with
  | refl => exact ht
  | step hrun hst ih => exact ih.step (hs.run hrun) tidily hst

end Scene
end Portkeeper
