import Portkeeper.Proofs.Registry.Tending
import Portkeeper.Proofs.Registry.Upkeep

/-!
What a stop comes to. Every loop that was ever started has exited when it is over, no socket is open
and no file is left, except that the file at a path that was cut off stays; and nothing is opened any
more, whatever requests still waited for their turn.
-/

set_option autoImplicit false

namespace Portkeeper

/-! ### Waiting for loops -/

theorem foldl_le_iff {α : Type} {f : Nat → α → Nat} {p : α → Prop} {n : Nat}
    (hf : ∀ t a, f t a ≤ n ↔ t ≤ n ∧ p a) (as : List α) (t : Nat) :
    as.foldl f t ≤ n ↔ t ≤ n ∧ ∀ a ∈ as, p a := by
  induction as generalizing t with
  | nil => simp
  | cons a as ih =>
    rw [List.foldl_cons, ih, hf, List.forall_mem_cons]
    exact and_assoc

namespace Loop

variable {l : Loop} {now n : Nat}

theorem isFinished_iff {c : Nat} (hc : l.closedAt = some c) :
    l.isFinished now = true ↔ c + drainLimit ≤ now ∨ ∀ v ∈ l.visits, v.isOver now = true := by
  simp [isFinished, hc]

theorem exists_closedAt (hc : l.isOpen = false) : ∃ c, l.closedAt = some c := by
  unfold isOpen at hc
  cases ht : l.closedAt with
  | none => simp [ht] at hc
  | some c => exact ⟨c, rfl⟩

/-- A closed loop has exited when the time that is reckoned for it has come. -/
theorem endsAt_le (hc : l.isOpen = false) : l.endsAt ≤ n ↔ l.isFinished n = true := by
  obtain ⟨c, hc⟩ := exists_closedAt hc
  have hfold : lastEnd (c + drainLimit) l.visits ≤ n ↔
      ∀ v ∈ l.visits, c + drainLimit ≤ n ∨ v.isOver n = true := by
    unfold lastEnd
    rw [foldl_le_iff (p := fun v => c + drainLimit ≤ n ∨ v.isOver n = true)]
    · simp
    · intro t v
      unfold Visit.isOver
      cases v.ends with
      | none =>
        simp only [Option.getD_none, Option.any_none, Nat.min_self, Nat.max_le, Bool.false_eq_true,
          or_false]
      | some e =>
        simp only [Option.getD_some, Option.any_some, decide_eq_true_eq]
        omega
  rw [isFinished_iff hc, endsAt, hc]
  simp only [hfold, forall_or_left]

end Loop

namespace World

theorem drainTime_le {w : World} {ids : List LoopId} {n : Nat}
    (hc : ∀ {id : LoopId} {l : Loop}, w.loops[id]? = some l → l.isOpen = false) :
    w.drainTime ids ≤ n ↔
      ∀ id ∈ ids, ∀ l, w.loops[id]? = some l → l.isFinished (w.host.now + n) = true := by
  unfold drainTime
  rw [foldl_le_iff (p := fun id => ∀ l, w.loops[id]? = some l →
    l.isFinished (w.host.now + n) = true)]
  · simp only [Nat.zero_le, true_and]
  · intro time id
    cases hl : w.loops[id]? with
    | none => simp
    | some l =>
      simp only [Nat.max_le, Nat.sub_le_iff_le_add', Loop.endsAt_le (hc hl), Option.some.injEq,
        forall_eq']

variable [Platform]

/-- A stop does come to its end: loops that are closed have all exited after a time. -/
theorem areFinished_awaitLoops (w : World) {ids : List LoopId}
    (hc : ∀ {id : LoopId} {l : Loop}, w.loops[id]? = some l → l.isOpen = false) :
    (w.awaitLoops ids).areFinished ids = true := by
  unfold areFinished awaitLoops
  refine List.all_eq_true.mpr fun id hid => ?_
  dsimp only
  split
  · rename_i l hl
    rw [Host.now_sleep]
    exact (drainTime_le hc).mp (Nat.le_refl _) id hid l hl
  · rfl

end World

/-! ### Loops through a run -/

/-- Every loop is still there, with the same listener. -/
def Extends (loops loops' : List Loop) : Prop :=
  ∀ (id : LoopId) (l : Loop), loops[id]? = some l →
    ∃ l', loops'[id]? = some l' ∧ l'.listener = l.listener

namespace Extends

variable {loops loops' loops'' : List Loop}

theorem refl (loops : List Loop) : Extends loops loops := fun _ l hl => ⟨l, hl, rfl⟩

theorem trans (h : Extends loops loops') (h' : Extends loops' loops'') : Extends loops loops'' := by
  intro id l hl
  obtain ⟨l', hl', he⟩ := h id l hl
  obtain ⟨l'', hl'', he'⟩ := h' id l' hl'
  exact ⟨l'', hl'', he'.trans he⟩

theorem set (loops : List Loop) {id : LoopId} {l l' : Loop} (hl : loops[id]? = some l)
    (he : l'.listener = l.listener) : Extends loops (loops.set id l') := by
  intro i m hm
  have hlt : id < loops.length := (List.getElem?_eq_some_iff.mp hl).1
  by_cases hi : i = id
  · subst hi
    obtain rfl : l = m := Option.some.inj (hl.symm.trans hm)
    exact ⟨l', List.getElem?_set_self hlt, he⟩
  · exact ⟨m, (List.getElem?_set_ne (Ne.symm hi)).trans hm, rfl⟩

theorem push (loops : List Loop) (l : Loop) : Extends loops (loops ++ [l]) := by
  intro i m hm
  exact ⟨m, (List.getElem?_append_left (List.getElem?_eq_some_iff.mp hm).1).trans hm, rfl⟩

theorem enduring (loops : List Loop) : Enduring fun _ loops' => Extends loops loops' where
  close _ he hl _ := he.trans (set _ hl (Loop.listener_close _ _))
  leaves he _ := he
  push l he := he.trans (push _ l)
  visit he hl hk _ := he.trans (set _ hl hk)

end Extends

namespace Scene

variable [Platform] {tidy : Prop} {s s' : Scene}

/-- No loop is ever forgotten. -/
theorem Sound.extends (hs : s.Sound) {r : Option Notice} (hst : Step tidy s r s') :
    Extends s.world.loops s'.world.loops := by
  by_cases hn : s.world.stage = .unstarted
  · intro id l hl
    rw [(hs.unstarted hn).2] at hl
    cases hl
  · exact (Extends.enduring s.world.loops).step hs hn (Extends.refl _) hst

theorem Sound.extends_run (hs : s.Sound) (hr : Run tidy s s') :
    Extends s.world.loops s'.world.loops := by
  induction hr with
  | refl => exact Extends.refl _
  | step hrun hst ih => exact ih.trans ((hs.run hrun).extends hst)

/-! ### After a stop -/

/-- A registry whose stop is over. -/
structure Ended (s : Scene) : Prop where
  stopped : s.world.lifecycle = .stopped
  settled : s.stopping = none

omit [Platform] in
theorem Ended.site? (he : s.Ended) : s.world.site? = none := by simp [World.site?, he.stopped]

/-- Every loop has exited by then, and its socket is closed. -/
theorem Ended.loop (he : s.Ended) (hs : s.Sound) {id : LoopId} {l : Loop}
    (hl : s.world.loops[id]? = some l) : l.isOpen = false ∧
      l.isFinished s.world.host.now = true ∧ l.listener.Released s.world.host := by
  have hst := hs.stands
  rw [he.stopped] at hst
  obtain ⟨ho, hf⟩ := hst.2.2 hl
  refine ⟨ho, ?_, hst.1.released hl ho⟩
  rcases hf with hf | ⟨ids, hi, -⟩
  · exact hf
  · rw [he.settled] at hi
    cases hi

/-- It stays like that, and nothing tries to listen any more. -/
theorem Ended.step (he : s.Ended) (hs : s.Sound) {r : Option Notice} (hst : Step tidy s r s') :
    s'.Ended ∧ s'.world.host.attempts = s.world.host.attempts ∧
      s'.world.loops.length = s.world.loops.length := by
  have hno := he.site?
  cases hst with
  | up free hr =>
    rw [World.up_refused (by simp [World.stage, he.stopped, Lifecycle.stage])] at hr
    cases hr
    exact ⟨he, rfl, rfl⟩
  | giveUp free hl ha =>
    rw [he.stopped] at hl
    cases hl
  | refuse free hc => exact ⟨he, rfl, rfl⟩
  | keep free hc => exact ⟨he, rfl, rfl⟩
  | queue free hc =>
    obtain ⟨canonical, t, -, -, ht, -⟩ := World.check_ok hc
    rw [hno] at ht
    cases ht
  | late free hw hn => exact ⟨⟨he.stopped, he.settled⟩, rfl, rfl⟩
  | begin free hw ht hr =>
    rw [hno] at ht
    cases ht
  | go hu ht hr =>
    rw [hno] at ht
    cases ht
  | down free hd =>
    simp only [World.beginDown, hno] at hd
    cases hd
  | noDown free hd =>
    simp only [World.beginDown, hno] at hd
    cases hd
    exact ⟨he, rfl, rfl⟩
  | isDown hi hf =>
    rw [he.settled] at hi
    cases hi
  | fault id =>
    rw [World.fault_of_closed fun l hl => (he.loop hs hl).1]
    exact ⟨he, rfl, rfl⟩
  | visit hl hm => exact ⟨⟨he.stopped, he.settled⟩, rfl, List.length_set⟩
  | wait time => exact ⟨⟨he.stopped, he.settled⟩, hs.wired.sound.attempts_sleep time, rfl⟩
  | others ho ht => exact ⟨⟨he.stopped, he.settled⟩, ho.attempts, rfl⟩

theorem Ended.run (he : s.Ended) (hs : s.Sound) (hr : Run tidy s s') :
    s'.Ended ∧ s'.world.host.attempts = s.world.host.attempts ∧
      s'.world.loops.length = s.world.loops.length := by
  induction hr with
  | refl => exact ⟨he, rfl, rfl⟩
  | step hrun hst ih =>
    obtain ⟨he', ha, hl⟩ := ih
    obtain ⟨he'', ha', hl'⟩ := he'.step (hs.run hrun) hst
    exact ⟨he'', ha'.trans ha, hl'.trans hl⟩

/-- Only a stopped registry has loops to wait for. -/
theorem Sound.stopped_of_stopping (hs : s.Sound) {ids : List LoopId} (hi : s.stopping = some ids) :
    s.world.lifecycle = .stopped := by
  have hst := hs.stands
  cases hlife : s.world.lifecycle with
  | unstarted =>
    rw [hlife] at hst
    rw [hst.2.2.2] at hi
    cases hi
  | running reg =>
    rw [hlife] at hst
    rw [hst.2.1] at hi
    cases hi
  | stopped => rfl

/-- A caller is told that a stop is over when the loops that were waited for have exited. -/
theorem Step.down_ok (hst : Step tidy s (some (.down (.ok ()))) s') :
    ∃ ids, s.stopping = some ids ∧ s.world.areFinished ids = true ∧ s' = { s with stopping := none } := by
  cases hst with
  | begin free hw ht hr =>
    rcases (resume_cases hr).2.2.2 with ⟨o, -, hc, -⟩ | ⟨hc, -⟩
    · cases hc
    · cases hc
  | go hu ht hr =>
    rcases (resume_cases hr).2.2.2 with ⟨o, -, hc, -⟩ | ⟨hc, -⟩
    · cases hc
    · cases hc
  | isDown hi hf => exact ⟨_, hi, hf, rfl⟩

/-- A caller is told that a stop is over only when it is. -/
theorem Sound.isDown (hs : s.Sound) (hst : Step tidy s (some (.down (.ok ()))) s') :
    s'.Ended := by
  obtain ⟨ids, hi, -, rfl⟩ := hst.down_ok
  exact ⟨hs.stopped_of_stopping hi, rfl⟩

/-- A stop that is begun comes to its end once its loops have had their time. -/
theorem Sound.comes_down (tidy : Prop) (hs : s.Sound) (free : s.underway = none) {t : Site}
    (ht : s.world.site? = some t) : ∃ s₂ s₃, Run tidy s s₂ ∧
      Step tidy s₂ (some (.down (.ok ()))) s₃ ∧ s.world.down = (.ok (), s₃.world) := by
  have hbegin := World.beginDown_eq ht
  obtain ⟨-, -, hloops⟩ := Site.closeAll_spec (hs.site ht).1
  let w : World := ⟨t.closeAll.2.host, t.closeAll.2.loops, .stopped⟩
  have hfinished : (w.awaitLoops t.closeAll.1).areFinished t.closeAll.1 = true :=
    w.areFinished_awaitLoops fun hl => (hloops hl).1
  refine ⟨⟨w.awaitLoops t.closeAll.1, none, s.waiting, some t.closeAll.1⟩,
    ⟨w.awaitLoops t.closeAll.1, none, s.waiting, none⟩, ?_, .isDown rfl hfinished, ?_⟩
  · have hdown : Step tidy s none ⟨w, none, s.waiting, some t.closeAll.1⟩ := free ▸ .down free hbegin
    exact (Run.refl.step hdown).step (.wait (w.drainTime t.closeAll.1))
  · unfold World.down
    rw [hbegin]

/-! ### A registry's whole life -/

/-- What is left of a loop when a stop is over. -/
structure Over (tidy : Prop) (c : Config) (h : Host) (w : World) (l : Loop) : Prop where
  finished : l.isFinished w.host.now = true
  idle : l.inProgress w.host.now = []
  released : l.listener.Released w.host
  file : tidy → ∀ p, l.listener.file = some p →
    (w.host.files.Forgot l.listener.socket ↔ ¬(c.CutsOff h ∧ l.listener.kind = .localAdmin))
  inherited : tidy → l.listener.descriptor ≠ none → ∀ q m,
    h.files.at? q = some (.socket m l.listener.socket) → h.files.entry c.guestPath ≠ .ok q →
    w.host.files.at? q = some (.socket m l.listener.socket)

/-- The scene right after a start. -/
def opening (w : World) : Scene := ⟨w, none, [], none⟩

theorem sound_opening {h : Host} (hs : h.Sound) {c : Config} {w : World}
    (hup : (World.unstarted h).up c = (.ok (), w)) : (opening w).Sound :=
  (sound_start hs).up rfl hup

theorem tends_opening {h : Host} (hs : h.Sound) {c : Config} {w : World}
    (hup : (World.unstarted h).up c = (.ok (), w)) :
    (opening w).Tends (c.CutsOff h) (c.count ≠ 0) w.host.files ∧
      (c.count ≠ 0 → ∀ {q : Place} {n : Node}, h.files.at? q = some n →
        h.files.entry c.guestPath ≠ .ok q → w.host.files.at? q = some n) := by
  rcases World.up_cases hs hup with ⟨-, t, plan, rfl, hst⟩ | ⟨e, -, -, he, -⟩
  · refine ⟨⟨nofun, ⟨fun {id l} hl => ?_, hst.adopted, fun hl hd q m hq => hq⟩⟩, hst.kept⟩
    obtain ⟨ho, hf⟩ := hst.filed hl
    rw [ho]
    exact hf
  · cases he

/-- When a caller is told that a stop is over, every loop there ever was has exited, no connection is
in progress, the sockets are closed and the files of those that were bound are gone, unless the path of
the local one was cut off at the start; those of inherited sockets are still there. And whatever
happens afterwards, nothing is opened any more. -/
theorem down_settles {tidy : Prop} {h : Host} (hs : h.Sound) {c : Config} {w : World}
    (hup : (World.unstarted h).up c = (.ok (), w)) {s₁ s₂ s₃ s₄ : Scene}
    (hbefore : Run tidy (opening w) s₁) (hrun : Run tidy s₁ s₂)
    (hdown : Step tidy s₂ (some (.down (.ok ()))) s₃) (hafter : Run tidy s₃ s₄) :
    (∀ (id : LoopId) (l : Loop), s₁.world.loops[id]? = some l → ∃ l',
      s₃.world.loops[id]? = some l' ∧ l'.listener = l.listener ∧ Over tidy c h s₃.world l') ∧
    s₄.world.stage = .stopped ∧ s₄.world.host.attempts = s₃.world.host.attempts ∧
    s₄.world.loops.length = s₃.world.loops.length ∧
    ∀ (id : LoopId) (l : Loop), s₄.world.loops[id]? = some l →
      l.isFinished s₄.world.host.now = true ∧ l.listener.Released s₄.world.host := by
  have hs₀ := sound_opening hs hup
  obtain ⟨ht₀, hkept⟩ := tends_opening hs hup
  have hs₁ := hs₀.run hbefore
  have hs₂ := hs₁.run hrun
  have hs₃ := hs₂.step hdown
  have he₃ := hs₂.isDown hdown
  obtain ⟨he₄, hattempts, hlength⟩ := he₃.run hs₃ hafter
  have hs₄ := hs₃.run hafter
  refine ⟨fun id l hl => ?_, ?_, hattempts, hlength, fun id l hl => (he₄.loop hs₄ hl).2⟩
  · obtain ⟨l', hl', he⟩ := ((hs₁.extends_run hrun).trans (hs₂.extends hdown)) id l hl
    obtain ⟨ho, hf, hr⟩ := he₃.loop hs₃ hl'
    have htends (ht : tidy) :
        Tended (c.CutsOff h) (c.count ≠ 0) w.host.files s₃.world.host s₃.world.loops :=
      (((ht₀.run hs₀ ht hbefore).run hs₁ ht hrun).step hs₂ ht hdown).tended
    refine ⟨l', hl', he, hf, Loop.inProgress_of_finished hf, hr,
      fun ht p hp => (htends ht).forgot_iff hl' ho hp, fun ht hd q m hq hne => ?_⟩
    have htend := htends ht
    exact htend.kept hl' hd (hkept (htend.adopted hl' hd).2 hq hne)
  · rw [World.stage, he₄.stopped]
    rfl

end Scene

namespace Scene

theorem openAll_quiet : ∃ o h', Config.quiet.openAll Host.linked = (.ok o, h') := by
  have hr : (Config.quiet.openAll Host.linked).1.isOk = true := by decide +kernel
  cases ho : Config.quiet.openAll Host.linked with
  | mk r h' =>
    cases r with
    | ok o => exact ⟨o, h', rfl⟩
    | error e =>
      rw [ho] at hr
      cases hr

/-- There is such a life. -/
theorem down_settles_quiet : ∃ w s₂ s₃,
    (World.unstarted Host.linked).up Config.quiet = (.ok (), w) ∧ Run True (opening w) s₂ ∧
    Step True s₂ (some (.down (.ok ()))) s₃ ∧
    ∀ (id : LoopId) (l : Loop), w.loops[id]? = some l → ∃ l', s₃.world.loops[id]? = some l' ∧
      l'.listener = l.listener ∧ Over True Config.quiet Host.linked s₃.world l' := by
  obtain ⟨o, h', hr⟩ := openAll_quiet
  obtain ⟨t, plan, hup, -⟩ := World.up_ok Host.sound_linked hr
  obtain ⟨s₂, s₃, hrun, hdown, -⟩ :=
    (sound_opening Host.sound_linked hup).comes_down True rfl (World.site?_ofSite t)
  exact ⟨_, s₂, s₃, hup, hrun, hdown,
    (down_settles Host.sound_linked hup Run.refl hrun hdown Run.refl).1⟩

/-- A stop that is over can leave a socket file. -/
theorem down_leaves_file : ∃ (w : World) (s₂ s₃ : Scene) (id : LoopId) (l : Loop) (p : List Char),
    (World.unstarted Host.linked).up Config.quiet = (.ok (), w) ∧ Run True (opening w) s₂ ∧
    Step True s₂ (some (.down (.ok ()))) s₃ ∧ s₃.world.loops[id]? = some l ∧
    l.listener.file = some p ∧ ¬s₃.world.host.files.Forgot l.listener.socket := by
  obtain ⟨o, h', hr⟩ := openAll_quiet
  obtain ⟨t, plan, hup, hst⟩ := World.up_ok Host.sound_linked hr
  have hs := sound_opening Host.sound_linked hup
  obtain ⟨ht, -⟩ := tends_opening Host.sound_linked hup
  obtain ⟨s₂, s₃, hrun, hdown, -⟩ := hs.comes_down True rfl (World.site?_ofSite t)
  have hs₂ := hs.run hrun
  have hcut : Config.quiet.CutsOff Host.linked := Config.cutsOff_linked ⟨_, by rfl⟩
  obtain ⟨id, l, p, hl, hk, hp⟩ := hst.lost hcut
  obtain ⟨l', hl', he⟩ := (hs.extends_run hrun).trans (hs₂.extends hdown) id l hl
  have htended := ((ht.run hs trivial hrun).step hs₂ trivial hdown).tended
  have hclosed := ((hs₂.isDown hdown).loop (hs₂.step hdown) hl').1
  rw [← he] at hk hp
  refine ⟨_, s₂, s₃, id, l', p, hup, hrun, hdown, hl', hp, fun hforgot => ?_⟩
  exact (htended.forgot_iff hl' hclosed hp).mp hforgot ⟨hcut, hk⟩

end Scene

end Portkeeper
