import Portkeeper.Proofs.Registry.Faring
import Portkeeper.Proofs.Registry.Indifference
import Portkeeper.Proofs.Registry.Updating

/-!
How long connections may go on. A connection that is past its handshake when the socket of its loop is
closed goes on until it is over, or until a fixed time after that closing, whatever happens to the
registry meanwhile. Moves do not wait for it; a stop does, and so it takes as long as the last loop.
-/

set_option autoImplicit false

namespace Portkeeper

/-! ### Reckoning -/

/-- The longest of some times. -/
def longest (times : List Nat) : Nat := times.foldr max 0

theorem longest_le {times : List Nat} {n : Nat} : longest times ≤ n ↔ ∀ m ∈ times, m ≤ n := by
  induction times with
  | nil => simp [longest]
  | cons m times ih =>
    rw [List.forall_mem_cons, ← ih]
    exact Nat.max_le

/-- The time that a connection still takes if it is ended after a limit. -/
def Visit.takes (now limit : Nat) (v : Visit) : Nat :=
  match v.ends with
  | some t => min (t - now) limit
  | none => limit

theorem Visit.takes_le {now limit n : Nat} {v : Visit} :
    v.takes now limit ≤ n ↔ limit ≤ n ∨ v.isOver (now + n) = true := by
  unfold takes isOver
  cases v.ends with
  | none => simp
  | some t =>
    simp only [Option.any_some, decide_eq_true_eq]
    omega

namespace Loop

/-- The time that is left to the connections of a loop when its socket is closed, or of what they were
given if it is closed already. -/
def left (now : Nat) (l : Loop) : Nat :=
  match l.closedAt with
  | some c => c + drainLimit - now
  | none => drainLimit

/-- The time until a loop has exited if its socket is closed now: what its last connection takes, or
what is left to it if that is less. -/
def takes (now : Nat) (l : Loop) : Nat :=
  longest ((l.close now).visits.map (Visit.takes now (l.left now)))

variable {now n : Nat} {l : Loop} {v : Visit}

theorem left_le {c : Nat} (hc : (l.close now).closedAt = some c) :
    l.left now ≤ n ↔ c + drainLimit ≤ now + n := by
  cases ht : l.closedAt with
  | none =>
    simp only [close, ht, Option.some.injEq] at hc
    simp only [left, ht, ← hc, Nat.add_le_add_iff_left]
  | some c' =>
    simp only [close, ht, Option.some.injEq] at hc
    simp only [left, ht, hc, Nat.sub_le_iff_le_add']

theorem takes_le : l.takes now ≤ n ↔ (l.close now).isFinished (now + n) = true := by
  obtain ⟨c, hc⟩ := exists_closedAt (isOpen_close now l)
  rw [isFinished_iff hc, ← left_le hc, takes, longest_le]
  simp only [List.forall_mem_map, Visit.takes_le, forall_or_left]

theorem mem_inProgress : v ∈ l.inProgress now ↔
    l.isFinished now = false ∧ v ∈ l.visits ∧ v.isOver now = false := by
  unfold inProgress
  split <;> simp_all

/-- A connection of a closed loop is in progress until it is over or the time of the loop is up. -/
theorem mem_inProgress_of_closedAt {c : Nat} (hc : l.closedAt = some c) :
    v ∈ l.inProgress now ↔ now < c + drainLimit ∧ v ∈ l.visits ∧ v.isOver now = false := by
  rw [mem_inProgress, ← Bool.not_eq_true, isFinished_iff hc, not_or, Nat.not_le]
  constructor
  · rintro ⟨⟨hn, -⟩, hv⟩
    exact ⟨hn, hv⟩
  · rintro ⟨hn, hv, ho⟩
    exact ⟨⟨hn, fun hall => by simp [hall v hv] at ho⟩, hv, ho⟩

theorem close_of_open (ho : l.isOpen = true) :
    l.close now =
      { l with closedAt := some now, visits := l.visits.filter fun v => !v.handshaking } := by
  unfold isOpen at ho
  unfold close
  rw [Option.isNone_iff_eq_none.mp ho]

/-- When a socket is closed, handshakes are given up and all other connections go on. -/
theorem mem_inProgress_close (ho : l.isOpen = true) :
    v ∈ (l.close now).inProgress now ↔ v ∈ l.inProgress now ∧ v.handshaking = false := by
  have hopen : l.isFinished now = false := by
    unfold isOpen at ho
    unfold isFinished
    rw [Option.isNone_iff_eq_none.mp ho]
  have hlimit : now < now + drainLimit := Nat.lt_add_of_pos_right (by decide)
  rw [close_of_open ho, mem_inProgress_of_closedAt rfl, mem_inProgress]
  simp only [hopen, hlimit, true_and, List.mem_filter, Bool.not_eq_true']
  exact and_right_comm

end Loop

/-! ### The time of a stop -/

namespace Site

variable [Platform] {t : Site}

theorem loops_closeAll (hs : t.Sound) : (t.closeAll).2.loops = t.loops.map (Loop.close t.now) :=
  (closings_closeAll hs).eq_map fun hl => ((closeAll_spec hs).2.2 hl).1

/-- A stop waits until the last loop has exited, no matter which loops it knows of: those that it does
not wait for have exited before. -/
theorem drainTime_closeAll (hs : t.Sound) (life : Lifecycle) :
    World.drainTime ⟨(t.closeAll).2.host, (t.closeAll).2.loops, life⟩ (t.closeAll).1 =
      longest (t.loops.map (Loop.takes t.now)) := by
  obtain ⟨-, hnow, hloops⟩ := closeAll_spec hs
  have hle (n : Nat) : World.drainTime ⟨(t.closeAll).2.host, (t.closeAll).2.loops, life⟩
      (t.closeAll).1 ≤ n ↔ longest (t.loops.map (Loop.takes t.now)) ≤ n := by
    rw [World.drainTime_le fun hl => (hloops hl).1, longest_le]
    simp only [List.forall_mem_map, Loop.takes_le]
    rw [show (t.closeAll).2.host.now = t.now from hnow]
    constructor
    · intro hall l hl
      obtain ⟨id, hid⟩ := List.getElem?_of_mem hl
      have hid' : (t.closeAll).2.loops[id]? = some (l.close t.now) := by
        rw [loops_closeAll hs, List.getElem?_map, hid]
        rfl
      -- A loop that the stop does not wait for has exited by now.
      cases hf : (l.close t.now).isFinished t.now with
      | true => exact Loop.isFinished_mono (Nat.le_add_right _ _) hf
      | false => exact hall id ((hloops hid').2 hf) _ hid'
    · intro hall id _ l' hl'
      have hmem : l' ∈ t.loops.map (Loop.close t.now) := loops_closeAll hs ▸ List.mem_of_getElem? hl'
      obtain ⟨l, hl, rfl⟩ := List.mem_map.mp hmem
      exact hall l hl
  exact Nat.le_antisymm ((hle _).mpr (Nat.le_refl _)) ((hle _).mp (Nat.le_refl _))

end Site

namespace Scene

variable {tidy : Prop} {s s₁ s₂ : Scene} {r : Option Notice} {id : LoopId} {l l₁ : Loop} {visit c : Nat}

/-! ### Connections after a closing -/

/-- A connection to a loop is in progress. -/
def Busy (s : Scene) (id : LoopId) (visit : Nat) : Prop :=
  ∃ l v, s.loop? id = some l ∧ v ∈ l.inProgress s.now ∧ v.id = visit

/-- The socket of a loop is closed in a step. -/
structure Shuts (s s₁ : Scene) (id : LoopId) (l l₁ : Loop) : Prop where
  before : s.loop? id = some l
  isOpen : l.isOpen = true
  after : s₁.loop? id = some l₁
  closed : l₁.isOpen = false

/-- A connection comes to its own end in a step: the time for it has come, or there is word from the
connection. -/
inductive Departs (s s₁ : Scene) (id : LoopId) (visit : Nat) : Prop
  | lapses {l : Loop} (before : s.loop? id = some l) (after : s₁.loop? id = some l)
      (ended : ∀ v ∈ l.visits, v.id = visit → v.isOver s₁.now = true)
  | leaves {l l₁ : Loop} (before : s.loop? id = some l) (meets : l.Meets s.now l₁)
      (heard : s₁ = s.hear id l₁) (ended : ∀ v ∈ l₁.visits, v.id = visit → v.isOver s₁.now = true)

variable [Platform]

/-- A connection has come to its own end in a run. -/
def Departed (tidy : Prop) (s s' : Scene) (id : LoopId) (visit : Nat) : Prop :=
  ∃ s₁ r s₂, Run tidy s s₁ ∧ s₁.Busy id visit ∧ Step tidy s₁ r s₂ ∧ s₁.Departs s₂ id visit ∧
    Run tidy s₂ s'

theorem Shuts.eq (hsh : s.Shuts s₁ id l l₁) (hs : s.Sound) (hst : Step tidy s r s₁) :
    l₁ = l.close s.now ∧ s₁.now = s.now := by
  have hf := hs.fares hst hsh.after
  have ho := hsh.isOpen
  rw [hsh.before] at hf
  cases hf with
  | stays later => exact absurd hsh.closed (by simp [ho])
  | closes isOpen now => exact ⟨rfl, now⟩
  | gets_on meets heard => exact absurd hsh.closed (by simp [meets.isOpen, ho])

theorem Shuts.closedAt (hsh : s.Shuts s₁ id l l₁) (hs : s.Sound) (hst : Step tidy s r s₁) :
    l₁.closedAt = some s.now := by
  rw [(hsh.eq hs hst).1, Loop.close_of_open hsh.isOpen]

omit [Platform] in
/-- The socket of a loop is closed once. -/
theorem Fares.closedAt (hf : s.Fares s₁ id (some l) l₁) (hc : l.closedAt = some c) :
    l₁.closedAt = some c := by
  cases hf with
  | stays later => exact hc
  | closes isOpen now => simp [Loop.isOpen, hc] at isOpen
  | gets_on meets heard => exact meets.closedAt.trans hc

/-- What is in progress on a closed loop is still so after a step, or has come to its own end, unless
its time is up. -/
theorem Sound.busy_step (hs : s.Sound) (hst : Step tidy s r s₁) (hl : s.loop? id = some l)
    (hc : l.closedAt = some c) (hn : s₁.now < c + drainLimit) :
    s₁.Busy id visit ∨ s.Departs s₁ id visit := by
  obtain ⟨l₁, hl₁, hf⟩ := hs.fares_on hst hl
  have hc₁ := hf.closedAt hc
  by_cases hover : ∀ v ∈ l₁.visits, v.id = visit → v.isOver s₁.now = true
  · refine Or.inr ?_
    cases hf with
    | stays later => exact .lapses hl hl₁ hover
    | closes isOpen now => simp [Loop.isOpen, hc] at isOpen
    | gets_on meets heard => exact .leaves hl meets heard hover
  · simp only [not_forall, Bool.not_eq_true] at hover
    obtain ⟨v, hv, hid, hno⟩ := hover
    exact Or.inl ⟨l₁, v, hl₁, (Loop.mem_inProgress_of_closedAt hc₁).mpr ⟨hn, hv, hno⟩, hid⟩

theorem Sound.closed_run (hs : s.Sound) (hrun : Run tidy s s₁) (hl : s.loop? id = some l)
    (hc : l.closedAt = some c) : ∃ l₁, s₁.loop? id = some l₁ ∧ l₁.closedAt = some c := by
  induction hrun with
  | refl => exact ⟨l, hl, hc⟩
  | step hrun hst ih =>
    obtain ⟨l₂, hl₂, hc₂⟩ := ih
    obtain ⟨l₃, hl₃, hf⟩ := (hs.run hrun).fares_on hst hl₂
    exact ⟨l₃, hl₃, hf.closedAt hc₂⟩

/-- Nothing that happens to the registry in a run is a matter for what is in progress on a closed
loop. -/
theorem Sound.busy_run (hs : s.Sound) (hrun : Run tidy s s₁) (hl : s.loop? id = some l)
    (hc : l.closedAt = some c) (hb : s.Busy id visit) (hn : s₁.now < c + drainLimit) :
    s₁.Busy id visit ∨ Departed tidy s s₁ id visit := by
  induction hrun with
  | refl => exact Or.inl hb
  | @step s₂ s₃ r hrun hst ih =>
    have hs₂ := hs.run hrun
    obtain ⟨l₂, hl₂, hc₂⟩ := hs.closed_run hrun hl hc
    obtain ⟨l₃, -, hf⟩ := hs₂.fares_on hst hl₂
    rcases ih (Nat.lt_of_le_of_lt hf.later hn) with hb₂ | ⟨a, q, b, ha, hab, hq, hd, hb⟩
    · refine (hs₂.busy_step hst hl₂ hc₂ hn).imp_right fun hd => ?_
      exact ⟨s₂, r, s₃, hrun, hb₂, hst, hd, .refl⟩
    · exact Or.inr ⟨a, q, b, ha, hab, hq, hd, hb.step hst⟩

omit [Platform] in
/-- No connection goes on when the time of its loop is up. -/
theorem Busy.before_limit (hb : s.Busy id visit) (hl : s.loop? id = some l)
    (hc : l.closedAt = some c) : s.now < c + drainLimit := by
  obtain ⟨l', v, hl', hv, -⟩ := hb
  obtain rfl : l' = l := Option.some.inj (hl'.symm.trans hl)
  exact ((Loop.mem_inProgress_of_closedAt hc).mp hv).1

/-! ### The end of a stop -/

/-- Every loop that was ever started has exited. -/
def AllExited (s : Scene) : Prop :=
  ∀ {id : LoopId} {l : Loop}, s.loop? id = some l → l.isFinished s.now = true

/-- A stop is over when all loops have exited, and not before. -/
theorem Sound.areFinished_iff (hs : s.Sound) {ids : List LoopId} (hi : s.stopping = some ids) :
    s.world.areFinished ids = true ↔ s.AllExited := by
  have hst := hs.stands
  rw [hs.stopped_of_stopping hi] at hst
  unfold World.areFinished
  rw [List.all_eq_true]
  constructor
  · intro hall id l hl
    rcases (hst.2.2 hl).2 with hf | ⟨ids', hi', hid⟩
    · exact hf
    · obtain rfl : ids = ids' := Option.some.inj (hi.symm.trans hi')
      have hfin := hall id hid
      rwa [show s.world.loops[id]? = some l from hl] at hfin
  · intro hall id _
    split
    · rename_i l hl
      exact hall hl
    · rfl

theorem Step.stopped (hst : Step tidy s r s₁) (hw : s.world.lifecycle = .stopped) :
    s₁.world.lifecycle = .stopped := by
  have hno : s.world.site? = none := by
    unfold World.site?
    rw [hw]
  cases hst with
  | up free hr =>
    rw [World.up_refused (by simp [World.stage, hw, Lifecycle.stage])] at hr
    cases hr
    exact hw
  | begin free hq ht hr => cases hno.symm.trans ht
  | go hu ht hr => cases hno.symm.trans ht
  | down free hd =>
    rw [World.beginDown, hno] at hd
    cases hd
  | noDown free hd =>
    rw [World.beginDown, hno] at hd
    cases hd
    exact hw
  | fault i => exact (World.lifecycle_fault _ i).trans hw
  | _ => exact hw

/-- A stopped registry has loops only that were closed before, whatever happens. -/
theorem Timely.closed_run (ht : s.Timely) (hs : s.Sound) (hw : s.world.lifecycle = .stopped)
    (hrun : Run tidy s s₁) : s₁.world.lifecycle = .stopped ∧
      ∀ {id : LoopId} {l : Loop}, s₁.loop? id = some l → ∃ c ≤ s.now, l.closedAt = some c := by
  have closed {s : Scene} (hs : s.Sound) (hw : s.world.lifecycle = .stopped) {id : LoopId} {l : Loop}
      (hl : s.loop? id = some l) : l.isOpen = false := by
    have hst := hs.stands
    rw [hw] at hst
    exact (hst.2.2 hl).1
  induction hrun with
  | refl =>
    refine ⟨hw, fun hl => ?_⟩
    obtain ⟨c, hc⟩ := Loop.exists_closedAt (closed hs hw hl)
    exact ⟨c, ht _ _ _ hl hc, hc⟩
  | @step s₂ s₃ r hrun hst ih =>
    obtain ⟨hw₂, hclosed⟩ := ih
    have hs₂ := hs.run hrun
    have hw₃ := hst.stopped hw₂
    refine ⟨hw₃, fun {id l₃} hl₃ => ?_⟩
    have hf := hs₂.fares hst hl₃
    -- A loop that was not there would be open, and a stopped registry has no open loops.
    cases hl₂ : s₂.loop? id with
    | none =>
      rw [hl₂] at hf
      cases hf with
      | starts isOpen => exact absurd (closed (hs₂.step hst) hw₃ hl₃) (by simp [isOpen])
    | some l₂ =>
      rw [hl₂] at hf
      obtain ⟨c, hn, hc⟩ := hclosed hl₂
      exact ⟨c, hn, hf.closedAt hc⟩

/-! ### All of it -/

/-- The time until the last loop has exited if all sockets are closed now. -/
def takes (s : Scene) : Nat := longest (s.world.loops.map (Loop.takes s.now))

/-- What closing sockets, moves and a stop have to do with the connections there are. -/
structure Drains (tidy : Prop) (s : Scene) : Prop where
  /-- A socket is closed at once. Then connections that are in their handshakes are given up, and the
  others are in progress as before. -/
  closes : ∀ {r s₁ id l l₁}, Step tidy s r s₁ → s.Shuts s₁ id l l₁ →
    s₁.now = s.now ∧ ∀ v, v ∈ l₁.inProgress s₁.now ↔ v ∈ l.inProgress s.now ∧ v.handshaking = false
  /-- Whatever happens after that, they go on until they come to their own end, or their time is up. -/
  goes_on : ∀ {r s₁ s₂ id l l₁}, Step tidy s r s₁ → s.Shuts s₁ id l l₁ → Run tidy s₁ s₂ →
    s₂.now < s.now + drainLimit → ∀ v ∈ l₁.inProgress s₁.now,
      s₂.Busy id v.id ∨ Departed tidy s₁ s₂ id v.id
  /-- None goes on when their time is up. -/
  ends : ∀ {r s₁ s₂ id l l₁}, Step tidy s r s₁ → s.Shuts s₁ id l l₁ → Run tidy s₁ s₂ →
    s.now + drainLimit ≤ s₂.now → ∀ visit, ¬s₂.Busy id visit
  /-- A move closes a socket without waiting for anything. -/
  makes_way : ∀ {t} (k address), s.world.site? = some t → (t.beginChange k address).2.now = s.now
  /-- After that it waits for its pauses and for nothing else. -/
  bids : ∀ {t m c}, s.world.site? = some t → s.underway = some (m, c) →
    (t.step c).2.now = s.now + c.pause
  /-- What it comes to, and when, would be the same with other connections. -/
  indifferent : ∀ {w} (k address), s.world.Swaps w →
    (w.update k address).1 = (s.world.update k address).1 ∧
      (w.update k address).2.host = (s.world.update k address).2.host ∧
      (w.update k address).2.listing = (s.world.update k address).2.listing
  /-- A stop with which nothing interferes takes as long as the last loop. -/
  stops : ∀ {t}, s.world.site? = some t → ∃ w, s.world.down = (.ok (), w) ∧
    w.host.now = s.now + s.takes ∧ w.loops = s.world.loops.map (Loop.close s.now)
  /-- Before that some loop has not exited, and then all have. -/
  last : ∀ n, s.takes ≤ n ↔ ∀ l ∈ s.world.loops, (l.close s.now).isFinished (s.now + n) = true
  /-- It never takes longer than a connection may. -/
  bounded : s.takes ≤ drainLimit
  /-- Whatever happens during a stop, it can be over exactly when all loops have exited, -/
  returns : s.stopping ≠ none →
    ((∃ s₁, Step tidy s (some (.down (.ok ()))) s₁) ↔ s.AllExited)
  /-- and they have exited in time. -/
  in_time : ∀ {s₁}, s.world.lifecycle = .stopped → Run tidy s s₁ → s.now + drainLimit ≤ s₁.now →
    s₁.AllExited

theorem Sound.stops (hs : s.Sound) {t : Site} (ht : s.world.site? = some t) :
    ∃ w, s.world.down = (.ok (), w) ∧ w.host.now = s.now + s.takes ∧
      w.loops = s.world.loops.map (Loop.close s.now) := by
  obtain ⟨hsite, -, -⟩ := hs.site ht
  obtain ⟨-, hh, hl⟩ := World.site?_eq_some ht
  unfold World.down World.awaitLoops
  rw [World.beginDown_eq ht]
  dsimp only
  refine ⟨_, rfl, ?_, ?_⟩
  · rw [Host.now_sleep, Site.drainTime_closeAll hsite, takes, now, hh, hl,
      (Site.closings_closeAll hsite).now]
    rfl
  · rw [hl, now, hh]
    exact Site.loops_closeAll hsite

omit [Platform] in
theorem takes_le (s : Scene) (n : Nat) :
    s.takes ≤ n ↔ ∀ l ∈ s.world.loops, (l.close s.now).isFinished (s.now + n) = true := by
  unfold takes
  rw [longest_le]
  simp only [List.forall_mem_map, Loop.takes_le]

omit [Platform] in
theorem Timely.takes_le_drainLimit (ht : s.Timely) : s.takes ≤ drainLimit := by
  rw [takes_le]
  intro l hl
  obtain ⟨id, hid⟩ := List.getElem?_of_mem hl
  obtain ⟨c, hc⟩ := Loop.exists_closedAt (Loop.isOpen_close s.now l)
  have hn : c ≤ s.now := by
    unfold Loop.close at hc
    split at hc
    · exact ht _ _ _ hid hc
    · cases hc
      exact Nat.le_refl _
  exact (Loop.isFinished_iff hc).mpr (Or.inl (Nat.add_le_add_right hn _))

/-- Every state that a registry can come to is like that. -/
theorem drains (tidy : Prop) (hr : s.Reachable) : s.Drains tidy where
  closes hst hsh := by
    obtain ⟨rfl, hn⟩ := hsh.eq hr.sound hst
    exact ⟨hn, fun v => by rw [hn, Loop.mem_inProgress_close hsh.isOpen]⟩
  goes_on hst hsh hrun hn v hv :=
    (hr.sound.step hst).busy_run hrun hsh.after (hsh.closedAt hr.sound hst)
      ⟨_, v, hsh.after, hv, rfl⟩ hn
  ends hst hsh hrun hn visit hb := by
    obtain ⟨l₂, hl₂, hc⟩ :=
      (hr.sound.step hst).closed_run hrun hsh.after (hsh.closedAt hr.sound hst)
    exact Nat.not_lt.mpr hn (hb.before_limit hl₂ hc)
  makes_way {t} k address ht := by
    obtain ⟨-, hh, -⟩ := World.site?_eq_some ht
    rw [now, hh]
    exact (Site.closings_beginChange (hr.sound.site ht).1 k address).now
  bids {t m c} ht _ := by
    obtain ⟨-, hh, -⟩ := World.site?_eq_some ht
    rw [now, hh]
    exact Site.now_step (hr.sound.site ht).1 c
  indifferent k address hw := hw.update k address
  stops ht := hr.sound.stops ht
  last := s.takes_le
  bounded := hr.timely.takes_le_drainLimit
  returns hi := by
    obtain ⟨ids, hi⟩ := Option.ne_none_iff_exists'.mp hi
    rw [← hr.sound.areFinished_iff hi]
    constructor
    · rintro ⟨s₁, hst⟩
      obtain ⟨ids', hi', hf, -⟩ := hst.down_ok
      obtain rfl : ids = ids' := Option.some.inj (hi.symm.trans hi')
      exact hf
    · exact fun hf => ⟨_, .isDown hi hf⟩
  in_time hw hrun hn id l hl := by
    obtain ⟨-, hclosed⟩ := hr.timely.closed_run hr.sound hw hrun
    obtain ⟨c, hc, hl⟩ := hclosed hl
    exact (Loop.isFinished_iff hl).mpr (Or.inl (Nat.le_trans (Nat.add_le_add_right hc _) hn))

end Scene

namespace Scene

/-- There is such a state, in which a stop takes as long as it can because of a connection that never
ends. -/
theorem drains_handed : ∃ s : Scene, s.Reachable ∧ s.Busy 0 0 ∧ s.takes = drainLimit ∧
    s.Drains True := by
  have h : (World.handed.loops[0]?.any Loop.isOpen) = true := by decide +kernel
  obtain ⟨l, hl, ho⟩ := (Option.any_eq_true _ _).mp h
  let v : Visit := ⟨0, false, none⟩
  let m : Loop := { l with visits := [v] }
  let s : Scene := hear ⟨World.handed, none, [], none⟩ 0 m
  have hmeets : l.Meets World.handed.host.now m :=
    ⟨rfl, rfl, rfl, fun hc => absurd (ho.symm.trans hc) (by decide)⟩
  have hr : s.Reachable := by
    obtain ⟨h, hsound, hrun⟩ := World.reachable_handed
    exact ⟨h, hsound, hrun.step (.visit hl hmeets)⟩
  have hm : s.loop? 0 = some m := List.getElem?_set_self (List.getElem?_eq_some_iff.mp hl).1
  have hdrains : s.Drains True := drains True hr
  have hclose : m.close s.now = { l with closedAt := some s.now, visits := [v] } :=
    Loop.close_of_open (l := m) ho
  refine ⟨s, hr, ⟨m, v, hm, ?_, rfl⟩, Nat.le_antisymm hdrains.bounded ?_, hdrains⟩
  · have hv : v ∈ (m.close s.now).inProgress s.now := by
      rw [hclose, Loop.mem_inProgress_of_closedAt rfl]
      exact ⟨Nat.lt_add_of_pos_right (by decide), List.mem_cons_self, rfl⟩
    exact ((Loop.mem_inProgress_close (l := m) ho).mp hv).1
  · -- Its connection never ends, so the loop exits when its time is up and not before.
    have hlast := (s.takes_le s.takes).mp (Nat.le_refl _) m (List.mem_of_getElem? hm)
    rw [hclose, Loop.isFinished_iff rfl] at hlast
    rcases hlast with hn | hover
    · exact Nat.le_of_add_le_add_left hn
    · exact absurd (hover v List.mem_cons_self) Bool.false_ne_true

end Scene
end Portkeeper
