import Portkeeper.Proofs.Registry.Beside
import Portkeeper.Proofs.Registry.Canonical
import Portkeeper.Proofs.Registry.Concurrent
import Portkeeper.Proofs.Registry.Mishaps

/-!
Two runs of the same calls, in one of which more has failed: what befell the loops of some kinds has not
befallen them in the other. Callers who ask for other kinds are answered alike in both.
-/

set_option autoImplicit false

namespace Portkeeper

/-! ### What happens among calls -/

theorem Loop.meets_enter (now : Nat) (v : Visit) (l : Loop) : l.Meets now (l.enter v) := by
  unfold Loop.enter
  split
  · rename_i ho
    exact ⟨rfl, rfl, rfl, fun hc => absurd (ho.symm.trans hc) nofun⟩
  · exact ⟨rfl, rfl, rfl, fun _ v hv => ⟨v, hv, rfl, id⟩⟩

namespace World

variable {w : World} {id : LoopId} {l : Loop}

def arrive (w : World) (id : LoopId) (v : Visit) : World :=
  match w.loops[id]? with
  | none => w
  | some l => { w with loops := w.loops.set id (l.enter v) }

theorem arrive_none (hl : w.loops[id]? = none) (v : Visit) : w.arrive id v = w := by
  simp only [arrive, hl]

theorem arrive_eq (hl : w.loops[id]? = some l) (v : Visit) :
    w.arrive id v = { w with loops := w.loops.set id (l.enter v) } := by
  simp only [arrive, hl]

variable [Platform]

theorem Sound.sleep (hs : w.Sound) (time : Nat) : Sound { w with host := w.host.sleep time } := by
  have hsound := hs.wired.sound.sleep time
  have hlater := hs.wired.sound.later_sleep time
  unfold Sound at hs ⊢
  dsimp only at hs ⊢
  split at hs
  · exact ⟨hsound, hs.2⟩
  · exact hs.later hsound hlater
  · exact hs.later hsound hlater

def sleeping (time : Nat) : Event where
  act w := { w with host := w.host.sleep time }
  time
  lifecycle _ := rfl
  length _ := rfl
  sound hs := hs.sleep time

def arriving (id : LoopId) (v : Visit) : Event where
  act w := w.arrive id v
  time := 0
  lifecycle w := by
    cases hl : w.loops[id]? with
    | none => rw [arrive_none hl]
    | some l => rw [arrive_eq hl]
  length w := by
    cases hl : w.loops[id]? with
    | none => rw [arrive_none hl]
    | some l =>
      rw [arrive_eq hl]
      exact List.length_set
  sound {w} hs := by
    cases hl : w.loops[id]? with
    | none =>
      rw [arrive_none hl]
      exact hs
    | some l =>
      rw [arrive_eq hl]
      exact hs.visit hl (l.meets_enter _ v)

end World

/-- A call has its turn, something fails, a connection comes in, or time passes. -/
inductive Happening where
  | call (i : Nat)
  | mishap (m : Mishap)
  | arrival (loop : LoopId) (visit : Visit)
  | pause (time : Nat)

def Happening.turn [Platform] : Happening → Turn
  | call i => .call i
  | mishap m => .event m.event
  | arrival id v => .event (World.arriving id v)
  | pause time => .event (World.sleeping time)

/-- Whether something befalls a loop of certain kinds. -/
def World.strikes (w : World) (kinds : Kind → Bool) : Happening → Bool
  | .mishap m => (w.loops[m.loop]?).any fun l => kinds l.listener.kind
  | _ => false

namespace Crowd

variable [Platform]

/-- All that happens. -/
def runs (g : Crowd) (σ : List Happening) : Crowd := σ.foldl (fun g t => g.turn t.turn) g

/-- All that happens, except that nothing befalls the loops of certain kinds. -/
def runsSparing (kinds : Kind → Bool) (g : Crowd) (σ : List Happening) : Crowd :=
  σ.foldl (fun g t => if g.world.strikes kinds t then g else g.turn t.turn) g

end Crowd

/-- A caller who had a turn has asked for a kind to be moved. -/
def Happening.Moves (cs : List Command) (σ : List Happening) (k : Kind) (text : String) : Prop :=
  ∃ i, .call i ∈ σ ∧ cs[i]? = some (.update k text)

/-! ### Registries beside each other -/

theorem Site.Sound.closeAll_loops [Platform] {s : Site} (hs : s.Sound) :
    (s.closeAll).2.loops = s.loops.map (Loop.close s.now) := by
  -- what the loops will be does not change while they are closed one by one
  have hstable : Stable fun h ls =>
      h.now = s.now ∧ ls.map (Loop.close s.now) = s.loops.map (Loop.close s.now) := by
    refine ⟨fun {h ls id l} hP hl ho => ⟨(Host.now_drop _ _).trans hP.1, ?_⟩⟩
    rw [List.map_set, hP.1, Loop.close_of_closed _ (Loop.isOpen_close s.now l), ← hP.2]
    obtain ⟨hlt, rfl⟩ := List.getElem?_eq_some_iff.mp hl
    rw [← List.getElem_map (Loop.close s.now) (h := by simpa using hlt), List.set_getElem_self]
  obtain ⟨-, hmap⟩ := closeAll_stable hstable hs ⟨rfl, rfl⟩
  refine Eq.trans (Eq.symm ?_) hmap
  refine (List.map_congr_left fun l hl => ?_).trans (List.map_id _)
  obtain ⟨id, hid⟩ := List.mem_iff_getElem?.mp hl
  exact Loop.close_of_closed _ ((closeAll_spec hs).2.2 hid).1

/-- Running registries beside each other, or stopped ones whose loops are alike. -/
inductive World.Beside [Platform] (x : Outage) (moved : Kind → Prop) : World → World → Prop
  | running {t t' : Site} (sites : t.Beside x t') (free : t.Unhindered x moved) :
      Beside x moved (ofSite t) (ofSite t')
  | stopped {w w' : World} (life : w.lifecycle = .stopped) (life' : w'.lifecycle = .stopped)
      (loops : LoopsAlike x w.loops w'.loops) (closed : ∀ l ∈ w.loops, l.isOpen = false) :
      Beside x moved w w'

theorem LoopsAlike.getElem?_none {x : Outage} {ls ls' : List Loop} (h : LoopsAlike x ls ls') {i : LoopId}
    (hl : ls[i]? = none) : ls'[i]? = none := by
  rw [List.getElem?_eq_none_iff] at hl ⊢
  rwa [h.length]

theorem LoopsAlike.close {x : Outage} {ls ls' : List Loop} (h : LoopsAlike x ls ls') (now : Nat) :
    LoopsAlike x (ls.map (Loop.close now)) (ls'.map (Loop.close now)) := by
  refine ⟨by simpa using h.length, fun {i l} hl => ?_⟩
  rw [List.getElem?_map] at hl
  obtain ⟨l₀, hl₀, rfl⟩ := Option.map_eq_some_iff.mp hl
  obtain ⟨l', hl', hlistener, hsame⟩ := h.alike hl₀
  refine ⟨l'.close now, by rw [List.getElem?_map, hl', Option.map_some], by simpa using hlistener, ?_⟩
  intro hk
  rw [hsame (by simpa using hk)]

namespace World.Beside

variable [Platform] {x : Outage} {moved : Kind → Prop} {w w' : World} {l : Loop} {m : Mishap}

theorem loops (h : Beside x moved w w') : LoopsAlike x w.loops w'.loops := by
  cases h with
  | running sites free => exact sites.loops
  | stopped life life' loops closed => exact loops

/-! #### What happens without calls -/

theorem suffer_lost (h : Beside x moved w w') (hs : w.Sound) (hs' : w'.Sound)
    (hl : w.loops[m.loop]? = some l) (hk : x.kinds l.listener.kind = true)
    (hm : m.closes = true → x.closing m.loop) : Beside x moved w (w'.suffer m) := by
  obtain ⟨l', hl', hlistener, -⟩ := h.loops.alike hl
  have hm' : (l'.suffer w'.host.now m).listener = l.listener :=
    (Loop.suffered_suffer _ l' m).listener.trans hlistener
  rw [suffer_eq hl']
  cases h with
  | running sites free =>
    refine .running (sites.ofSet_lost hl hk hm' ?_) free
    cases hc : m.closes && l'.isOpen with
    | false => exact sites.host
    | true =>
      obtain ⟨hc, ho⟩ := (Bool.and_eq_true _ _).mp hc
      refine sites.host.drop_lost hs.wired.sound (hs'.wired.holds hl' ho) ?_
      rw [hlistener]
      exact (sites.lost hl).mpr ⟨hk, hm hc⟩
  | stopped life life' loops closed =>
    exact .stopped life life' (loops.set_lost hl hk hm') closed

theorem suffer (h : Beside x moved w w') (hs : w.Sound)
    (hk : ∀ l, w.loops[m.loop]? = some l → x.kinds l.listener.kind = false) :
    Beside x moved (w.suffer m) (w'.suffer m) := by
  cases hl : w.loops[m.loop]? with
  | none =>
    rw [suffer_none hl, suffer_none (h.loops.getElem?_none hl)]
    exact h
  | some l =>
    obtain ⟨l', hl', -, hsame⟩ := h.loops.alike hl
    obtain rfl := hsame (hk l hl)
    rw [suffer_eq hl, suffer_eq hl']
    have hm (now : Nat) : (l'.suffer now m).listener = l'.listener :=
      (Loop.suffered_suffer now l' m).listener
    cases h with
    | running sites free =>
      have hnow : (ofSite _).host.now = (ofSite _).host.now := sites.host.now
      rw [hnow]
      refine .running (sites.ofSet hl (hm _) (hm _) (fun _ => rfl) ?_) free
      cases hc : m.closes && l'.isOpen with
      | false => exact sites.host
      | true => exact sites.drop hs hl (hk l' hl) ((Bool.and_eq_true _ _).mp hc).2
    | stopped life life' loops closed =>
      have ho := closed l' (List.mem_of_getElem? hl)
      have hshut (now : Nat) : (l'.suffer now m).isOpen = false := by
        rw [(Loop.suffered_suffer now l' m).isOpen, ho, Bool.and_false]
      have hsuffer (now now' : Nat) : l'.suffer now' m = l'.suffer now m := by
        cases m with
        | connection id visit => rfl
        | accept id e => simp only [Loop.suffer, Loop.close_of_closed _ ho]
      refine .stopped life life' (loops.set hl (hm _) (hm _) fun _ => hsuffer _ _) fun p hp => ?_
      exact (List.mem_or_eq_of_mem_set hp).elim (closed p) fun he => he ▸ hshut _

theorem arrive (h : Beside x moved w w') (id : LoopId) (v : Visit) :
    Beside x moved (w.arrive id v) (w'.arrive id v) := by
  cases hl : w.loops[id]? with
  | none =>
    rw [arrive_none hl, arrive_none (h.loops.getElem?_none hl)]
    exact h
  | some l =>
    obtain ⟨l', hl', hlistener, hsame⟩ := h.loops.alike hl
    rw [arrive_eq hl, arrive_eq hl']
    have hm : (l.enter v).listener = l.listener := (l.meets_enter 0 v).listener
    have hm' : (l'.enter v).listener = l.listener := (l'.meets_enter 0 v).listener.trans hlistener
    have hboth (hk : x.kinds l.listener.kind = false) : l'.enter v = l.enter v := by rw [hsame hk]
    cases h with
    | running sites free => exact .running (sites.ofSet hl hm hm' hboth sites.host) free
    | stopped life life' loops closed =>
      have ho : (l.enter v).isOpen = false := by
        rw [Loop.isOpen, (l.meets_enter 0 v).closedAt]
        exact closed l (List.mem_of_getElem? hl)
      refine .stopped life life' (loops.set hl hm hm' hboth) fun p hp => ?_
      exact (List.mem_or_eq_of_mem_set hp).elim (closed p) fun he => he ▸ ho

theorem sleep (h : Beside x moved w w') (time : Nat) : Beside x moved
    { w with host := w.host.sleep time } { w' with host := w'.host.sleep time } := by
  cases h with
  | running sites free => exact .running (sites.ofHost (sites.host.sleep time)) free
  | stopped life life' loops closed => exact .stopped life life' loops closed

/-! #### What is told, and one step of a call -/

theorem stage (h : Beside x moved w w') : w'.stage = w.stage := by
  cases h with
  | running sites free => rfl
  | stopped life life' loops closed => rw [World.stage, World.stage, life, life']

theorem site?_none (h : Beside x moved w w') (ht : w.site? = none) : w'.site? = none := by
  cases h with
  | running sites free => cases ht
  | stopped life life' loops closed => simp only [World.site?, life']

theorem site?_some (h : Beside x moved w w') {t : Site} (ht : w.site? = some t) :
    ∃ t', w'.site? = some t' ∧ t.Beside x t' ∧ t.Unhindered x moved := by
  cases h with
  | running sites free =>
    cases ht
    exact ⟨_, rfl, sites, free⟩
  | stopped life life' loops closed => simp [World.site?, life] at ht

theorem started (h : Beside x moved w w') : w.stage ≠ .unstarted := by
  intro hst
  cases h with
  | running sites free => cases hst
  | stopped life life' loops closed =>
    rw [World.stage, life] at hst
    cases hst

theorem now (h : Beside x moved w w') (hst : w.stage = .running) : w'.host.now = w.host.now := by
  cases h with
  | running sites free => exact sites.now
  | stopped life life' loops closed =>
    rw [World.stage, life] at hst
    cases hst

theorem recorded (h : Beside x moved w w') (k : Kind) :
    w'.address k = w.address k ∧ w'.provenance? k = w.provenance? k ∧ w'.listing = w.listing := by
  cases h with
  | running sites free =>
    simp only [World.address, World.provenance?, World.listing, Registry.listing, ofSite,
      sites.entries, and_self]
  | stopped life life' loops closed =>
    simp only [World.address, World.provenance?, World.listing, life, life', and_self]

theorem check (h : Beside x moved w w') (hs : w.Sound) {k : Kind} (hk : x.kinds k = false)
    (text : String) : w'.check k text = w.check k text := by
  unfold World.check World.refuse
  rw [h.stage]
  cases h with
  | running sites free =>
    have hcurrent := sites.isCurrent (hs.site (site?_ofSite _)) hk
    simp only [site?_ofSite, hcurrent]
  | stopped life life' loops closed => simp only [World.site?, life, life']

theorem beginDown (h : Beside x moved w w') (hs : w.Sound) (hs' : w'.Sound) :
    (∃ e, w.beginDown = (.error e, w) ∧ w'.beginDown = (.error e, w')) ∨
      ∃ ids ids' v v', w.beginDown = (.ok ids, v) ∧ w'.beginDown = (.ok ids', v') ∧
        Beside x moved v v' := by
  cases h with
  | stopped life life' loops closed =>
    refine Or.inl ⟨.invalidState .stop .stopped, ?_, ?_⟩
    · simp only [World.beginDown, World.site?, World.refuse, World.stage, life, Lifecycle.stage]
    · simp only [World.beginDown, World.site?, World.refuse, World.stage, life', Lifecycle.stage]
  | @running t t' sites free =>
    have ht := hs.site (site?_ofSite t)
    refine Or.inr ⟨_, _, _, _, rfl, rfl, .stopped rfl rfl ?_ fun l hl => ?_⟩
    · show LoopsAlike x t.closeAll.2.loops t'.closeAll.2.loops
      rw [ht.closeAll_loops, (hs'.site (site?_ofSite t')).closeAll_loops, sites.now]
      exact sites.loops.close t.now
    · obtain ⟨id, hid⟩ := List.mem_iff_getElem?.mp hl
      exact ((Site.closeAll_spec ht).2.2 hid).1

end World.Beside

/-- Two calls that have come equally far, except that they may wait for different loops. -/
inductive Progress.Alike : Progress → Progress → Prop
  | same (p : Progress) : Alike p p
  | draining (ids ids' : List LoopId) : Alike (.draining ids) (.draining ids')

/-- A step of a call which is not a change comes to the same at both registries. -/
theorem World.Beside.stepCall [Platform] {x : Outage} {moved : Kind → Prop} {w w' : World}
    (h : Beside x moved w w') (hs : w.Sound) (hs' : w'.Sound) {p p' : Progress} (hp : p.Alike p')
    (hcalm : p.Calm) (hk : ∀ k text, p = .fresh (.update k text) → x.kinds k = false)
    (hd : ∀ ids, p = .draining ids → w.lifecycle = .stopped) :
    (w.stepCall p).1.Alike (w'.stepCall p').1 ∧
      Beside x moved (w.stepCall p).2 (w'.stepCall p').2 := by
  have waiting {ids ids' : List LoopId} (hl : w.lifecycle = .stopped) :
      Beside x moved (w.awaitLoops ids) (w'.awaitLoops ids') := by
    cases h with
    | running sites free => cases hl
    | stopped life life' loops closed => exact .stopped life life' loops closed
  cases hp with
  | draining ids ids' => exact ⟨.same _, waiting (hd ids rfl)⟩
  | same =>
    cases p with
    | changing k canonical => exact absurd rfl (hcalm k canonical)
    | answered a => exact ⟨.same _, h⟩
    | draining ids => exact ⟨.same _, waiting (hd ids rfl)⟩
    | fresh c =>
      cases c with
      | address k =>
        dsimp only [World.stepCall]
        rw [(h.recorded k).1]
        exact ⟨.same _, h⟩
      | listing =>
        dsimp only [World.stepCall]
        rw [(h.recorded .localAdmin).2.2]
        exact ⟨.same _, h⟩
      | up c =>
        dsimp only [World.stepCall]
        rw [up_refused h.started, up_refused (h.stage ▸ h.started), h.stage]
        exact ⟨.same _, h⟩
      | update k text =>
        dsimp only [World.stepCall]
        rw [h.check hs (hk k text rfl)]
        split <;> exact ⟨.same _, h⟩
      | down =>
        dsimp only [World.stepCall]
        rcases h.beginDown hs hs' with ⟨e, hw, hw'⟩ | ⟨ids, ids', v, v', hw, hw', hv⟩
        · rw [hw, hw']
          exact ⟨.same _, h⟩
        · rw [hw, hw']
          exact ⟨.draining ids ids', hv⟩

/-! ### Two runs -/

theorem Change.rest_zero (c : Change) : c.rest 0 = c := by
  cases c <;> rfl

theorem Change.Unhindered.rest [Platform] {x : Outage} {c : Change} (h : c.Unhindered x)
    (time : Nat) : (c.rest time).Unhindered x := by
  cases c <;> exact h

theorem Outage.Lets.canonical [Platform] {x : Outage} {k : Kind} {text c : String}
    (hx : x.Lets k text) (hc : k.canonicalize text = .ok c) : x.Lets k c := by
  rintro n ⟨c', hc', hy⟩
  obtain rfl : c = c' := Except.ok.inj ((Kind.canonical_canonicalize hc).symm.trans hc')
  exact hx n ⟨c, hc, hy⟩

/-- None of the kinds that may fail is moved, and no address asked for that a socket of theirs stands in the
way of. -/
structure Outage.Avoided [Platform] (x : Outage) (moves : Kind → String → Prop) : Prop where
  kinds : ∀ k text, moves k text → x.kinds k = false
  asked : ∀ k text, moves k text → x.Lets k text

namespace Crowd

variable [Platform]
variable {x : Outage} {moves : Kind → String → Prop} {cs : List Command} {g g' : Crowd} {i : Nat}

theorem turn_busy {j : Nat} {c : Change} (hh : g.holder = some (j, c)) (hij : i ≠ j) :
    g.turn (.call i) = g := by
  simp only [turn, hh, if_neg hij]

/-- Calls wait for loops when the registry has been stopped only. -/
def Drained (g : Crowd) : Prop :=
  ∀ i ids, g.calls i = some (.draining ids) → g.world.lifecycle = .stopped

omit [Platform] in
theorem drained_start (w : World) (cs : List Command) : (start w cs).Drained := by
  intro i ids hi
  obtain ⟨c, -, hc⟩ := Option.map_eq_some_iff.mp hi
  cases hc

theorem Drained.turn (h : g.Drained) (t : Turn) : (g.turn t).Drained := by
  intro i ids hi
  by_cases hbefore : ∃ ids, g.calls i = some (.draining ids)
  · obtain ⟨ids', hi'⟩ := hbefore
    exact turn_stopped (h i ids' hi') t
  · have hno (ids : List LoopId) : g.calls i ≠ some (.draining ids) := fun hc => hbefore ⟨ids, hc⟩
    cases t with
    | event e => exact absurd hi (hno ids)
    | call j =>
      by_cases hij : i = j
      · subst hij
        exact (stopped_of_draining hno hi).1
      · rw [calls_turn_of_ne hij] at hi
        exact absurd hi (hno ids)

/-- Two registries beside each other among the same callers, who have been told the same. -/
structure Beside (x : Outage) (moves : Kind → String → Prop) (g g' : Crowd) : Prop where
  world : World.Beside x (fun k => ∃ text, moves k text) g.world g'.world
  calls : ∀ i, (g.calls i).Rel Progress.Alike (g'.calls i)
  holder : g'.holder = g.holder
  change : ∀ i c, g.holder = some (i, c) → c.Unhindered x

namespace Beside

theorem put (h : Beside x moves g g') {p p' : Progress} (hp : p.Alike p') (i : Nat) :
    Beside x moves (g.put i p) (g'.put i p') := by
  refine ⟨h.world, fun j => ?_, h.holder, h.change⟩
  by_cases hj : j = i
  · subst hj
    rw [calls_put_self, calls_put_self]
    exact .some hp
  · rw [calls_put_of_ne _ hj, calls_put_of_ne _ hj]
    exact h.calls j

theorem resume (h : Beside x moves g g') {t t' : Site}
    (ht : World.Beside x (fun k => ∃ text, moves k text) (.ofSite t) (.ofSite t')) {c : Change}
    (hc : c.Unhindered x) (i : Nat) : Beside x moves (g.resume i t c) (g'.resume i t' c) := by
  cases hr : c.result? with
  | none =>
    rw [resume_undone hr, resume_undone hr]
    refine ⟨ht, h.calls, rfl, fun j c' hj => ?_⟩
    cases hj
    exact hc
  | some r =>
    obtain rfl := Change.eq_done_of_result? hr
    exact ⟨ht, (h.put (.same (.answered (.done r))) i).calls, rfl, nofun⟩

theorem go (h : Beside x moves g g') (hg : Sound cs g) (hg' : Sound cs g') {c : Change}
    (hh : g.holder = some (i, c)) : Beside x moves (g.turn (.call i)) (g'.turn (.call i)) := by
  obtain ⟨t, k, text, canonical, ht, -, -, hp⟩ := hg.holder hh
  obtain ⟨t', ht', sites, free⟩ := h.world.site?_some ht
  have hs := hg.world.site ht
  obtain ⟨hsame, hbeside⟩ := sites.step hs (hg'.world.site ht') hp.carried (h.change i c hh)
  obtain ⟨hfree, hchange⟩ := free.step hs hp.carried (h.change i c hh)
  rw [turn_go hh ht, turn_go (h.holder.trans hh) ht', hsame]
  exact h.resume (.running hbeside hfree) hchange i

theorem begin (h : Beside x moves g g') (hg : Sound cs g) (hg' : Sound cs g') (ha : x.Avoided moves)
    {k : Kind} {canonical : String} (hh : g.holder = none)
    (hm : ∀ k text, cs[i]? = some (.update k text) → moves k text)
    (hi : g.calls i = some (.changing k canonical)) (hi' : g'.calls i = some (.changing k canonical)) :
    Beside x moves (g.turn (.call i)) (g'.turn (.call i)) := by
  have hh' := h.holder.trans hh
  cases ht : g.world.site? with
  | none =>
    have ht' := h.world.site?_none ht
    rw [turn_late hh hi ht, turn_late hh' hi' ht', World.refuse, World.refuse, h.world.stage]
    exact h.put (.same _) i
  | some t =>
    obtain ⟨c, hc, text, rfl, hvalid⟩ := hg.calls hi
    have hmoves := hm k text hc
    have hk := ha.kinds k text hmoves
    obtain ⟨t', ht', sites, free⟩ := h.world.site?_some ht
    have hs := hg.world.site ht
    obtain ⟨hsame, hbeside⟩ := sites.beginChange hs (hg'.world.site ht') hk canonical
    obtain ⟨hfree, hchange⟩ := free.beginChange hs ⟨text, hmoves⟩ hk
      ((ha.asked k text hmoves).canonical hvalid.canonical)
    rw [turn_begin hh hi ht, turn_begin hh' hi' ht', hsame]
    exact h.resume (.running hbeside hfree) hchange i

theorem turn_call (h : Beside x moves g g') (hg : Sound cs g) (hg' : Sound cs g') (hd : g.Drained)
    (ha : x.Avoided moves) (hm : ∀ k text, cs[i]? = some (.update k text) → moves k text) :
    Beside x moves (g.turn (.call i)) (g'.turn (.call i)) := by
  cases hh : g.holder with
  | some jc =>
    obtain ⟨j, c⟩ := jc
    by_cases hij : i = j
    · subst hij
      exact h.go hg hg' hh
    · rw [turn_busy hh hij, turn_busy (h.holder.trans hh) hij]
      exact h
  | none =>
    have hh' := h.holder.trans hh
    have hcalls := h.calls i
    generalize hi : g.calls i = o at hcalls
    generalize hi' : g'.calls i = o' at hcalls
    cases hcalls with
    | none =>
      rw [turn_absent hi hh, turn_absent hi' hh']
      exact h
    | @some p p' hp =>
      by_cases hcalm : p.Calm
      · have hcalm' : p'.Calm := by
          cases hp with
          | same => exact hcalm
          | draining ids ids' => exact nofun
        have hk (k : Kind) (text : String) (he : p = .fresh (.update k text)) : x.kinds k = false := by
          obtain ⟨c, hc, hof⟩ := hg.calls hi
          subst he
          cases hof
          exact ha.kinds k text (hm k text hc)
        obtain ⟨halike, hworld⟩ := h.world.stepCall hg.world hg'.world hp hcalm hk
          fun ids he => hd i ids (he ▸ hi)
        rw [turn_calm hh hi hcalm, turn_calm hh' hi' hcalm']
        exact ⟨hworld, (h.put halike i).calls, h.holder, h.change⟩
      · obtain ⟨k, canonical, rfl⟩ : ∃ k canonical, p = .changing k canonical := by
          simpa [Progress.Calm] using hcalm
        cases hp
        exact h.begin hg hg' ha hh hm hi hi'

theorem pass (h : Beside x moves g g') (time : Nat) {w w' : World}
    (hw : World.Beside x (fun k => ∃ text, moves k text) w w') :
    Beside x moves { g with world := w, holder := g.holder.map fun u => (u.1, u.2.rest time) }
      { g' with world := w', holder := g'.holder.map fun u => (u.1, u.2.rest time) } := by
  refine ⟨hw, h.calls, by rw [h.holder], fun i c hi => ?_⟩
  obtain ⟨u, hu, hc⟩ := Option.map_eq_some_iff.mp hi
  cases hc
  exact (h.change u.1 u.2 hu).rest time

theorem turn_lost (h : Beside x moves g g') (hg : Sound cs g) (hg' : Sound cs g') {m : Mishap}
    (hm : g.world.strikes x.kinds (.mishap m) = true) (hc : m.closes = true → x.closing m.loop) :
    Beside x moves g (g'.turn (.event m.event)) := by
  obtain ⟨l, hl, hk⟩ := (Option.any_eq_true _ _).mp hm
  refine ⟨h.world.suffer_lost hg.world hg'.world hl hk hc, h.calls, ?_, h.change⟩
  -- no time passes, so a change that waits has its pause before it as ever
  show g'.holder.map (fun u => (u.1, u.2.rest 0)) = g.holder
  simp only [Change.rest_zero, Option.map_id', h.holder]

theorem turn (h : Beside x moves g g') (hg : Sound cs g) (hg' : Sound cs g') (hd : g.Drained)
    (ha : x.Avoided moves) {t : Happening} (ht : g.world.strikes x.kinds t = false)
    (hm : ∀ k text, Happening.Moves cs [t] k text → moves k text) :
    Beside x moves (g.turn t.turn) (g'.turn t.turn) := by
  cases t with
  | call i => exact h.turn_call hg hg' hd ha fun k text hi => hm k text ⟨i, List.mem_singleton_self _, hi⟩
  | arrival id v => exact h.pass 0 (h.world.arrive id v)
  | pause time => exact h.pass time (h.world.sleep time)
  | mishap m =>
    refine h.pass 0 (h.world.suffer hg.world fun l hl => ?_)
    have hany : (g.world.loops[m.loop]?).any (fun l => x.kinds l.listener.kind) = false := ht
    rwa [hl, Option.any_some] at hany

theorem runs (h : Beside x moves g g') (hg : Sound cs g) (hg' : Sound cs g') (hd : g.Drained)
    (ha : x.Avoided moves) {σ : List Happening}
    (hm : ∀ k text, Happening.Moves cs σ k text → moves k text)
    (hσ : ∀ m, .mishap m ∈ σ → m.closes = true → x.closing m.loop) :
    Beside x moves (g.runsSparing x.kinds σ) (g'.runs σ) := by
  induction σ generalizing g g' with
  | nil => exact h
  | cons t σ ih =>
    have hrest (m : Mishap) (hmem : .mishap m ∈ σ) : m.closes = true → x.closing m.loop :=
      hσ m (List.mem_cons_of_mem t hmem)
    have hlater (k : Kind) (text : String) (hk : Happening.Moves cs σ k text) : moves k text := by
      obtain ⟨i, hi, hc⟩ := hk
      exact hm k text ⟨i, List.mem_cons_of_mem t hi, hc⟩
    show Beside x moves ((if g.world.strikes x.kinds t then g else g.turn t.turn).runsSparing x.kinds σ)
      ((g'.turn t.turn).runs σ)
    -- what befalls the kinds in question happens in the second crowd alone
    split
    · rename_i ht
      cases t with
      | mishap m =>
        exact ih (h.turn_lost hg hg' ht (hσ m List.mem_cons_self)) hg (hg'.turn _) hd hlater hrest
      | call i => cases ht
      | arrival id v => cases ht
      | pause time => cases ht
    · rename_i ht
      have hfirst (k : Kind) (text : String) (hk : Happening.Moves cs [t] k text) : moves k text := by
        obtain ⟨i, hi, hc⟩ := hk
        exact hm k text ⟨i, List.mem_singleton.mp hi ▸ List.mem_cons_self, hc⟩
      exact ih (h.turn hg hg' hd ha (Bool.not_eq_true _ ▸ ht) hfirst) (hg.turn _) (hg'.turn _)
        (hd.turn _) hlater hrest

end Beside
end Crowd

/-! ### What callers see -/

/-- Whether accepting on a loop fails for good. -/
def Mishap.ofLoop (σ : List Happening) (id : LoopId) : Prop :=
  ∃ m : Mishap, .mishap m ∈ σ ∧ m.closes = true ∧ m.loop = id

/-- The sockets that failures may close: those of loops of some kinds on which accepting fails for good. -/
def World.outage (w : World) (kinds : Kind → Bool) (σ : List Happening) : Outage where
  kinds
  closing := Mishap.ofLoop σ
  ids sid := ∃ id l, w.loops[id]? = some l ∧ kinds l.listener.kind = true ∧ Mishap.ofLoop σ id ∧
    l.listener.socket = sid
  sockets sk := ∃ id l, w.loops[id]? = some l ∧ kinds l.listener.kind = true ∧ Mishap.ofLoop σ id ∧
    (l.listener.socket, sk) ∈ w.host.sockets

variable [Platform]

/-- Nobody wants an address that one of the sockets in question stands in the way of: none is asked for, or
recorded for a kind that is moved, and no one else on the host is going to take one. -/
structure World.Unwanted (w : World) (x : Outage) (moves : Kind → String → Prop) : Prop where
  asked : ∀ k text, moves k text → x.Lets k text
  recorded : ∀ k text, moves k text → x.Lets k (w.address k)
  others : ∀ t d, (t, d) ∈ w.host.agenda → ∀ n, d.Takes n → x.Spares n

/-- Where only connections fail, no socket is closed that could have stood in the way. -/
theorem World.unwanted_of_open (w : World) (kinds : Kind → Bool) {σ : List Happening}
    (hσ : ∀ m, .mishap m ∈ σ → m.closes = false) (moves : Kind → String → Prop) :
    w.Unwanted (w.outage kinds σ) moves := by
  have hspares (n : SocketName) : (w.outage kinds σ).Spares n := by
    rintro sk ⟨id, l, -, -, ⟨m, hm, hc, -⟩, -⟩
    rw [hσ m hm] at hc
    cases hc
  exact ⟨fun k text _ n _ => hspares n, fun k text _ n _ => hspares n, fun t d _ n _ => hspares n⟩

/-- What callers can tell of a registry is the same in two crowds, and so are the loops of all but some
kinds. -/
structure Crowd.Resembles (kinds : Kind → Bool) (g g' : Crowd) : Prop where
  answers : ∀ i a, g'.calls i = some (.answered a) ↔ g.calls i = some (.answered a)
  holder : g'.holder = g.holder
  stage : g'.world.stage = g.world.stage
  address : ∀ k, g'.world.address k = g.world.address k
  provenance : ∀ k, g'.world.provenance? k = g.world.provenance? k
  listing : g'.world.listing = g.world.listing
  now : g.world.stage = .running → g'.world.host.now = g.world.host.now
  loops : ∀ {id : LoopId} {l : Loop}, g.world.loops[id]? = some l → kinds l.listener.kind = false →
    g'.world.loops[id]? = some l

theorem Crowd.Beside.resembles {x : Outage} {moves : Kind → String → Prop} {g g' : Crowd}
    (h : Beside x moves g g') : Resembles x.kinds g g' where
  answers i a := by
    have hi := h.calls i
    generalize g.calls i = o at hi
    generalize g'.calls i = o' at hi
    cases hi with
    | none => rfl
    | some hp =>
      cases hp with
      | same p => rfl
      | draining ids ids' => exact iff_of_false nofun nofun
  holder := h.holder
  stage := h.world.stage
  address k := (h.world.recorded k).1
  provenance k := (h.world.recorded k).2.1
  listing := (h.world.recorded .localAdmin).2.2
  now hst := h.world.now hst
  loops hl hk := by
    obtain ⟨l', hl', -, hsame⟩ := h.world.loops.alike hl
    rw [hl', hsame hk]

theorem World.Beside.start {w : World} {t : Site} {kinds : Kind → Bool} {σ : List Happening}
    {moves : Kind → String → Prop} (hs : w.Sound) (ht : w.site? = some t)
    (hu : w.Unwanted (w.outage kinds σ) moves) :
    Beside (w.outage kinds σ) (fun k => ∃ text, moves k text) w w := by
  have hwired := hs.wired
  obtain rfl := ofSite_of_site? ht
  refine .running ⟨rfl, rfl, rfl, .refl _ _, .refl ?_ ?_ hu.others, fun {i l} hl => ⟨?_, ?_⟩⟩ ?_
  · rintro sid ⟨id, l, hl, -, -, rfl⟩
    exact hwired.bounded hl
  · rintro ⟨sid, sk⟩ he ⟨id, l, hl, hk, hc, rfl⟩
    exact ⟨id, l, hl, hk, hc, he⟩
  · rintro ⟨id, l', hl', hk, hc, hsocket⟩
    obtain rfl := hwired.apart hl' hl hsocket
    obtain rfl : l' = l := Option.some.inj (hl'.symm.trans hl)
    exact ⟨hk, hc⟩
  · rintro ⟨hk, hc⟩
    exact ⟨i, l, hl, hk, hc, rfl⟩
  · rintro k e ⟨text, hmoves⟩ he
    rw [← address_eq (site?_ofSite t) he]
    exact hu.recorded k text hmoves

/-- Callers are answered as if nothing had befallen the kinds that they do not move. -/
theorem Crowd.resembles {w : World} {t : Site} (hs : w.Sound) (ht : w.site? = some t)
    {kinds : Kind → Bool} {cs : List Command} {σ : List Happening}
    (hk : ∀ k text, Happening.Moves cs σ k text → kinds k = false)
    (hu : w.Unwanted (w.outage kinds σ) (Happening.Moves cs σ)) :
    Resembles kinds ((start w cs).runsSparing kinds σ) ((start w cs).runs σ) := by
  have hg := sound_start hs cs
  have hstart : Beside (w.outage kinds σ) (Happening.Moves cs σ) (start w cs) (start w cs) := by
    refine ⟨.start hs ht hu, fun i => ?_, rfl, nofun⟩
    cases (start w cs).calls i with
    | none => exact .none
    | some p => exact .some (.same p)
  exact (hstart.runs hg hg (drained_start w cs) ⟨hk, hu.asked⟩ (fun _ _ => id)
    fun m hm hc => ⟨m, hm, hc, rfl⟩).resembles

end Portkeeper
