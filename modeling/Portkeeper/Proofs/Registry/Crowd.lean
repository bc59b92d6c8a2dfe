import Portkeeper.Registry.Calls
import Portkeeper.Proofs.Registry.Answering

/-!
A registry and all its callers, each of whom has a place. One turn is one lock-protected step of one
call, or something that happens to the registry without any call. A change has the registry to itself
from its beginning to its end, however many turns that takes; meanwhile the turns of the others pass.
-/

set_option autoImplicit false

namespace Portkeeper
open Function

namespace World

variable [Platform]

/-- What holds of a registry at every stage of its life. -/
def Sound (w : World) : Prop :=
  match w.lifecycle with
  | .unstarted => w.host.Sound ∧ w.loops = []
  | .running r => Site.Sound ⟨w.host, w.loops, r⟩
  | .stopped => Wired w.host w.loops

/-- Something that happens to a registry without any call: accepting fails on a loop, connections come
and go, time passes, others use the host. Nothing is recorded, and no loop comes or goes. If a change
waits for its next attempt, some of its pause is over. -/
structure Event where
  act : World → World
  time : Nat
  lifecycle : ∀ w, (act w).lifecycle = w.lifecycle
  length : ∀ w, (act w).loops.length = w.loops.length
  sound : ∀ {w}, w.Sound → (act w).Sound

end World

/-- Whose turn it is. -/
inductive Turn [Platform] where
  | call (i : Nat)
  | event (e : World.Event)

namespace Turn

variable [Platform]

def event? : Turn → Option World.Event
  | .call _ => none
  | .event e => some e

@[simp] theorem event?_call (i : Nat) : (call i).event? = none := rfl

@[simp] theorem event?_event (e : World.Event) : (event e).event? = some e := rfl

/-- A turn of nobody but one caller, or of none. -/
def isOf (i : Nat) : Turn → Bool
  | .call j => j = i
  | .event _ => true

@[simp] theorem isOf_call (i j : Nat) : (call j).isOf i = decide (j = i) := rfl

@[simp] theorem isOf_event (i : Nat) (e : World.Event) : (event e).isOf i = true := rfl

/-- A turn of one caller. -/
def isCall (i : Nat) : Turn → Bool
  | .call j => j = i
  | .event _ => false

end Turn

/-- A registry, its calls by their places, and the change that has the registry to itself. -/
structure Crowd where
  world : World
  calls : Nat → Option Progress
  holder : Option (Nat × Change)

namespace Crowd

def start (w : World) (cs : List Command) : Crowd := ⟨w, fun i => cs[i]?.map .fresh, none⟩

def put (g : Crowd) (i : Nat) (p : Progress) : Crowd := { g with calls := update g.calls i (some p) }

/-- A change has come this far. When it is done its call is answered, and the registry is free. -/
def resume (g : Crowd) (i : Nat) (t : Site) : Change → Crowd
  | .done r => { g.put i (.answered (.done r)) with world := .ofSite t, holder := none }
  | c => { g with world := .ofSite t, holder := some (i, c) }

variable [Platform]

/-- The step of a call that comes upon a free registry. -/
def enter (g : Crowd) (i : Nat) : Crowd :=
  match g.calls i with
  | none => g
  | some (.changing k canonical) =>
    match g.world.site? with
    | none => g.put i (.answered (.done (.error (g.world.refuse .reconfigure))))
    | some t => g.resume i (t.beginChange k canonical).2 (t.beginChange k canonical).1
  | some p => { g.put i (g.world.stepCall p).1 with world := (g.world.stepCall p).2 }

/-- One turn. -/
def turn (g : Crowd) : Turn → Crowd
  | .event e =>
    { g with world := e.act g.world, holder := g.holder.map fun u => (u.1, u.2.rest e.time) }
  | .call i =>
    match g.holder with
    | none => g.enter i
    | some (j, c) =>
      if i = j then
        match g.world.site? with
        | none => g
        | some t => g.resume i (t.step c).2 (t.step c).1
      else g

def run (g : Crowd) (σ : List Turn) : Crowd := σ.foldl turn g

variable {g : Crowd} {i j : Nat} {p : Progress}

@[simp] theorem run_nil (g : Crowd) : g.run [] = g := rfl

@[simp] theorem run_cons (g : Crowd) (t : Turn) (σ : List Turn) :
    g.run (t :: σ) = (g.turn t).run σ := rfl

@[simp] theorem run_append (g : Crowd) (σ τ : List Turn) : g.run (σ ++ τ) = (g.run σ).run τ :=
  List.foldl_append

omit [Platform] in
@[simp] theorem world_put (g : Crowd) (i : Nat) (p : Progress) : (g.put i p).world = g.world := rfl

omit [Platform] in
@[simp] theorem holder_put (g : Crowd) (i : Nat) (p : Progress) : (g.put i p).holder = g.holder := rfl

omit [Platform] in
@[simp] theorem calls_put_self (g : Crowd) (i : Nat) (p : Progress) : (g.put i p).calls i = some p :=
  update_self ..

omit [Platform] in
theorem calls_put_of_ne (p : Progress) (h : j ≠ i) : (g.put i p).calls j = g.calls j :=
  update_of_ne h ..

omit [Platform] in
theorem put_of_calls (h : g.calls i = some p) : g.put i p = g := by
  unfold put
  rw [← h, update_eq_self]

end Crowd

/-! ### What stays -/

theorem Scene.Sound.world [Platform] {s : Scene} (hs : s.Sound) : s.world.Sound := by
  have hst := hs.stands
  unfold World.Sound
  cases hl : s.world.lifecycle with
  | unstarted =>
    rw [hl] at hst
    exact ⟨hst.1, hst.2.1⟩
  | running r =>
    rw [hl] at hst
    exact hst.1
  | stopped =>
    rw [hl] at hst
    exact hst.1

namespace World

variable [Platform] {w : World} {t : Site}

theorem Sound.site (hs : w.Sound) (ht : w.site? = some t) : t.Sound := by
  obtain ⟨hl, hh, hls⟩ := site?_eq_some ht
  unfold Sound at hs
  rw [hl] at hs
  rwa [← show (⟨w.host, w.loops, t.registry⟩ : Site) = t by rw [hh, hls]]

theorem Sound.wired (hs : w.Sound) : Wired w.host w.loops := by
  unfold Sound at hs
  split at hs
  · rw [hs.2]
    exact Wired.nil hs.1
  · exact hs.wired
  · exact hs

/-- A registry that was not stopped makes a scene in which nothing is under way. -/
theorem Sound.scene (hs : w.Sound) (hl : w.lifecycle ≠ .stopped) :
    Scene.Sound ⟨w, none, [], none⟩ := by
  refine ⟨by simp, ?_⟩
  unfold Sound at hs
  unfold Scene.Stands
  cases h : w.lifecycle with
  | unstarted =>
    rw [h] at hs
    exact ⟨hs.1, hs.2, rfl, rfl⟩
  | running r =>
    rw [h] at hs
    exact ⟨hs, rfl, by simp⟩
  | stopped => exact absurd h hl

/-- One step of a call. A request to move a kind is looked at before the change is made, and whoever
stops a registry waits for its loops; every other call is answered at once. -/
inductive CallStep (w : World) : Progress → Progress → World → Prop
  | up {c : Config} : w.CallStep (.fresh (.up c)) (.answered (.done (w.up c).1)) (w.up c).2
  | stopped {t : Site} (running : w.site? = some t) :
      w.CallStep (.fresh .down) (.draining t.closeAll.1)
        ⟨t.closeAll.2.host, t.closeAll.2.loops, .stopped⟩
  | unstopped {e : EndpointError} (idle : w.beginDown = (.error e, w)) :
      w.CallStep (.fresh .down) (.answered (.done (.error e))) w
  | refused {k : Kind} {text : String} {e : EndpointError} (look : w.check k text = .error e) :
      w.CallStep (.fresh (.update k text)) (.answered (.done (.error e))) w
  | current {k : Kind} {text : String} (look : w.check k text = .ok none) :
      w.CallStep (.fresh (.update k text)) (.answered (.done (.ok ()))) w
  | waits {k : Kind} {text canonical : String} (look : w.check k text = .ok (some canonical)) :
      w.CallStep (.fresh (.update k text)) (.changing k canonical) w
  | address {k : Kind} : w.CallStep (.fresh (.address k)) (.answered (.address (w.address k))) w
  | listing : w.CallStep (.fresh .listing) (.answered (.listing w.listing)) w
  | changed {k : Kind} {canonical : String} :
      w.CallStep (.changing k canonical) (.answered (.done (w.change k canonical).1))
        (w.change k canonical).2
  | drained {ids : List LoopId} :
      w.CallStep (.draining ids) (.answered (.done (.ok ()))) (w.awaitLoops ids)
  | told {a : Answer} : w.CallStep (.answered a) (.answered a) w

/-- There is no other step. -/
theorem exists_callStep (w : World) (p : Progress) :
    ∃ q w', w.stepCall p = (q, w') ∧ w.CallStep p q w' := by
  refine ⟨(w.stepCall p).1, (w.stepCall p).2, rfl, ?_⟩
  unfold World.stepCall
  cases p with
  | changing k canonical => exact .changed
  | draining ids => exact .drained
  | answered a => exact .told
  | fresh c =>
    cases c with
    | up c => exact .up
    | address k => exact .address
    | listing => exact .listing
    | update k text =>
      dsimp only
      split
      · rename_i hc
        exact .refused hc
      · rename_i hc
        exact .current hc
      · rename_i hc
        exact .waits hc
    | down =>
      dsimp only
      split
      · rename_i hd
        obtain rfl := beginDown_error hd
        exact .unstopped hd
      · rename_i hd
        obtain ⟨t, ht, rfl, rfl⟩ := beginDown_ok hd
        exact .stopped ht

/-- A step of a call, other than a change, keeps a registry sound. -/
theorem Sound.stepCall (hs : w.Sound) {p : Progress} (hp : ∀ k c, p ≠ .changing k c) :
    (w.stepCall p).2.Sound := by
  obtain ⟨q, w', hstep, hst⟩ := w.exists_callStep p
  rw [hstep]
  cases hst with
  | changed => exact absurd rfl (hp _ _)
  | @up c =>
    by_cases hl : w.lifecycle = .unstarted
    · exact ((hs.scene (by simp [hl])).up rfl rfl).world
    · rw [up_refused (by cases h : w.lifecycle <;> simp_all [stage, Lifecycle.stage])]
      exact hs
  | stopped running =>
    have hl : w.lifecycle ≠ .stopped := by
      intro hl
      cases hl.symm.trans (site?_eq_some running).1
    exact ((hs.scene hl).down rfl (beginDown_eq running)).world
  | @drained ids =>
    have hw := hs.wired
    have hsound := hw.sound.sleep (w.drainTime ids)
    have hlater := hw.sound.later_sleep (w.drainTime ids)
    unfold awaitLoops
    unfold Sound at hs ⊢
    dsimp only at hs ⊢
    split at hs
    · exact ⟨hsound, hs.2⟩
    · exact hs.later hsound hlater
    · exact hs.later hsound hlater
  | unstopped | refused | current | waits | address | listing | told => exact hs

/-- Whatever leaves the records of a registry and the number of its loops alone is an event. -/
theorem exists_event {w w' : World} (hl : w'.lifecycle = w.lifecycle)
    (hn : w'.loops.length = w.loops.length) (hs : w.Sound → w'.Sound) (time : Nat) :
    ∃ e : Event, e.act w = w' ∧ e.time = time := by
  classical
  refine ⟨⟨fun v => if v = w then w' else v, time, fun v => ?_, fun v => ?_, fun {v} hv => ?_⟩,
    if_pos rfl, rfl⟩
  · split
    · rename_i h
      rw [h, hl]
    · rfl
  · split
    · rename_i h
      rw [h, hn]
    · rfl
  · split
    · rename_i h
      exact hs (h ▸ hv)
    · exact hv

end World

/-- What can happen in a scene without any caller is an event. -/
theorem Scene.Step.event [Platform] {tidy : Prop} {s s' : Scene} (hs : s.Sound)
    (hst : Step tidy s none s') (hl : s'.world.lifecycle = s.world.lifecycle)
    (hn : s'.world.loops.length = s.world.loops.length) (time : Nat) :
    ∃ e : World.Event, e.act s.world = s'.world ∧ e.time = time :=
  World.exists_event hl hn (fun _ => (hs.step hst).world) time

/-- A call and how far it has come belong together. -/
def Progress.Of (c : Command) : Progress → Prop
  | .fresh c' => c' = c
  | .changing k canonical => ∃ text, c = .update k text ∧ Move.Valid ⟨k, text, canonical⟩
  | .draining _ => c = .down
  | .answered _ => True

namespace Crowd

variable [Platform] {cs : List Command} {g : Crowd} {i j : Nat} {p : Progress} {t : Site}

/-- The registry is sound, every call is one of those that were made, and the change that has the
registry to itself is that of a call. -/
structure Sound (cs : List Command) (g : Crowd) : Prop where
  world : g.world.Sound
  calls : ∀ {i : Nat} {p : Progress}, g.calls i = some p → ∃ c, cs[i]? = some c ∧ p.Of c
  holder : ∀ {i : Nat} {c : Change}, g.holder = some (i, c) →
    ∃ t k text canonical, g.world.site? = some t ∧ g.calls i = some (.changing k canonical) ∧
      cs[i]? = some (.update k text) ∧ t.Pursues ⟨k, text, canonical⟩ c

theorem sound_start {w : World} (hw : w.Sound) (cs : List Command) : Sound cs (start w cs) := by
  refine ⟨hw, fun {i p} hp => ?_, nofun⟩
  obtain ⟨c, hc, rfl⟩ := Option.map_eq_some_iff.mp hp
  exact ⟨c, hc, rfl⟩

/-! ### Turns -/

omit [Platform] in
theorem calls_resume_of_ne (h : j ≠ i) (c : Change) : (g.resume i t c).calls j = g.calls j := by
  cases c with
  | done r => exact calls_put_of_ne _ h
  | moving b previous => rfl
  | restoring b failure => rfl

omit [Platform] in
@[simp] theorem world_resume (g : Crowd) (i : Nat) (t : Site) (c : Change) :
    (g.resume i t c).world = .ofSite t := by
  cases c <;> rfl

omit [Platform] in
theorem resume_undone {c : Change} (hc : c.result? = none) :
    g.resume i t c = { g with world := .ofSite t, holder := some (i, c) } := by
  cases c with
  | done r => cases hc
  | moving b previous => rfl
  | restoring b failure => rfl

/-- Everything that the turn of a call can do: nothing; an answer that the registry has stopped; a
change that begins or goes on; or a step of another kind. -/
theorem turn_cases (g : Crowd) (i : Nat) :
    (g.turn (.call i) = g ∧ (g.calls i = none ∨ g.holder ≠ none)) ∨
      (∃ k canonical, g.holder = none ∧ g.calls i = some (.changing k canonical) ∧
        g.world.site? = none ∧ g.turn (.call i) =
          g.put i (.answered (.done (.error (g.world.refuse .reconfigure))))) ∨
      (∃ k canonical t, g.holder = none ∧ g.calls i = some (.changing k canonical) ∧
        g.world.site? = some t ∧ g.turn (.call i) =
          g.resume i (t.beginChange k canonical).2 (t.beginChange k canonical).1) ∨
      (∃ c t, g.holder = some (i, c) ∧ g.world.site? = some t ∧
        g.turn (.call i) = g.resume i (t.step c).2 (t.step c).1) ∨
      ∃ p, g.holder = none ∧ g.calls i = some p ∧ (∀ k canonical, p ≠ .changing k canonical) ∧
        g.turn (.call i) =
          { g.put i (g.world.stepCall p).1 with world := (g.world.stepCall p).2 } := by
  unfold turn
  dsimp only
  cases hh : g.holder with
  | some jc =>
    obtain ⟨j, c⟩ := jc
    dsimp only
    by_cases hij : i = j
    · subst hij
      rw [if_pos rfl]
      cases ht : g.world.site? with
      | none => exact Or.inl ⟨rfl, Or.inr nofun⟩
      | some t => exact Or.inr (Or.inr (Or.inr (Or.inl ⟨c, t, rfl, rfl, rfl⟩)))
    · rw [if_neg hij]
      exact Or.inl ⟨rfl, Or.inr nofun⟩
  | none =>
    dsimp only
    unfold enter
    cases hc : g.calls i with
    | none => exact Or.inl ⟨rfl, Or.inl rfl⟩
    | some p =>
      cases p with
      | changing k canonical =>
        dsimp only
        cases ht : g.world.site? with
        | none => exact Or.inr (Or.inl ⟨k, canonical, rfl, rfl, rfl, rfl⟩)
        | some t => exact Or.inr (Or.inr (Or.inl ⟨k, canonical, t, rfl, rfl, rfl, rfl⟩))
      | fresh c => exact Or.inr (Or.inr (Or.inr (Or.inr ⟨_, rfl, rfl, nofun, rfl⟩)))
      | draining ids => exact Or.inr (Or.inr (Or.inr (Or.inr ⟨_, rfl, rfl, nofun, rfl⟩)))
      | answered a => exact Or.inr (Or.inr (Or.inr (Or.inr ⟨_, rfl, rfl, nofun, rfl⟩)))

/-- A turn of one call is no matter for the others. -/
theorem calls_turn_of_ne (h : j ≠ i) : (g.turn (.call i)).calls j = g.calls j := by
  rcases g.turn_cases i with ⟨he, -⟩ | ⟨k, c, -, -, -, he⟩ | ⟨k, c, t, -, -, -, he⟩ |
    ⟨c, t, -, -, he⟩ | ⟨p, -, -, -, he⟩ <;> rw [he]
  · exact calls_put_of_ne _ h
  · exact calls_resume_of_ne h _
  · exact calls_resume_of_ne h _
  · exact calls_put_of_ne _ h

/-- A step of a call is a step of the same call. -/
theorem of_stepCall {c : Command} (hp : p.Of c) (w : World) : (w.stepCall p).1.Of c := by
  obtain ⟨q, w', hstep, hst⟩ := w.exists_callStep p
  rw [hstep]
  cases hst with
  | stopped => exact Eq.symm hp
  | waits look =>
    obtain ⟨hk, hcan, -⟩ := World.check_ok_some look
    exact ⟨_, Eq.symm hp, hk, hcan⟩
  | _ => trivial

namespace Sound

theorem put (hg : Sound cs g) {c : Command} (hc : cs[i]? = some c) (hp : p.Of c)
    (hi : ∀ c, g.holder ≠ some (i, c)) : Sound cs (g.put i p) := by
  refine ⟨hg.world, fun {j q} hq => ?_, fun {j ch} hj => ?_⟩
  · by_cases hji : j = i
    · subst hji
      rw [calls_put_self] at hq
      cases hq
      exact ⟨c, hc, hp⟩
    · rw [calls_put_of_ne _ hji] at hq
      exact hg.calls hq
  · have hji : j ≠ i := fun he => hi ch (he ▸ hj)
    rw [calls_put_of_ne _ hji]
    exact hg.holder hj

/-- A registry that nobody has to himself. -/
theorem withWorld (hg : Sound cs g) (hh : g.holder = none) {w : World} (hw : w.Sound) :
    Sound cs { g with world := w } :=
  ⟨hw, hg.calls, fun hj => by rw [show g.holder = some _ from hj] at hh; cases hh⟩

theorem resume (hg : Sound cs g) {k : Kind} {text canonical : String}
    (hi : g.calls i = some (.changing k canonical)) (hc : cs[i]? = some (.update k text))
    (hm : Move.Valid ⟨k, text, canonical⟩) (ht : t.Sound) {c : Change}
    (hf : c.IsFor ⟨k, text, canonical⟩) (hcarry : t.Carries c) : Sound cs (g.resume i t c) := by
  cases hr : c.result? with
  | none =>
    rw [resume_undone hr]
    refine ⟨ht, hg.calls, fun {j ch} hj => ?_⟩
    cases hj
    exact ⟨t, k, text, canonical, rfl, hi, hc, hm, hf, hcarry, hr⟩
  | some r =>
    obtain ⟨r', rfl⟩ : ∃ r, c = .done r := by
      cases c with
      | done r => exact ⟨r, rfl⟩
      | moving b previous => cases hr
      | restoring b failure => cases hr
    refine ⟨ht, fun {j q} hq => ?_, nofun⟩
    by_cases hji : j = i
    · subst hji
      exact ⟨_, hc, by rw [Option.some.inj (hq.symm.trans (calls_put_self g j _))]; trivial⟩
    · exact hg.calls ((calls_put_of_ne _ hji).symm.trans hq)

/-- Every turn keeps a crowd sound. -/
theorem turn (hg : Sound cs g) (t : Turn) : Sound cs (g.turn t) := by
  cases t with
  | event e =>
    refine ⟨e.sound hg.world, hg.calls, fun {i c} hi => ?_⟩
    obtain ⟨⟨j, c'⟩, hj, he⟩ := Option.map_eq_some_iff.mp hi
    cases he
    obtain ⟨t, k, text, canonical, ht, hcall, hcs, hp⟩ := hg.holder hj
    obtain ⟨hl, -, -⟩ := World.site?_eq_some ht
    have hl' := (e.lifecycle g.world).trans hl
    refine ⟨⟨(e.act g.world).host, (e.act g.world).loops, t.registry⟩, k, text, canonical, ?_,
      hcall, hcs, (hp.rest e.time).of_registry rfl⟩
    show (e.act g.world).site? = _
    simp only [World.site?, hl']
  | call i =>
    rcases g.turn_cases i with ⟨he, -⟩ | ⟨k, canonical, hh, hi, -, he⟩ |
      ⟨k, canonical, t, hh, hi, ht, he⟩ | ⟨c, t, hh, ht, he⟩ | ⟨p, hh, hi, hno, he⟩ <;> rw [he]
    · exact hg
    · obtain ⟨c, hc, -⟩ := hg.calls hi
      exact hg.put hc trivial (by simp [hh])
    · obtain ⟨c, hc, text, rfl, hm⟩ := hg.calls hi
      obtain ⟨hsound, hcarry⟩ := (hg.world.site ht).beginChange hm.network hm.formed
      exact hg.resume hi hc hm hsound (Site.isFor_beginChange t ⟨k, text, canonical⟩) hcarry
    · obtain ⟨t', k, text, canonical, ht', hi, hc, hp⟩ := hg.holder hh
      obtain rfl : t = t' := Option.some.inj (ht.symm.trans ht')
      obtain ⟨hsound, hcarry⟩ := (hg.world.site ht).step hp.carried
      exact hg.resume hi hc hp.valid hsound (Site.isFor_step hp.target) hcarry
    · obtain ⟨c, hc, hof⟩ := hg.calls hi
      exact (hg.put hc (of_stepCall hof _) (by simp [hh])).withWorld hh (hg.world.stepCall hno)

theorem run (hg : Sound cs g) (σ : List Turn) : Sound cs (g.run σ) := by
  induction σ generalizing g with
  | nil => exact hg
  | cons t σ ih => exact ih (hg.turn t)

end Sound
end Crowd
end Portkeeper
