import Portkeeper.Proofs.Registry.Crowd

/-!
Calls that overlap come to what they come to one at a time, in the order in which they are decided. A
first look that finds a reason for a change can be put off until the change, and calls that a stopped
registry refuses can be put off until the stop is over.
-/

set_option autoImplicit false

namespace Portkeeper
open Function

namespace Progress

/-- What is left of a call once it is decided is to wait, or to be told. -/
def isDecided : Progress → Bool
  | .draining _ | .answered _ => true
  | _ => false

/-- A call that has not begun, or is over. -/
def Idle (p : Progress) : Prop := (∃ c, p = .fresh c) ∨ ∃ a, p = .answered a

/-- A call that does not wait for a change of its own. -/
def Calm (p : Progress) : Prop := ∀ k canonical, p ≠ .changing k canonical

theorem calm_fresh (c : Command) : (fresh c).Calm := nofun

theorem calm_answered (a : Answer) : (answered a).Calm := nofun

end Progress

theorem Change.eq_done_of_result? {c : Change} {r : Except EndpointError Unit}
    (h : c.result? = some r) : c = .done r := by
  cases c with
  | done r' => exact congrArg Change.done (Option.some.inj h)
  | moving b previous => cases h
  | restoring b failure => cases h

namespace Site

variable [Platform]

/-- A change that goes on has fewer attempts ahead. -/
theorem budget_step (s : Site) {c : Change} (hc : c.result? = none)
    (hs : (s.step c).1.result? = none) : (s.step c).1.budget < c.budget := by
  obtain ⟨c', s', hstep, hst⟩ := s.exists_stepped c
  rw [hstep] at hs ⊢
  cases hst with
  | ended => cases hc
  | moves left =>
    simp only [Change.budget, Bid.next]
    omega
  | moved => cases hs
  | failed => cases hs
  | @returns b previous =>
    show (Bid.first b.kind previous).left + 1 < b.left + 1 + attemptLimit
    have : (Bid.first b.kind previous).left = attemptLimit - 1 := rfl
    have : attemptLimit = 10 := rfl
    omega
  | restores left =>
    simp only [Change.budget, Bid.next]
    omega
  | restored => cases hs
  | stranded => cases hs

/-- A change is done within its budget. -/
theorem steps_budgeted (s : Site) (c : Change) {n : Nat} (hn : c.budget ≤ n) :
    ∃ r, (s.steps c n).1 = .done r := by
  induction n generalizing s c with
  | zero =>
    cases c with
    | done r => exact ⟨r, rfl⟩
    | moving b previous => simp [Change.budget] at hn
    | restoring b failure => simp [Change.budget] at hn
  | succ n ih =>
    cases hc : c.result? with
    | some r =>
      obtain rfl := Change.eq_done_of_result? hc
      exact ⟨r, by rw [steps_done]⟩
    | none =>
      refine ih (s.step c).2 (s.step c).1 ?_
      cases hr : (s.step c).1.result? with
      | none => exact Nat.le_of_lt_succ (Nat.lt_of_lt_of_le (budget_step s hc hr) hn)
      | some r =>
        generalize (s.step c).1 = c' at hr
        cases c' <;> cases hr
        exact Nat.zero_le n

end Site

namespace Crowd

variable {g g' : Crowd} {i j : Nat} {p : Progress} {t : Site} {k : Kind} {text canonical : String}

def decided (g : Crowd) (i : Nat) : Bool := (g.calls i).any Progress.isDecided

variable [Platform]

/-- The call that a turn decides, if it does. -/
def decides (g : Crowd) (i : Nat) : List Nat :=
  if g.decided i = false ∧ (g.turn (.call i)).decided i = true then [i] else []

/-- The calls in the order of the turns that decide them. -/
def decisions : Crowd → List Turn → List Nat
  | _, [] => []
  | g, .event e :: σ => (g.turn (.event e)).decisions σ
  | g, .call i :: σ => g.decides i ++ (g.turn (.call i)).decisions σ

/-- Whenever a call has a turn, all others are idle. -/
def OneByOne (idle : Progress → Prop) : Crowd → List Turn → Prop
  | _, [] => True
  | g, .event e :: σ => OneByOne idle (g.turn (.event e)) σ
  | g, .call i :: σ =>
    (∀ j p, j ≠ i → g.calls j = some p → idle p) ∧ OneByOne idle (g.turn (.call i)) σ

/-- One call is taken from its beginning to its end before the next one is begun. -/
def Serial (g : Crowd) (σ : List Turn) : Prop := g.OneByOne Progress.Idle σ

theorem decisions_append (g : Crowd) (σ τ : List Turn) :
    g.decisions (σ ++ τ) = g.decisions σ ++ (g.run σ).decisions τ := by
  induction σ generalizing g with
  | nil => rfl
  | cons t σ ih =>
    cases t with
    | event e => exact ih _
    | call i =>
      simp only [List.cons_append, decisions, run_cons, ih, List.append_assoc]

theorem oneByOne_append {idle : Progress → Prop} {σ τ : List Turn} :
    g.OneByOne idle (σ ++ τ) ↔ g.OneByOne idle σ ∧ (g.run σ).OneByOne idle τ := by
  induction σ generalizing g with
  | nil => simp [OneByOne]
  | cons t σ ih =>
    cases t with
    | event e => exact ih
    | call i =>
      simp only [List.cons_append, OneByOne, run_cons, and_assoc]
      exact and_congr_right fun _ => ih

/-! ### What the turns of a free registry do -/

theorem turn_absent (hi : g.calls i = none) (hh : g.holder = none) : g.turn (.call i) = g := by
  simp only [turn, hh, enter, hi]

theorem turn_calm (hh : g.holder = none) (hi : g.calls i = some p) (hp : p.Calm) :
    g.turn (.call i) = { g.put i (g.world.stepCall p).1 with world := (g.world.stepCall p).2 } := by
  simp only [turn, hh, enter, hi]
  split
  · rename_i he
    cases he
  · rename_i k canonical he
    exact absurd (Option.some.inj he) (hp k canonical)
  · rename_i he
    cases he
    rfl

/-- A turn that changes nothing but how far its call has come. -/
theorem turn_put (hh : g.holder = none) (hi : g.calls i = some p) (hp : p.Calm) {q : Progress}
    (hq : g.world.stepCall p = (q, g.world)) : g.turn (.call i) = g.put i q := by
  rw [turn_calm hh hi hp, hq]
  rfl

theorem turn_begin (hh : g.holder = none) (hi : g.calls i = some (.changing k canonical))
    (ht : g.world.site? = some t) : g.turn (.call i) =
      g.resume i (t.beginChange k canonical).2 (t.beginChange k canonical).1 := by
  simp only [turn, hh, enter, hi, ht]

theorem turn_late (hh : g.holder = none) (hi : g.calls i = some (.changing k canonical))
    (ht : g.world.site? = none) : g.turn (.call i) =
      g.put i (.answered (.done (.error (g.world.refuse .reconfigure)))) := by
  simp only [turn, hh, enter, hi, ht]

theorem turn_go {c : Change} (hh : g.holder = some (i, c)) (ht : g.world.site? = some t) :
    g.turn (.call i) = g.resume i (t.step c).2 (t.step c).1 := by
  simp only [turn, hh, ht, if_pos]

/-- What the first look at a request that can be carried out comes to. -/
theorem stepCall_update (hm : Move.Valid ⟨k, text, canonical⟩) (w : World) :
    w.stepCall (.fresh (.update k text)) = match w.site? with
      | none => (.answered (.done (.error (w.refuse .reconfigure))), w)
      | some t => if t.isCurrent k canonical then (.answered (.done (.ok ())), w)
        else (.changing k canonical, w) := by
  simp only [World.stepCall, World.check, hm.network, hm.canonical, Bool.not_true,
    Bool.false_eq_true, if_false]
  cases w.site? with
  | none => rfl
  | some t =>
    dsimp only
    cases t.isCurrent k canonical <;> rfl

/-- A step after which a call waits for a change is a first look. -/
theorem stepCall_changing {w : World} (hq : ¬(w.stepCall p).1.Calm) :
    ∃ k text canonical, p = .fresh (.update k text) ∧ Move.Valid ⟨k, text, canonical⟩ ∧
      w.stepCall p = (.changing k canonical, w) := by
  obtain ⟨q, w', hstep, hst⟩ := w.exists_callStep p
  rw [hstep] at hq ⊢
  cases hst with
  | waits look =>
    obtain ⟨hk, hcan, -⟩ := World.check_ok_some look
    exact ⟨_, _, _, rfl, ⟨hk, hcan⟩, rfl⟩
  | stopped => exact absurd nofun hq
  | _ => exact absurd (Progress.calm_answered _) hq

omit [Platform] in
theorem resume_free (hh : g.holder = none) (hw : g.world = .ofSite t)
    (r : Except EndpointError Unit) : g.resume i t (.done r) = g.put i (.answered (.done r)) := by
  obtain ⟨world, calls, holder⟩ := g
  obtain rfl : world = .ofSite t := hw
  obtain rfl : holder = none := hh
  rfl

/-! ### The first look put off -/

/-- A call, and the same call when its first look is put off. -/
inductive Defers : Option Progress → Option Progress → Prop
  | same {o : Option Progress} (calm : ∀ p, o = some p → p.Calm) : Defers o o
  | later {k : Kind} {text canonical : String} (valid : Move.Valid ⟨k, text, canonical⟩) :
      Defers (some (.changing k canonical)) (some (.fresh (.update k text)))

/-- Two crowds of which the second puts off every first look until the change. -/
structure Lags (g g' : Crowd) : Prop where
  world : g'.world = g.world
  holder : g'.holder = g.holder
  own : ∀ {i : Nat} {c : Change}, g.holder = some (i, c) → g'.calls i = g.calls i
  others : ∀ {i : Nat}, (∀ c, g.holder ≠ some (i, c)) → Defers (g.calls i) (g'.calls i)

/-- A schedule of the second of two crowds that comes to what a schedule of the first one comes to. -/
structure Follows (g : Crowd) (σ : List Turn) (g' : Crowd) (σ' : List Turn) : Prop where
  calm : g'.OneByOne Progress.Calm σ'
  events : σ'.filterMap Turn.event? = σ.filterMap Turn.event?
  decisions : g'.decisions σ' = g.decisions σ
  lags : (g.run σ).Lags (g'.run σ')

omit [Platform] in
theorem Defers.calm {o o' : Option Progress} (h : Defers o o') : ∀ p, o' = some p → p.Calm := by
  cases h with
  | same calm => exact calm
  | later valid => exact fun p hp k c hc => by cases hp; cases hc

omit [Platform] in
theorem Defers.isDecided {o o' : Option Progress} (h : Defers o o') :
    o'.any Progress.isDecided = o.any Progress.isDecided := by
  cases h <;> rfl

omit [Platform] in
theorem Lags.decided (h : g.Lags g') (i : Nat) : g'.decided i = g.decided i := by
  by_cases hi : ∃ c, g.holder = some (i, c)
  · obtain ⟨c, hc⟩ := hi
    unfold Crowd.decided
    rw [h.own hc]
  · exact (h.others (not_exists.mp hi)).isDecided

omit [Platform] in
/-- While a call has its turn, no other one waits for a change. -/
theorem Lags.calm (h : g.Lags g') (hi : ∀ j c, g.holder = some (j, c) → j = i) :
    ∀ j p, j ≠ i → g'.calls j = some p → p.Calm :=
  fun j p hj hp => (h.others fun c hc => hj (hi j c hc)).calm p hp

theorem decides_congr (h : g'.decided i = g.decided i)
    (ht : (g'.turn (.call i)).decided i = (g.turn (.call i)).decided i) :
    g'.decides i = g.decides i := by
  unfold decides
  rw [h, ht]

theorem decides_eq_nil (h : (g.turn (.call i)).decided i = g.decided i) : g.decides i = [] := by
  unfold decides
  rw [h]
  exact if_neg fun hc => by rw [hc.1] at hc; exact Bool.false_ne_true hc.2

theorem Follows.trans {σ τ σ' τ' : List Turn} (h : Follows g σ g' σ')
    (h' : Follows (g.run σ) τ (g'.run σ') τ') : Follows g (σ ++ τ) g' (σ' ++ τ') where
  calm := oneByOne_append.mpr ⟨h.calm, h'.calm⟩
  events := by simp only [List.filterMap_append, h.events, h'.events]
  decisions := by simp only [decisions_append, h.decisions, h'.decisions]
  lags := by simpa only [run_append] using h'.lags

namespace Lags

/-- A turn that is put off. -/
theorem wait (h : g.Lags g') (ht : (g.turn (.call i)).Lags g') : Follows g [.call i] g' [] where
  calm := trivial
  events := rfl
  decisions := by
    simp only [Crowd.decisions, List.append_nil]
    exact (decides_eq_nil ((ht.decided i).symm.trans (h.decided i))).symm
  lags := ht

/-- A turn that is taken. -/
theorem take (h : g.Lags g') (hi : ∀ j c, g.holder = some (j, c) → j = i)
    (ht : (g.turn (.call i)).Lags (g'.turn (.call i))) : Follows g [.call i] g' [.call i] where
  calm := ⟨h.calm hi, trivial⟩
  events := rfl
  decisions := by
    simp only [Crowd.decisions, List.append_nil]
    exact decides_congr (h.decided i) (ht.decided i)
  lags := ht

/-- A turn that is taken with the first look that was put off. -/
theorem takeBoth (h : g.Lags g') (hh : g.holder = none)
    (hd : (g'.turn (.call i)).decided i = g'.decided i)
    (ht : (g.turn (.call i)).Lags ((g'.turn (.call i)).turn (.call i))) :
    Follows g [.call i] g' [.call i, .call i] where
  calm := by
    have hcalm := h.calm (i := i) (by simp [hh])
    exact ⟨hcalm, fun j p hj hp => hcalm j p hj ((calls_turn_of_ne hj).symm.trans hp), trivial⟩
  events := rfl
  decisions := by
    simp only [Crowd.decisions, List.append_nil]
    rw [decides_eq_nil hd]
    exact decides_congr (hd.trans (h.decided i)) (ht.decided i)
  lags := ht

omit [Platform] in
/-- The same call has come as far in both. -/
theorem put (h : g.Lags g') (hh : g.holder = none) (hp : p.Calm) :
    (g.put i p).Lags (g'.put i p) where
  world := h.world
  holder := h.holder
  own hj := by rw [show g.holder = some _ from hj] at hh; cases hh
  others {j} _ := by
    by_cases hji : j = i
    · subst hji
      rw [calls_put_self, calls_put_self]
      exact .same fun q hq => Option.some.inj hq ▸ hp
    · rw [calls_put_of_ne _ hji, calls_put_of_ne _ hji]
      exact h.others (by simp [hh])

omit [Platform] in
/-- A first look that is put off. -/
theorem defer (h : g.Lags g') (hh : g.holder = none)
    (hi : g'.calls i = some (.fresh (.update k text))) (hm : Move.Valid ⟨k, text, canonical⟩) :
    (g.put i (.changing k canonical)).Lags g' where
  world := h.world
  holder := h.holder
  own hj := by rw [show g.holder = some _ from hj] at hh; cases hh
  others {j} _ := by
    by_cases hji : j = i
    · subst hji
      rw [calls_put_self, hi]
      exact .later hm
    · rw [calls_put_of_ne _ hji]
      exact h.others (by simp [hh])

omit [Platform] in
theorem withWorld (h : g.Lags g') (w : World) :
    Lags { g with world := w } { g' with world := w } :=
  ⟨rfl, h.holder, h.own, h.others⟩

omit [Platform] in
/-- A change has come as far in both. -/
theorem resume (hi : g'.calls i = g.calls i) (ho : ∀ j, j ≠ i → Defers (g.calls j) (g'.calls j))
    (t : Site) (c : Change) : (g.resume i t c).Lags (g'.resume i t c) := by
  cases hr : c.result? with
  | none =>
    rw [resume_undone hr, resume_undone hr]
    refine ⟨rfl, rfl, fun hj => ?_, fun {j} hj => ho j fun hji => ?_⟩
    · cases hj
      exact hi
    · subst hji
      exact hj c rfl
  | some r =>
    obtain rfl := Change.eq_done_of_result? hr
    refine ⟨rfl, rfl, nofun, fun {j} _ => ?_⟩
    by_cases hji : j = i
    · subst hji
      show Defers ((g.put j _).calls j) ((g'.put j _).calls j)
      rw [calls_put_self, calls_put_self]
      exact .same fun q hq => Option.some.inj hq ▸ nofun
    · show Defers ((g.put i _).calls j) ((g'.put i _).calls j)
      rw [calls_put_of_ne _ hji, calls_put_of_ne _ hji]
      exact ho j hji

/-- The turn of a call that waits for its change, when the registry is free. -/
theorem change (h : g.Lags g') (hh : g.holder = none) (hi : g.calls i = some (.changing k canonical)) :
    ∃ σ, Follows g [.call i] g' σ := by
  have hh' : g'.holder = none := h.holder.trans hh
  have hdefers := h.others (i := i) (by simp [hh])
  rw [hi] at hdefers
  obtain ⟨text, hm, hi'⟩ : ∃ text, Move.Valid ⟨k, text, canonical⟩ ∧
      g'.calls i = some (.fresh (.update k text)) := by
    generalize hq : g'.calls i = q at hdefers
    cases hdefers with
    | same calm => exact absurd rfl (calm _ rfl k canonical)
    | later valid => exact ⟨_, valid, rfl⟩
  have hlook := stepCall_update hm g'.world
  have hno : ∀ j c, g.holder = some (j, c) → j = i := by simp [hh]
  cases ht : g.world.site? with
  | none =>
    rw [h.world, ht] at hlook
    refine ⟨[.call i], h.take hno ?_⟩
    rw [turn_late hh hi ht, turn_put hh' hi' (Progress.calm_fresh _) (h.world ▸ hlook)]
    rw [h.world]
    exact h.put hh nofun
  | some t =>
    rw [h.world, ht] at hlook
    cases hcur : t.isCurrent k canonical with
    | true =>
      simp only [hcur, if_pos] at hlook
      have hbegin := Site.beginChange_current hcur
      refine ⟨[.call i], h.take hno ?_⟩
      rw [turn_begin hh hi ht, hbegin, turn_put hh' hi' (Progress.calm_fresh _) (h.world ▸ hlook)]
      rw [resume_free hh (World.ofSite_of_site? ht)]
      exact h.put hh nofun
    | false =>
      simp only [hcur, Bool.false_eq_true, if_false] at hlook
      have hfirst := turn_put hh' hi' (Progress.calm_fresh _) (h.world ▸ hlook)
      have hi₂ : (g'.turn (.call i)).calls i = some (.changing k canonical) := by
        rw [hfirst, calls_put_self]
      refine ⟨[.call i, .call i], h.takeBoth hh ?_ ?_⟩
      · simp [Crowd.decided, hi₂, hi', Progress.isDecided]
      · rw [turn_begin hh hi ht, turn_begin (by rw [hfirst]; exact hh') hi₂
          (by rw [hfirst]; exact h.world ▸ ht)]
        refine resume (hi₂.trans hi.symm) (fun j hj => ?_) _ _
        rw [calls_turn_of_ne hj]
        exact h.others (by simp [hh])

/-- Whatever has a turn, the crowd that puts off first looks can follow. -/
theorem turn (h : g.Lags g') (t : Turn) : ∃ σ, Follows g [t] g' σ := by
  cases t with
  | event e =>
    refine ⟨[.event e], trivial, rfl, rfl, congrArg e.act h.world, ?_, fun {i c} hi => ?_,
      fun {i} hi => h.others fun c hc => hi (c.rest e.time) ?_⟩
    · show g'.holder.map _ = g.holder.map _
      rw [h.holder]
    · obtain ⟨⟨j, c'⟩, hj, he⟩ := Option.map_eq_some_iff.mp hi
      cases he
      exact h.own hj
    · show g.holder.map _ = _
      rw [hc]
      rfl
  | call i =>
    rcases g.turn_cases i with ⟨he, -⟩ | ⟨k, canonical, hh, hi, -, -⟩ |
      ⟨k, canonical, t, hh, hi, -, -⟩ | ⟨c, t, hh, ht, he⟩ | ⟨p, hh, hi, hp, he⟩
    · exact ⟨[], h.wait (by rwa [he])⟩
    · exact h.change hh hi
    · exact h.change hh hi
    · have hno : ∀ j c, g.holder = some (j, c) → j = i := fun j c' hj => by
        rw [hh] at hj
        cases hj
        rfl
      refine ⟨[.call i], h.take hno ?_⟩
      rw [he, turn_go (h.holder.trans hh) (h.world ▸ ht)]
      exact resume (h.own hh) (fun j hj => h.others fun c hc => hj (hno j c hc)) _ _
    · have hno : ∀ j c, g.holder = some (j, c) → j = i := by simp [hh]
      have hh' : g'.holder = none := h.holder.trans hh
      have hi' : g'.calls i = some p := by
        have hdefers := h.others (i := i) (by simp [hh])
        rw [hi] at hdefers
        generalize hq : g'.calls i = q at hdefers
        cases hdefers with
        | same calm => rfl
        | later valid => exact absurd rfl (hp _ _)
      by_cases hq : (g.world.stepCall p).1.Calm
      · refine ⟨[.call i], h.take hno ?_⟩
        rw [he, turn_calm hh' hi' hp, h.world]
        exact (h.put hh hq).withWorld _
      · obtain ⟨k, text, canonical, rfl, hm, hs⟩ := stepCall_changing hq
        refine ⟨[], h.wait ?_⟩
        rw [turn_put hh hi hp hs]
        exact h.defer hh hi' hm

theorem run (h : g.Lags g') (σ : List Turn) : ∃ σ', Follows g σ g' σ' := by
  induction σ generalizing g g' with
  | nil => exact ⟨[], trivial, rfl, rfl, h⟩
  | cons t σ ih =>
    obtain ⟨τ, hτ⟩ := h.turn t
    obtain ⟨σ', hσ⟩ := ih hτ.lags
    exact ⟨τ ++ σ', hτ.trans hσ⟩

end Lags

/-! ### A stop from its beginning to its end -/

/-- Nothing but a stop is under way in a crowd whose registry has stopped. -/
structure Stopped (g : Crowd) (d : Nat) : Prop where
  lifecycle : g.world.lifecycle = .stopped
  free : g.holder = none
  draining : g.decided d = true
  idle : ∀ j p, j ≠ d → g.calls j = some p → p.Idle

/-- A stopped registry refuses whatever is asked of it, in the same words every time. -/
theorem refused (c : Command) : ∃ a, ∀ w : World, w.lifecycle = .stopped →
    w.stepCall (.fresh c) = (.answered a, w) := by
  cases c with
  | up c =>
    refine ⟨.done (.error (.invalidState .start .stopped)), fun w hw => ?_⟩
    simp only [World.stepCall, World.up, hw, World.refuse, World.stage, Lifecycle.stage]
  | down =>
    refine ⟨.done (.error (.invalidState .stop .stopped)), fun w hw => ?_⟩
    simp only [World.stepCall, World.beginDown, World.site?, hw, World.refuse, World.stage,
      Lifecycle.stage]
  | address k => exact ⟨.address "", fun w hw => by simp only [World.stepCall, World.address, hw]⟩
  | listing => exact ⟨.listing [], fun w hw => by simp only [World.stepCall, World.listing, hw]⟩
  | update k text =>
    have hcheck : ∃ e, ∀ w : World, w.lifecycle = .stopped → w.check k text = .error e := by
      unfold World.check
      cases hk : k.isNetwork with
      | false => exact ⟨World.notChangeable k, fun w _ => by simp⟩
      | true =>
        cases hc : k.canonicalize text with
        | error e => exact ⟨e, fun w _ => by simp⟩
        | ok canonical =>
          refine ⟨.invalidState .reconfigure .stopped, fun w hw => ?_⟩
          simp [World.site?, hw, World.refuse, World.stage, Lifecycle.stage]
    obtain ⟨e, he⟩ := hcheck
    exact ⟨.done (.error e), fun w hw => by simp only [World.stepCall, he w hw]⟩

namespace Stopped

variable {d : Nat}

/-- A call that is not the stop is told its answer, which is all that its turn does. -/
theorem turn_call (h : g.Stopped d) (hi : i ≠ d) (hp : g.calls i = some p) :
    ∃ a, (∀ w : World, w.lifecycle = .stopped → w.stepCall p = (.answered a, w)) ∧
      g.turn (.call i) = g.put i (.answered a) := by
  rcases h.idle i p hi hp with ⟨c, rfl⟩ | ⟨a, rfl⟩
  · obtain ⟨a, ha⟩ := refused c
    exact ⟨a, ha, turn_put h.free hp (Progress.calm_fresh c) (ha _ h.lifecycle)⟩
  · exact ⟨a, fun w _ => rfl, turn_put h.free hp (Progress.calm_answered a) rfl⟩

omit [Platform] in
theorem put (h : g.Stopped d) (hi : i ≠ d) (a : Answer) : (g.put i (.answered a)).Stopped d where
  lifecycle := h.lifecycle
  free := h.free
  draining := by
    have hd := h.draining
    unfold Crowd.decided at hd ⊢
    rwa [calls_put_of_ne _ (Ne.symm hi)]
  idle j p hj hp := by
    by_cases hji : j = i
    · subst hji
      rw [calls_put_self] at hp
      cases hp
      exact Or.inr ⟨a, rfl⟩
    · exact h.idle j p hj ((calls_put_of_ne _ hji).symm.trans hp)

/-- The turn of the stop: it waits until all loops have exited, unless it has done so. -/
theorem turn_stop (h : g.Stopped d) : ∃ (a : Answer) (f : World → World),
    (∀ w, (f w).lifecycle = w.lifecycle) ∧
    ∀ g' : Crowd, g'.holder = none → g'.calls d = g.calls d →
      g'.turn (.call d) = { g'.put d (.answered a) with world := f g'.world } := by
  have hd := h.draining
  unfold Crowd.decided at hd
  obtain ⟨p, hp, hdec⟩ := (Option.any_eq_true _ _).mp hd
  cases p with
  | fresh c => cases hdec
  | changing k c => cases hdec
  | draining ids =>
    exact ⟨_, fun w => w.awaitLoops ids, fun w => rfl,
      fun g' hh hc => turn_calm hh (hc.trans hp) nofun⟩
  | answered a =>
    exact ⟨a, id, fun w => rfl, fun g' hh hc => turn_calm hh (hc.trans hp) (Progress.calm_answered a)⟩

/-- What is a turn of the stop or of nobody keeps the crowd so. -/
theorem turn_own (h : g.Stopped d) {t : Turn} (ht : t.isOf d = true) :
    (g.turn t).Stopped d ∧ ∀ j, j ≠ d → (g.turn t).calls j = g.calls j := by
  cases t with
  | event e =>
    have hfree : (g.turn (.event e)).holder = none := Option.map_eq_none_iff.mpr h.free
    exact ⟨⟨(e.lifecycle _).trans h.lifecycle, hfree, h.draining, h.idle⟩, fun _ _ => rfl⟩
  | call i =>
    obtain rfl : i = d := by simpa using ht
    refine ⟨?_, fun j hj => calls_turn_of_ne hj⟩
    obtain ⟨a, f, hf, he⟩ := h.turn_stop
    rw [he g h.free rfl]
    refine ⟨(hf _).trans h.lifecycle, h.free, ?_, fun j p hj hp => ?_⟩
    · show ((g.put i _).calls i).any _ = true
      rw [calls_put_self]
      rfl
    · exact h.idle j p hj ((calls_put_of_ne _ hj).symm.trans hp)

/-- A call that is refused can as well have its turn after the one that follows. -/
theorem swap (h : g.Stopped d) (hi : i ≠ d) {t : Turn} (ht : t.isOf d = true) :
    (g.turn (.call i)).turn t = (g.turn t).turn (.call i) := by
  obtain ⟨hstopped, hcalls⟩ := h.turn_own ht
  cases hp : g.calls i with
  | none =>
    rw [turn_absent hp h.free, turn_absent ((hcalls i hi).trans hp) hstopped.free]
  | some p =>
    obtain ⟨a, ha, he⟩ := h.turn_call hi hp
    have hlast : (g.turn t).turn (.call i) = (g.turn t).put i (.answered a) := by
      obtain ⟨a', ha', he'⟩ := hstopped.turn_call hi ((hcalls i hi).trans hp)
      have : a = a' := by
        have := (ha g.world h.lifecycle).symm.trans (ha' g.world h.lifecycle)
        simpa using this
      rw [he', this]
    rw [he, hlast]
    cases t with
    | event e => rfl
    | call j =>
      obtain rfl : j = d := by simpa using ht
      obtain ⟨b, f, -, hall⟩ := h.turn_stop
      rw [hall g h.free rfl, hall _ (h.put hi a).free (calls_put_of_ne _ (Ne.symm hi))]
      unfold Crowd.put
      simp only [update_comm hi]

theorem turn (h : g.Stopped d) (hi : i ≠ d) :
    (g.turn (.call i)).Stopped d ∧ (g.turn (.call i)).calls d = g.calls d := by
  refine ⟨?_, calls_turn_of_ne (Ne.symm hi)⟩
  cases hp : g.calls i with
  | none => rwa [turn_absent hp h.free]
  | some p =>
    obtain ⟨a, -, he⟩ := h.turn_call hi hp
    rw [he]
    exact h.put hi a

theorem run_own (h : g.Stopped d) {σ : List Turn} (hσ : ∀ t ∈ σ, t.isOf d = true) :
    (g.run σ).Stopped d ∧ (∀ j, j ≠ d → (g.run σ).calls j = g.calls j) ∧
      g.decisions σ = [] ∧ g.Serial σ := by
  induction σ generalizing g with
  | nil => exact ⟨h, fun _ _ => rfl, rfl, trivial⟩
  | cons t σ ih =>
    obtain ⟨ht, hcalls⟩ := h.turn_own (hσ t List.mem_cons_self)
    obtain ⟨hrun, hcalls', hdec, hser⟩ := ih ht fun t ht => hσ t (List.mem_cons_of_mem _ ht)
    refine ⟨hrun, fun j hj => (hcalls' j hj).trans (hcalls j hj), ?_⟩
    cases t with
    | event e => exact ⟨hdec, hser⟩
    | call i =>
      obtain rfl : i = d := by simpa using hσ _ List.mem_cons_self
      exact ⟨by rw [decisions, hdec, decides_eq_nil (ht.draining.trans h.draining.symm)]; rfl,
        h.idle, hser⟩

theorem pass (h : g.Stopped d) (hi : i ≠ d) {σ : List Turn} (hσ : ∀ t ∈ σ, t.isOf d = true) :
    (g.turn (.call i)).run σ = (g.run σ).turn (.call i) := by
  induction σ generalizing g with
  | nil => rfl
  | cons t σ ih =>
    have ht := hσ t List.mem_cons_self
    rw [run_cons, run_cons, h.swap hi ht]
    exact ih (h.turn_own ht).1 fun t ht => hσ t (List.mem_cons_of_mem _ ht)

theorem decides_run (h : g.Stopped d) (hi : i ≠ d) {σ : List Turn}
    (hσ : ∀ t ∈ σ, t.isOf d = true) : (g.run σ).decides i = g.decides i := by
  refine decides_congr ?_ ?_
  · unfold Crowd.decided
    rw [(h.run_own hσ).2.1 i hi]
  · rw [← h.pass hi hσ]
    unfold Crowd.decided
    rw [((h.turn hi).1.run_own hσ).2.1 i hi]

/-- All other calls can wait until the stop is over. -/
theorem postpone (h : g.Stopped d) (σ : List Turn) :
    g.run σ = (g.run (σ.filter (·.isOf d))).run (σ.filter fun t => !t.isOf d) ∧
      g.decisions σ = (g.run (σ.filter (·.isOf d))).decisions (σ.filter fun t => !t.isOf d) := by
  induction σ generalizing g with
  | nil => exact ⟨rfl, rfl⟩
  | cons t σ ih =>
    cases ht : t.isOf d with
    | true =>
      obtain ⟨hrun, hdec⟩ := ih (h.turn_own ht).1
      simp only [List.filter_cons, ht, Bool.not_true, Bool.false_eq_true, if_true, if_false, run_cons]
      refine ⟨hrun, hdec ▸ ?_⟩
      cases t with
      | event e => rfl
      | call i =>
        obtain rfl : i = d := by simpa using ht
        rw [decisions, decides_eq_nil ((h.turn_own ht).1.draining.trans h.draining.symm)]
        rfl
    | false =>
      simp only [List.filter_cons, ht, Bool.not_false, Bool.false_eq_true, if_true, if_false, run_cons]
      cases t with
      | event e => cases ht
      | call i =>
        have hi : i ≠ d := by simpa using ht
        have hown : ∀ t ∈ σ.filter (·.isOf d), t.isOf d = true := fun t ht =>
          (List.mem_filter.mp ht).2
        obtain ⟨hrun, hdec⟩ := ih (h.turn hi).1
        rw [h.pass hi hown] at hrun hdec
        exact ⟨hrun, by rw [decisions, decisions, h.decides_run hi hown, hdec]⟩

/-- Once the stop is over the others are refused one after the other. -/
theorem run_others (h : g.Stopped d) {σ : List Turn} (hσ : ∀ t ∈ σ, t.isOf d = false) :
    (g.run σ).calls d = g.calls d ∧ ((∀ p, g.calls d = some p → p.Idle) → g.Serial σ) := by
  induction σ generalizing g with
  | nil => exact ⟨rfl, fun _ => trivial⟩
  | cons t σ ih =>
    cases t with
    | event e => exact absurd (hσ _ List.mem_cons_self) (by simp)
    | call i =>
      have hi : i ≠ d := by simpa using hσ _ List.mem_cons_self
      obtain ⟨hstopped, hcall⟩ := h.turn hi
      obtain ⟨hcalls, hser⟩ := ih hstopped fun t ht => hσ t (List.mem_cons_of_mem _ ht)
      refine ⟨hcalls.trans hcall, fun hd => ⟨fun j p hj hp => ?_, hser (hcall ▸ hd)⟩⟩
      by_cases hjd : j = d
      · exact hd p (hjd ▸ hp)
      · exact h.idle j p hjd hp

end Stopped

/-- A call comes to wait for loops when it has stopped the registry. -/
theorem stopped_of_draining {ids : List LoopId} (hno : ∀ ids, g.calls i ≠ some (.draining ids))
    (hi : (g.turn (.call i)).calls i = some (.draining ids)) :
    (g.turn (.call i)).world.lifecycle = .stopped ∧ (g.turn (.call i)).holder = none := by
  have hresume {t : Site} {c : Change} (hr : (g.resume i t c).calls i = some (.draining ids)) :
      False := by
    cases hc : c.result? with
    | none =>
      rw [resume_undone hc] at hr
      exact hno ids hr
    | some r =>
      obtain rfl := Change.eq_done_of_result? hc
      have hr' := (calls_put_self g i (.answered (.done r))).symm.trans hr
      cases hr'
  rcases g.turn_cases i with ⟨he, -⟩ | ⟨k, canonical, hh, -, -, he⟩ |
    ⟨k, canonical, t, hh, -, -, he⟩ | ⟨c, t, hh, ht, he⟩ | ⟨p, hh, -, -, he⟩ <;> rw [he] at hi ⊢
  · exact absurd hi (hno ids)
  · rw [calls_put_self] at hi
    cases hi
  · exact (hresume hi).elim
  · exact (hresume hi).elim
  · have hq := (calls_put_self g i _).symm.trans hi
    refine ⟨?_, hh⟩
    obtain ⟨q, w', hstep, hst⟩ := g.world.exists_callStep p
    rw [hstep] at hq ⊢
    cases hst with
    | stopped => rfl
    | _ => cases hq

theorem events_filter (d : Nat) (σ : List Turn) :
    (σ.filter (·.isOf d)).filterMap Turn.event? ++
        (σ.filter fun t => !t.isOf d).filterMap Turn.event? = σ.filterMap Turn.event? := by
  induction σ with
  | nil => rfl
  | cons t σ ih =>
    cases t with
    | event e => simpa [List.filter_cons, List.filterMap_cons] using ih
    | call i => by_cases hi : i = d <;> simpa [hi, List.filterMap_cons] using ih

/-- Calls none of which waits for a change while another one has its turn can be made one after the
other. -/
theorem OneByOne.serial {σ : List Turn} (h : g.OneByOne Progress.Calm σ)
    (hno : ∀ i ids, g.calls i ≠ some (.draining ids))
    (hend : ∀ i p, (g.run σ).calls i = some p → ∃ a, p = .answered a) :
    ∃ σ', g.Serial σ' ∧ σ'.filterMap Turn.event? = σ.filterMap Turn.event? ∧
      g.decisions σ' = g.decisions σ ∧ g.run σ' = g.run σ := by
  induction σ generalizing g with
  | nil => exact ⟨[], trivial, rfl, rfl, rfl⟩
  | cons t σ ih =>
    cases t with
    | event e =>
      obtain ⟨σ', hser, hev, hdec, hrun⟩ := ih h hno hend
      exact ⟨.event e :: σ', hser, by simp [hev], hdec, hrun⟩
    | call i =>
      have hidle : ∀ j p, j ≠ i → g.calls j = some p → p.Idle := fun j p hj hp => by
        have hcalm := h.1 j p hj hp
        cases p with
        | fresh c => exact Or.inl ⟨c, rfl⟩
        | changing k c => exact absurd rfl (hcalm k c)
        | draining ids => exact absurd hp (hno j ids)
        | answered a => exact Or.inr ⟨a, rfl⟩
      by_cases hdrain : ∃ ids, (g.turn (.call i)).calls i = some (.draining ids)
      · obtain ⟨ids, hids⟩ := hdrain
        obtain ⟨hl, hh⟩ := stopped_of_draining (hno i) hids
        have hstop : (g.turn (.call i)).Stopped i :=
          ⟨hl, hh, by rw [decided, hids]; rfl,
            fun j p hj hp => hidle j p hj ((calls_turn_of_ne hj).symm.trans hp)⟩
        obtain ⟨hrun, hdec⟩ := hstop.postpone σ
        have hown : ∀ t ∈ σ.filter (·.isOf i), t.isOf i = true := fun t ht =>
          (List.mem_filter.mp ht).2
        have hothers : ∀ t ∈ σ.filter fun t => !t.isOf i, t.isOf i = false := fun t ht => by
          simpa using (List.mem_filter.mp ht).2
        obtain ⟨hmid, -, hnil, hser⟩ := hstop.run_own hown
        obtain ⟨hcall, hlast⟩ := hmid.run_others hothers
        have hover : ∀ p, ((g.turn (.call i)).run (σ.filter (·.isOf i))).calls i = some p →
            p.Idle := fun p hp => by
          rw [← hcall, ← hrun] at hp
          exact Or.inr (hend i p hp)
        refine ⟨.call i :: (σ.filter (·.isOf i) ++ σ.filter fun t => !t.isOf i),
          ⟨hidle, oneByOne_append.mpr ⟨hser, hlast hover⟩⟩, ?_, ?_, ?_⟩
        · simpa [List.filterMap_cons] using events_filter i σ
        · rw [decisions, decisions, decisions_append, hnil, hdec, List.nil_append]
        · rw [run_cons, run_append, run_cons, hrun]
      · have hno' : ∀ j ids, (g.turn (.call i)).calls j ≠ some (.draining ids) := fun j ids hj => by
          by_cases hji : j = i
          · exact hdrain ⟨ids, hji ▸ hj⟩
          · exact hno j ids ((calls_turn_of_ne hji).symm.trans hj)
        obtain ⟨σ', hser, hev, hdec, hrun⟩ := ih h.2 hno' hend
        exact ⟨.call i :: σ', ⟨hidle, hser⟩, by simpa [List.filterMap_cons] using hev, by rw [decisions, decisions, hdec],
          hrun⟩

omit [Platform] in
theorem lags_start (w : World) (cs : List Command) : (start w cs).Lags (start w cs) where
  world := rfl
  holder := rfl
  own hj := by cases hj
  others _ := .same fun p hp => by
    obtain ⟨c, -, rfl⟩ := Option.map_eq_some_iff.mp hp
    exact nofun

/-- When all calls have been answered there is a schedule that takes them one at a time, in the order in
which they were decided, to the same answers and the same registry. -/
theorem exists_serial (w : World) (cs : List Command) {σ : List Turn}
    (hend : ∀ i p, ((start w cs).run σ).calls i = some p → ∃ a, p = .answered a) :
    ∃ σ', (start w cs).Serial σ' ∧ σ'.filterMap Turn.event? = σ.filterMap Turn.event? ∧
      (start w cs).decisions σ' = (start w cs).decisions σ ∧
      (start w cs).run σ' = (start w cs).run σ := by
  obtain ⟨τ, hcalm, hev, hdec, hlags⟩ := (lags_start w cs).run σ
  -- Nothing waits for a change any more, so nothing was put off.
  have hcalls : ((start w cs).run τ).calls = ((start w cs).run σ).calls := by
    funext i
    by_cases hi : ∃ c, ((start w cs).run σ).holder = some (i, c)
    · obtain ⟨c, hc⟩ := hi
      exact hlags.own hc
    · have hdefers := hlags.others (not_exists.mp hi)
      generalize hp : ((start w cs).run σ).calls i = o, ((start w cs).run τ).calls i = o' at hdefers
      cases hdefers with
      | same calm => rfl
      | later valid =>
        obtain ⟨a, ha⟩ := hend i _ hp
        cases ha
  have hrun : (start w cs).run τ = (start w cs).run σ := by
    obtain ⟨hw, hh, -, -⟩ := hlags
    revert hw hh hcalls
    generalize (start w cs).run τ = a
    generalize (start w cs).run σ = b
    cases a
    cases b
    rintro rfl rfl rfl
    rfl
  have hfresh : ∀ i ids, (start w cs).calls i ≠ some (.draining ids) := fun i ids hi => by
    obtain ⟨c, -, hc⟩ := Option.map_eq_some_iff.mp hi
    cases hc
  obtain ⟨σ', hser, hev', hdec', hrun'⟩ := hcalm.serial hfresh (hrun ▸ hend)
  exact ⟨σ', hser, hev'.trans hev, hdec'.trans hdec, hrun'.trans hrun⟩

/-! ### Calls without anything in between -/

theorem resume_turn (g : Crowd) (i : Nat) (t : Site) (c : Change) :
    (g.resume i t c).turn (.call i) = g.resume i (t.step c).2 (t.step c).1 := by
  cases hc : c.result? with
  | none =>
    rw [resume_undone hc, turn_go (t := t) rfl rfl]
    cases (t.step c).1 <;> rfl
  | some r =>
    obtain rfl := Change.eq_done_of_result? hc
    have hi : (g.resume i t (.done r)).calls i = some (.answered (.done r)) :=
      calls_put_self g i _
    rw [turn_put (q := .answered (.done r)) rfl hi (Progress.calm_answered _) rfl, put_of_calls hi]
    rfl

theorem resume_run (g : Crowd) (i : Nat) (t : Site) (c : Change) (n : Nat) :
    (g.resume i t c).run (List.replicate n (.call i)) =
      g.resume i (t.steps c n).2 (t.steps c n).1 := by
  induction n generalizing t c with
  | zero => rfl
  | succ n ih =>
    rw [List.replicate_succ, run_cons, resume_turn, ih]
    rfl

/-- A call that has the registry to itself for some turns takes its next step as a whole. -/
theorem run_stepCall (hh : g.holder = none) (hi : g.calls i = some p) :
    ∃ n, g.run (List.replicate n (.call i)) =
      { g.put i (g.world.stepCall p).1 with world := (g.world.stepCall p).2 } := by
  by_cases hp : p.Calm
  · exact ⟨1, turn_calm hh hi hp⟩
  · obtain ⟨k, canonical, rfl⟩ : ∃ k canonical, p = .changing k canonical := by
      simpa [Progress.Calm] using hp
    cases ht : g.world.site? with
    | none =>
      refine ⟨1, (turn_late hh hi ht).trans ?_⟩
      simp only [World.stepCall, World.change, ht]
      rfl
    | some t =>
      refine ⟨(t.beginChange k canonical).1.budget + 1, ?_⟩
      rw [List.replicate_succ, run_cons, turn_begin hh hi ht, resume_run]
      obtain ⟨r, hr⟩ := Site.steps_budgeted (t.beginChange k canonical).2
        (t.beginChange k canonical).1 (Nat.le_refl _)
      rw [hr]
      simp only [World.stepCall, World.change, Site.change, ht, hr]
      obtain ⟨world, calls, holder⟩ := g
      obtain rfl : holder = none := hh
      rfl

/-- Whatever calls come to that take their steps as a whole, with nothing in between, is what they come
to in turns. -/
theorem exists_run (w : World) (calls : List Progress) (schedule : List Nat) : ∃ σ,
    Crowd.run ⟨w, fun i => calls[i]?, none⟩ σ =
      ⟨(w.interleave calls schedule).2, fun i => (w.interleave calls schedule).1[i]?, none⟩ := by
  induction schedule generalizing w calls with
  | nil => exact ⟨[], rfl⟩
  | cons i schedule ih =>
    unfold World.interleave
    cases hi : calls[i]? with
    | none => exact ih w calls
    | some p =>
      obtain ⟨n, hn⟩ := run_stepCall (g := ⟨w, fun i => calls[i]?, none⟩) rfl hi
      obtain ⟨σ, hσ⟩ := ih (w.stepCall p).2 (calls.set i (w.stepCall p).1)
      refine ⟨List.replicate n (.call i) ++ σ, ?_⟩
      rw [run_append, hn]
      have hput : update (fun i => calls[i]?) i (some (w.stepCall p).1) =
          fun j => (calls.set i (w.stepCall p).1)[j]? := by
        funext j
        have hlt : i < calls.length := (List.getElem?_eq_some_iff.mp hi).1
        by_cases hji : j = i
        · subst hji
          rw [update_self, List.getElem?_set_self hlt]
        · rw [update_of_ne hji, List.getElem?_set_ne (Ne.symm hji)]
      refine Eq.trans ?_ hσ
      exact congrArg (fun calls => Crowd.run ⟨(w.stepCall p).2, calls, none⟩ σ) hput

end Crowd
end Portkeeper
