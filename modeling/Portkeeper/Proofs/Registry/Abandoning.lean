import Portkeeper.Proofs.Registry.Concurrent
import Portkeeper.Proofs.Registry.Trials

/-!
Callers who go away. A call that has not begun is then as if it had never been made, and every other one
goes on as if somebody waited for it. Until a change has the registry to itself it has done nothing, and
once it has, it comes to its end in so many turns: at the new address, at the previous one, or with all
the attempts at both made and lost.
-/

set_option autoImplicit false

namespace Portkeeper
open Function

namespace Change

/-- A change that is to restore what was recorded before, after some attempts: it is still after the new
address, or all the attempts there were lost and it is after the recorded one. -/
inductive Owes (old : Option Entry) (k : Kind) (address : String) : List Trial → Change → Prop
  | moving {b : Bid} {previous : String} {xs : List Trial}
      (known : previous = (old.map Entry.address).getD "") (bid : b.Under k address xs) :
      Owes old k address xs (.moving b previous)
  | restoring {b : Bid} {o : Entry} {e : EndpointError} {xs ys : List Trial} (entry : old = some o)
      (lost : Tries address xs (.error e)) (bid : b.Under k o.address ys) :
      Owes old k address (xs ++ ys) (.restoring b e)

variable {old : Option Entry} {k : Kind} {address : String} {xs : List Trial} {c : Change}

theorem Owes.rest (h : Owes old k address xs c) (time : Nat) :
    Owes old k address xs (c.rest time) := by
  cases h with
  | moving known bid => exact .moving known (bid.rest time)
  | restoring entry lost bid => exact .restoring entry lost (bid.rest time)

theorem budget_rest (c : Change) (time : Nat) : (c.rest time).budget = c.budget := by
  cases c <;> rfl

end Change

namespace Site

variable [Platform] {s t t' : Site} {k : Kind} {address : String} {old : Option Entry}
  {xs : List Trial}

/-- What a change comes to that had the registry to itself, whatever happened meanwhile, and what is
reported, after these attempts: the kind is disabled, without any; or it is moved, with the last one at
the new address; or all those were lost, and then there was nothing to restore, or the previous address
is served again, with the last one there, or all those were lost as well. -/
inductive Ends (old : Option Entry) (t' : Site) (k : Kind) (address : String) :
    List Trial → Except EndpointError Unit → Prop
  | disabled (empty : address = "") (down : t'.registry.entries k = none) :
      Ends old t' k address [] (.ok ())
  | moved {xs : List Trial} {l : Listener} (given : address ≠ "") (won : Tries address xs (.ok l))
      (live : t'.Heeds k address) : Ends old t' k address xs (.ok ())
  | failed {xs : List Trial} {e : EndpointError} (given : address ≠ "") (vacant : old = none)
      (lost : Tries address xs (.error e)) (down : t'.registry.entries k = none) :
      Ends old t' k address xs (.error e)
  | restored {xs ys : List Trial} {e : EndpointError} {l : Listener} {o : Entry}
      (given : address ≠ "") (entry : old = some o) (lost : Tries address xs (.error e))
      (back : Tries o.address ys (.ok l)) (live : t'.Heeds k o.address) :
      Ends old t' k address (xs ++ ys) (.error e)
  | lost {xs ys : List Trial} {e e' : EndpointError} {o : Entry} (given : address ≠ "")
      (entry : old = some o) (lost : Tries address xs (.error e))
      (gone : Tries o.address ys (.error e')) (down : t'.registry.entries k = none) :
      Ends old t' k address (xs ++ ys) (.error (.unavailable k o.address e e'))

/-- A change makes the attempt that is due, and goes on or ends. -/
theorem Sound.step_ends (hs : s.Sound) {m : Move} {c : Change} (hp : s.Pursues m c)
    (hne : m.canonical ≠ "") (ho : c.Owes old m.kind m.canonical xs)
    (hold : ∀ e, old = some e → e.address ≠ "") :
    (s.step c).1.result? = none ∧
        (s.step c).1.Owes old m.kind m.canonical (xs ++ (s.trial? c).toList) ∨
      ∃ r, (s.step c).1 = .done r ∧
        Ends old (s.step c).2 m.kind m.canonical (xs ++ (s.trial? c).toList) r := by
  have won {b : Bid} {h : Host} {l : Listener} (ha : s.Admits b.kind b.address)
      (hwon : b.attempt s.registry.bundle s.host = (.inr (.ok l), h)) :
      ∃ t', Site.bring { s with host := h } l b.address = (.ok (), t') ∧
        t'.Heeds b.kind b.address := by
    have hw := Bid.attempt_wins hs.wired.sound hwon
    obtain ⟨router, n, hr, -, -, hb, -⟩ := hs.bring ha hw
    exact ⟨_, hb, hs.heeds_hand ha hw hr⟩
  obtain ⟨c', s', hstep, hst⟩ := s.exists_stepped c
  rw [hstep]
  cases ho with
  | moving hprevious bid =>
    cases hst with
    | moves _ goes => exact Or.inl ⟨rfl, .moving hprevious (bid.of_goes goes)⟩
    | moved hwon =>
      obtain ⟨t', hb, hheeds⟩ := won hp.carried.1 hwon
      rw [bid.kind, bid.target] at hheeds
      rw [hb]
      exact Or.inr ⟨.ok (), rfl, .moved hne (bid.of_ends hwon) hheeds⟩
    | failed hlost =>
      refine Or.inr ⟨_, rfl, .failed hne ?_ (bid.of_ends hlost) (bid.kind ▸ hp.carried.1.vacant)⟩
      cases old with
      | none => rfl
      | some o => exact absurd hprevious.symm (hold o rfl)
    | returns known hlost =>
      cases old with
      | none => exact absurd hprevious known
      | some o =>
        obtain rfl := hprevious
        have hfirst := Bid.under_first m.kind o.address
        refine Or.inl ⟨rfl, ?_⟩
        rw [← List.append_nil (xs ++ _), bid.kind]
        exact .restoring rfl (bid.of_ends hlost) hfirst
  | restoring entry lost bid =>
    rw [List.append_assoc]
    cases hst with
    | restores _ goes => exact Or.inl ⟨rfl, .restoring entry lost (bid.of_goes goes)⟩
    | restored hwon =>
      obtain ⟨t', hb, hheeds⟩ := won hp.carried hwon
      rw [bid.kind, bid.target] at hheeds
      rw [hb]
      exact Or.inr ⟨_, rfl, .restored hne entry lost (bid.of_ends hwon) hheeds⟩
    | stranded hlost =>
      have hdown : s.registry.entries m.kind = none := bid.kind ▸ (hp.carried : s.Admits _ _).vacant
      rw [bid.kind, bid.target]
      exact Or.inr ⟨_, rfl, .lost hne entry lost (bid.of_ends hlost) hdown⟩

/-- A change has nothing to do, or makes way: the kind is closed, and disabled or bid for. -/
theorem Sound.begin_ends (hs : s.Sound) (k : Kind) (address : String) :
    (∃ r, s.beginChange k address = (.done r, s)) ∨
      (∃ r, (s.beginChange k address).1 = .done r ∧
        Ends (s.registry.entries k) (s.beginChange k address).2 k address [] r) ∨
      address ≠ "" ∧ (s.beginChange k address).1.result? = none ∧
        (s.beginChange k address).1.Owes (s.registry.entries k) k address [] := by
  rcases s.beginChange_cases k address with ⟨-, hb⟩ | ⟨-, ⟨-, -, hb⟩ | ⟨hempty, hb⟩ | ⟨hne, -, hb⟩⟩ <;>
    rw [hb]
  · exact Or.inl ⟨_, rfl⟩
  · exact Or.inl ⟨_, rfl⟩
  · refine Or.inr (Or.inl ⟨.ok (), rfl, .disabled hempty ?_⟩)
    rw [entries_close hs, if_pos rfl]
  · have hprevious : (s.close k).1 = ((s.registry.entries k).map Entry.address).getD "" := by
      cases he : s.registry.entries k with
      | none => rw [close_none he]; rfl
      | some e =>
        obtain ⟨id, l, hv⟩ := hs.serves he
        rw [close_eq hs he hv.serving]
        rfl
    exact Or.inr (Or.inr ⟨hne, rfl, .moving hprevious (Bid.under_first k address)⟩)

end Site

namespace Crowd

variable {cs : List Command} {g : Crowd} {i j : Nat} {t : Site} {k : Kind} {text canonical : String}
  {c : Change} {r : Except EndpointError Unit}

/-- The caller goes away. -/
def leave (g : Crowd) (i : Nat) : Crowd :=
  { g with calls := update g.calls i ((g.calls i).bind Progress.abandon) }

/-- As if a call had never been made. -/
def without (g : Crowd) (i : Nat) : Crowd := { g with calls := update g.calls i none }

/-- A call that has not been decided and has never had the registry to itself. -/
structure Unbegun (g : Crowd) (i : Nat) : Prop where
  free : ∀ c, g.holder ≠ some (i, c)
  undecided : g.decided i = false

@[simp] theorem calls_without_self (g : Crowd) (i : Nat) : (g.without i).calls i = none :=
  update_self ..

theorem calls_without_of_ne (h : j ≠ i) : (g.without i).calls j = g.calls j := update_of_ne h ..

@[simp] theorem without_without (g : Crowd) (i : Nat) : (g.without i).without i = g.without i := by
  unfold without
  simp only [update_idem]

/-! ### Before a call has begun -/

theorem holder_resume (g : Crowd) (i : Nat) (t : Site) (c : Change) :
    (g.resume i t c).holder = if c.result?.isSome then none else some (i, c) := by
  cases c <;> rfl

variable [Platform] {σ : List Turn}

theorem turn_blocked (hh : g.holder = some (j, c)) (hij : i ≠ j) : g.turn (.call i) = g := by
  simp only [turn, hh, if_neg hij]

theorem turn_without_self (hh : ∀ c, g.holder ≠ some (i, c)) :
    (g.without i).turn (.call i) = g.without i := by
  have hi := calls_without_self g i
  cases hholder : g.holder with
  | none => exact turn_absent hi hholder
  | some jc =>
    obtain ⟨j, c⟩ := jc
    refine turn_blocked (c := c) hholder fun hij => hh c ?_
    rw [hholder, hij]

/-- What others do does not depend on a call. -/
theorem turn_without (hij : j ≠ i) :
    (g.without i).turn (.call j) = (g.turn (.call j)).without i := by
  have hput (g : Crowd) (p : Progress) : (g.without i).put j p = (g.put j p).without i := by
    unfold put without
    simp only [update_comm hij]
  have hresume (t : Site) (c : Change) :
      (g.without i).resume j t c = (g.resume j t c).without i := by
    cases c with
    | done r =>
      exact congrArg (fun g : Crowd => { g with world := .ofSite t, holder := none }) (hput g _)
    | moving b previous => rfl
    | restoring b failure => rfl
  have hcalls : (g.without i).calls j = g.calls j := calls_without_of_ne hij
  have hh : (g.without i).holder = g.holder := rfl
  have hw : (g.without i).world = g.world := rfl
  unfold turn
  dsimp only
  rw [hh, hw]
  cases g.holder with
  | some jc =>
    dsimp only
    split
    · cases g.world.site? with
      | none => rfl
      | some t => exact hresume _ _
    · rfl
  | none =>
    dsimp only
    unfold enter
    rw [hcalls, hw]
    cases g.calls j with
    | none => rfl
    | some p =>
      have hcalm (q : Progress) (w : World) :
          ({ (g.without i).put j q with world := w } : Crowd) =
            without { g.put j q with world := w } i := by
        rw [hput]
        rfl
      cases p with
      | changing k canonical =>
        dsimp only
        cases g.world.site? with
        | none => exact hput _ _
        | some t => exact hresume _ _
      | fresh c => exact hcalm _ _
      | draining ids => exact hcalm _ _
      | answered a => exact hcalm _ _

omit [Platform] in
theorem decided_put (g : Crowd) (i : Nat) (p : Progress) : (g.put i p).decided i = p.isDecided := by
  unfold decided
  rw [calls_put_self]
  rfl

omit [Platform] in
/-- A change that had its turn has begun. -/
theorem not_unbegun_resume (g : Crowd) (i : Nat) (t : Site) (c : Change) :
    ¬(g.resume i t c).Unbegun i := by
  intro h
  cases hc : c.result? with
  | none =>
    rw [resume_undone hc] at h
    exact h.free c rfl
  | some r =>
    obtain rfl := Change.eq_done_of_result? hc
    have hd : (g.resume i t (.done r)).decided i = true := decided_put g i _
    rw [h.undecided] at hd
    cases hd

/-- The steps that a call can take before it has begun are those that do nothing but look. -/
theorem stepCall_undecided {p : Progress} {w : World} (hq : (w.stepCall p).1.isDecided = false) :
    p.isDecided = false ∧ (w.stepCall p).2 = w := by
  obtain ⟨q, w', hstep, hst⟩ := w.exists_callStep p
  rw [hstep] at hq ⊢
  cases hst with
  | waits => exact ⟨rfl, rfl⟩
  | _ => cases hq

theorem Unbegun.of_turn {t : Turn} (h : (g.turn t).Unbegun i) :
    g.Unbegun i ∧ (g.turn t).without i = (g.without i).turn t := by
  cases t with
  | event e =>
    refine ⟨⟨fun c hc => h.free (c.rest e.time) ?_, h.undecided⟩, rfl⟩
    show g.holder.map _ = _
    rw [hc]
    rfl
  | call j =>
    by_cases hij : j = i
    · subst hij
      suffices hsame : g.Unbegun j ∧ (g.turn (.call j)).without j = g.without j from
        ⟨hsame.1, hsame.2.trans (turn_without_self hsame.1.free).symm⟩
      rcases g.turn_cases j with ⟨he, -⟩ | ⟨k, canonical, -, -, -, he⟩ | ⟨k, canonical, t, -, -, -, he⟩ |
        ⟨ch, t, -, -, he⟩ | ⟨p, hh, hi, -, he⟩ <;> rw [he] at h ⊢
      · exact ⟨h, rfl⟩
      · have hd := (decided_put g j _).symm.trans h.undecided
        cases hd
      · exact absurd h (not_unbegun_resume _ _ _ _)
      · exact absurd h (not_unbegun_resume _ _ _ _)
      · obtain ⟨hp, hw⟩ := stepCall_undecided ((decided_put g j _).symm.trans h.undecided)
        refine ⟨⟨by simp [hh], by simpa [decided, hi] using hp⟩, ?_⟩
        rw [hw]
        unfold without put
        simp only [update_idem]
    · refine ⟨⟨fun c hc => h.free c ?_, ?_⟩, (turn_without hij).symm⟩
      · rwa [turn_blocked hc hij]
      · have hd := h.undecided
        unfold decided at hd ⊢
        rwa [calls_turn_of_ne (Ne.symm hij)] at hd

/-- What a call that has not begun leaves behind when it goes away is what there would be without it. -/
theorem Unbegun.of_run (h : (g.run σ).Unbegun i) :
    g.Unbegun i ∧ (g.run σ).without i = (g.without i).run σ := by
  induction σ generalizing g with
  | nil => exact ⟨h, rfl⟩
  | cons t σ ih =>
    obtain ⟨hturn, hrun⟩ := ih h
    obtain ⟨hg, ht⟩ := hturn.of_turn
    exact ⟨hg, by rw [run_cons, run_cons, hrun, ht]⟩

/-- To go away is to withdraw a call that has not begun, or to be missed by nobody. -/
theorem Sound.leave_cases (hg : Sound cs g) (i : Nat) :
    g.leave i = g.without i ∧ g.Unbegun i ∨ g.leave i = g := by
  have hsame (h : (g.calls i).bind Progress.abandon = g.calls i) : g.leave i = g := by
    unfold leave
    rw [h, update_eq_self]
  cases hi : g.calls i with
  | none => exact Or.inr (hsame (by rw [hi]; rfl))
  | some p =>
    cases p with
    | fresh c =>
      refine Or.inl ⟨?_, fun ch hh => ?_, by rw [decided, hi]; rfl⟩
      · unfold leave
        rw [hi]
        rfl
      · obtain ⟨t, k, text, canonical, -, hi', -⟩ := hg.holder hh
        rw [hi] at hi'
        cases hi'
    | changing k canonical => exact Or.inr (hsame (by rw [hi]; rfl))
    | draining ids => exact Or.inr (hsame (by rw [hi]; rfl))
    | answered a => exact Or.inr (hsame (by rw [hi]; rfl))

theorem Sound.without (hg : Sound cs g) (hh : ∀ c, g.holder ≠ some (i, c)) :
    Sound cs (g.without i) := by
  refine ⟨hg.world, fun {j p} hp => ?_, fun {j c} hj => ?_⟩
  · by_cases hji : j = i
    · rw [hji, calls_without_self] at hp
      cases hp
    · exact hg.calls ((calls_without_of_ne hji).symm.trans hp)
  · have hji : j ≠ i := fun hji => hh c (by rw [← hji]; exact hj)
    rw [calls_without_of_ne hji]
    exact hg.holder hj

theorem Sound.run_absent (hg : Sound cs g) (hi : g.calls i = none) (σ : List Turn) :
    (g.run σ).calls i = none := by
  induction σ generalizing g with
  | nil => exact hi
  | cons t σ ih =>
    refine ih (hg.turn t) ?_
    by_cases hcall : (g.turn t).calls i = g.calls i
    · exact hcall.trans hi
    · obtain rfl := eq_call_of_calls hcall
      rcases g.turn_cases i with ⟨he, -⟩ | ⟨_, _, -, hi', -⟩ | ⟨_, _, _, -, hi', -⟩ |
        ⟨_, _, hh, -⟩ | ⟨_, -, hi', -⟩
      · rwa [he]
      · exact absurd (hi.symm.trans hi') nofun
      · exact absurd (hi.symm.trans hi') nofun
      · obtain ⟨_, _, _, _, -, hi', -⟩ := hg.holder hh
        exact absurd (hi.symm.trans hi') nofun
      · exact absurd (hi.symm.trans hi') nofun

/-! ### Once it has begun -/

theorem Sound.run_answered (hg : Sound cs g) {a : Answer} (hi : g.calls i = some (.answered a))
    (σ : List Turn) : (g.run σ).calls i = some (.answered a) := by
  induction σ generalizing g with
  | nil => exact hi
  | cons t σ ih =>
    refine ih (hg.turn t) ?_
    by_cases hcall : (g.turn t).calls i = g.calls i
    · exact hcall.trans hi
    · obtain rfl := eq_call_of_calls hcall
      rwa [hg.turn_answered hi]

/-- A change that has the registry to itself is over after so many turns of its own. -/
theorem Sound.finishes (hg : Sound cs g) (hh : g.holder = some (i, c))
    (hn : c.budget ≤ σ.countP (Turn.isCall i)) :
    ∃ r, (g.run σ).calls i = some (.answered (.done r)) := by
  induction σ generalizing g c with
  | nil =>
    obtain ⟨t, k, text, canonical, -, -, -, hp⟩ := hg.holder hh
    cases c with
    | done r => cases hp.undone
    | moving b previous => simp [Change.budget] at hn
    | restoring b failure => simp [Change.budget] at hn
  | cons turn σ ih =>
    cases turn with
    | event e =>
      refine ih (hg.turn (.event e)) (c := c.rest e.time) ?_ ?_
      · show g.holder.map _ = _
        rw [hh]
        rfl
      · rw [Change.budget_rest]
        simpa [Turn.isCall] using hn
    | call j =>
      by_cases hij : j = i
      · subst hij
        obtain ⟨t, k, text, canonical, ht, -, -, hp⟩ := hg.holder hh
        have hturn := turn_go hh ht
        cases hr : (t.step c).1.result? with
        | none =>
          have hbudget := Site.budget_step t hp.undone hr
          refine ih (hg.turn (.call j)) (c := (t.step c).1) ?_ ?_
          · rw [hturn, resume_undone hr]
          · have : (Turn.call j).isCall j = true := by simp [Turn.isCall]
            rw [List.countP_cons_of_pos this] at hn
            omega
        | some r =>
          refine ⟨r, (hg.turn (.call j)).run_answered ?_ σ⟩
          rw [hturn, Change.eq_done_of_result? hr]
          exact calls_put_self g j _
      · rw [run_cons, turn_blocked hh hij]
        refine ih hg hh ?_
        have : ¬(Turn.call j).isCall i = true := by simpa [Turn.isCall] using hij
        rwa [List.countP_cons_of_neg this] at hn

/-- A call takes the registry in its own turns only. -/
theorem eq_call_of_holder {t : Turn} (hno : ∀ c, g.holder ≠ some (i, c))
    (hyes : (g.turn t).holder = some (i, c)) : t = .call i := by
  cases t with
  | event e =>
    obtain ⟨⟨j, c'⟩, hj, he⟩ := Option.map_eq_some_iff.mp hyes
    cases he
    exact absurd hj (hno c')
  | call j =>
    have hresume {t : Site} {ch : Change} (h : (g.resume j t ch).holder = some (i, c)) : j = i := by
      rw [holder_resume] at h
      split at h
      · cases h
      · cases h
        rfl
    rcases g.turn_cases j with ⟨he, -⟩ | ⟨_, _, hh, -, -, he⟩ | ⟨_, _, _, -, -, -, he⟩ |
      ⟨_, _, -, -, he⟩ | ⟨_, hh, -, -, he⟩ <;> rw [he] at hyes
    · exact absurd hyes (hno c)
    · exact absurd hyes (hno c)
    · rw [hresume hyes]
    · rw [hresume hyes]
    · exact absurd hyes (hno c)

/-- The attempt that a call makes if it is its turn: the next one of its change, if that has the
registry to itself. -/
def trial? (g : Crowd) (i : Nat) : Option Trial :=
  match g.holder, g.world.site? with
  | some (j, c), some t => if i = j then t.trial? c else none
  | _, _ => none

/-- The attempts that a call makes in some turns. -/
def trials (g : Crowd) (i : Nat) : List Turn → List Trial
  | [] => []
  | t :: σ => (if t.isCall i then (g.trial? i).toList else []) ++ (g.turn t).trials i σ

theorem trials_free (hfree : g.holder = none) (i : Nat) (t : Turn) (σ : List Turn) :
    g.trials i (t :: σ) = (g.turn t).trials i σ := by
  have : g.trial? i = none := by simp only [trial?, hfree]
  rw [trials, this, Option.toList_none, ite_self, List.nil_append]

theorem trials_own (hh : g.holder = some (i, c)) (ht : g.world.site? = some t) (σ : List Turn) :
    g.trials i (.call i :: σ) = (t.trial? c).toList ++ (g.turn (.call i)).trials i σ := by
  rw [trials]
  simp only [trial?, hh, ht, Turn.isCall, if_true, decide_true]

theorem trials_other {t : Turn} (hno : t.isCall i = false) (σ : List Turn) :
    g.trials i (t :: σ) = (g.turn t).trials i σ := by
  rw [trials, if_neg (by rw [hno]; exact Bool.false_ne_true), List.nil_append]

/-- A change that has the registry to itself and is answered has come to an end of its own. -/
theorem Sound.exists_end (hg : Sound cs g) (hh : g.holder = some (i, c))
    (hi : g.calls i = some (.changing k canonical)) (hne : canonical ≠ "") {old : Option Entry}
    {xs : List Trial} (ho : c.Owes old k canonical xs)
    (hold : ∀ e, old = some e → e.address ≠ "")
    (hend : (g.run σ).calls i = some (.answered (.done r))) : ∃ σ₁ σ₂ t', σ = σ₁ ++ σ₂ ∧
      (g.run σ₁).calls i = some (.answered (.done r)) ∧ (g.run σ₁).world.site? = some t' ∧
      Site.Ends old t' k canonical (xs ++ g.trials i σ₁) r := by
  induction σ generalizing g c xs with
  | nil =>
    rw [run_nil, hi] at hend
    cases hend
  | cons turn σ ih =>
    cases turn with
    | event e =>
      obtain ⟨σ₁, σ₂, t', rfl, h⟩ := ih (hg.turn (.event e)) (c := c.rest e.time)
        (by show g.holder.map _ = _; rw [hh]; rfl) hi (ho.rest e.time) hend
      refine ⟨.event e :: σ₁, σ₂, t', rfl, ?_⟩
      rwa [trials_other rfl]
    | call j =>
      by_cases hij : j = i
      · subst hij
        obtain ⟨t, k', text, canonical', ht, hi', -, hp⟩ := hg.holder hh
        rw [hi] at hi'
        cases hi'
        have hturn := turn_go hh ht
        rcases (hg.world.site ht).step_ends hp hne ho hold with ⟨hr, ho'⟩ | ⟨r', hdone, hends⟩
        · rw [resume_undone hr] at hturn
          obtain ⟨σ₁, σ₂, t', rfl, h⟩ := ih (hg.turn (.call j)) (c := (t.step c).1)
            (by rw [hturn]) (by rw [hturn]; exact hi) ho' hend
          refine ⟨.call j :: σ₁, σ₂, t', rfl, ?_⟩
          rwa [trials_own hh ht, ← List.append_assoc]
        · rw [hdone] at hturn
          have hcall : (g.turn (.call j)).calls j = some (.answered (.done r')) := by
            rw [hturn]
            exact calls_put_self g j _
          have hlast := (hg.turn (.call j)).run_answered hcall σ
          rw [run_cons, hlast] at hend
          cases hend
          refine ⟨[.call j], σ, (t.step c).2, rfl, hcall, ?_, ?_⟩
          · rw [run_cons, run_nil, hturn, world_resume, World.site?_ofSite]
          · rwa [trials_own hh ht, trials, List.append_nil]
      · rw [run_cons, turn_blocked hh hij] at hend
        obtain ⟨σ₁, σ₂, t', rfl, h⟩ := ih hg hh hi ho hend
        refine ⟨.call j :: σ₁, σ₂, t', rfl, ?_⟩
        rwa [run_cons, trials_other (t := .call j) (decide_eq_false hij), turn_blocked hh hij]

/-- What became of a call to move a kind: it did nothing but look, or it had the registry to itself from
one turn of its own to another, in which it was answered, and has come to an end with the attempts that
it made in between. -/
def Settled (g : Crowd) (i : Nat) (k : Kind) (text : String) (r : Except EndpointError Unit)
    (σ : List Turn) : Prop :=
  ∃ σ₁ σ₂ σ₃, σ = σ₁ ++ .call i :: σ₂ ++ σ₃ ∧
    (g.run (σ₁ ++ .call i :: σ₂)).calls i = some (.answered (.done r)) ∧
    (σ₂ = [] ∧ (g.run (σ₁ ++ [.call i])).world = (g.run σ₁).world ∨
      ∃ canonical t t', k.canonicalize text = .ok canonical ∧ (g.run σ₁).holder = none ∧
        (g.run σ₁).world.site? = some t ∧
        (g.run (σ₁ ++ .call i :: σ₂)).world.site? = some t' ∧
        Site.Ends (t.registry.entries k) t' k canonical ((g.run σ₁).trials i (.call i :: σ₂)) r)

theorem Settled.after {σ₁ : List Turn} (h : (g.run σ₁).Settled i k text r σ) :
    g.Settled i k text r (σ₁ ++ σ) := by
  obtain ⟨τ₁, τ₂, τ₃, rfl, hcall, h⟩ := h
  refine ⟨σ₁ ++ τ₁, τ₂, τ₃, by simp, ?_, ?_⟩
  · simpa only [List.append_assoc, run_append] using hcall
  · simpa only [List.append_assoc, run_append] using h

/-- A turn in which a call is answered without having done anything. -/
theorem Sound.settles_look (hg : Sound cs g) {o : Except EndpointError Unit}
    (hcall : (g.turn (.call i)).calls i = some (.answered (.done o)))
    (hw : (g.turn (.call i)).world = g.world)
    (hend : ((g.turn (.call i)).run σ).calls i = some (.answered (.done r))) :
    g.Settled i k text r (.call i :: σ) := by
  rw [(hg.turn (.call i)).run_answered hcall σ] at hend
  cases hend
  exact ⟨[], [], σ, rfl, hcall, Or.inl ⟨rfl, hw⟩⟩

/-- The turn in which a call finds out whether there is anything to change. -/
theorem Sound.settles_fresh (hg : Sound cs g)
    (he : g.turn (.call i) = { g.put i (g.world.stepCall (.fresh (.update k text))).1 with
      world := (g.world.stepCall (.fresh (.update k text))).2 })
    {a : Answer} (ha : (g.turn (.call i)).calls i = some (.answered a))
    (hend : ((g.turn (.call i)).run σ).calls i = some (.answered (.done r))) :
    g.Settled i k text r (.call i :: σ) := by
  have hstep : (g.world.stepCall (.fresh (.update k text))).1 = .answered a := by
    rw [he] at ha
    exact Option.some.inj ((calls_put_self g i _).symm.trans ha)
  have hw : (g.turn (.call i)).world = g.world := by
    rw [he]
    obtain ⟨q, w', hlook, hst⟩ := g.world.exists_callStep (.fresh (.update k text))
    rw [hlook]
    cases hst <;> rfl
  obtain ⟨o, rfl⟩ : ∃ o, a = .done o := by
    obtain ⟨q, w', hlook, hst⟩ := g.world.exists_callStep (.fresh (.update k text))
    rw [hlook] at hstep
    cases hst with
    | refused => exact ⟨_, (Progress.answered.inj hstep).symm⟩
    | current => exact ⟨_, (Progress.answered.inj hstep).symm⟩
    | waits => cases hstep
  exact hg.settles_look ha hw hend

/-- The turn in which a call gets the registry. -/
theorem Sound.settles_begin (hg : Sound cs g) (hfree : g.holder = none)
    (hi : g.calls i = some (.changing k canonical)) (hm : Move.Valid ⟨k, text, canonical⟩)
    (ht : g.world.site? = some t) (he : g.turn (.call i) =
      g.resume i (t.beginChange k canonical).2 (t.beginChange k canonical).1)
    (hend : ((g.turn (.call i)).run σ).calls i = some (.answered (.done r))) :
    g.Settled i k text r (.call i :: σ) := by
  have hsite := hg.world.site ht
  rcases hsite.begin_ends k canonical with ⟨o, hb⟩ | ⟨o, hb, hends⟩ | ⟨hne, hundone, ho⟩
  · rw [hb] at he
    have hcall : (g.turn (.call i)).calls i = some (.answered (.done o)) := by
      rw [he]
      exact calls_put_self g i _
    refine hg.settles_look hcall ?_ hend
    rw [he, world_resume, ← World.ofSite_of_site? ht]
  · rw [hb] at he
    have hcall : (g.turn (.call i)).calls i = some (.answered (.done o)) := by
      rw [he]
      exact calls_put_self g i _
    rw [(hg.turn (.call i)).run_answered hcall σ] at hend
    cases hend
    refine ⟨[], [], σ, rfl, hcall, Or.inr
      ⟨canonical, t, (t.beginChange k canonical).2, hm.canonical, hfree, ht, ?_, ?_⟩⟩
    · show (g.turn (.call i)).world.site? = _
      rw [he, world_resume, World.site?_ofSite]
    · rw [run_nil, trials_free hfree]
      exact hends
  · rw [resume_undone hundone] at he
    have hold : ∀ e, t.registry.entries k = some e → e.address ≠ "" := fun e hentry => by
      obtain ⟨id, l, hv⟩ := hsite.serves hentry
      exact (hv.formed hm.network).ne_empty hm.network
    obtain ⟨τ₁, τ₂, t', rfl, hcall, ht', hends⟩ := (hg.turn (.call i)).exists_end
      (c := (t.beginChange k canonical).1) (by rw [he]) (by rw [he]; exact hi) hne ho hold hend
    refine ⟨[], τ₁, τ₂, rfl, hcall,
      Or.inr ⟨canonical, t, t', hm.canonical, hfree, ht, ht', ?_⟩⟩
    rw [run_nil, trials_free hfree]
    exact hends

theorem Sound.settles (hg : Sound cs g) (hc : cs[i]? = some (.update k text)) (hu : g.Unbegun i)
    (hend : (g.run σ).calls i = some (.answered (.done r))) : g.Settled i k text r σ := by
  -- The turn that answers the call or gives it the registry.
  obtain ⟨σ₁, t, σ₂, rfl, hno, hyes⟩ := exists_turn
    (P := fun g => (∃ c, g.holder = some (i, c)) ∨ ∃ a, g.calls i = some (.answered a))
    (fun hc => by
      rcases hc with ⟨c, hc⟩ | ⟨a, ha⟩
      · exact hu.free c hc
      · have hd := hu.undecided
        rw [decided, ha] at hd
        cases hd)
    (Or.inr ⟨_, hend⟩)
  obtain ⟨hfree, hopen⟩ := not_or.mp hno
  obtain rfl : t = .call i := by
    rcases hyes with ⟨c, hc⟩ | ⟨a, ha⟩
    · exact eq_call_of_holder (not_exists.mp hfree) hc
    · exact eq_call_of_calls fun he => hopen ⟨a, he.symm.trans ha⟩
  have hh := hg.run σ₁
  rw [run_append, run_cons] at hend
  refine Settled.after ?_
  rcases (g.run σ₁).turn_cases i with ⟨he, -⟩ | ⟨k', canonical, -, -, -, he⟩ |
    ⟨k', canonical, t, hfree', hi, ht, he⟩ | ⟨ch, t, hhold, -⟩ | ⟨p, hfree', hi, hcalm, he⟩
  · exact absurd (he ▸ hyes) hno
  · exact hh.settles_look (by rw [he, calls_put_self]) (by rw [he, world_put]) hend
  · obtain ⟨c, hc', text', rfl, hm⟩ := hh.calls hi
    cases hc.symm.trans hc'
    exact hh.settles_begin hfree' hi hm ht he hend
  · exact absurd ⟨ch, hhold⟩ hfree
  · rcases hyes with ⟨c, hc'⟩ | ⟨a, ha⟩
    · rw [he] at hc'
      exact absurd hc' (by simp [hfree'])
    · obtain ⟨c, hc', hof⟩ := hh.calls hi
      obtain rfl : c = .update k text := Option.some.inj (hc'.symm.trans hc)
      cases p with
      | changing k' canonical => exact absurd rfl (hcalm k' canonical)
      | draining ids => cases hof
      | answered a => exact absurd ⟨a, hi⟩ hopen
      | fresh c =>
        obtain rfl : c = .update k text := hof
        exact hh.settles_fresh he ha hend

/-! ### Rest -/

theorem events_replicate (n i : Nat) :
    (List.replicate n (Turn.call i)).filterMap Turn.event? = [] := by
  rw [List.filterMap_eq_nil_iff]
  intro t ht
  rw [List.eq_of_mem_replicate ht]
  rfl

/-- Whoever has the registry to himself can finish. -/
theorem Sound.exists_free (hg : Sound cs g) :
    ∃ j n, (g.run (List.replicate n (.call j))).holder = none := by
  cases hh : g.holder with
  | none => exact ⟨0, 0, hh⟩
  | some jc =>
    obtain ⟨j, c⟩ := jc
    obtain ⟨t, k, text, canonical, ht, -, -, hp⟩ := hg.holder hh
    have hsame : g.resume j t c = g := by
      rw [resume_undone hp.undone, ← World.ofSite_of_site? ht, ← hh]
    obtain ⟨r, hr⟩ := Site.steps_budgeted t c (Nat.le_refl _)
    refine ⟨j, c.budget, ?_⟩
    rw [← hsame, resume_run, hr]
    rfl

/-- A call to move a kind can always be brought to its end. -/
theorem Sound.exists_rest (hg : Sound cs g) (hc : cs[i]? = some (.update k text)) :
    ∃ τ, τ.filterMap Turn.event? = [] ∧ (g.run τ).holder = none ∧
      ∀ p, (g.run τ).calls i = some p → ∃ a, p = .answered a := by
  have step {g : Crowd} (hg : Sound cs g) (hh : g.holder = none) : ∃ n,
      (g.run (List.replicate n (.call i))).holder = none ∧
        ∀ p, (g.run (List.replicate n (.call i))).calls i = some p →
          (∃ a, p = .answered a) ∨ ((∃ c, g.calls i = some (.fresh c)) ∧ ¬p.Calm) := by
    cases hi : g.calls i with
    | none => exact ⟨0, hh, fun p hp => by rw [List.replicate_zero, run_nil, hi] at hp; cases hp⟩
    | some p =>
      obtain ⟨n, hn⟩ := run_stepCall hh hi
      refine ⟨n, by rw [hn]; exact hh, fun q hq => ?_⟩
      rw [hn] at hq
      have hq' := Option.some.inj ((calls_put_self g i _).symm.trans hq)
      subst hq'
      obtain ⟨c, hc', hof⟩ := hg.calls hi
      obtain rfl : c = .update k text := Option.some.inj (hc'.symm.trans hc)
      cases p with
      | changing k' canonical => exact Or.inl ⟨_, rfl⟩
      | answered a => exact Or.inl ⟨_, rfl⟩
      | draining ids => cases hof
      | fresh c =>
        obtain rfl : c = .update k text := hof
        obtain ⟨q, w', hlook, hst⟩ := g.world.exists_callStep (.fresh (.update k text))
        rw [hlook]
        cases hst with
        | refused => exact Or.inl ⟨_, rfl⟩
        | current => exact Or.inl ⟨_, rfl⟩
        | waits => exact Or.inr ⟨⟨_, rfl⟩, fun hcalm => hcalm _ _ rfl⟩
  obtain ⟨j, n, hfree⟩ := hg.exists_free
  obtain ⟨n₁, hfree₁, h₁⟩ := step (hg.run _) hfree
  obtain ⟨n₂, hfree₂, h₂⟩ := step ((hg.run _).run _) hfree₁
  refine ⟨List.replicate n (.call j) ++ (List.replicate n₁ (.call i) ++ List.replicate n₂ (.call i)),
    by simp only [List.filterMap_append, events_replicate, List.append_nil],
    by simpa only [run_append] using hfree₂, fun p hp => ?_⟩
  rw [run_append, run_append] at hp
  rcases h₂ p hp with ha | ⟨⟨c, hfresh⟩, -⟩
  · exact ha
  · rcases h₁ _ hfresh with ⟨a, ha⟩ | ⟨-, hcalm⟩
    · cases ha
    · exact absurd (Progress.calm_fresh c) hcalm

/-! ### All of it -/

/-- What is left when a caller has gone away after some turns, and others have followed. -/
structure Forsaken (w : World) (cs : List Command) (i : Nat) (k : Kind) (text : String)
    (σ₁ σ₂ : List Turn) (g : Crowd) : Prop where
  /-- It is as if the call had never been made, or as if somebody waited for it. -/
  same : g = ((start w cs).without i).run (σ₁ ++ σ₂) ∨ g = (start w cs).run (σ₁ ++ σ₂)
  /-- As long as the call has not had the registry to itself, it is as if it had never been made in
  everything but how far the call has come. -/
  unbegun : g.Unbegun i → g.without i = ((start w cs).without i).run (σ₁ ++ σ₂)
  /-- Once it has the registry to itself, so many turns of its own are enough for its end. -/
  soon : ∀ (c : Change) (τ : List Turn), g.holder = some (i, c) →
    c.budget ≤ τ.countP (Turn.isCall i) → ∃ r, (g.run τ).calls i = some (.answered (.done r))
  /-- It can always be brought to its end without anything else happening. -/
  rests : ∃ τ, τ.filterMap Turn.event? = [] ∧ (g.run τ).holder = none ∧
    ∀ p, (g.run τ).calls i = some p → ∃ a, p = .answered a
  /-- Its end is one in which nothing is left undone. -/
  ends : ∀ r, g.calls i = some (.answered (.done r)) →
    (start w cs).Settled i k text r (σ₁ ++ σ₂)

/-- Whenever the caller goes away who has asked to move a kind, the registry comes to rest as if the call
had never been made or as if it had been waited for. -/
theorem abandon_settles {s : Scene} (hr : s.Reachable) {cs : List Command}
    (hc : cs[i]? = some (.update k text)) (σ₁ σ₂ : List Turn) :
    Forsaken s.world cs i k text σ₁ σ₂ ((((start s.world cs).run σ₁).leave i).run σ₂) := by
  have hstart : Sound cs (start s.world cs) := sound_start hr.sound.world cs
  have hu : (start s.world cs).Unbegun i :=
    ⟨nofun, by simp [decided, start, hc, Progress.isDecided]⟩
  rcases (hstart.run σ₁).leave_cases i with ⟨hleave, hbefore⟩ | hleave
  · obtain ⟨-, hrun⟩ := hbefore.of_run
    rw [hleave, hrun, ← run_append]
    have hwithout := hstart.without hu.free
    have hg := hwithout.run (σ₁ ++ σ₂)
    refine ⟨Or.inl rfl, fun h => by rw [h.of_run.2, without_without],
      fun c τ hh hn => hg.finishes hh hn, hg.exists_rest hc, fun r hend => ?_⟩
    rw [hwithout.run_absent (calls_without_self _ i)] at hend
    cases hend
  · rw [hleave, ← run_append]
    have hg := hstart.run (σ₁ ++ σ₂)
    exact ⟨Or.inr rfl, fun h => h.of_run.2, fun c τ hh hn => hg.finishes hh hn, hg.exists_rest hc,
      fun r hend => hstart.settles hc hu hend⟩

end Crowd

namespace Crowd

/-- A caller goes away whose request has found a reason for a change, before the change has begun. -/
theorem abandon_settles_picking : ∃ (cs : List Command) (σ₁ σ₂ : List Turn),
    cs[0]? = some (.update .vmConsole "any:5000") ∧
    ((start World.picking cs).run σ₁).calls 0 = some (.changing .vmConsole "4294967295:5000") ∧
    Forsaken World.picking cs 0 .vmConsole "any:5000" σ₁ σ₂
      ((((start World.picking cs).run σ₁).leave 0).run σ₂) := by
  refine ⟨[.update .vmConsole "any:5000"], [.call 0], [.call 0], rfl, ?_,
    abandon_settles World.reachable_picking rfl _ _⟩
  rw [run_cons, run_nil, turn_put (p := .fresh (.update .vmConsole "any:5000")) rfl rfl
    (Progress.calm_fresh _) World.stepCall_picking, calls_put_self]

end Crowd
end Portkeeper
