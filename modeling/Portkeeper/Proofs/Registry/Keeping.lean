import Portkeeper.Proofs.Registry.Yard
import Portkeeper.Proofs.Registry.Moving
import Portkeeper.Proofs.Registry.Startup

/-!
What every step of a registry at work keeps. A step does one thing to a listener or a loop, if anything,
so there is never more than one of them for a kind; an entry that was taken out leaves none behind; and
loops say that their sockets are closed only once they are.
-/

set_option autoImplicit false

namespace Portkeeper

/-! ### What single calls do to a registry -/

namespace Site

variable {s : Site}

/-- Serving a kind hands over its listener, if there is one and somebody to serve it. -/
theorem serve_cases (s : Site) (k : Kind) : (s.serve k).2 = s ∨
    ∃ router address provenance l id, s.registry.servers k = some router ∧
      s.registry.entries k = some ⟨address, provenance, some l, id⟩ ∧
      (s.serve k).2 = { s with
        loops := s.loops ++ [⟨l, router, none, []⟩]
        registry := s.registry.setEntry k
          (some ⟨address, provenance, none, some s.loops.length⟩) } := by
  unfold Site.serve
  cases hr : s.registry.servers k with
  | none => exact Or.inl rfl
  | some router =>
    dsimp only
    split
    · rename_i address provenance l id he
      exact Or.inr ⟨router, address, provenance, l, id, rfl, he, rfl⟩
    · exact Or.inl rfl

/-- A step of a change attempts to bind, and leaves the registry alone unless it wins. -/
theorem step_bids [Platform] (hs : s.host.Sound) (c : Change) :
    (∃ r, c = .done r ∧ s.step c = (c, s)) ∨
      (∃ k h, c.bidder? = some k ∧ s.host.Later h ∧ h.Sound ∧ (s.step c).2 = { s with host := h } ∧
        ∀ k', (s.step c).1.bidder? = some k' → k' = k) ∨
      ∃ k address h l r, c.bidder? = some k ∧ s.host.Wins h k address s.registry.bundle l ∧
        (s.step c).2 = (Site.bring { s with host := h } l address).2 ∧ (s.step c).1 = .done r := by
  -- Whatever follows an attempt that opened nothing bids for the same kind, if it bids.
  have unsettled {b : Bid} {h : Host} {c' : Change} (hw : s.host.Waits h b.kind)
      (hnext : ∀ k', c'.bidder? = some k' → k' = b.kind) :
      ∃ k h', some b.kind = some k ∧ s.host.Later h' ∧ h'.Sound ∧
        { s with host := h } = { s with host := h' } ∧ ∀ k', c'.bidder? = some k' → k' = k :=
    ⟨b.kind, h, rfl, hw.later, hw.sound, rfl, hnext⟩
  obtain ⟨c', s', hstep, hst⟩ := s.exists_stepped c
  rw [hstep]
  cases hst with
  | ended => exact Or.inl ⟨_, rfl, rfl⟩
  | moves left goes =>
    exact Or.inr (Or.inl (unsettled (Bid.attempt_goes hs goes) fun k' hk => (Option.some.inj hk).symm))
  | moved won => exact Or.inr (Or.inr ⟨_, _, _, _, _, rfl, Bid.attempt_wins hs won, rfl, rfl⟩)
  | failed lost => exact Or.inr (Or.inl (unsettled (Bid.attempt_loses hs lost) nofun))
  | returns known lost =>
    exact Or.inr (Or.inl (unsettled (Bid.attempt_loses hs lost) fun k' hk => (Option.some.inj hk).symm))
  | restores left goes =>
    exact Or.inr (Or.inl (unsettled (Bid.attempt_goes hs goes) fun k' hk => (Option.some.inj hk).symm))
  | restored won => exact Or.inr (Or.inr ⟨_, _, _, _, _, rfl, Bid.attempt_wins hs won, rfl, rfl⟩)
  | stranded lost => exact Or.inr (Or.inl (unsettled (Bid.attempt_loses hs lost) nofun))

/-- A fresh listener is recorded, and handed over if there is somebody to serve it. -/
theorem bring_cases (s : Site) (l : Listener) (address : String) :
    (s.bring l address).2 = s.install l address ∨
      ∃ router, (s.bring l address).2 = s.hand l router address := by
  unfold Site.bring
  cases hr : s.registry.servers l.kind with
  | none =>
    refine Or.inl ?_
    unfold Site.serve
    rw [show (s.install l address).registry.servers l.kind = none from hr]
  | some router => exact Or.inr ⟨router, by rw [serve_install s address hr]⟩

theorem retired_serve (s : Site) (k : Kind) :
    (s.serve k).2.registry.retired = s.registry.retired := by
  rcases serve_cases s k with hsame | ⟨router, address, provenance, l, id, -, -, hserve⟩
  · rw [hsame]
  · rw [hserve]
    rfl

theorem retired_step [Platform] (hs : s.host.Sound) (c : Change) :
    (s.step c).2.registry.retired = s.registry.retired := by
  rcases step_bids hs c with ⟨r, -, hsame⟩ | ⟨k, h, -, -, -, hsite, -⟩ |
    ⟨k, address, h, l, r, -, -, hsite, -⟩
  · rw [hsame]
  · rw [hsite]
  · rw [hsite, bring, retired_serve]
    rfl

/-- Loops that are kept are no matter for listeners. -/
theorem keep_same (s : Site) (o : Option LoopId) : (s.keep o).host = s.host ∧
    (s.keep o).loops = s.loops ∧ (s.keep o).registry.entries = s.registry.entries := by
  cases o <;> exact ⟨rfl, rfl, rfl⟩

theorem bundle_keep (s : Site) (o : Option LoopId) :
    (s.keep o).registry.bundle = s.registry.bundle := by
  cases o <;> rfl

theorem mem_retired_keep {o : Option LoopId} {id : LoopId} (h : id ∈ (s.keep o).registry.retired) :
    id ∈ s.registry.retired ∨ o = some id := by
  cases o with
  | none => exact Or.inl h
  | some i =>
    rcases List.mem_append.mp h with h | h
    · exact Or.inl (List.mem_filter.mp h).1
    · exact Or.inr (by rw [List.mem_singleton.mp h])

/-- What a registry has. -/
def posts (s : Site) : Posts :=
  ⟨s.host, s.loops, fun k => (s.registry.entries k).bind Entry.listener,
    fun k => (s.registry.entries k).bind Entry.serving, s.registry.bundle⟩

theorem effect_serve [Platform] (s : Site) (k : Kind) : (s.serve k).2.posts = s.posts ∨
    s.posts.Effect (s.serve k).2.posts := by
  rcases serve_cases s k with hsame | ⟨router, address, provenance, l, id, -, he, hserve⟩
  · rw [hsame]
    exact Or.inl rfl
  · rw [hserve]
    refine Or.inr (.serve (k := k) (l := l) (n := ⟨l, router, none, []⟩) ?_ rfl rfl (fun k' => ?_)
      fun k' => ?_)
    · show (s.registry.entries k).bind Entry.listener = some l
      rw [he]
      rfl
    · dsimp only [Registry.setEntry, posts]
      split <;> rfl
    · dsimp only [Registry.setEntry, posts]
      split <;> rfl

/-- A change that bids for a kind without an entry can only open a listener for it. -/
theorem effect_step [Platform] {c : Change} (hm : s.posts.Manned)
    (hv : ∀ {k : Kind}, c.bidder? = some k → s.registry.entries k = none) :
    (s.step c).2.posts = s.posts ∨ s.posts.Effect (s.step c).2.posts := by
  rcases step_bids hm.wired.sound c with ⟨r, -, hsame⟩ | ⟨k, h, -, hlater, hsound, hsite, -⟩ |
    ⟨k, address, h, l, r, hk, ⟨h₁, hlater, hsound, -, hopens⟩, hsite, -⟩
  · rw [hsame]
    exact Or.inl rfl
  · rw [hsite]
    exact Or.inr (hm.effect_later hsound hlater)
  · have hno := hv hk
    have hready : s.posts.ready k = none := by simp [posts, hno]
    have hserved : s.posts.served k = none := by simp [posts, hno]
    have hkind := hopens.kind
    rw [hsite]
    rcases bring_cases { s with host := h } l address with hb | ⟨router, hb⟩
    · rw [hb]
      have heff : s.posts.Effect { s.posts with
          host := h
          ready := (Site.install { s with host := h } l address).posts.ready } := by
        refine .opens hlater hsound hopens hready hserved fun k' => ?_
        dsimp only [install, Registry.setEntry, posts]
        rw [hkind]
        split <;> rfl
      have hq : (Site.install { s with host := h } l address).posts = { s.posts with
          host := h
          ready := (Site.install { s with host := h } l address).posts.ready } := by
        refine Posts.eq_of_pointwise rfl rfl rfl (fun _ => rfl) fun k' => ?_
        dsimp only [install, Registry.setEntry, posts]
        split
        · rename_i hk'
          rw [hk', hkind, hno]
          rfl
        · rfl
      exact Or.inr (hq ▸ heff)
    · rw [hb]
      have heff : s.posts.Effect { s.posts with
          host := h
          loops := s.loops ++ [⟨l, router, none, []⟩]
          served := (Site.hand { s with host := h } l router address).posts.served } := by
        refine .bring (n := ⟨l, router, none, []⟩) hlater hsound hopens hready hserved rfl fun k' => ?_
        dsimp only [hand, Registry.setEntry, posts]
        rw [hkind]
        split <;> rfl
      have hq : (Site.hand { s with host := h } l router address).posts = { s.posts with
          host := h
          loops := s.loops ++ [⟨l, router, none, []⟩]
          served := (Site.hand { s with host := h } l router address).posts.served } := by
        refine Posts.eq_of_pointwise rfl rfl rfl (fun k' => ?_) fun _ => rfl
        dsimp only [hand, Registry.setEntry, posts]
        split
        · rename_i hk'
          rw [hk', hkind, hno]
          rfl
        · rfl
      exact Or.inr (hq ▸ heff)

end Site

namespace Opened

variable {o : Opened} {k : Kind} {l : Listener}

theorem on_eq_none (h : o.has k = false) : o.on k = none := by
  unfold on
  rw [Option.map_eq_none_iff, List.find?_eq_none]
  intro d hd hk
  rw [has_iff.mpr ⟨d, hd, of_decide_eq_true hk⟩] at h
  cases h

theorem on_append (h : o.has l.kind = false) (address : String) (k : Kind) :
    Opened.on (o ++ [(l, address)]) k = if k = l.kind then some l else o.on k := by
  unfold on
  rw [List.find?_append]
  by_cases hk : k = l.kind
  · have hno := on_eq_none (hk ▸ h)
    unfold on at hno
    rw [Option.map_eq_none_iff] at hno
    rw [hno, if_pos hk]
    simp [hk]
  · rw [if_neg hk]
    cases o.find? fun d => d.1.kind = k with
    | some d => rfl
    | none => simp [Ne.symm hk]

theorem on_cons (d : Listener × String) (o : Opened) (k : Kind) :
    Opened.on (d :: o) k = if k = d.1.kind then some d.1 else o.on k := by
  unfold on
  rw [List.find?_cons]
  by_cases hk : d.1.kind = k
  · simp [hk]
  · simp [hk, Ne.symm hk]

end Opened

namespace Job

theorem after_eq {c c' : Change} (h : after c = .changing c') : c = c' := by
  cases c with
  | done r => cases h
  | _ =>
    cases h
    rfl

/-- A change is nothing else that a registry can be in the middle of. -/
theorem after_keeps (c : Change) :
    (after c).opened? = none ∧ (after c).hand? = none ∧ (after c).draining = [] := by
  cases c <;> exact ⟨rfl, rfl, rfl⟩

/-- Nor is a start. -/
theorem of_opened {j : Job} {o : Opened} (h : j.opened? = some o) :
    j.hand? = none ∧ j.draining = [] ∧ ∀ c, j ≠ .changing c := by
  cases j with
  | opening o plan => exact ⟨rfl, rfl, nofun⟩
  | undoing o => exact ⟨rfl, rfl, nofun⟩
  | _ => cases h

/-- Time is no matter for what a registry is in the middle of. -/
theorem rest_keeps (time : Nat) (j : Job) : (j.rest time).opened? = j.opened? ∧
    (j.rest time).hand? = j.hand? ∧ (j.rest time).draining = j.draining ∧
    ∀ {c : Change}, j.rest time = .changing c → ∃ c', j = .changing c' ∧ c'.bidder? = c.bidder? := by
  cases j with
  | changing c =>
    refine ⟨rfl, rfl, rfl, fun hc => ⟨c, rfl, ?_⟩⟩
    cases hc
    cases c <;> rfl
  | _ => exact ⟨rfl, rfl, rfl, nofun⟩

end Job

namespace Yard

variable {y y' : Yard} {k k' : Kind} {e : Entry} {id : LoopId}

theorem held_idle (hj : y.job.hand? = none) : y.held = y.site.registry.entries := by
  unfold held
  rw [hj]

theorem held_hand (hj : y.job.hand? = some (k, e)) (k' : Kind) :
    y.held k' = if k' = k then some e else y.site.registry.entries k' := by
  unfold held
  rw [hj]
  rfl

theorem ready_running (hj : y.job.opened? = none) (k : Kind) :
    y.ready k = (y.held k).bind Entry.listener := by
  unfold ready
  rw [hj]

theorem ready_opening {o : Opened} (hj : y.job.opened? = some o) (k : Kind) : y.ready k = o.on k := by
  unfold ready
  rw [hj]

theorem posts_eq {q : Posts} (hh : y.site.host = q.host) (hl : y.site.loops = q.loops)
    (hb : y.site.registry.bundle = q.bundle) (hr : ∀ k, y.ready k = q.ready k)
    (hs : ∀ k, y.served k = q.served k) : y.posts = q :=
  Posts.eq_of_pointwise hh hl hb hr hs

/-- What is always true of a registry at work. -/
structure Kept (y : Yard) : Prop where
  manned : y.posts.Manned
  opened : ∀ {o : Opened}, y.job.opened? = some o →
    (∀ k, y.site.registry.entries k = none) ∧ o.Pairwise fun d e => d.1.kind ≠ e.1.kind
  taken : ∀ {k : Kind} {e : Entry}, y.job.hand? = some (k, e) → y.site.registry.entries k = none
  vacant : ∀ {c : Change} {k : Kind}, y.job = .changing c → c.bidder? = some k →
    y.site.registry.entries k = none
  told : ∀ id ∈ y.told, Shut y.site.loops id
  shed : ∀ id ∈ y.site.registry.retired ++ y.job.draining, Shut y.site.loops id

/-- A kind without an entry has neither a listener nor a loop, once the registry has been started and
unless its entry was taken out. -/
theorem ready_of_vacant (ho : y.job.opened? = none) (hh : y.job.hand? = none)
    (he : y.site.registry.entries k = none) : y.ready k = none ∧ y.served k = none := by
  rw [ready_running ho, served, held_idle hh, he]
  exact ⟨rfl, rfl⟩

/-- While a registry is started nothing is served. -/
theorem Kept.served_opening (hy : y.Kept) {o : Opened} (ho : y.job.opened? = some o) (k : Kind) :
    y.served k = none := by
  have hh := (Job.of_opened ho).1
  rw [served, held_idle hh, (hy.opened ho).1]
  rfl

theorem Kept.sound (hy : y.Kept) : y.site.host.Sound := hy.manned.wired.sound

/-- An entry that is taken out is still there. -/
theorem posts_taken (hj : y.job.opened? = none) (hh : y.job.hand? = none)
    (he : y.site.registry.entries k = some e) {p : Purpose} :
    posts { y with
      site := { y.site with registry := y.site.registry.setEntry k none }
      job := .releasing k e p } = y.posts := by
  have hheld : held { y with
      site := { y.site with registry := y.site.registry.setEntry k none }
      job := .releasing k e p } = y.held := by
    rw [held_idle hh]
    funext k'
    rw [held_hand (k := k) (e := e) rfl]
    split
    · rename_i hk
      rw [hk, he]
    · rename_i hk
      exact Registry.entries_setEntry_of_ne _ _ hk
  refine posts_eq rfl rfl rfl (fun k' => ?_) fun k' => ?_
  · rw [ready_running rfl, hheld]
    exact (ready_running hj k').symm
  · rw [served, hheld]
    rfl

variable [Platform]

/-- An entry that is done with is given up. -/
theorem Kept.effect_done (hy : y.Kept) (hh : y.job.hand? = some (k, e)) (hl : e.listener = none)
    (hs : ∀ id, e.serving = some id → id ∈ y.told) (hh' : y'.job.hand? = none)
    (ho : y.job.opened? = none) (ho' : y'.job.opened? = none) (hhost : y'.site.host = y.site.host)
    (hloops : y'.site.loops = y.site.loops)
    (hbundle : y'.site.registry.bundle = y.site.registry.bundle)
    (he : y'.site.registry.entries = y.site.registry.entries) : y.posts.Effect y'.posts := by
  have hheld (k' : Kind) : y'.held k' = if k' = k then none else y.held k' := by
    rw [held_idle hh', held_hand hh, he]
    split
    · rename_i hk
      rw [hk, hy.taken hh]
    · rfl
  have heff : y.posts.Effect { y.posts with served := y'.served } := by
    refine .forget (k := k) (fun id hid => ?_) fun k' => ?_
    · rw [show y.posts.served k = e.serving by
        show (y.held k).bind Entry.serving = _
        rw [held_hand hh, if_pos rfl]
        rfl] at hid
      exact hy.told id (hs id hid)
    · rw [served, hheld]
      split
      · rfl
      · rfl
  have hq : y'.posts = { y.posts with served := y'.served } := by
    refine posts_eq hhost hloops hbundle (fun k' => ?_) fun _ => rfl
    show y'.ready k' = y.ready k'
    rw [ready_running ho', hheld, ready_running ho]
    split
    · rename_i hk
      rw [hk, held_hand hh, if_pos rfl]
      exact hl.symm
    · rfl
  exact hq ▸ heff

/-- The listener of an entry is closed that nobody serves. -/
theorem effect_drop {l : Listener} (ho : y.job.opened? = none) (ho' : y'.job.opened? = none)
    (he : y.held k = some e) (hl : e.listener = some l)
    (hheld : ∀ k', y'.held k' = if k' = k then some { e with listener := none } else y.held k')
    (hhost : y'.site.host = y.site.host.drop l) (hloops : y'.site.loops = y.site.loops)
    (hbundle : y'.site.registry.bundle = y.site.registry.bundle) : y.posts.Effect y'.posts := by
  have hready : y.posts.ready k = some l := by
    show y.ready k = _
    rw [ready_running ho, he]
    exact hl
  have heff : y.posts.Effect { y.posts with host := y.site.host.drop l, ready := y'.ready } := by
    refine .drop (k := k) hready fun k' => ?_
    rw [ready_running ho', hheld, show y.posts.ready k' = y.ready k' from rfl, ready_running ho]
    split <;> rfl
  have hq : y'.posts = { y.posts with host := y.site.host.drop l, ready := y'.ready } := by
    refine posts_eq hhost hloops hbundle (fun _ => rfl) fun k' => ?_
    show (y'.held k').bind Entry.serving = (y.held k').bind Entry.serving
    rw [hheld]
    split
    · rename_i hk
      rw [hk, he]
      rfl
    · rfl
  exact hq ▸ heff

/-- A listener is opened while the registry is started. -/
theorem Kept.effect_bind (hy : y.Kept) {o : Opened} {address : String}
    {plan plan' : List (Kind × String)} {l : Listener} {h : Host} (hj : y.job = .opening o plan)
    (hk : o.has k = false)
    (hl : y.site.host.listen k address y.site.registry.bundle = (.ok l, h)) :
    y.posts.Effect (posts { y with
      site := { y.site with host := h }
      job := .opening (o ++ [(l, address)]) plan' }) := by
  have ho : y.site.host.Opens h k address y.site.registry.bundle l := Host.listen_spec hy.sound hl
  have hopened : y.job.opened? = some o := by rw [hj]; rfl
  obtain ⟨site, job, signalled, left, told⟩ := y
  obtain rfl := hj
  refine .opens (h := site.host) (k := k) (Host.Later.refl _) hy.sound ho (Opened.on_eq_none hk)
    (hy.served_opening hopened k) fun k' => ?_
  show Opened.on (o ++ [(l, address)]) k' = if k' = k then some l else o.on k'
  rw [Opened.on_append (ho.kind ▸ hk), ho.kind]

/-- What was opened is closed again. -/
theorem Kept.effect_undo (hy : y.Kept) {o : Opened} {d : Listener × String}
    (hj : y.job = .undoing (d :: o)) :
    y.posts.Effect (posts { y with
      site := { y.site with host := y.site.host.drop d.1 }
      job := .undoing o }) := by
  have hopened : y.job.opened? = some (d :: o) := by rw [hj]; rfl
  have hp := List.pairwise_cons.mp (hy.opened hopened).2
  obtain ⟨site, job, signalled, left, told⟩ := y
  obtain rfl := hj
  refine .drop (k := d.1.kind) ((Opened.on_cons d o _).trans (if_pos rfl)) fun k' => ?_
  show o.on k' = if k' = d.1.kind then none else Opened.on (d :: o) k'
  split
  · rename_i hk
    refine Opened.on_eq_none ?_
    cases hhas : o.has k' with
    | false => rfl
    | true =>
      obtain ⟨d', hd', hk'⟩ := Opened.has_iff.mp hhas
      exact absurd (hk'.trans hk).symm (hp.1 d' hd')
  · rename_i hk
    rw [Opened.on_cons, if_neg hk]

omit [Platform] in
/-- Everything that was opened is recorded. -/
theorem Kept.posts_record (hy : y.Kept) {o : Opened} (hj : y.job = .opening o []) :
    posts { y with site := o.foldl (fun s e => s.install e.1 e.2) y.site, job := .idle } =
      y.posts := by
  have hopened : y.job.opened? = some o := by rw [hj]; rfl
  obtain ⟨hno, hp⟩ := hy.opened hopened
  obtain ⟨hh, hl, -, hb, -, hwait, hothers⟩ := Site.records_installs y.site hp
  have hentry (k : Kind) : (o.foldl (fun s e => s.install e.1 e.2) y.site).registry.entries k =
      (o.find? fun d => d.1.kind = k).map (Site.waiting y.site.host) := by
    cases hf : o.find? fun d => d.1.kind = k with
    | some d =>
      have hd : d.1.kind = k := by simpa using List.find?_some hf
      rw [← hd]
      exact hwait d (List.mem_of_find?_eq_some hf)
    | none =>
      rw [hothers k, hno]
      · rfl
      · unfold Opened.has
        rw [List.any_eq_false]
        simpa using List.find?_eq_none.mp hf
  refine posts_eq hh hl hb (fun k => ?_) fun k => ?_
  · rw [ready_running rfl, held_idle rfl, hentry]
    show _ = y.ready k
    rw [ready_opening hopened]
    unfold Opened.on
    cases o.find? fun d => d.1.kind = k <;> rfl
  · show (held _ k).bind Entry.serving = y.served k
    rw [held_idle rfl, hentry, hy.served_opening hopened]
    cases o.find? fun d => d.1.kind = k <;> rfl

omit [Platform] in
/-- What a registry has when nothing is taken out of it and its start is over. -/
theorem posts_settled (ho : y.job.opened? = none) (hh : y.job.hand? = none) :
    y.posts = y.site.posts := by
  refine posts_eq rfl rfl rfl (fun k => ?_) fun k => ?_
  · rw [ready_running ho, held_idle hh]
    rfl
  · rw [served, held_idle hh]
    rfl

open Posts in
/-- Each step is no matter for listeners and loops, or does one thing to one of them. -/
theorem Kept.effect (hy : y.Kept) (hst : Step y y') :
    y'.posts = y.posts ∨ Effect y.posts y'.posts := by
  cases hst with
  | skip hj hk =>
    obtain ⟨site, job, signalled, left, told⟩ := y
    obtain rfl := hj
    exact Or.inl rfl
  | bind hj hk hl => exact Or.inr (hy.effect_bind hj hk hl)
  | fail hj hk hl =>
    have hd : y.site.host.Declines _ _ _ _ := Host.listen_spec hy.sound hl
    have heff := hy.manned.effect_later hd.sound hd.steady.later
    obtain ⟨site, job, signalled, left, told⟩ := y
    obtain rfl := hj
    exact Or.inr heff
  | giveUp hj =>
    obtain ⟨site, job, signalled, left, told⟩ := y
    obtain rfl := hj
    exact Or.inl rfl
  | undo hj => exact Or.inr (hy.effect_undo hj)
  | record hj => exact Or.inl (hy.posts_record hj)
  | serve k hj =>
    have hh : y.job.hand? = none := by rw [hj]; rfl
    have ho : y.job.opened? = none := by rw [hj]; rfl
    rw [posts_settled ho hh, posts_settled]
    · exact Site.effect_serve y.site k
    · exact ho
    · exact hh
  | take hj hk hn hr he =>
    exact Or.inl (posts_taken (by rw [hj]; rfl) (by rw [hj]; rfl) he)
  | enter hj hk hne hr he =>
    obtain ⟨site, job, signalled, left, told⟩ := y
    obtain rfl := hj
    exact Or.inl rfl
  | @bid c hj =>
    have hq : y.posts = y.site.posts := posts_settled (by rw [hj]; rfl) (by rw [hj]; rfl)
    have hm := hy.manned
    rw [hq] at hm ⊢
    rw [posts_settled]
    · exact Site.effect_step hm fun hk => hy.vacant hj hk
    · exact (Job.after_keeps _).1
    · exact (Job.after_keeps _).2.1
  | @unlisten k e p l hj hl =>
    have hh : y.job.hand? = some (k, e) := by rw [hj]; rfl
    refine Or.inr (effect_drop (by rw [hj]; rfl) rfl ((held_hand hh _).trans (if_pos rfl)) hl
      (fun k' => ?_) rfl rfl rfl)
    rw [held_hand rfl, held_hand hh]
    split <;> rfl
  | signal hj hl hs => exact Or.inl rfl
  | @closed k e address hj hl hs =>
    obtain ⟨hhost, hloops, hentries⟩ := Site.keep_same y.site e.serving
    exact Or.inr (hy.effect_done (by rw [hj]; rfl) hl (fun id hid => (hs id hid).2)
      (Job.after_keeps _).2.1 (by rw [hj]; rfl) (Job.after_keeps _).1 hhost hloops
      (Site.bundle_keep y.site e.serving) hentries)
  | popped hj hl hs =>
    exact Or.inr (hy.effect_done (by rw [hj]; rfl) hl (fun id hid => (hs id hid).2) rfl
      (by rw [hj]; rfl) rfl rfl rfl rfl rfl)
  | stop hj =>
    obtain ⟨site, job, signalled, left, told⟩ := y
    obtain rfl := hj
    exact Or.inl rfl
  | @hush d k e l hj he hl =>
    have hh : y.job.hand? = none := by rw [hj]; rfl
    refine Or.inr (effect_drop (by rw [hj]; rfl) (by rw [hj]; rfl) ((congrFun (held_idle hh) k).trans he)
      hl (fun k' => ?_) rfl rfl rfl)
    rw [held_idle hh, held_idle]
    · rfl
    · exact hh
  | ring hj he hs => exact Or.inl rfl
  | pop hj he => exact Or.inl (posts_taken (by rw [hj]; rfl) (by rw [hj]; rfl) he)
  | stopped hj hn =>
    obtain ⟨site, job, signalled, left, told⟩ := y
    obtain rfl := hj
    exact Or.inl rfl
  | fault hl => exact Or.inl rfl
  | heed hs => exact Or.inl rfl
  | @drop id hl =>
    have hreg := Site.registry_closeLoop y.site id
    cases hget : y.site.loops[id]? with
    | none =>
      have hsame : y.site.closeLoop id = y.site := by simp only [Site.closeLoop, hget]
      rw [hsame]
      exact Or.inl rfl
    | some l =>
      rw [Site.closeLoop_eq hget]
      split
      · rename_i ho
        exact Or.inr (.close hget ho _)
      · exact Or.inl rfl
  | tell hs => exact Or.inl rfl
  | visit hl hm => exact Or.inr (.visit hl hm.listener hm.closedAt)
  | wait time =>
    have heff := hy.manned.effect_later (hy.sound.sleep time) (hy.sound.later_sleep time)
    obtain ⟨site, job, signalled, left, told⟩ := y
    cases job <;> exact Or.inr heff
  | others ho => exact Or.inr (.leaves ho.sound ho.loops ho.ready)

theorem Kept.step_manned (hy : y.Kept) (hst : Step y y') : y'.posts.Manned := by
  rcases hy.effect hst with he | he
  · rw [he]
    exact hy.manned
  · exact hy.manned.effect he

theorem Kept.step_shut (hy : y.Kept) (hst : Step y y') (hs : Shut y.site.loops id) :
    Shut y'.site.loops id := by
  rcases hy.effect hst with he | he
  · rwa [show y'.site.loops = y.site.loops from congrArg Posts.loops he]
  · exact he.shut hs

/-- Where nothing is done to what is recorded, nor to what is under way. -/
theorem Kept.of_same (hy : y.Kept) (hst : Step y y') (hr : y'.site.registry = y.site.registry)
    (hj : y'.job = y.job) (ht : ∀ id ∈ y'.told, id ∈ y.told ∨ Shut y'.site.loops id) : y'.Kept where
  manned := hy.step_manned hst
  opened ho := by
    rw [hr]
    exact hy.opened (hj ▸ ho)
  taken hh := by
    rw [hr]
    exact hy.taken (hj ▸ hh)
  vacant hc hk := by
    rw [hr]
    exact hy.vacant (hj ▸ hc) hk
  told id hid := (ht id hid).elim (fun hid => hy.step_shut hst (hy.told id hid)) fun hs => hs
  shed id hid := hy.step_shut hst (hy.shed id (by rwa [hr, hj] at hid))

omit [Platform] in
/-- While a registry is started it has no entries, and not two listeners for a kind. -/
theorem kept_opening {o : Opened} (hm : y.posts.Manned) (hj : y.job.opened? = some o)
    (hno : ∀ k, y.site.registry.entries k = none) (hp : o.Pairwise fun d e => d.1.kind ≠ e.1.kind)
    (ht : ∀ id ∈ y.told, Shut y.site.loops id)
    (hs : ∀ id ∈ y.site.registry.retired, Shut y.site.loops id) : y.Kept := by
  obtain ⟨hh, hd, hc⟩ := Job.of_opened hj
  refine ⟨hm, fun ho => ?_, fun hh' => ?_, fun hc' => absurd hc' (hc _), ht, fun id hid => ?_⟩
  · rw [hj] at ho
    cases ho
    exact ⟨hno, hp⟩
  · rw [hh] at hh'
    cases hh'
  · rw [hd, List.append_nil] at hid
    exact hs id hid

omit [Platform] in
/-- Where neither a start nor an entry that was taken out is in hand. -/
theorem kept_settled (hm : y.posts.Manned) (ho : y.job.opened? = none) (hh : y.job.hand? = none)
    (hv : ∀ {c : Change} {k : Kind}, y.job = .changing c → c.bidder? = some k →
      y.site.registry.entries k = none) (ht : ∀ id ∈ y.told, Shut y.site.loops id)
    (hs : ∀ id ∈ y.site.registry.retired ++ y.job.draining, Shut y.site.loops id) : y.Kept := by
  refine ⟨hm, fun ho' => ?_, fun hh' => ?_, hv, ht, hs⟩
  · rw [ho] at ho'
    cases ho'
  · rw [hh] at hh'
    cases hh'

omit [Platform] in
/-- Where an entry was taken out. -/
theorem kept_releasing {p : Purpose} (hm : y.posts.Manned) (hj : y.job = .releasing k e p)
    (hno : y.site.registry.entries k = none) (ht : ∀ id ∈ y.told, Shut y.site.loops id)
    (hs : ∀ id ∈ y.site.registry.retired ++ y.job.draining, Shut y.site.loops id) : y.Kept := by
  obtain ⟨site, job, signalled, left, told⟩ := y
  obtain rfl := hj
  refine ⟨hm, nofun, fun hh => ?_, nofun, ht, hs⟩
  cases hh
  exact hno

/-- The kind that a change bids for next has no entry. -/
theorem Kept.vacant_step (hy : y.Kept) {c c' : Change} (hj : y.job = .changing c)
    (hc : Job.after (y.site.step c).1 = .changing c') (hk : c'.bidder? = some k) :
    (y.site.step c).2.registry.entries k = none := by
  have hstep := Job.after_eq hc
  rcases Site.step_bids hy.sound c with ⟨r, rfl, hsame⟩ | ⟨k', h, hbid, -, -, hsite, hnext⟩ |
    ⟨k', address, h, l, r, -, -, -, hdone⟩
  · rw [hsame] at hstep
    rw [← hstep] at hk
    cases hk
  · rw [hsite, hnext k (hstep ▸ hk)]
    exact hy.vacant hj hbid
  · rw [← hstep, hdone] at hk
    cases hk

/-- Every step keeps a registry in order. -/
theorem Kept.step (hy : y.Kept) (hst : Step y y') : y'.Kept := by
  have hm := hy.step_manned hst
  have same := hy.of_same hst
  have hshut {id : LoopId} (hs : Shut y.site.loops id) : Shut y'.site.loops id :=
    hy.step_shut hst hs
  have htold (id : LoopId) (hid : id ∈ y.told) : Shut y'.site.loops id := hshut (hy.told id hid)
  have hretired (id : LoopId) (hid : id ∈ y.site.registry.retired) : Shut y'.site.loops id :=
    hshut (hy.shed id (List.mem_append_left _ hid))
  have hplain (id : LoopId) (hid : id ∈ y.site.registry.retired ++ []) : Shut y'.site.loops id :=
    hretired id (by simpa using hid)
  cases hst with
  | @skip o k address plan hj hk =>
    obtain ⟨hno, hp⟩ := hy.opened (o := o) (by rw [hj]; rfl)
    exact kept_opening hm rfl hno hp htold hretired
  | @bind o k address plan l h hj hk hl =>
    have ho : y.site.host.Opens h k address y.site.registry.bundle l := Host.listen_spec hy.sound hl
    obtain ⟨hno, hp⟩ := hy.opened (o := o) (by rw [hj]; rfl)
    refine kept_opening hm rfl hno (List.pairwise_append.mpr
      ⟨hp, List.pairwise_singleton _ _, fun d hd e he hc => ?_⟩) htold hretired
    rw [List.mem_singleton.mp he] at hc
    rw [Opened.has_iff.mpr ⟨d, hd, hc.trans ho.kind⟩] at hk
    cases hk
  | @fail o k address plan e h hj hk hl =>
    obtain ⟨hno, hp⟩ := hy.opened (o := o) (by rw [hj]; rfl)
    exact kept_opening hm rfl hno hp htold hretired
  | @giveUp o plan hj =>
    obtain ⟨hno, hp⟩ := hy.opened (o := o) (by rw [hj]; rfl)
    exact kept_opening hm rfl hno hp htold hretired
  | @undo o d hj =>
    obtain ⟨hno, hp⟩ := hy.opened (o := d :: o) (by rw [hj]; rfl)
    exact kept_opening hm rfl hno (List.pairwise_cons.mp hp).2 htold hretired
  | @record o hj =>
    have hp := (hy.opened (o := o) (by rw [hj]; rfl)).2
    refine kept_settled hm rfl rfl nofun htold fun id hid => hplain id ?_
    rwa [(Site.records_installs y.site hp).retired] at hid
  | serve k hj =>
    refine kept_settled hm ?_ ?_ (fun hc => ?_) htold fun id hid => hplain id ?_
    · exact (congrArg Job.opened? hj).trans rfl
    · exact (congrArg Job.hand? hj).trans rfl
    · cases hj.symm.trans hc
    · dsimp only at hid
      rwa [Site.retired_serve, hj] at hid
  | take hj hk hn hr he =>
    exact kept_releasing hm rfl (Registry.entries_setEntry_self _ _ _) htold hplain
  | enter hj hk hne hr he =>
    refine kept_settled hm rfl rfl (fun hc hk' => ?_) htold hplain
    cases hc
    cases hk'
    exact he
  | @bid c hj =>
    obtain ⟨hopened, hhand, hdrain⟩ := Job.after_keeps (y.site.step c).1
    refine kept_settled hm hopened hhand (fun hc hk => hy.vacant_step hj hc hk) htold
      fun id hid => hplain id ?_
    rwa [Site.retired_step hy.sound, hdrain] at hid
  | @unlisten k e p l hj hl =>
    refine kept_releasing hm rfl (hy.taken (e := e) (by rw [hj]; rfl)) htold fun id hid => ?_
    refine hshut (hy.shed id ?_)
    rw [hj]
    cases p <;> exact hid
  | signal hj hl hs => exact same rfl rfl fun _ => Or.inl
  | @closed k e address hj hl hs =>
    have hno := hy.taken (k := k) (e := e) (by rw [hj]; rfl)
    obtain ⟨-, -, hentries⟩ := Site.keep_same y.site e.serving
    obtain ⟨hopened, hhand, hdrain⟩ := Job.after_keeps
      (if address = "" then .done (.ok ()) else .moving (.first k address) e.address)
    refine kept_settled hm hopened hhand (fun {c k'} hc hk => ?_) htold fun id hid => ?_
    · have hbid := congrArg Change.bidder? (Job.after_eq hc)
      rw [hk, apply_ite Change.bidder?] at hbid
      split at hbid
      · cases hbid
      · cases hbid
        exact (congrFun hentries k).trans hno
    · rw [hdrain, List.append_nil] at hid
      rcases Site.mem_retired_keep hid with hid | hid
      · exact hretired id hid
      · exact htold id (hs id hid).2
  | @popped k e d hj hl hs =>
    refine kept_settled hm rfl rfl nofun htold fun id hid => ?_
    rcases List.mem_append.mp hid with hid | hid
    · exact hretired id hid
    · rcases List.mem_append.mp hid with hid | hid
      · exact hshut (hy.shed id (List.mem_append_right _ (by rw [hj]; exact hid)))
      · exact htold id (hs id (Option.mem_toList.mp hid)).2
  | stop hj => exact kept_settled hm rfl rfl nofun htold hretired
  | @hush d k e l hj he hl =>
    refine kept_settled hm ?_ ?_ (fun hc => ?_) htold fun id hid => hshut (hy.shed id hid)
    · exact (congrArg Job.opened? hj).trans rfl
    · exact (congrArg Job.hand? hj).trans rfl
    · cases hj.symm.trans hc
  | ring hj he hs => exact same rfl rfl fun _ => Or.inl
  | @pop d k e hj he =>
    refine kept_releasing hm rfl (Registry.entries_setEntry_self _ _ _) htold fun id hid =>
      hshut (hy.shed id ?_)
    rw [hj]
    exact hid
  | stopped hj hn => exact kept_settled hm rfl rfl nofun htold hplain
  | fault hl => exact same rfl rfl fun _ => Or.inl
  | heed hs => exact same rfl rfl fun _ => Or.inl
  | drop hl => exact same (Site.registry_closeLoop _ _) rfl fun _ => Or.inl
  | tell hs =>
    refine same rfl rfl fun id hid => ?_
    rcases List.mem_cons.mp hid with rfl | hid
    · exact Or.inr hs
    · exact Or.inl hid
  | visit hl hmeets => exact same rfl rfl fun _ => Or.inl
  | wait time =>
    obtain ⟨hopened, hhand, hdrain, hchange⟩ := Job.rest_keeps time y.job
    refine ⟨hm, fun ho => hy.opened (hopened ▸ ho), fun hh => hy.taken (hhand ▸ hh), fun hc hk => ?_,
      htold, fun id hid => hshut (hy.shed id (hdrain ▸ hid))⟩
    obtain ⟨c', hc', hbid⟩ := hchange hc
    exact hy.vacant hc' (hbid ▸ hk)
  | others ho => exact same rfl rfl fun _ => Or.inl

/-- A start that has taken over what was handed to it is in order. -/
theorem kept_start {c : Config} {base : Opened} {h : Host} {plan : List (Kind × String)}
    (hb : c.Has h base [] h) : (start c base h plan).Kept := by
  obtain ⟨hadds, hhold, hkinds, -, -⟩ := hb
  rw [List.append_nil] at hhold hkinds
  have hready {k : Kind} {l : Listener} (hl : (start c base h plan).ready k = some l) :
      l ∈ base.map Prod.fst ∧ l.kind = k := by
    obtain ⟨d, hd, rfl⟩ := Option.map_eq_some_iff.mp
      ((ready_opening (o := base) rfl k).symm.trans hl)
    exact ⟨List.mem_map_of_mem (List.mem_of_find?_eq_some hd), by simpa using List.find?_some hd⟩
  refine ⟨⟨Wired.nil hadds.sound, nofun, nofun, fun hl => (hready hl).2,
    fun hl => hhold.holds _ (hready hl).1, fun _ => nofun, fun {k k' l l'} hl hl' hs => ?_⟩,
    fun ho => ?_, nofun, nofun, nofun, nofun⟩
  · obtain ⟨hm, rfl⟩ := hready hl
    obtain ⟨hm', rfl⟩ := hready hl'
    by_cases he : l = l'
    · rw [he]
    · exact absurd hs (hhold.apart_of_ne hm hm' he)
  · cases ho
    exact ⟨fun _ => rfl, hkinds⟩

theorem Kept.run (hy : y.Kept) (hr : Run y y') : y'.Kept := by
  induction hr with
  | refl => exact hy
  | step _ hst ih => exact ih.step hst

theorem Reachable.kept (hr : y.Reachable) : y.Kept := by
  obtain ⟨c, h, base, h₁, plan, hs, hi, -, hrun⟩ := hr
  obtain ⟨ls, rfl, ht⟩ := Config.inheritAll_ok hs hi
  exact (kept_start ht.has).run hrun

end Yard
end Portkeeper
