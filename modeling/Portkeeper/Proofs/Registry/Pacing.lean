import Portkeeper.Proofs.Registry.Serial
import Portkeeper.Proofs.Registry.Trials
import Portkeeper.Proofs.Registry.Vacating

/-!
A change from its beginning to its end, left to itself or among other happenings. Its attempts are
made when they are due, whatever others do meanwhile, and when the last one has been made it is
over.
-/

set_option autoImplicit false

namespace Portkeeper

variable {address : String} {start : Nat} {xs : List Trial}

namespace Site

variable [Platform] {t : Site} {k : Kind} {previous : String} {c : Change}

theorem steps_succ (t : Site) (c : Change) (n : Nat) :
    t.steps c (n + 1) = (t.step c).2.steps (t.step c).1 n := rfl

/-- Any number of steps make the attempts that are due, and the host notes them. -/
theorem Sound.upto_steps (hs : t.Sound) (hc : t.Carries c) (hcan : c.Canonical)
    (hu : Upto k address previous start xs (t.now + c.pause) c) (n : Nat) :
    Upto k address previous start (xs ++ t.trials c n)
        ((t.steps c n).2.now + (t.steps c n).1.pause) (t.steps c n).1 ∧
      (t.steps c n).2.host.attempts =
        ((t.trials c n).map Trial.note).reverse ++ t.host.attempts := by
  induction n generalizing t c xs with
  | zero =>
    rw [trials, List.append_nil]
    exact ⟨hu, rfl⟩
  | succ n ih =>
    obtain ⟨hs', hc'⟩ := hs.step hc
    obtain ⟨hupto, hnoted⟩ := ih hs' hc' (canonical_step t hcan) (hs.upto_step hc hu)
    rw [steps_succ, trials]
    refine ⟨by rwa [← List.append_assoc], hnoted.trans ?_⟩
    rw [hs.attempts_step hc hcan, List.map_append, List.reverse_append, List.append_assoc]

/-- The attempts of a change. -/
def attempted (t : Site) (k : Kind) (address : String) : List Trial :=
  let (c, s) := t.beginChange k address
  s.trials c c.budget

theorem Sound.now_close (hs : t.Sound) (k : Kind) : (t.close k).2.now = t.now :=
  (hs.close_shrinks k).now

theorem Sound.upto_begin (hs : t.Sound) (hn : t.isCurrent k address = false)
    (hh : address ≠ "" → (t.registry.servers k).isSome = true) :
    Upto k address (t.close k).1 t.now []
      ((t.beginChange k address).2.now + (t.beginChange k address).1.pause)
      (t.beginChange k address).1 := by
  rw [beginChange_eq hn hh, hs.now_close k]
  by_cases hempty : address = ""
  · rw [if_pos hempty]
    exact .done (.disabled hempty) rfl
  · rw [if_neg hempty]
    exact .moving hempty (Bid.after_first k address t.now)

/-- A change from its beginning to its end. -/
theorem Sound.change_course (hs : t.Sound) (ht : t.Canonical) (hk : k.isNetwork = true)
    (hcan : k.Canonical address) (hn : t.isCurrent k address = false)
    (hh : address ≠ "" → (t.registry.servers k).isSome = true) :
    ∃ n, Course k address (t.close k).1 t.now (t.attempted k address) n (t.change k address).1 ∧
      (t.change k address).2.host.attempts =
        ((t.attempted k address).map Trial.note).reverse ++ t.host.attempts ∧
      (t.change k address).2.now =
        t.now + retryDelay * ((t.attempted k address).length - n) := by
  obtain ⟨hs', hc⟩ := hs.beginChange hk (Kind.formed_canonicalize hcan)
  have hcan' := (ht.beginChange hs hk hcan).2
  have hbegin := hs.upto_begin hn hh
  have hnoted : (t.beginChange k address).2.host.attempts = t.host.attempts := by
    rw [beginChange_eq hn hh]
    exact (hs.close_shrinks k).attempts
  unfold attempted change
  generalize t.beginChange k address = begun at *
  obtain ⟨c, s⟩ := begun
  dsimp only at *
  obtain ⟨hupto, hattempts⟩ := hs'.upto_steps hc hcan' hbegin c.budget
  obtain ⟨r, hr⟩ := s.steps_budgeted c (Nat.le_refl _)
  rw [hr] at hupto ⊢
  obtain ⟨n, hcourse, hends⟩ := hupto.of_done
  exact ⟨n, hcourse, hattempts.trans (by rw [hnoted]), hends⟩

end Site

theorem World.check_eq {w : World} {t : Site} {m : Move} (hm : m.Valid) (ht : w.site? = some t)
    (hn : t.isCurrent m.kind m.canonical = false) :
    w.check m.kind m.text = .ok (some m.canonical) := by
  simp [check, hm.network, hm.canonical, ht, hn]

/-- A request that finds something to change is the change. -/
theorem World.update_eq [Platform] {w : World} {t : Site} {m : Move} (hm : m.Valid)
    (ht : w.site? = some t) (hn : t.isCurrent m.kind m.canonical = false) : w.update m.kind m.text =
      ((t.change m.kind m.canonical).1, .ofSite (t.change m.kind m.canonical).2) := by
  simp only [update, World.change, check_eq hm ht hn, ht]

/-! ### Among other happenings -/

namespace Scene

variable [Platform]

/-- What has become of a request to move a kind since it had its turn in a scene: the attempts that
were made, what its caller was told, if anything, and the scene by now. Among its steps anything
else can happen that can happen while a change is under way, and others can do what they like; a
step is taken when its pause is over. -/
inductive Pursuit (m : Move) (s : Scene) : List Trial → Option Notice → Scene → Prop
  | begin {s' : Scene} {t : Site} {before after : List Move} {r : Option Notice}
      (free : s.underway = none) (queued : s.waiting = before ++ m :: after)
      (site : s.world.site? = some t) (turn : resume { s with waiting := before ++ after } m
        (t.beginChange m.kind m.canonical).2 (t.beginChange m.kind m.canonical).1 = (r, s')) :
      Pursuit m s [] r s'
  | go {s₁ s₂ : Scene} {t : Site} {c : Change} {xs : List Trial} {r r' : Option Notice}
      (since : Pursuit m s xs r s₁) (underway : s₁.underway = some (m, c))
      (site : s₁.world.site? = some t)
      (turn : s₁.resume m (t.step c).2 (t.step c).1 = (r', s₂)) :
      Pursuit m s (xs ++ (t.trial? c).toList) r' s₂
  | meanwhile {s₁ s₂ : Scene} {c : Change} {xs : List Trial} {r : Option Notice} {time : Nat}
      (since : Pursuit m s xs r s₁) (underway : s₁.underway = some (m, c))
      (happens : Step False s₁ none s₂) (remains : s₂.underway = some (m, c.rest time))
      (passes : s₂.world.host.now = s₁.world.host.now + time) (early : time ≤ c.pause) :
      Pursuit m s xs none s₂

theorem Reachable.step {s s' : Scene} {r : Option Notice} (hr : s.Reachable)
    (hst : Step False s r s') : s'.Reachable := by
  obtain ⟨h, hs, hrun⟩ := hr
  exact ⟨h, hs, .step hrun hst⟩

variable {s s' : Scene} {m : Move} {t : Site} {r : Option Notice}

theorem Pursuit.reachable (hp : Pursuit m s xs r s') (hr : s.Reachable) : s'.Reachable := by
  induction hp with
  | begin free queued site turn => exact hr.step (.begin free queued site turn)
  | go since underway site turn ih => exact ih.step (.go underway site turn)
  | meanwhile since underway happens remains passes early ih => exact ih.step happens

/-- Nobody else makes attempts while a change is under way. -/
theorem Sound.attempts_meanwhile (hs : s.Sound) {c : Change} {time : Nat}
    (hu : s.underway = some (m, c)) (hst : Step False s none s')
    (hu' : s'.underway = some (m, c.rest time)) :
    s'.world.host.attempts = s.world.host.attempts := by
  have busy (free : s.underway = none) : False := by
    rw [free] at hu
    cases hu
  generalize hn : (none : Option Notice) = r at hst
  cases hst with
  | giveUp free hl ha => exact (busy free).elim
  | queue free hc => exact (busy free).elim
  | begin free hw ht hr => exact (busy free).elim
  | down free hd => exact (busy free).elim
  | go hc ht hr =>
    -- A step of the change leaves it with fewer attempts ahead, which waiting does not.
    rename_i t m' c'
    obtain ⟨rfl, rfl⟩ : m = m' ∧ c = c' := by simpa using hu.symm.trans hc
    obtain ⟨-, -, -, ⟨o, -, -, hnone⟩ | ⟨-, hsome, hundone⟩⟩ := resume_cases hr
    · rw [hnone] at hu'
      cases hu'
    · have hrest : (t.step c).1 = c.rest time := by simpa using hsome.symm.trans hu'
      have hless := t.budget_step ((hs.site ht).2.2 hu).undone hundone
      rw [hrest] at hless
      cases c <;> exact absurd hless (Nat.lt_irrefl _)
  | isDown hi hf => rfl
  | fault id =>
    rcases s.world.fault_cases id with hf | ⟨l, -, -, hf⟩
    · rw [hf]
    · rw [hf]
      exact Host.attempts_drop _ _
  | visit hl hm => rfl
  | wait d => exact hs.wired.sound.attempts_sleep d
  | others ho ht => exact ho.attempts
  | _ => cases hn

/-- How far a request has come: its change goes on, with the next attempt due when its pause is
over, or its caller was told. -/
def Advanced (s : Scene) (m : Move) (t : Site) (xs : List Trial) : Option Notice → Prop
  | none => ∃ c, s.underway = some (m, c) ∧ Upto m.kind m.canonical (t.close m.kind).1 t.now xs
      (s.world.host.now + c.pause) c
  | some n => s.underway = none ∧ ∃ series r, n = .update m.kind m.text r ∧
      Course m.kind m.canonical (t.close m.kind).1 t.now xs series r ∧
      s.world.host.now = t.now + retryDelay * (xs.length - series)

omit [Platform] in
theorem Advanced.resume {c : Change} {t' : Site} {s₁ : Scene}
    (hu : Upto m.kind m.canonical (t.close m.kind).1 t.now xs (t'.now + c.pause) c)
    (hr : s₁.resume m t' c = (r, s')) : s'.Advanced m t xs r := by
  obtain ⟨hw, -, -, ⟨o, rfl, rfl, hnone⟩ | ⟨rfl, hsome, -⟩⟩ := resume_cases hr
  · obtain ⟨n, hcourse, hends⟩ := hu.of_done
    refine ⟨hnone, n, o, rfl, hcourse, ?_⟩
    rw [hw]
    exact hends
  · refine ⟨c, hsome, ?_⟩
    rw [hw]
    exact hu

omit [Platform] in
/-- A request whose change is under way has not been answered. -/
theorem Advanced.of_underway {c : Change} (ha : s.Advanced m t xs r)
    (hu : s.underway = some (m, c)) : Upto m.kind m.canonical (t.close m.kind).1 t.now xs
      (s.world.host.now + c.pause) c := by
  cases r with
  | none =>
    obtain ⟨c', hu', hupto⟩ := ha
    cases hu.symm.trans hu'
    exact hupto
  | some n =>
    rw [ha.1] at hu
    cases hu

theorem Pursuit.advanced (hp : Pursuit m s xs r s') (hr : s.Reachable)
    (ht : s.world.site? = some t) (hn : t.isCurrent m.kind m.canonical = false)
    (hh : m.canonical ≠ "" → (t.registry.servers m.kind).isSome = true) :
    s'.Advanced m t xs r ∧ s'.world.host.attempts =
      (xs.map Trial.note).reverse ++ s.world.host.attempts := by
  induction hp with
  | begin free queued site turn =>
    cases ht.symm.trans site
    obtain ⟨hs, -⟩ := hr.sound.site ht
    refine ⟨.resume (hs.upto_begin hn hh) turn, ?_⟩
    rw [(resume_cases turn).1, Site.beginChange_eq hn hh]
    rw [(World.site?_eq_some ht).2.1]
    exact (hs.close_shrinks _).attempts
  | go since underway site turn ih =>
    obtain ⟨hadvanced, hnoted⟩ := ih
    have hr₁ := since.reachable hr
    obtain ⟨hs, -, hunder⟩ := hr₁.sound.site site
    have hc := (hunder underway).carried
    obtain ⟨-, hh₁, -⟩ := World.site?_eq_some site
    have hupto := hadvanced.of_underway underway
    rw [hh₁] at hupto hnoted
    refine ⟨.resume (hs.upto_step hc hupto) turn, ?_⟩
    have hcan := (hr₁.bears invariance_canonical).change underway
    rw [(resume_cases turn).1, List.map_append, List.reverse_append, List.append_assoc, ← hnoted]
    exact hs.attempts_step hc hcan
  | @meanwhile s₁ s₂ c _ _ time since underway happens remains passes early ih =>
    obtain ⟨hadvanced, hnoted⟩ := ih
    refine ⟨⟨_, remains, ?_⟩, Eq.trans ?_ hnoted⟩
    · -- The time that has passed is taken off the pause: the next attempt stays due when it was.
      have hpause : s₂.world.host.now + (c.rest time).pause = s₁.world.host.now + c.pause := by
        have : (c.rest time).pause = c.pause - time := by cases c <;> simp [Change.rest, Change.pause]
        omega
      rw [hpause]
      exact (hadvanced.of_underway underway).rest time
    · exact (since.reachable hr).sound.attempts_meanwhile underway happens remains

/-- A change that is left to itself goes on until its caller is told. -/
theorem Pursuit.steps {s₁ : Scene} {c : Change} (hp : Pursuit m s xs none s₁)
    (hu : s₁.underway = some (m, c)) (hc : c.result? = none) (ht : s₁.world = .ofSite t) {n : Nat}
    {o : Except EndpointError Unit} (ho : (t.steps c n).1 = .done o) :
    ∃ s₂, Pursuit m s (xs ++ t.trials c n) (some (.update m.kind m.text o)) s₂ ∧
      s₂.world = .ofSite (t.steps c n).2 := by
  induction n generalizing xs s₁ t c with
  | zero =>
    obtain rfl : c = .done o := ho
    cases hc
  | succ n ih =>
    cases hres : s₁.resume m (t.step c).2 (t.step c).1 with
    | mk r s₂ =>
      have hgo := hp.go hu (ht ▸ World.site?_ofSite t) hres
      obtain ⟨hw, -, -, ⟨o', hdone, rfl, -⟩ | ⟨rfl, hsome, hundone⟩⟩ := resume_cases hres
      · rw [Site.steps_succ, hdone, Site.steps_done] at ho ⊢
        cases ho
        rw [Site.trials, hdone, Site.trials_done, List.append_nil]
        exact ⟨s₂, hgo, hw⟩
      · rw [Site.steps_succ, Site.trials, ← List.append_assoc]
        exact ih hgo hsome hundone hw ho

theorem exists_pursuit {before after : List Move} (free : s.underway = none)
    (queued : s.waiting = before ++ m :: after) (ht : s.world.site? = some t) :
    ∃ s', Pursuit m s (t.attempted m.kind m.canonical)
        (some (.update m.kind m.text (t.change m.kind m.canonical).1)) s' ∧
      s'.world = .ofSite (t.change m.kind m.canonical).2 := by
  have hbegin {r : Option Notice} {s₁ : Scene}
      (turn : resume { s with waiting := before ++ after } m
        (t.beginChange m.kind m.canonical).2 (t.beginChange m.kind m.canonical).1 = (r, s₁)) :
      Pursuit m s [] r s₁ :=
    .begin free queued ht turn
  unfold Site.attempted Site.change
  generalize t.beginChange m.kind m.canonical = begun at hbegin ⊢
  obtain ⟨c, t'⟩ := begun
  obtain ⟨o, ho⟩ := t'.steps_budgeted c (Nat.le_refl _)
  cases hres : resume { s with waiting := before ++ after } m t' c with
  | mk r s₁ =>
    obtain ⟨hw, -, -, ⟨o', rfl, rfl, -⟩ | ⟨rfl, hsome, hundone⟩⟩ := resume_cases hres
    · exact ⟨s₁, hbegin hres, hw⟩
    · dsimp only
      rw [ho]
      exact (hbegin hres).steps hsome hundone hw ho

/-- What a change that was begun on one host has come to on another: its attempts, as they were made
and as they were noted, what it reports, and the time that it took. -/
structure Took (m : Move) (previous : String) (h : Host) (xs : List Trial)
    (r : Except EndpointError Unit) (h' : Host) : Prop where
  course : ∃ series, Course m.kind m.canonical previous h.now xs series r ∧
    h'.now = h.now + retryDelay * (xs.length - series)
  noted : h'.attempts = (xs.map Trial.note).reverse ++ h.attempts
  limit : h'.now ≤ h.now + 1800

/-- A request to move a kind that has something to change takes its time. -/
structure Paces (s : Scene) (t : Site) (m : Move) : Prop where
  /-- The time counts from when the old listener is closed. -/
  closes : (t.beginChange m.kind m.canonical).2.now = t.now ∧
    ∀ {id : LoopId} {l : Loop}, id ∈ t.loopsOf m.kind → t.loops[id]? = some l →
      (t.beginChange m.kind m.canonical).2.loops[id]? = some (l.close t.now)
  /-- Whatever others have planned, and whatever reasons the system will have. -/
  alone : Took m (s.world.address m.kind) s.world.host (t.attempted m.kind m.canonical)
    (s.world.update m.kind m.text).1 (s.world.update m.kind m.text).2.host
  /-- Whatever happens meanwhile. -/
  amid : ∀ {xs : List Trial} {n : Notice} {s' : Scene}, Pursuit m s xs (some n) s' →
    ∃ r, n = .update m.kind m.text r ∧
      Took m (s.world.address m.kind) s.world.host xs r s'.world.host

/-- What is recorded for a kind is what closing it returns. -/
theorem fst_close {w : World} (hs : t.Sound) (ht : w.site? = some t) (k : Kind) :
    (t.close k).1 = w.address k := by
  cases he : t.registry.entries k with
  | none =>
    obtain ⟨hl, -, -⟩ := World.site?_eq_some ht
    rw [Site.close_none he]
    simp [World.address, hl, he]
  | some e =>
    obtain ⟨id, l, hv⟩ := hs.serves he
    rw [Site.close_eq hs he hv.serving, World.address_eq ht he]

omit [Platform] in
theorem took {h h' : Host} {previous : String} {series : Nat} {o : Except EndpointError Unit}
    (hc : Course m.kind m.canonical previous h.now xs series o)
    (hn : h'.now = h.now + retryDelay * (xs.length - series))
    (ha : h'.attempts = (xs.map Trial.note).reverse ++ h.attempts) : Took m previous h xs o h' :=
  ⟨⟨series, hc, hn⟩, ha, by
    rw [hn]
    exact Nat.add_le_add_left hc.bounds.2 _⟩

/-- A request to move a kind of a running registry, to an address that is not current, attempts to
bind as is laid down: at the new address from the time at which the old listener was closed, then if
need be at the previous one, each time until the outcome is known, and in no more time than the
pauses take. -/
theorem change_paced (hr : s.Reachable) (ht : s.world.site? = some t) (hm : m.Valid)
    (hn : t.isCurrent m.kind m.canonical = false)
    (hh : m.canonical ≠ "" → (t.registry.servers m.kind).isSome = true) : s.Paces t m := by
  obtain ⟨hs, -⟩ := hr.sound.site ht
  obtain ⟨-, hhost, -⟩ := World.site?_eq_some ht
  have hprevious := fst_close hs ht m.kind
  refine ⟨?_, ?_, fun {xs n s'} hp => ?_⟩
  · rw [Site.beginChange_eq hn hh]
    exact ⟨hs.now_close _, fun hl hid => ((hs.confined_close m.kind).replaced hid hl).1⟩
  · obtain ⟨series, hcourse, hnoted, hnow⟩ := hs.change_course (hr.canonical ht) hm.network
      (Kind.canonical_canonicalize hm.canonical) hn hh
    rw [World.update_eq hm ht hn, hhost]
    exact took (hprevious ▸ hcourse) hnow hnoted
  · obtain ⟨⟨-, series, r, rfl, hcourse, hnow⟩, hnoted⟩ := hp.advanced hr ht hn hh
    rw [hhost] at hnoted ⊢
    exact ⟨r, rfl, took (hprevious ▸ hcourse) hnow hnoted⟩

end Scene

/-- A request for an address that somebody else has. -/
def Move.handed : Move := ⟨.networkAdmin, "127.0.0.1:7001", "127.0.0.1:7001"⟩

theorem Move.valid_handed : Move.handed.Valid := ⟨rfl, World.canonicalize_handed⟩

namespace Scene

/-- The registry on a host with sockets to hand over, with a request that waits for its turn. -/
def handed : Scene := ⟨World.handed, none, [.handed], none⟩

theorem reachable_queued : handed.Reachable := by
  obtain ⟨t, ht, -, -, hn⟩ := World.handed_eq
  have hn : t.isCurrent Move.handed.kind Move.handed.canonical = false := hn
  exact World.reachable_handed.step (.queue rfl (World.check_eq Move.valid_handed ht hn))

/-- Ten attempts come to nothing, and then the first one at the previous address succeeds. -/
theorem change_paced_handed : ∃ (t : Site) (r : Except EndpointError Unit) (s' : Scene),
    handed.Reachable ∧ handed.world.site? = some t ∧ Move.handed.Valid ∧
    t.isCurrent .networkAdmin "127.0.0.1:7001" = false ∧
    (t.registry.servers .networkAdmin).isSome = true ∧ handed.Paces t .handed ∧
    Pursuit .handed handed (t.attempted .networkAdmin "127.0.0.1:7001")
      (some (.update .networkAdmin "127.0.0.1:7001" r)) s' ∧
    (t.attempted .networkAdmin "127.0.0.1:7001").map (fun x => (x.time, x.address)) =
      (List.range 10).map (fun i => (100 * i, "127.0.0.1:7001")) ++ [(900, "0.0.0.0:0")] := by
  obtain ⟨t, ht, hserver, -, hn⟩ := World.handed_eq
  have hsome : (t.registry.servers .networkAdmin).isSome = true := by rw [hserver]; rfl
  have hattempts : (World.handed.site?.any fun t =>
      (t.attempted .networkAdmin "127.0.0.1:7001").map (fun x => (x.time, x.address)) =
        (List.range 10).map (fun i => (100 * i, "127.0.0.1:7001")) ++ [(900, "0.0.0.0:0")]) =
      true := by decide +kernel
  rw [ht] at hattempts
  have hqueued : handed.waiting = [] ++ .handed :: [] := rfl
  obtain ⟨s', hp, -⟩ := exists_pursuit rfl hqueued ht
  exact ⟨t, _, s', reachable_queued, ht, Move.valid_handed, hn, hsome,
    change_paced reachable_queued ht Move.valid_handed hn fun _ => hsome, hp,
    of_decide_eq_true hattempts⟩

end Scene
end Portkeeper
