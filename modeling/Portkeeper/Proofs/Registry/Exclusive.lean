import Portkeeper.Proofs.Registry.Closeup
import Portkeeper.Proofs.Registry.Updating

/-!
At most one listening socket is open for a kind, at every moment. A kind is bid for only while it has
none, and whoever closes a kind waits until its socket is closed, whatever its loop was doing.
-/

set_option autoImplicit false

namespace Portkeeper

/-- The socket of a loop is closed, and the loop has let go of it. -/
def Site.HasShut (s : Site) (id : LoopId) : Prop :=
  ∃ m, s.loops[id]? = some m ∧ m.isOpen = false ∧ m.listener.Released s.host

namespace Yard

variable [Platform]

variable {y y' : Yard} {k : Kind} {e : Entry} {p : Purpose} {id : LoopId} {l : Listener}

omit [Platform] in
theorem Kept.hasShut (hy : y.Kept) (hs : Shut y.site.loops id) : y.site.HasShut id := by
  obtain ⟨m, hm, ho⟩ := hs
  exact ⟨m, hm, ho, hy.manned.wired.released hm ho⟩

/-- Only whoever bids makes attempts. -/
theorem Kept.attempts (hy : y.Kept) (hst : Step y y') :
    y'.site.host.attempts = y.site.host.attempts ∨ ∃ k, y.job.bidder? = some k := by
  cases hst with
  | @bind o k address plan l h hj hk hl => exact Or.inr ⟨k, by rw [hj]; simp [Job.bidder?, hk]⟩
  | @fail o k address plan e h hj hk hl => exact Or.inr ⟨k, by rw [hj]; simp [Job.bidder?, hk]⟩
  | undo hj => exact Or.inl (Host.attempts_drop _ _)
  | @record o hj =>
    have hp := (hy.opened (o := o) (by rw [hj]; rfl)).2
    exact Or.inl (congrArg Host.attempts (Site.records_installs y.site hp).host)
  | serve k hj =>
    refine Or.inl ?_
    rcases Site.serve_cases y.site k with hs | ⟨router, address, provenance, l, id, -, -, hs⟩
    · rw [hs]
    · rw [hs]
  | @bid c hj =>
    rcases Site.step_bids hy.sound c with ⟨r, rfl, hs⟩ | ⟨k, h, hk, -⟩ | ⟨k, address, h, l, r, hk, -⟩
    · exact Or.inl (by rw [hs])
    · exact Or.inr ⟨k, by rw [hj]; exact hk⟩
    · exact Or.inr ⟨k, by rw [hj]; exact hk⟩
  | unlisten hj hl => exact Or.inl (Host.attempts_drop _ _)
  | @closed k e address hj hl hs =>
    exact Or.inl (congrArg Host.attempts (Site.keep_same y.site e.serving).1)
  | hush hj he hl => exact Or.inl (Host.attempts_drop _ _)
  | drop hl =>
    exact Or.inl (Site.closeLoop_stable (P := fun h _ => h.attempts = y.site.host.attempts)
      ⟨fun hn _ _ => (Host.attempts_drop _ _).trans hn⟩ rfl _)
  | wait time => exact Or.inl (hy.sound.attempts_sleep time)
  | others ho => exact Or.inl ho.attempts
  | _ => exact Or.inl rfl

/-- To close a kind ends only once the kind has nothing. -/
theorem Kept.closes (hy : y.Kept) (hj : y.job = .releasing k e p) (hst : Step y y')
    (hend : ∀ e', y'.job ≠ .releasing k e' p) :
    (∀ l, ¬y'.Listens k l) ∧ ∀ id, e.serving = some id → y'.site.HasShut id := by
  have hy' := hy.step hst
  have hno : y.site.registry.entries k = none := hy.taken (e := e) (by rw [hj]; rfl)
  have settled (ho : y'.job.opened? = none) (hh : y'.job.hand? = none)
      (he : y'.site.registry.entries k = none) (ht : ∀ id, e.serving = some id → id ∈ y'.told) :
      (∀ l, ¬y'.Listens k l) ∧ ∀ id, e.serving = some id → y'.site.HasShut id := by
    obtain ⟨hready, hserved⟩ := ready_of_vacant ho hh he
    exact ⟨fun l => hy'.manned.vacant hready hserved, fun id hid => hy'.hasShut (hy'.told id (ht id hid))⟩
  cases hst with
  | @closed k' e' address hj' hl hs =>
    obtain ⟨rfl, rfl, rfl⟩ : k' = k ∧ e' = e ∧ .move address = p := by
      rw [hj] at hj'
      cases hj'
      exact ⟨rfl, rfl, rfl⟩
    have hentries := (Site.keep_same y.site e'.serving).2.2
    obtain ⟨hopened, hhand, -⟩ := Job.after_keeps
      (if address = "" then .done (.ok ()) else .moving (.first k' address) e'.address)
    exact settled hopened hhand ((congrFun hentries k').trans hno) fun id hid => (hs id hid).2
  | @popped k' e' d hj' hl hs =>
    obtain ⟨rfl, rfl, rfl⟩ : k' = k ∧ e' = e ∧ .stop d = p := by
      rw [hj] at hj'
      cases hj'
      exact ⟨rfl, rfl, rfl⟩
    exact settled rfl rfl hno fun id hid => (hs id hid).2
  | unlisten hj' hl =>
    rw [hj] at hj'
    cases hj'
    exact absurd rfl (hend _)
  | wait time => exact absurd (by rw [hj]; rfl) (hend e)
  | signal | fault | heed | drop | tell | visit | others => exact absurd hj (hend e)
  | _ => simp_all only [reduceCtorEq]

theorem Kept.ends (hy : y.Kept) (hj : y.job = .releasing k e p) :
    ∃ y', Run y y' ∧ ∀ k e p, y'.job ≠ .releasing k e p := by
  obtain ⟨y₁, hr₁, hj₁, -, ht₁⟩ := hy.run_release hj
  cases p with
  | move address =>
    refine ⟨_, hr₁.step (.closed hj₁ rfl ht₁), fun k' e' p' => ?_⟩
    dsimp only
    split <;> nofun
  | stop d =>
    refine ⟨_, hr₁.step (.popped hj₁ rfl ht₁), fun k' e' p' hc => ?_⟩
    dsimp only at hc
    cases hc

end Yard

namespace Yard

end Yard
end Portkeeper
