import Portkeeper.Registry.Change
import Portkeeper.Proofs.Registry.Soundness

/-!
Bids and changes, step by step and as a whole. What one attempt can come to is said once; a bid that
was won or lost is then described by its last attempt, and the steps of a change are its bids from
beginning to end.
-/

set_option autoImplicit false

namespace Portkeeper

/-- A bid was won: after a while a listener was opened. -/
def Host.Wins [Platform] (h h' : Host) (k : Kind) (address : String) (b : Bundle)
    (l : Listener) : Prop :=
  ∃ h₁, h.Later h₁ ∧ h₁.Sound ∧ h₁.files = h.files ∧ h₁.Opens h' k address b l

/-- A bid goes on, or was lost: nothing was opened. -/
structure Host.Waits (h h' : Host) (k : Kind) : Prop where
  later : h.Later h'
  sound : h'.Sound
  files : k.isNetwork = true → h'.files = h.files

theorem Host.Waits.trans {a b c : Host} {k : Kind} (hab : a.Waits b k) (hbc : b.Waits c k) :
    a.Waits c k :=
  ⟨hab.later.trans hbc.later, hbc.sound, fun hk => (hbc.files hk).trans (hab.files hk)⟩

theorem Host.Waits.wins [Platform] {a b c : Host} {k : Kind} {address : String} {u : Bundle}
    {l : Listener} (hk : k.isNetwork = true) (hab : a.Waits b k) (hbc : b.Wins c k address u l) :
    a.Wins c k address u l := by
  obtain ⟨h₁, hl, hs, hf, ho⟩ := hbc
  exact ⟨h₁, hab.later.trans hl, hs, hf.trans (hab.files hk), ho⟩

/-- What the end of a bid says of the host: it was won, or it was lost to an error that reports
nothing else. -/
def Host.Decides [Platform] (h h' : Host) (k : Kind) (address : String) (u : Bundle) :
    Except EndpointError Listener → Prop
  | .ok l => h.Wins h' k address u l
  | .error e => h.Waits h' k ∧ ∀ k p f g, e ≠ .unavailable k p f g

theorem Host.Waits.decides [Platform] {a b c : Host} {k : Kind} {address : String} {u : Bundle}
    {r : Except EndpointError Listener} (hk : k.isNetwork = true) (hab : a.Waits b k)
    (hbc : b.Decides c k address u r) : a.Decides c k address u r := by
  cases r with
  | ok l => exact hab.wins hk hbc
  | error e => exact ⟨hab.trans hbc.1, hbc.2⟩

namespace Bid

variable [Platform] {b : Bid} {u : Bundle} {h h' : Host}

theorem sleep_waits (hs : h.Sound) (d : Nat) (k : Kind) : h.Waits (h.sleep d) k :=
  ⟨hs.later_sleep d, hs.sleep d, fun _ => hs.files_sleep d⟩

/-- A bid that goes on has an attempt less ahead. -/
theorem attempt_next {b' : Bid} (ha : b.attempt u h = (.inl b', h')) :
    b' = b.next ∧ 0 < b.left := by
  unfold attempt at ha
  split at ha
  · cases ha
  · split at ha
    · rename_i hleft
      cases ha
      exact ⟨rfl, hleft.2⟩
    · cases ha

/-- What one attempt comes to. -/
theorem attempt_spec (hs : h.Sound) {r : Bid ⊕ Except EndpointError Listener}
    (ha : b.attempt u h = (r, h')) :
    (∃ b', r = .inl b' ∧ b' = b.next ∧ h.Waits h' b.kind) ∨
      ∃ o, r = .inr o ∧ h.Decides h' b.kind b.address u o := by
  have hsl := sleep_waits hs b.pause b.kind
  have declined {e : EndpointError} (hd : (h.sleep b.pause).Declines h' b.kind b.address e) :
      h.Waits h' b.kind :=
    hsl.trans ⟨hd.steady.later, hd.sound, hd.network⟩
  unfold attempt at ha
  split at ha
  · rename_i l h₁ hl
    cases ha
    exact Or.inr ⟨_, rfl, h.sleep b.pause, hsl.later, hsl.sound, hs.files_sleep _, Host.listen_spec hsl.sound hl⟩
  · rename_i e h₁ hl
    have hd : (h.sleep b.pause).Declines h₁ b.kind b.address e := Host.listen_spec hsl.sound hl
    split at ha
    · cases ha
      exact Or.inl ⟨_, rfl, rfl, declined hd⟩
    · cases ha
      exact Or.inr ⟨_, rfl, declined hd, hd.plain⟩

theorem attempt_goes (hs : h.Sound) {b' : Bid} (ha : b.attempt u h = (.inl b', h')) :
    h.Waits h' b.kind := by
  rcases attempt_spec hs ha with ⟨-, -, -, hw⟩ | ⟨o, ho, -⟩
  · exact hw
  · cases ho

theorem attempt_wins (hs : h.Sound) {l : Listener} (ha : b.attempt u h = (.inr (.ok l), h')) :
    h.Wins h' b.kind b.address u l := by
  rcases attempt_spec hs ha with ⟨b', hb, -⟩ | ⟨o, ho, hd⟩
  · cases hb
  · cases ho
    exact hd

theorem attempt_loses (hs : h.Sound) {e : EndpointError}
    (ha : b.attempt u h = (.inr (.error e), h')) : h.Waits h' b.kind := by
  rcases attempt_spec hs ha with ⟨b', hb, -⟩ | ⟨o, ho, hd⟩
  · cases hb
  · cases ho
    exact hd.1

/-- A bid goes from one attempt to the next. -/
theorem run_eq (b : Bid) (u : Bundle) (h : Host) :
    b.run u b.left h = match b.attempt u h with
      | (.inl b', h') => b'.run u b'.left h'
      | (.inr r, h') => (r, h') := by
  obtain ⟨k, address, left, pause⟩ := b
  cases left with
  | zero =>
    simp only [run, attempt]
    generalize (h.sleep pause).listen k address u = result
    obtain ⟨r, h'⟩ := result
    cases r with
    | ok l => rfl
    | error e => simp
  | succ left =>
    rw [run]
    cases ha : attempt ⟨k, address, left + 1, pause⟩ u h with
    | mk a h' =>
      cases a with
      | inl b' =>
        obtain ⟨rfl, -⟩ := attempt_next ha
        rfl
      | inr r => rfl

/-- What a whole bid comes to. -/
theorem run_spec {left : Nat} (hb : b.left = left) (hk : b.kind.isNetwork = true) (hs : h.Sound)
    {r : Except EndpointError Listener} (hr : b.run u left h = (r, h')) :
    h.Decides h' b.kind b.address u r := by
  induction left generalizing b h with
  | zero =>
    rw [← hb, run_eq] at hr
    cases ha : b.attempt u h with
    | mk a h₁ =>
      rw [ha] at hr
      rcases attempt_spec hs ha with ⟨b', rfl, -, -⟩ | ⟨o, rfl, ho⟩
      · have hpos := (attempt_next ha).2
        rw [hb] at hpos
        exact absurd hpos (Nat.lt_irrefl 0)
      · cases hr
        exact ho
  | succ left ih =>
    rw [← hb, run_eq] at hr
    cases ha : b.attempt u h with
    | mk a h₁ =>
      rw [ha] at hr
      rcases attempt_spec hs ha with ⟨b', rfl, rfl, hw⟩ | ⟨o, rfl, ho⟩
      · have hleft : b.next.left = left := by simp [next, hb]
        dsimp only at hr
        rw [hleft] at hr
        exact hw.decides hk (ih (b := b.next) hleft hk hw.sound hr)
      · cases hr
        exact ho

end Bid

theorem Host.listenRetrying_spec [Platform] {h h' : Host} (hs : h.Sound) {k : Kind}
    {address : String} {u : Bundle} {r : Except EndpointError Listener} (hk : k.isNetwork = true)
    (hr : h.listenRetrying k address u = (r, h')) : h.Decides h' k address u r :=
  Bid.run_spec (b := .first k address) rfl hk hs hr

/-- The bid of a change that is under way. -/
def Change.bid? : Change → Option Bid
  | .moving b _ => some b
  | .restoring b _ => some b
  | .done _ => none

namespace Site

variable [Platform] {s : Site}

/-- A step of a change, by what comes of its attempt: the bid goes on; or it was won, and what was
opened is served; or it was lost, and then a change that moves an endpoint bids for the previous
address, if there was one. -/
inductive Stepped (s : Site) : Change → Change → Site → Prop
  | ended {r : Except EndpointError Unit} : s.Stepped (.done r) (.done r) s
  | moves {b : Bid} {previous : String} {h : Host} (left : 0 < b.left)
      (goes : b.attempt s.registry.bundle s.host = (.inl b.next, h)) :
      s.Stepped (.moving b previous) (.moving b.next previous) { s with host := h }
  | moved {b : Bid} {previous : String} {l : Listener} {h : Host}
      (won : b.attempt s.registry.bundle s.host = (.inr (.ok l), h)) :
      s.Stepped (.moving b previous) (.done (bring { s with host := h } l b.address).1)
        (bring { s with host := h } l b.address).2
  | failed {b : Bid} {e : EndpointError} {h : Host}
      (lost : b.attempt s.registry.bundle s.host = (.inr (.error e), h)) :
      s.Stepped (.moving b "") (.done (.error e)) { s with host := h }
  | returns {b : Bid} {previous : String} {e : EndpointError} {h : Host} (known : previous ≠ "")
      (lost : b.attempt s.registry.bundle s.host = (.inr (.error e), h)) :
      s.Stepped (.moving b previous) (.restoring (.first b.kind previous) e) { s with host := h }
  | restores {b : Bid} {failure : EndpointError} {h : Host} (left : 0 < b.left)
      (goes : b.attempt s.registry.bundle s.host = (.inl b.next, h)) :
      s.Stepped (.restoring b failure) (.restoring b.next failure) { s with host := h }
  | restored {b : Bid} {failure : EndpointError} {l : Listener} {h : Host}
      (won : b.attempt s.registry.bundle s.host = (.inr (.ok l), h)) :
      s.Stepped (.restoring b failure)
        (.done (match (bring { s with host := h } l b.address).1 with
          | .ok _ => .error failure
          | .error e => .error e))
        (bring { s with host := h } l b.address).2
  | stranded {b : Bid} {failure e : EndpointError} {h : Host}
      (lost : b.attempt s.registry.bundle s.host = (.inr (.error e), h)) :
      s.Stepped (.restoring b failure) (.done (.error (.unavailable b.kind b.address failure e)))
        { s with host := h }

/-- There is no other step. -/
theorem exists_stepped (s : Site) (c : Change) :
    ∃ c' s', s.step c = (c', s') ∧ s.Stepped c c' s' := by
  refine ⟨(s.step c).1, (s.step c).2, rfl, ?_⟩
  unfold step
  cases c with
  | done r => exact .ended
  | moving b previous =>
    dsimp only
    split
    · rename_i ha
      obtain ⟨rfl, hleft⟩ := Bid.attempt_next ha
      exact .moves hleft ha
    · rename_i ha
      exact .moved ha
    · rename_i ha
      split
      · rename_i hp
        subst hp
        exact .failed ha
      · rename_i hp
        exact .returns hp ha
  | restoring b failure =>
    dsimp only
    split
    · rename_i ha
      obtain ⟨rfl, hleft⟩ := Bid.attempt_next ha
      exact .restores hleft ha
    · rename_i ha
      exact .restored ha
    · rename_i ha
      exact .stranded ha

/-- Two registries whose bids come to the same in some way take the same step in that way. -/
theorem step_congr {R : Site → Site → Prop} {s' : Site} {c : Change}
    (hbundle : s'.registry.bundle = s.registry.bundle) (hs : R s s')
    (hbid : ∀ b, c.bid? = some b → ∃ a h h', b.attempt s.registry.bundle s.host = (a, h) ∧
      b.attempt s.registry.bundle s'.host = (a, h') ∧
      R { s with host := h } { s' with host := h' } ∧
      ∀ l, a = .inr (.ok l) →
        (bring { s' with host := h' } l b.address).1 = (bring { s with host := h } l b.address).1 ∧
          R (bring { s with host := h } l b.address).2 (bring { s' with host := h' } l b.address).2) :
    (s'.step c).1 = (s.step c).1 ∧ R (s.step c).2 (s'.step c).2 := by
  unfold step
  cases c with
  | done r => exact ⟨rfl, hs⟩
  | moving b previous =>
    obtain ⟨a, h, h', ha, ha', hR, hbring⟩ := hbid b rfl
    dsimp only
    rw [hbundle, ha, ha']
    rcases a with b' | e | l
    · exact ⟨rfl, hR⟩
    · exact ⟨rfl, hR⟩
    · obtain ⟨hsame, hafter⟩ := hbring l rfl
      exact ⟨congrArg Change.done hsame, hafter⟩
  | restoring b failure =>
    obtain ⟨a, h, h', ha, ha', hR, hbring⟩ := hbid b rfl
    dsimp only
    rw [hbundle, ha, ha']
    rcases a with b' | e | l
    · exact ⟨rfl, hR⟩
    · exact ⟨rfl, hR⟩
    · obtain ⟨hsame, hafter⟩ := hbring l rfl
      dsimp only
      rw [hsame]
      exact ⟨rfl, hafter⟩

theorem steps_done (s : Site) (r : Except EndpointError Unit) (n : Nat) :
    s.steps (.done r) n = (.done r, s) := by
  induction n with
  | zero => rfl
  | succ n ih =>
    rw [steps]
    exact ih

/-- A change that restores an address goes on until its bid is decided. -/
theorem steps_restoring (s : Site) (b : Bid) (failure : EndpointError) {n : Nat} (hn : b.left < n) :
    s.steps (.restoring b failure) n = match b.run s.registry.bundle b.left s.host with
      | (.ok l, h) =>
        (.done (match (bring { s with host := h } l b.address).1 with
          | .ok _ => .error failure
          | .error e => .error e), (bring { s with host := h } l b.address).2)
      | (.error e, h) =>
        (.done (.error (.unavailable b.kind b.address failure e)), { s with host := h }) := by
  induction n generalizing s b with
  | zero => exact absurd hn (Nat.not_lt_zero _)
  | succ n ih =>
    rw [steps, step, Bid.run_eq]
    cases ha : b.attempt s.registry.bundle s.host with
    | mk a h =>
      cases a with
      | inl b' =>
        obtain ⟨rfl, hpos⟩ := Bid.attempt_next ha
        exact ih { s with host := h } b.next (by simp only [Bid.next]; omega)
      | inr r =>
        cases r with
        | ok l => exact steps_done _ _ n
        | error e => exact steps_done _ _ n

/-- A change that moves an endpoint goes on until its bid is decided; when it was lost the previous
address is restored. -/
theorem steps_moving (s : Site) (b : Bid) (previous : String) {n : Nat}
    (hn : b.left + attemptLimit < n) :
    s.steps (.moving b previous) n = match b.run s.registry.bundle b.left s.host with
      | (.ok l, h) => (.done (bring { s with host := h } l b.address).1,
          (bring { s with host := h } l b.address).2)
      | (.error e, h) =>
        if previous = "" then (.done (.error e), { s with host := h })
        else steps { s with host := h } (.restoring (.first b.kind previous) e) attemptLimit := by
  induction n generalizing s b with
  | zero => exact absurd hn (Nat.not_lt_zero _)
  | succ n ih =>
    rw [steps, step, Bid.run_eq]
    cases ha : b.attempt s.registry.bundle s.host with
    | mk a h =>
      cases a with
      | inl b' =>
        obtain ⟨rfl, hpos⟩ := Bid.attempt_next ha
        exact ih { s with host := h } b.next (by simp only [Bid.next]; omega)
      | inr r =>
        cases r with
        | ok l => exact steps_done _ _ n
        | error e =>
          dsimp only
          split
          · exact steps_done _ _ n
          · have hleft : (Bid.first b.kind previous).left < n := by
              have : (Bid.first b.kind previous).left = attemptLimit - 1 := rfl
              have : attemptLimit = 10 := rfl
              omega
            rw [steps_restoring _ _ _ hleft, steps_restoring _ _ _ (Nat.lt_succ_self 9)]

/-- What follows when a change has made way: listen at the new address, or else at the previous one.
-/
theorem steps_budget (s : Site) (k : Kind) (address previous : String) :
    s.steps (.moving (.first k address) previous) (Change.moving (.first k address) previous).budget =
      match s.host.listenRetrying k address s.registry.bundle with
      | (.ok l, h) => (.done (bring { s with host := h } l address).1,
          (bring { s with host := h } l address).2)
      | (.error e, h) =>
        if previous = "" then (.done (.error e), { s with host := h })
        else match h.listenRetrying k previous s.registry.bundle with
          | (.ok l, h) => (.done (match (bring { s with host := h } l previous).1 with
              | .ok _ => .error e
              | .error e => .error e), (bring { s with host := h } l previous).2)
          | (.error e', h) =>
            (.done (.error (.unavailable k previous e e')), { s with host := h }) := by
  rw [steps_moving _ _ _ (show 9 + attemptLimit < 20 by decide)]
  unfold Host.listenRetrying
  dsimp only [Bid.first]
  split
  · rfl
  · split
    · rfl
    · exact steps_restoring _ (.first k previous) _ (Nat.lt_succ_self 9)

end Site
end Portkeeper
