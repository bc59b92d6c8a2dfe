import Portkeeper.Proofs.Host.Binding
import Portkeeper.Proofs.Registry.Canonical
import Portkeeper.Proofs.Registry.Indifference

/-!
When a change attempts to bind. Attempts at an address are a fixed time apart and end with the first
one that succeeds, that fails for a reason which will not pass, or that is the last one allowed.
Those at the previous address begin when those at the new one have ended in failure, and not before.
Each step of a change makes the attempt that is due, and says when the next one is.
-/

set_option autoImplicit false

namespace Portkeeper

/-! ### Attempts in a row -/

/-- An attempt to listen: when it was made, where, and what came of it. -/
structure Trial where
  time : Nat
  address : String
  outcome : Except EndpointError Listener

namespace Trial

/-- Whether an attempt failed for a reason which may pass. -/
def passes (x : Trial) : Bool :=
  match x.outcome with
  | .ok _ => false
  | .error e => e.isTransient

/-- An attempt as the host notes it. -/
def note (x : Trial) : Attempt := ⟨x.time, x.address.toList⟩

end Trial

/-- Attempts at one address after which there is another one: all have failed for reasons which may
pass. -/
structure Trying (address : String) (xs : List Trial) : Prop where
  address : ∀ x ∈ xs, x.address = address
  passing : ∀ x ∈ xs, x.passes = true

/-- Attempts at one address from the first one to the last, whose outcome is that of them all. None but
the last has succeeded, or failed for a reason which will not pass, and without a last one that did
there are as many as are allowed. -/
structure Tries (address : String) (xs : List Trial) (outcome : Except EndpointError Listener) :
    Prop where
  address : ∀ x ∈ xs, x.address = address
  limit : xs.length ≤ attemptLimit
  passing : ∀ x ∈ xs.dropLast, x.passes = true
  last : xs.getLast?.map Trial.outcome = some outcome
  stops : xs.length < attemptLimit → ∀ e, outcome = .error e → e.isTransient = false

/-- Attempts of which the first one is made at a given time and the others a fixed time apart. -/
def Spaced (start : Nat) (xs : List Trial) : Prop :=
  xs.map Trial.time = (List.range xs.length).map fun i => start + retryDelay * i

/-- Attempts at one address from the first one to the last, which are so spaced. -/
structure Series (address : String) (start : Nat) (xs : List Trial)
    (outcome : Except EndpointError Listener) : Prop extends Tries address xs outcome where
  times : Spaced start xs

variable {address : String} {start : Nat} {xs : List Trial} {x : Trial}

theorem Spaced.snoc (h : Spaced start xs) (ht : x.time = start + retryDelay * xs.length) :
    Spaced start (xs ++ [x]) := by
  unfold Spaced at h ⊢
  rw [List.length_append, List.length_singleton, List.range_succ, List.map_append, List.map_append, h]
  simp [ht]

theorem Trying.nil (address : String) : Trying address [] := ⟨nofun, nofun⟩

theorem Trying.at_snoc (h : Trying address xs) (ha : x.address = address) :
    ∀ y ∈ xs ++ [x], y.address = address := by
  intro y hy
  rcases List.mem_append.mp hy with hy | hy
  · exact h.address y hy
  · rw [List.mem_singleton.mp hy, ha]

theorem Trying.snoc (h : Trying address xs) (ha : x.address = address) (hp : x.passes = true) :
    Trying address (xs ++ [x]) where
  address := h.at_snoc ha
  passing y hy := by
    rcases List.mem_append.mp hy with hy | hy
    · exact h.passing y hy
    · rwa [List.mem_singleton.mp hy]

/-- An attempt that is the last one, because of what came of it or because it is the last allowed. -/
theorem Trying.ends (h : Trying address xs) (ha : x.address = address)
    (hlt : xs.length < attemptLimit) (hp : x.passes = true → xs.length + 1 = attemptLimit) :
    Tries address (xs ++ [x]) x.outcome where
  address := h.at_snoc ha
  limit := by
    rw [List.length_append, List.length_singleton]
    exact hlt
  passing := by
    rw [List.dropLast_concat]
    exact h.passing
  last := by simp
  stops hshort e he := by
    rw [List.length_append, List.length_singleton] at hshort
    cases hpass : e.isTransient with
    | false => rfl
    | true =>
      have hx : x.passes = true := by simp only [Trial.passes, he, hpass]
      exact absurd (hp hx) (Nat.ne_of_lt hshort)

/-- There is a first attempt, and there is a last one. -/
theorem Tries.length_bounds {o : Except EndpointError Listener} (h : Tries address xs o) :
    1 ≤ xs.length ∧ xs.length ≤ 10 := by
  refine ⟨?_, h.limit⟩
  cases xs with
  | nil => cases h.last
  | cons x xs => exact Nat.succ_pos _

/-! ### Bids -/

namespace Bid

variable [Platform]

/-- The next attempt of a bid. -/
def trial (b : Bid) (u : Bundle) (h : Host) : Trial :=
  ⟨h.now + b.pause, b.address, ((h.sleep b.pause).listen b.kind b.address u).1⟩

/-- A bid for an address after some attempts. -/
structure Under (b : Bid) (k : Kind) (address : String) (xs : List Trial) : Prop where
  kind : b.kind = k
  target : b.address = address
  left : xs.length + b.left + 1 = attemptLimit
  trying : Trying address xs

/-- A bid for an address after some attempts, which were made on time, with the next one due at a time.
-/
structure After (b : Bid) (k : Kind) (address : String) (start : Nat) (xs : List Trial)
    (due : Nat) : Prop extends Under b k address xs where
  times : Spaced start xs
  due : due = start + retryDelay * xs.length

variable {b b' : Bid} {k : Kind} {due : Nat} {u : Bundle} {h h' : Host}

omit [Platform] in
theorem under_first (k : Kind) (address : String) : (first k address).Under k address [] :=
  ⟨rfl, rfl, rfl, .nil _⟩

omit [Platform] in
theorem after_first (k : Kind) (address : String) (start : Nat) :
    (first k address).After k address start [] start :=
  ⟨under_first k address, rfl, rfl⟩

/-- A bid goes on after an attempt that failed for a reason which may pass, if there is another one.
-/
theorem attempt_fst (b : Bid) (u : Bundle) (h : Host) : (b.attempt u h).1 =
    if (b.trial u h).passes = true ∧ 0 < b.left then .inl b.next
    else .inr (b.trial u h).outcome := by
  unfold attempt Trial.passes trial
  dsimp only
  split
  · rename_i hl
    rw [hl]
    simp
  · rename_i hl
    rw [hl]
    dsimp only
    split <;> rfl

theorem host_attempt (b : Bid) (u : Bundle) (h : Host) :
    (b.attempt u h).2 = ((h.sleep b.pause).listen b.kind b.address u).2 := by
  unfold attempt
  split
  · rename_i hl
    rw [hl]
  · rename_i hl
    rw [hl]
    split <;> rfl

theorem Under.goes (hb : b.Under k address xs) (hp : (b.trial u h).passes = true)
    (hleft : 0 < b.left) : b.next.Under k address (xs ++ [b.trial u h]) where
  kind := hb.kind
  target := hb.target
  left := by
    have := hb.left
    simp only [next, List.length_append, List.length_singleton]
    omega
  trying := hb.trying.snoc hb.target hp

theorem Under.ends (hb : b.Under k address xs) (hp : (b.trial u h).passes = true → b.left = 0) :
    Tries address (xs ++ [b.trial u h]) (b.trial u h).outcome := by
  have hleft := hb.left
  refine hb.trying.ends hb.target (by omega) fun hpass => ?_
  have := hp hpass
  omega

/-- What an attempt makes of a bid: the bid goes on, or the attempts in a row are over. -/
theorem Under.attempt (hb : b.Under k address xs) (u : Bundle) (h : Host) :
    (b.attempt u h).1 = .inl b.next ∧ b.next.Under k address (xs ++ [b.trial u h]) ∨
      (b.attempt u h).1 = .inr (b.trial u h).outcome ∧
        Tries address (xs ++ [b.trial u h]) (b.trial u h).outcome := by
  rw [attempt_fst]
  split
  · rename_i hgo
    exact Or.inl ⟨rfl, hb.goes hgo.1 hgo.2⟩
  · rename_i hno
    exact Or.inr ⟨rfl, hb.ends fun hp => Nat.eq_zero_of_not_pos fun hleft => hno ⟨hp, hleft⟩⟩

theorem Under.of_goes (hb : b.Under k address xs) (hgo : b.attempt u h = (.inl b', h')) :
    b'.Under k address (xs ++ [b.trial u h]) := by
  rcases hb.attempt u h with ⟨hinl, hnext⟩ | ⟨hinr, -⟩ <;> rw [hgo] at *
  · obtain rfl := Sum.inl.inj hinl
    exact hnext
  · cases hinr

theorem Under.of_ends (hb : b.Under k address xs) {o : Except EndpointError Listener}
    (hend : b.attempt u h = (.inr o, h')) : Tries address (xs ++ [b.trial u h]) o := by
  rcases hb.attempt u h with ⟨hinl, -⟩ | ⟨hinr, htries⟩ <;> rw [hend] at *
  · cases hinl
  · obtain rfl := Sum.inr.inj hinr
    exact htries

omit [Platform] in
/-- If the attempt that is due is the last one, it ends the series. -/
theorem After.due_eq (ha : b.After k address start xs due) (x : Trial) :
    due = start + retryDelay * ((xs ++ [x]).length - 1) := by
  rw [ha.due, List.length_append, List.length_singleton, Nat.add_sub_cancel]

/-- The attempt that is due is on time, and if the bid goes on, the next one is due after a delay. -/
theorem After.attempt (ha : b.After k address start xs (h.now + b.pause)) :
    (b.attempt u h).1 = .inl b.next ∧
        b.next.After k address start (xs ++ [b.trial u h]) (h.now + b.pause + b.next.pause) ∨
      (b.attempt u h).1 = .inr (b.trial u h).outcome ∧
        Series address start (xs ++ [b.trial u h]) (b.trial u h).outcome := by
  have htimes : Spaced start (xs ++ [b.trial u h]) := ha.times.snoc ha.due
  refine (ha.toUnder.attempt u h).imp (fun ⟨hgo, hnext⟩ => ⟨hgo, hnext, htimes, ?_⟩)
    fun ⟨hend, htries⟩ => ⟨hend, htries, htimes⟩
  rw [ha.due, List.length_append, List.length_singleton, Nat.mul_succ, ← Nat.add_assoc]
  rfl

end Bid

/-! ### Changes -/

theorem Kind.Formed.vsock {k : Kind} (hf : k.Formed address) (ht : k.transport = .vsock) :
    ∃ v, Listen.vsock 0 address.toList = .ok v := by
  unfold Formed at hf
  rw [ht] at hf
  obtain ⟨v, hv⟩ := hf
  exact ⟨v, by rw [hv, Listen.vsock_text]⟩

/-- The attempts of a change, how many series they make up, and what is reported: none if the kind is
disabled; a series at the new address; and after it, if it ended in failure and there was a previous
address, a series there, which begins with its first attempt at once. -/
inductive Course (k : Kind) (address previous : String) (start : Nat) :
    List Trial → Nat → Except EndpointError Unit → Prop
  | disabled (empty : address = "") : Course k address previous start [] 0 (.ok ())
  | moved {xs : List Trial} {l : Listener} (given : address ≠ "")
      (won : Series address start xs (.ok l)) : Course k address previous start xs 1 (.ok ())
  | failed {xs : List Trial} {e : EndpointError} (given : address ≠ "") (fresh : previous = "")
      (lost : Series address start xs (.error e)) :
      Course k address previous start xs 1 (.error e)
  | restored {xs ys : List Trial} {e : EndpointError} {l : Listener} (given : address ≠ "")
      (known : previous ≠ "") (lost : Series address start xs (.error e))
      (back : Series previous (start + retryDelay * (xs.length - 1)) ys (.ok l)) :
      Course k address previous start (xs ++ ys) 2 (.error e)
  | lost {xs ys : List Trial} {e e' : EndpointError} (given : address ≠ "") (known : previous ≠ "")
      (lost : Series address start xs (.error e))
      (gone : Series previous (start + retryDelay * (xs.length - 1)) ys (.error e')) :
      Course k address previous start (xs ++ ys) 2 (.error (.unavailable k previous e e'))

/-- No change makes fewer attempts than it has series, nor does it take longer than this many
milliseconds. -/
theorem Course.bounds {k : Kind} {previous : String} {n : Nat} {r : Except EndpointError Unit}
    (h : Course k address previous start xs n r) :
    n ≤ xs.length ∧ retryDelay * (xs.length - n) ≤ 1800 := by
  rw [show retryDelay = 100 from rfl]
  cases h with
  | disabled _ => simp
  | moved _ won =>
    have := won.length_bounds
    omega
  | failed _ _ lost =>
    have := lost.length_bounds
    omega
  | restored _ _ lost back =>
    have := lost.length_bounds
    have := back.length_bounds
    rw [List.length_append]
    omega
  | lost _ _ lost gone =>
    have := lost.length_bounds
    have := gone.length_bounds
    rw [List.length_append]
    omega

/-- How far a change has come after some attempts, with what is next due at a time. -/
inductive Upto (k : Kind) (address previous : String) (start : Nat) :
    List Trial → Nat → Change → Prop
  | moving {b : Bid} {xs : List Trial} {due : Nat} (given : address ≠ "")
      (bid : b.After k address start xs due) :
      Upto k address previous start xs due (.moving b previous)
  | restoring {b : Bid} {e : EndpointError} {xs ys : List Trial} {due : Nat} (given : address ≠ "")
      (known : previous ≠ "") (lost : Series address start xs (.error e))
      (bid : b.After k previous (start + retryDelay * (xs.length - 1)) ys due) :
      Upto k address previous start (xs ++ ys) due (.restoring b e)
  | done {xs : List Trial} {n due : Nat} {r : Except EndpointError Unit}
      (course : Course k address previous start xs n r)
      (ends : due = start + retryDelay * (xs.length - n)) :
      Upto k address previous start xs due (.done r)

theorem Upto.of_done {k : Kind} {previous : String} {due : Nat} {r : Except EndpointError Unit}
    (h : Upto k address previous start xs due (.done r)) :
    ∃ n, Course k address previous start xs n r ∧ due = start + retryDelay * (xs.length - n) := by
  cases h with
  | done course ends => exact ⟨_, course, ends⟩

/-- Some of a pause may be over. -/
theorem Bid.Under.rest {b : Bid} {k : Kind} (h : b.Under k address xs) (time : Nat) :
    ({ b with pause := b.pause - time } : Bid).Under k address xs :=
  ⟨h.kind, h.target, h.left, h.trying⟩

theorem Upto.rest {k : Kind} {previous : String} {due : Nat} {c : Change}
    (h : Upto k address previous start xs due c) (time : Nat) :
    Upto k address previous start xs due (c.rest time) := by
  cases h with
  | moving given bid => exact .moving given ⟨bid.toUnder.rest time, bid.times, bid.due⟩
  | restoring given known lost bid =>
    exact .restoring given known lost ⟨bid.toUnder.rest time, bid.times, bid.due⟩
  | done course ends => exact .done course ends

namespace Site

variable [Platform] {t : Site} {k : Kind} {previous : String} {c : Change}

/-- The next attempt of a change. -/
def trial? (t : Site) : Change → Option Trial
  | .moving b _ => some (b.trial t.registry.bundle t.host)
  | .restoring b _ => some (b.trial t.registry.bundle t.host)
  | .done _ => none

/-- The attempts in some steps of a change. -/
def trials (t : Site) (c : Change) : Nat → List Trial
  | 0 => []
  | n + 1 => (t.trial? c).toList ++ (t.step c).2.trials (t.step c).1 n

theorem trials_done (t : Site) (r : Except EndpointError Unit) (n : Nat) :
    t.trials (.done r) n = [] := by
  induction n with
  | zero => rfl
  | succ n ih => exact ih

/-- What a step of a change comes to is decided by what comes of its attempt. -/
theorem Sound.step_moving (hs : t.Sound) {b : Bid} (ha : t.Admits b.kind b.address) :
    (t.step (.moving b previous)).2.host = (b.attempt t.registry.bundle t.host).2 ∧
      (t.step (.moving b previous)).1 = match (b.attempt t.registry.bundle t.host).1 with
        | .inl b' => .moving b' previous
        | .inr (.ok _) => .done (.ok ())
        | .inr (.error e) =>
          if previous = "" then .done (.error e) else .restoring (.first b.kind previous) e := by
  obtain ⟨c', t', hstep, hst⟩ := t.exists_stepped (.moving b previous)
  rw [hstep]
  cases hst with
  | moves _ goes =>
    rw [goes]
    exact ⟨rfl, rfl⟩
  | moved won =>
    obtain ⟨router, hb⟩ := hs.bring_won ha won
    rw [won, hb]
    exact ⟨rfl, rfl⟩
  | failed lost =>
    rw [lost]
    exact ⟨rfl, rfl⟩
  | returns known lost =>
    rw [lost]
    exact ⟨rfl, (if_neg known).symm⟩

theorem Sound.step_restoring (hs : t.Sound) {b : Bid} {failure : EndpointError}
    (ha : t.Admits b.kind b.address) :
    (t.step (.restoring b failure)).2.host = (b.attempt t.registry.bundle t.host).2 ∧
      (t.step (.restoring b failure)).1 = match (b.attempt t.registry.bundle t.host).1 with
        | .inl b' => .restoring b' failure
        | .inr (.ok _) => .done (.error failure)
        | .inr (.error e) => .done (.error (.unavailable b.kind b.address failure e)) := by
  obtain ⟨c', t', hstep, hst⟩ := t.exists_stepped (.restoring b failure)
  rw [hstep]
  cases hst with
  | restores _ goes =>
    rw [goes]
    exact ⟨rfl, rfl⟩
  | restored won =>
    obtain ⟨router, hb⟩ := hs.bring_won ha won
    rw [won, hb]
    exact ⟨rfl, rfl⟩
  | stranded lost =>
    rw [lost]
    exact ⟨rfl, rfl⟩

/-- A step of a change makes the attempt that is due, and says when the next one is. -/
theorem Sound.upto_step (hs : t.Sound) (hc : t.Carries c)
    (hu : Upto k address previous start xs (t.now + c.pause) c) :
    Upto k address previous start (xs ++ (t.trial? c).toList)
      ((t.step c).2.now + (t.step c).1.pause) (t.step c).1 := by
  rw [now_step hs]
  generalize hat : t.now + c.pause = due at hu ⊢
  cases hu with
  | done course ends =>
    simpa only [trial?, Option.toList_none, List.append_nil] using .done course ends
  | @moving b _ _ given bid =>
    subst hat
    have hends := bid.due_eq (b.trial t.registry.bundle t.host)
    rw [(hs.step_moving hc.1).2]
    rcases bid.attempt (u := t.registry.bundle) with ⟨hgo, hnext⟩ | ⟨hend, hseries⟩
    · rw [hgo]
      exact .moving given hnext
    · rw [hend]
      cases ho : (b.trial t.registry.bundle t.host).outcome with
      | ok l => exact .done (.moved given (ho ▸ hseries)) hends
      | error e =>
        rw [ho] at hseries
        dsimp only
        split
        · rename_i hp
          exact .done (.failed given hp hseries) hends
        · rename_i hp
          have hfirst := Bid.after_first k previous (t.now + b.pause)
          rw [← List.append_nil (xs ++ _), bid.kind]
          exact .restoring given hp hseries (hends ▸ hfirst)
  | @restoring b failure xs ys _ given known lost bid =>
    subst hat
    -- Each series has one pause less than it has attempts, so two are missing from their sum.
    have hends : t.now + b.pause = start +
        retryDelay * ((xs ++ (ys ++ [b.trial t.registry.bundle t.host])).length - 2) := by
      have := lost.length_bounds
      refine bid.due.trans ?_
      rw [Nat.add_assoc, ← Nat.mul_add]
      simp only [List.length_append, List.length_singleton]
      congr 2
      omega
    rw [(hs.step_restoring hc).2, List.append_assoc]
    rcases bid.attempt (u := t.registry.bundle) with ⟨hgo, hnext⟩ | ⟨hend, hseries⟩
    · rw [hgo]
      exact .restoring given known lost hnext
    · rw [hend]
      cases ho : (b.trial t.registry.bundle t.host).outcome with
      | ok l => exact .done (.restored given known lost (ho ▸ hseries)) hends
      | error e =>
        rw [bid.kind, bid.target]
        exact .done (.lost given known lost (ho ▸ hseries)) hends

/-- The attempts that the host has noted at the end of a step are those of the step and those noted
before. -/
theorem Sound.attempts_step (hs : t.Sound) (hc : t.Carries c) (hcan : c.Canonical) :
    (t.step c).2.host.attempts =
      ((t.trial? c).toList.map Trial.note).reverse ++ t.host.attempts := by
  have noted {b : Bid} (ha : t.Admits b.kind b.address) (hb : b.kind.Canonical b.address) :
      (b.attempt t.registry.bundle t.host).2.attempts =
        (b.trial t.registry.bundle t.host).note :: t.host.attempts := by
    rw [b.host_attempt, Host.attempts_listen ha.network hb (ha.formed.ne_empty ha.network)
      ha.formed.vsock, hs.wired.sound.attempts_sleep]
    rfl
  cases c with
  | done r => rfl
  | moving b previous =>
    rw [(hs.step_moving hc.1).1]
    exact noted hc.1 hcan.1
  | restoring b failure =>
    rw [(hs.step_restoring hc).1]
    exact noted hc hcan

end Site
end Portkeeper
