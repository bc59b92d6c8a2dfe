import Portkeeper.Proofs.Registry.Updating

/-!
What becomes of the descriptors of a handoff. They are gone through in the order of their numbers, up
to the first that does not serve: all of them end up with a listener or closed when there is none
such, and otherwise those before it are closed with it, and no one has looked at those behind it.
-/

set_option autoImplicit false

namespace Portkeeper
open Net

namespace Inheritance

variable [Platform]
variable {h h' : Host} {first : Int} {b : Bundle} {total place count : Nat} {ls : List Listener}

/-- A descriptor without a fault has a number that there can be, and is open. -/
theorem open_of_fault?_eq_none (hn : fault? total first b h place = none) :
    ¬Exceeds first place ∧ (h.descriptors.get? (first + place)).isSome = true := by
  unfold fault? at hn
  dsimp only at hn
  split at hn
  · cases hn
  · rename_i hex
    cases hd : h.descriptors.get? (first + place) with
    | none =>
      rw [hd] at hn
      cases hn
    | some d => exact ⟨hex, rfl⟩

/-- All descriptors of a handoff are taken over: those at the agreed places have listeners, for whom
they are kept from other programs, and the others are closed. -/
structure TakesAll (h : Host) (first : Int) (b : Bundle) (count : Nat) (ls : List Listener)
    (h' : Host) : Prop where
  number : ls.length = min count order.length
  kinds : ls.map Listener.kind = order.take count
  range : ∀ i < count, first + (i : Nat) ≤ largest
  given : ∀ i < count, (h.descriptors.get? (first + i)).isSome = true
  inherited : ∀ {i : Nat} {l : Listener}, ls[i]? = some l → Inherited h first b i l
  marked : ∀ l ∈ ls, ∀ fd, l.descriptor = some fd →
    h'.descriptors.get? fd = some ⟨true, .socket l.socket⟩
  dropped : ∀ l ∈ ls, l.Released (h'.drop l) ∧ (h'.drop l).files = h'.files ∧
    ∀ fd, l.descriptor ≠ some fd → (h'.drop l).descriptors.get? fd = h'.descriptors.get? fd
  excess : ∀ i < count, order.length ≤ i → h'.descriptors.get? (first + i) = none
  shared : ∀ i < count, order.length ≤ i → ∀ c id,
    h.descriptors.get? (first + i) = some ⟨c, .socket id⟩ → h'.isOpen id = true →
    ∃ e ∈ h'.descriptors, e.2.target = .socket id
  outside : ∀ fd, fd < first ∨ first + count ≤ fd →
    h'.descriptors.get? fd = h.descriptors.get? fd
  sockets : ∀ id, (∀ i < count, order.length ≤ i → ∀ c,
    h.descriptors.get? (first + (i : Nat)) ≠ some ⟨c, .socket id⟩) →
    h'.sockets.get? id = h.sockets.get? id
  files : h'.files = h.files

/-- The taking over stops at a place: the descriptors up to there are closed, and what is behind
them is as it was. -/
structure StopsAt (h : Host) (first : Int) (place : Nat) (h' : Host) : Prop where
  closed : ∀ i ≤ place, ¬Exceeds first i → h'.descriptors.get? (first + i) = none
  shared : ∀ i ≤ place, ¬Exceeds first i → ∀ c id,
    h.descriptors.get? (first + i) = some ⟨c, .socket id⟩ → h'.isOpen id = true →
    ∃ e ∈ h'.descriptors, e.2.target = .socket id
  outside : ∀ fd, fd < first ∨ first + place < fd ∨ largest < fd →
    h'.descriptors.get? fd = h.descriptors.get? fd
  sockets : ∀ id, (∀ i ≤ place, ∀ c,
    h.descriptors.get? (first + (i : Nat)) ≠ some ⟨c, .socket id⟩) →
    h'.sockets.get? id = h.sockets.get? id
  files : h'.files = h.files

theorem Partway.takesAll (hp : Partway h first b count ls h')
    (hkinds : ls.map Listener.kind = order.take count)
    (hnone : ∀ i < count, fault? total first b h i = none) : TakesAll h first b count ls h' := by
  have hlen : ls.length = min count order.length := by
    simpa using congrArg List.length hkinds
  have hover {i : Nat} (hi : order.length ≤ i) : ls.length ≤ i :=
    hlen ▸ Nat.le_trans (Nat.min_le_right _ _) hi
  exact {
    number := hlen
    kinds := hkinds
    range := fun i hi => by
      have hex := (open_of_fault?_eq_none (hnone i hi)).1
      unfold Exceeds at hex
      omega
    given := fun i hi => (open_of_fault?_eq_none (hnone i hi)).2
    inherited := hp.inherited
    marked := hp.marked
    dropped := fun l hl => by
      refine ⟨(hp.holding.holds l hl).released_drop, ?_, fun fd hfd => h'.get?_descriptors_drop hfd⟩
      rw [Host.drop_eq, hp.fileless l hl]
      exact h'.files_letGo l
    excess := fun i hi hio => hp.extra i hi (hover hio)
    shared := fun i hi hio c id hg => (hp.ghosts i hi (hover hio) c id hg).shared
    outside := fun fd hfd => hp.untouched fd fun i hi => by omega
    sockets := fun id hno => by
      refine hp.sockets id fun i hi hio c hg => ?_
      -- A place with no listener is past the agreed ones, as all agreed ones have theirs.
      exact hno i hi (by omega) c hg
    files := hp.files }

omit [Platform] in
theorem StopsAt.of_undone (hs : h.Sound)
    (hu : h.Undone h' first (if Exceeds first place then place else place + 1))
    (hbefore : ∀ i < place, ¬Exceeds first i) (hfiles : h'.files = h.files) :
    StopsAt h first place h' := by
  have hadopted {i : Nat} : i < (if Exceeds first place then place else place + 1) ↔
      i ≤ place ∧ ¬Exceeds first i := by
    split
    · rename_i hex
      refine ⟨fun hi => ⟨Nat.le_of_lt hi, hbefore i hi⟩, fun ⟨hi, hn⟩ => ?_⟩
      rcases Nat.lt_or_eq_of_le hi with hlt | rfl
      · exact hlt
      · exact absurd hex hn
    · rename_i hex
      refine ⟨fun hi => ⟨Nat.le_of_lt_succ hi, ?_⟩, fun ⟨hi, _⟩ => Nat.lt_succ_of_le hi⟩
      rcases Nat.lt_succ_iff_lt_or_eq.mp hi with hlt | rfl
      · exact hbefore i hlt
      · exact hex
  exact {
    closed := fun i hi hex => hu.closed i (hadopted.mpr ⟨hi, hex⟩)
    shared := fun i hi hex => hu.shared i (hadopted.mpr ⟨hi, hex⟩)
    outside := fun fd hfd => by
      refine hu.descriptors fd fun i hi => ?_
      obtain ⟨hle, hex⟩ := hadopted.mp hi
      unfold Exceeds at hex
      omega
    sockets := fun id hno => by
      rcases Nat.lt_or_ge id h.nextSocket with hid | hid
      · exact hu.sockets id hid fun i hi => hno i (hadopted.mp hi).1
      · have hclosed := hu.opened id hid
        rw [hs.get?_fresh hid]
        simpa [Host.isOpen] using hclosed
    files := hfiles }

/-- What the descriptors of a handoff come to when they are judged one after the other: without a
fault all of them are taken over, and else the first fault is the complaint. -/
structure InOrder (h : Host) (count : Nat) (first : Int) (b : Bundle)
    (r : Except EndpointError (List Listener)) (h' : Host) : Prop where
  taken : ∀ ls, r = .ok ls → (∀ i < count, fault? count first b h i = none) ∧
    TakesAll h first b count ls h'
  stopped : ∀ e, r = .error e → ∃ place < count, fault? count first b h place = some e ∧
    (∀ i < place, fault? count first b h i = none) ∧ StopsAt h first place h'

end Inheritance

open Inheritance

theorem Host.inherit_in_order [Platform] {h : Host} (hs : h.Sound) (count : Nat) (first : Int)
    (b : Bundle) :
    InOrder h count first b (h.inherit count first b).1 (h.inherit count first b).2 := by
  obtain ⟨r, h', hr⟩ : ∃ r h', h.inherit count first b = (r, h') := ⟨_, _, rfl⟩
  have hspec := h.inherit_spec hs hr
  have hjudged {place : Nat} (hn : ∀ i, 0 ≤ i → i < place → fault? count first b h i = none) :
      ∀ i < place, fault? count first b h i = none := fun i hi => hn i (Nat.zero_le _) hi
  rw [hr]
  refine ⟨fun ls hok => ?_, fun e herror => ?_⟩
  · obtain rfl : r = .ok ls := hok
    obtain ⟨hnone, hp, hkinds⟩ := hspec
    exact ⟨hjudged hnone, hp.takesAll hkinds (hjudged hnone)⟩
  · obtain rfl : r = .error e := herror
    obtain ⟨place, -, hlt, hfault, hnone, hu, hfiles⟩ := hspec
    exact ⟨place, hlt, hfault, hjudged hnone,
      .of_undone hs hu (fun i hi => (open_of_fault?_eq_none (hjudged hnone i hi)).1) hfiles⟩

/-- Two descriptors that are taken over, and a third that is not there when it should be. -/
theorem Host.inherit_in_order_handed : Host.handed.Sound ∧
    (∃ ls h', Host.handed.inherit 2 3 .least = (.ok ls, h') ∧
      TakesAll Host.handed 3 .least 2 ls h') ∧
    ∃ e h', Host.handed.inherit 3 3 .least = (.error e, h') ∧ StopsAt Host.handed 3 2 h' := by
  have htwo := Host.inherit_in_order Host.sound_handed 2 3 .least
  have hthree := Host.inherit_in_order Host.sound_handed 3 3 .least
  have hok : (Host.handed.inherit 2 3 .least).1.isOk = true := by decide +kernel
  have hfine : (List.range 2).all (fun i => fault? 3 3 .least Host.handed i = none) = true := by
    decide +kernel
  have hmissing : (fault? 3 3 .least Host.handed 2).isSome = true := by decide +kernel
  refine ⟨Host.sound_handed, ?_, ?_⟩
  · rcases he : Host.handed.inherit 2 3 .least with ⟨_ | ls, h'⟩
    · rw [he] at hok
      cases hok
    · rw [he] at htwo
      exact ⟨ls, h', rfl, (htwo.taken ls rfl).2⟩
  · rcases he : Host.handed.inherit 3 3 .least with ⟨e | ls, h'⟩
    · rw [he] at hthree
      obtain ⟨place, hlt, hfault, -, hstops⟩ := hthree.stopped e rfl
      obtain rfl | hlast : place = 2 ∨ place < 2 := by omega
      · exact ⟨e, h', rfl, hstops⟩
      · have hnone := List.all_eq_true.mp hfine place (List.mem_range.mpr hlast)
        rw [of_decide_eq_true hnone] at hfault
        cases hfault
    · rw [he] at hthree
      rw [(hthree.taken ls rfl).1 2 (by decide)] at hmissing
      cases hmissing

end Portkeeper
