import Portkeeper.Proofs.Host.Holding

/-!
Several listeners at once, none of which has the socket of another. They can be closed one after the
other, which is no matter for anything else.
-/

set_option autoImplicit false

namespace Portkeeper

/-- Listeners that have their sockets, each another one. -/
structure Host.Holding (h : Host) (ls : List Listener) : Prop where
  holds : ∀ l ∈ ls, l.Holds h
  apart : ls.Pairwise fun l m => l.socket ≠ m.socket

namespace Host.Holding

variable {h h' : Host} {ls : List Listener} {l : Listener}

theorem nil (h : Host) : h.Holding [] := ⟨by simp, List.Pairwise.nil⟩

theorem later (hl : h.Holding ls) (hh : h.Later h') : h'.Holding ls :=
  ⟨fun l hm => (hl.holds l hm).later hh, hl.apart⟩

theorem apart_of_ne (hl : h.Holding ls) {m : Listener} (hm : m ∈ ls) (hm' : l ∈ ls) (hne : m ≠ l) :
    m.socket ≠ l.socket := by
  obtain ⟨i, hi, rfl⟩ := List.getElem_of_mem hm
  obtain ⟨j, hj, rfl⟩ := List.getElem_of_mem hm'
  have hap := List.pairwise_iff_getElem.mp hl.apart
  rcases Nat.lt_trichotomy i j with hlt | rfl | hgt
  · exact hap i j hi hj hlt
  · exact absurd rfl hne
  · exact (hap j i hj hi hgt).symm

theorem push (hl : h.Holding ls) (hh : l.Holds h) (hne : ∀ m ∈ ls, m.socket ≠ l.socket) :
    h.Holding (ls ++ [l]) where
  holds m hm := by
    rcases List.mem_append.mp hm with hm | hm
    · exact hl.holds m hm
    · exact List.mem_singleton.mp hm ▸ hh
  apart := by
    refine List.pairwise_append.mpr ⟨hl.apart, List.pairwise_singleton _ _, fun m hm n hn => ?_⟩
    exact List.mem_singleton.mp hn ▸ hne m hm

theorem tail (hl : h.Holding (l :: ls)) : (h.drop l).Holding ls := by
  have hap := List.pairwise_cons.mp hl.apart
  refine ⟨fun m hm => ?_, hap.2⟩
  have hm' := hl.holds m (List.mem_cons_of_mem _ hm)
  exact hm'.drop (hl.holds l List.mem_cons_self) fun hc => hap.1 m hm hc.symm

variable [Platform]

theorem opens (hl : h.Holding ls) (hs : h.Sound) {k : Kind} {address : String} {b : Bundle}
    (ho : h.Opens h' k address b l) : h'.Holding (ls ++ [l]) := by
  refine (hl.later ho.later).push (ho.holds hs) fun m hm he => ?_
  have hlt := (hl.holds m hm).bounded
  rw [he, ho.socket] at hlt
  exact Nat.lt_irrefl _ hlt

end Host.Holding

namespace Host

/-- What closing some listeners leaves: they have let go of their sockets, and other sockets are as
they were. -/
structure Without (h h' : Host) (ls : List Listener) : Prop where
  sound : h'.Sound
  now : h'.now = h.now
  next : h'.nextSocket = h.nextSocket
  attempts : h'.attempts = h.attempts
  released : ∀ l ∈ ls, l.Released h'
  sockets : ∀ id, (∀ l ∈ ls, id ≠ l.socket) → h'.sockets.get? id = h.sockets.get? id
  descriptors : ∀ fd, (∀ l ∈ ls, l.descriptor ≠ some fd) →
    h'.descriptors.get? fd = h.descriptors.get? fd
  others : ∀ m : Listener, m.Released h → m.Released h'

theorem get?_descriptors_drop (h : Host) {l : Listener} {fd : Int} (hfd : l.descriptor ≠ some fd) :
    (h.drop l).descriptors.get? fd = h.descriptors.get? fd := by
  obtain ⟨files, he, -⟩ := h.drop_keeps l
  rw [he]
  show (h.letGo l).descriptors.get? fd = _
  unfold letGo
  cases hd : l.descriptor with
  | none => rfl
  | some fd' =>
    have hne : fd ≠ fd' := fun hc => hfd (hc ▸ hd)
    simp [Table.get?_erase_of_ne _ hne]

theorem dropAll_without {h : Host} {ls : List Listener} (hs : h.Sound) (hl : h.Holding ls) :
    h.Without (h.dropAll ls) ls := by
  induction ls generalizing h with
  | nil => exact ⟨hs, rfl, rfl, rfl, by simp, fun _ _ => rfl, fun _ _ => rfl, fun _ hm => hm⟩
  | cons l ls ih =>
    have hh := hl.holds l List.mem_cons_self
    have hrest := ih (hs.drop l) hl.tail
    refine ⟨hrest.sound, hrest.now.trans (now_drop h l), hrest.next.trans (nextSocket_drop h l),
      hrest.attempts.trans (attempts_drop h l), fun m hm => ?_, fun id hid => ?_, fun fd hfd => ?_,
      fun m hm => hrest.others m (hm.drop hs l)⟩
    · rcases List.mem_cons.mp hm with rfl | hm
      · exact hrest.others m hh.released_drop
      · exact hrest.released m hm
    · calc ((h.drop l).dropAll ls).sockets.get? id
          _ = (h.drop l).sockets.get? id :=
            hrest.sockets id fun m hm => hid m (List.mem_cons_of_mem _ hm)
          _ = h.sockets.get? id := hh.get?_drop (hid l List.mem_cons_self)
    · calc ((h.drop l).dropAll ls).descriptors.get? fd
          _ = (h.drop l).descriptors.get? fd :=
            hrest.descriptors fd fun m hm => hfd m (List.mem_cons_of_mem _ hm)
          _ = h.descriptors.get? fd := h.get?_descriptors_drop (hfd l List.mem_cons_self)

/-- A host after some listeners were opened, and nothing else was opened or closed. -/
structure Adds (h h' : Host) (fresh : List Listener) : Prop where
  sound : h'.Sound
  later : h.Later h'
  now : h'.now = h.now
  old : ∀ id < h.nextSocket, h'.sockets.get? id = h.sockets.get? id
  new : ∀ id, h.nextSocket ≤ id → h'.isOpen id = true → ∃ l ∈ fresh, l.socket = id
  fresh : ∀ l ∈ fresh, h.nextSocket ≤ l.socket ∧ l.descriptor = none

variable {h h' h'' : Host} {fresh : List Listener}

theorem Adds.refl (hs : h.Sound) : h.Adds h [] where
  sound := hs
  later := Later.refl h
  now := rfl
  old _ _ := rfl
  new id hid ho := by
    rw [isOpen, hs.get?_fresh hid] at ho
    cases ho
  fresh := by simp

theorem Adds.steady (ha : h.Adds h' fresh) (hs : h''.Sound) (hst : h'.Steady h'') :
    h.Adds h'' fresh where
  sound := hs
  later := ha.later.trans hst.later
  now := hst.now.trans ha.now
  old id hid := (hst.sockets id).trans (ha.old id hid)
  new id hid ho := ha.new id hid (by simpa [isOpen, hst.sockets] using ho)
  fresh := ha.fresh

theorem Adds.opens [Platform] (ha : h.Adds h' fresh) {k : Kind} {address : String} {b : Bundle}
    {l : Listener} (ho : h'.Opens h'' k address b l) : h.Adds h'' (fresh ++ [l]) := by
  obtain ⟨n, -, hg⟩ := ho.name
  have hnext : h.nextSocket ≤ l.socket := ho.socket ▸ ha.later.next
  refine ⟨ho.sound, ha.later.trans hg.later, hg.now.trans ha.now, fun id hid => ?_,
    fun id hid hopen => ?_, fun m hm => ?_⟩
  · rw [hg.sockets, if_neg, ha.old id hid]
    intro hc
    rw [hc] at hid
    exact absurd hid (Nat.not_lt.mpr ha.later.next)
  · by_cases hc : id = h'.nextSocket
    · exact ⟨l, List.mem_append_right _ List.mem_cons_self, by rw [ho.socket, hc]⟩
    · obtain ⟨m, hm, he⟩ := ha.new id hid (by simpa [isOpen, hg.sockets, hc] using hopen)
      exact ⟨m, List.mem_append_left _ hm, he⟩
  · rcases List.mem_append.mp hm with hm | hm
    · exact ha.fresh m hm
    · rw [List.mem_singleton.mp hm]
      exact ⟨hnext, ho.descriptor⟩

/-- Listeners without files leave none behind and take none away. -/
theorem files_dropAll {ls : List Listener} (hf : ∀ l ∈ ls, l.file = none) (h : Host) :
    (h.dropAll ls).files = h.files := by
  induction ls generalizing h with
  | nil => rfl
  | cons l ls ih =>
    have hd : (h.drop l).files = h.files := by
      rw [drop_eq, hf l List.mem_cons_self]
      exact files_letGo h l
    exact (ih (fun m hm => hf m (List.mem_cons_of_mem _ hm)) (h.drop l)).trans hd

/-- What is left when a start came to nothing after some descriptors had been adopted: these are
closed, and so is every socket that was opened, while everything else is as it was. -/
structure Undone (h h' : Host) (first : Int) (adopted : Nat) : Prop where
  sound : h'.Sound
  now : h'.now = h.now
  next : h.nextSocket ≤ h'.nextSocket
  opened : ∀ id, h.nextSocket ≤ id → h'.isOpen id = false
  closed : ∀ i < adopted, h'.descriptors.get? (first + i) = none
  descriptors : ∀ fd, (∀ i < adopted, fd ≠ first + (i : Nat)) →
    h'.descriptors.get? fd = h.descriptors.get? fd
  sockets : ∀ id < h.nextSocket,
    (∀ i < adopted, ∀ b, h.descriptors.get? (first + (i : Nat)) ≠ some ⟨b, .socket id⟩) →
    h'.sockets.get? id = h.sockets.get? id
  shared : ∀ i < adopted, ∀ b id, h.descriptors.get? (first + (i : Nat)) = some ⟨b, .socket id⟩ →
    h'.isOpen id = true → ∃ e ∈ h'.descriptors, e.2.target = .socket id

/-- A descriptor that was not there counts as closed. -/
theorem Undone.extend {h h' : Host} {first : Int} {n : Nat} (hu : h.Undone h' first n)
    (hn : h.descriptors.get? (first + n) = none) : h.Undone h' first (n + 1) where
  sound := hu.sound
  now := hu.now
  next := hu.next
  opened := hu.opened
  closed i hi := by
    rcases Nat.lt_succ_iff_lt_or_eq.mp hi with hlt | rfl
    · exact hu.closed i hlt
    · rw [hu.descriptors _ fun j hj hc => by omega, hn]
  descriptors fd hfd := hu.descriptors fd fun i hi => hfd i (Nat.lt_succ_of_lt hi)
  sockets id hid hno := hu.sockets id hid fun i hi => hno i (Nat.lt_succ_of_lt hi)
  shared i hi b id hg ho := by
    rcases Nat.lt_succ_iff_lt_or_eq.mp hi with hlt | rfl
    · exact hu.shared i hlt b id hg ho
    · rw [hn] at hg
      cases hg

end Host
end Portkeeper
