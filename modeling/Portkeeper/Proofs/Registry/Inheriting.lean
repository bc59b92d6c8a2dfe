import Portkeeper.Inheritance
import Portkeeper.Proofs.Host.Collection
import Portkeeper.Proofs.Registry.Names

/-!
Taking over descriptors. Each descriptor is judged by itself, in their order; either all are taken
over, or the first complaint is reported and those taken so far are closed.
-/

set_option autoImplicit false

namespace Portkeeper
open Net

namespace Inheritance

/-- A number that no descriptor can have, or a place that none can be at. -/
def Exceeds (first : Int) (place : Nat) : Prop := largest < place ∨ largest < first + place

instance (first : Int) (place : Nat) : Decidable (Exceeds first place) :=
  inferInstanceAs (Decidable (_ ∨ _))

variable [Platform]

/-- What is wrong with the descriptor at a place, if anything is. -/
def fault? (total : Nat) (first : Int) (b : Bundle) (h : Host) (place : Nat) :
    Option EndpointError :=
  let fd := first + place
  if Exceeds first place then some (.activation ("Too many descriptors: " ++ toString total))
  else match h.descriptors.get? fd with
    | none => some (.activation
        ("Inherited descriptor " ++ toString fd ++ " is not open: EBADF: Bad file number"))
    | some d => match order[place]? with
      | none => none
      | some k => match socketOf k d h with
        | .error e => some (.activation
            ("Descriptor " ++ toString fd ++ " is not a " ++ k.name ++ " listener: " ++ e.message))
        | .ok _ => match b.acceptorFor k with
          | .error e => some e
          | .ok _ => none

omit [Platform] in
/-- A socket that can be taken over is one that the descriptor has, of the family of the kind. -/
theorem socketOf_ok {k : Kind} {d : Descriptor} {h : Host} {id : SocketId}
    (hs : socketOf k d h = .ok id) :
    d.target = .socket id ∧ ∃ sk, h.sockets.get? id = some sk ∧ k.Family sk.name ∧
      k.transport ≠ .vsock := by
  unfold socketOf at hs
  split at hs
  · cases hs
  · rename_i id' ht
    split at hs
    · cases hs
    · rename_i sk hsk
      unfold Kind.Family
      split at hs
      · rename_i u hk hn
        cases hs
        exact ⟨ht, sk, hsk, by simp [hk, hn], by simp [hk]⟩
      · cases hs
      · rename_i a hk hn
        cases hs
        exact ⟨ht, sk, hsk, by simp [hk, hn], by simp [hk]⟩
      · cases hs
      · cases hs

end Inheritance

namespace Host

/-! ### One descriptor more -/

/-- The host with a descriptor marked as the daemon's own. -/
def mark (h : Host) (fd : Int) (d : Descriptor) : Host :=
  { h with descriptors := h.descriptors.insert fd { d with closeOnExec := true } }

theorem mem_mark {h : Host} {fd : Int} {d : Descriptor} (hd : h.descriptors.get? fd = some d)
    {e : Int × Descriptor} (he : e ∈ (h.mark fd d).descriptors) :
    ∃ e' ∈ h.descriptors, e'.1 = e.1 ∧ e'.2.target = e.2.target := by
  rcases List.mem_cons.mp he with rfl | he
  · exact ⟨(fd, d), Table.mem_of_get? hd, rfl, rfl⟩
  · exact ⟨e, (Table.mem_erase.mp he).1, rfl, rfl⟩

theorem Sound.mark {h : Host} (hs : h.Sound) {fd : Int} {d : Descriptor}
    (hd : h.descriptors.get? fd = some d) : (h.mark fd d).Sound where
  sockets := hs.sockets
  agenda := hs.agenda
  descriptors {fd' b id} hm := by
    obtain ⟨⟨fd'', b', t⟩, he', -, ht⟩ := mem_mark hd hm
    obtain rfl : t = .socket id := ht
    exact hs.descriptors he'
  distinct := by
    refine List.pairwise_cons.mpr ⟨fun e he hc => ?_, hs.distinct.filter _⟩
    exact (Table.mem_erase.mp he).2 hc.symm
  nodes := hs.nodes

end Host

namespace Listener

variable {h : Host} {l : Listener} {fd : Int} {d : Descriptor}

theorem Holds.mark (hl : l.Holds h) (hd : h.descriptors.get? fd = some d) :
    l.Holds (h.mark fd d) where
  bounded := hl.bounded
  spares := hl.spares
  isOpen := hl.isOpen
  fresh hn e he := by
    obtain ⟨e', he', -, ht⟩ := Host.mem_mark hd he
    exact ht ▸ hl.fresh hn e' he'
  inherited fd' hf := by
    obtain ⟨b, hg⟩ := hl.inherited fd' hf
    by_cases hc : fd' = fd
    · subst hc
      rw [hd] at hg
      cases hg
      exact ⟨true, Table.get?_insert_self _ _ _⟩
    · exact ⟨b, (Table.get?_insert_of_ne _ _ hc).trans hg⟩

theorem Released.mark (hs : h.Sound) (hl : l.Released h) (hd : h.descriptors.get? fd = some d) :
    l.Released (h.mark fd d) where
  bounded := hl.bounded
  spares := hl.spares
  fresh := hl.fresh
  inherited fd' hf := by
    have hn := hl.inherited fd' hf
    have hc : fd' ≠ fd := by
      rintro rfl
      rw [hd] at hn
      cases hn
    exact (Table.get?_insert_of_ne _ _ hc).trans hn
  shared ho := by
    obtain ⟨e, he, ht⟩ := hl.shared ho
    by_cases hc : e.1 = fd
    · have hg := Table.get?_of_mem hs.distinct he
      rw [hc, hd] at hg
      obtain rfl := Option.some.inj hg
      exact ⟨(fd, { e.2 with closeOnExec := true }), List.mem_cons_self, ht⟩
    · exact ⟨e, List.mem_cons_of_mem _ (Table.mem_erase.mpr ⟨he, hc⟩), ht⟩

/-- A descriptor with its socket, as if it had been taken over. -/
def ghost (fd : Int) (id : SocketId) : Listener := ⟨default, id, none, some fd, none, .inherited⟩

@[simp] theorem socket_ghost (fd : Int) (id : SocketId) : (ghost fd id).socket = id := rfl

theorem ghost_released {h : Host} (hs : h.Sound) {fd : Int} {b : Bool} {id : SocketId}
    (hg : h.descriptors.get? fd = some ⟨b, .socket id⟩) :
    (ghost fd id).Released (h.closeDescriptor fd) := by
  obtain ⟨hlt, hsp⟩ := hs.descriptors (Table.mem_of_get? hg)
  refine ⟨by simpa using hlt, by simpa [Host.Spares] using hsp, by simp [ghost], fun fd' hf => ?_,
    fun ho => h.exists_descriptor_of_isOpen hg ho⟩
  obtain rfl : fd = fd' := Option.some.inj hf
  simp

end Listener

namespace Inheritance

variable [Platform]

/-- A listener that was made from the descriptor at a place. -/
structure Inherited (h₀ : Host) (first : Int) (b : Bundle) (place : Nat) (l : Listener) : Prop where
  descriptor : l.descriptor = some (first + place)
  provenance : l.provenance = .inherited
  file : l.file = none
  tls : b.acceptorFor l.kind = .ok l.tls
  socket : ∃ c, h₀.descriptors.get? (first + place) = some ⟨c, .socket l.socket⟩
  name : ∃ sk, h₀.sockets.get? l.socket = some sk ∧ l.kind.Family sk.name

/-- How far the taking over of descriptors has come: those before a place are listeners or closed, and
nothing else has changed. -/
structure Partway (h₀ : Host) (first : Int) (b : Bundle) (place : Nat) (made : List Listener)
    (h : Host) : Prop where
  sound : h.Sound
  now : h.now = h₀.now
  next : h.nextSocket = h₀.nextSocket
  files : h.files = h₀.files
  attempts : h.attempts = h₀.attempts
  holding : h.Holding made
  short : made.length ≤ place
  kinds : made.map Listener.kind = order.take made.length
  inherited : ∀ {i : Nat} {l : Listener}, made[i]? = some l → Inherited h₀ first b i l
  kept : ∀ l ∈ made, h.sockets.get? l.socket = h₀.sockets.get? l.socket
  extra : ∀ i < place, made.length ≤ i → h.descriptors.get? (first + i) = none
  ghosts : ∀ i < place, made.length ≤ i → ∀ c id,
    h₀.descriptors.get? (first + i) = some ⟨c, .socket id⟩ →
    (Listener.ghost (first + i) id).Released h
  untouched : ∀ fd, (∀ i < place, fd ≠ first + (i : Nat)) →
    h.descriptors.get? fd = h₀.descriptors.get? fd
  sockets : ∀ id, (∀ i < place, made.length ≤ i → ∀ c,
    h₀.descriptors.get? (first + (i : Nat)) ≠ some ⟨c, .socket id⟩) →
    h.sockets.get? id = h₀.sockets.get? id
  marked : ∀ l ∈ made, ∀ fd, l.descriptor = some fd →
    h.descriptors.get? fd = some ⟨true, .socket l.socket⟩

omit [Platform] in
/-- The agreed places are for different families. -/
theorem order_transport {i j : Nat} {k k' : Kind} (hk : order[i]? = some k)
    (hk' : order[j]? = some k') (hij : i ≠ j) : k.transport ≠ k'.transport := by
  have hi := (List.getElem?_eq_some_iff.mp hk).1
  have hj := (List.getElem?_eq_some_iff.mp hk').1
  change i < 2 at hi
  change j < 2 at hj
  obtain rfl | rfl : i = 0 ∨ i = 1 := by omega
  all_goals obtain rfl | rfl : j = 0 ∨ j = 1 := by omega
  all_goals
    cases hk
    cases hk'
    first | exact absurd rfl hij | decide

variable {h₀ h : Host} {first : Int} {b : Bundle} {place : Nat} {made : List Listener}

theorem Partway.start (hs : h.Sound) (first : Int) (b : Bundle) : Partway h first b 0 [] h where
  sound := hs
  now := rfl
  next := rfl
  files := rfl
  attempts := rfl
  holding := Host.Holding.nil h
  short := Nat.le_refl _
  kinds := rfl
  inherited := by simp
  kept := by simp
  extra := by simp
  ghosts := by simp
  untouched _ _ := rfl
  sockets _ _ := rfl
  marked := by simp

/-- The descriptor at the next place is as it was. -/
theorem Partway.next_descriptor (hp : Partway h₀ first b place made h) :
    h.descriptors.get? (first + place) = h₀.descriptors.get? (first + place) :=
  hp.untouched _ fun i hi hc => by omega

/-- Each listener that was made is from a place that was passed. -/
theorem Partway.place_of_mem (hp : Partway h₀ first b place made h) {l : Listener} (hl : l ∈ made) :
    ∃ i < place, made[i]? = some l ∧ Inherited h₀ first b i l := by
  obtain ⟨i, hi, rfl⟩ := List.getElem_of_mem hl
  have hget := List.getElem?_eq_getElem hi
  exact ⟨i, Nat.lt_of_lt_of_le hi hp.short, hget, hp.inherited hget⟩

theorem Partway.not_made (hp : Partway h₀ first b place made h) {l : Listener} (hl : l ∈ made) :
    l.descriptor ≠ some (first + place) := by
  obtain ⟨i, hi, -, hin⟩ := hp.place_of_mem hl
  rw [hin.descriptor]
  intro hc
  have hc := Option.some.inj hc
  omega

/-- Nothing that was made has a file of its own. -/
theorem Partway.fileless (hp : Partway h₀ first b place made h) : ∀ l ∈ made, l.file = none := by
  intro l hl
  obtain ⟨i, -, -, hin⟩ := hp.place_of_mem hl
  exact hin.file

/-- A socket for the kind of the next place is not one that was made into a listener before: those are
of other families. -/
theorem Partway.apart (hp : Partway h₀ first b place made h) {k : Kind}
    (hplace : order[place]? = some k) {id : SocketId} {sk : Socket}
    (hsk : h₀.sockets.get? id = some sk) (hfam : k.Family sk.name) : ∀ m ∈ made, m.socket ≠ id := by
  intro m hm he
  obtain ⟨i, hi, hget, hin⟩ := hp.place_of_mem hm
  obtain ⟨sk', hsk', hfam'⟩ := hin.name
  have hkind : order[i]? = some m.kind := by
    have hlt := (List.getElem?_eq_some_iff.mp hget).1
    have hk := congrArg (·[i]?) hp.kinds
    simpa [hget, List.getElem?_take_of_lt hlt] using hk.symm
  rw [he, hsk] at hsk'
  cases hsk'
  exact order_transport hkind hplace (Nat.ne_of_lt hi)
    ((Kind.transport_of_family hfam').trans (Kind.transport_of_family hfam).symm)

/-- When a start comes to nothing, what was taken over and what was bound is closed. -/
theorem Partway.undone_adds {h' : Host} {fresh : List Listener}
    (hp : Partway h₀ first b place made h) (ha : h.Adds h' fresh)
    (hh : h'.Holding (made ++ fresh)) : h₀.Undone (h'.dropAll (made ++ fresh)) first place := by
  have hw := Host.dropAll_without ha.sound hh
  have hold {l : Listener} (hl : l ∈ made) : l.socket < h₀.nextSocket :=
    hp.next ▸ (hp.holding.holds l hl).bounded
  have hfresh {l : Listener} (hl : l ∈ fresh) : h₀.nextSocket ≤ l.socket ∧ l.descriptor = none :=
    hp.next ▸ ha.fresh l hl
  have hdescriptors {fd : Int} (hfd : ∀ l ∈ made, l.descriptor ≠ some fd) :
      (h'.dropAll (made ++ fresh)).descriptors.get? fd = h.descriptors.get? fd := by
    rw [hw.descriptors fd, ha.later.descriptors]
    intro l hl hc
    rcases List.mem_append.mp hl with hl | hl
    · exact hfd l hl hc
    · rw [(hfresh hl).2] at hc
      cases hc
  exact {
    sound := hw.sound
    now := hw.now.trans (ha.now.trans hp.now)
    next := by
      rw [hw.next, ← hp.next]
      exact ha.later.next
    opened := fun id hid => by
      by_cases hown : ∃ l ∈ made ++ fresh, id = l.socket
      · obtain ⟨l, hl, rfl⟩ := hown
        rcases List.mem_append.mp hl with hl' | hl'
        · exact absurd (hold hl') (Nat.not_lt.mpr hid)
        · exact (hw.released l hl).fresh (hfresh hl').2
      · have hsame := hw.sockets id fun l hl hc => hown ⟨l, hl, hc⟩
        cases ho : h'.isOpen id with
        | false => simpa [Host.isOpen, hsame] using ho
        | true =>
          obtain ⟨l, hl, he⟩ := ha.new id (hp.next ▸ hid) ho
          exact absurd ⟨l, List.mem_append_right _ hl, he.symm⟩ hown
    closed := fun i hi => by
      by_cases hio : i < made.length
      · have hin := hp.inherited (List.getElem?_eq_getElem hio)
        exact (hw.released _ (List.mem_append_left _ (List.getElem_mem hio))).inherited _ hin.descriptor
      · rw [hdescriptors, hp.extra i hi (Nat.le_of_not_lt hio)]
        intro l hl hc
        obtain ⟨j, -, hj, hin⟩ := hp.place_of_mem hl
        have hlt := (List.getElem?_eq_some_iff.mp hj).1
        have he := Option.some.inj (hin.descriptor.symm.trans hc)
        omega
    descriptors := fun fd hfd => by
      rw [hdescriptors, hp.untouched fd hfd]
      intro l hl hc
      obtain ⟨j, hj, -, hin⟩ := hp.place_of_mem hl
      exact hfd j hj (Option.some.inj (hc.symm.trans hin.descriptor))
    sockets := fun id hid hno => by
      rw [hw.sockets id, ha.old id (hp.next ▸ hid), hp.sockets id fun i hi _ => hno i hi]
      intro l hl hc
      rcases List.mem_append.mp hl with hl | hl
      · obtain ⟨j, hj, -, hin⟩ := hp.place_of_mem hl
        obtain ⟨c, hg⟩ := hin.socket
        exact hno j hj c (hc ▸ hg)
      · exact absurd (hc ▸ hid) (Nat.not_lt.mpr (hfresh hl).1)
    shared := fun i hi c id hg ho => by
      by_cases hio : i < made.length
      · obtain ⟨c', hg'⟩ := (hp.inherited (List.getElem?_eq_getElem hio)).socket
        rw [hg] at hg'
        obtain ⟨-, rfl⟩ : c = c' ∧ id = made[i].socket := by simpa using hg'
        exact (hw.released _ (List.mem_append_left _ (List.getElem_mem hio))).shared ho
      · have hghost := hp.ghosts i hi (Nat.le_of_not_lt hio) c id hg
        exact (hw.others _ (hghost.later ha.later)).shared ho }

theorem Partway.undone (hp : Partway h₀ first b place made h) :
    h₀.Undone (h.dropAll made) first place := by
  have hu := hp.undone_adds (Host.Adds.refl hp.sound) (by simpa using hp.holding)
  rwa [List.append_nil] at hu

/-- A descriptor that serves no kind is closed. -/
theorem Partway.skip (hp : Partway h₀ first b place made h) {d : Descriptor}
    (hd : h.descriptors.get? (first + place) = some d) :
    Partway h₀ first b (place + 1) made ((h.mark (first + place) d).closeDescriptor (first + place)) := by
  have hd₀ : h₀.descriptors.get? (first + place) = some d := hp.next_descriptor ▸ hd
  have hsm := hp.sound.mark hd
  have hgm : (h.mark (first + place) d).descriptors.get? (first + place) =
      some { d with closeOnExec := true } := Table.get?_insert_self _ _ _
  have hother {fd : Int} (hfd : fd ≠ first + place) :
      ((h.mark (first + place) d).closeDescriptor (first + place)).descriptors.get? fd =
        h.descriptors.get? fd := by
    rw [Host.descriptors_closeDescriptor, Table.get?_erase_of_ne _ hfd]
    exact Table.get?_insert_of_ne _ _ hfd
  have hnot {i : Nat} (hi : i < place) : first + (i : Int) ≠ first + place := by omega
  exact {
    sound := hsm.closeDescriptor _
    now := by simpa [Host.mark] using hp.now
    next := by simpa [Host.mark] using hp.next
    files := by simpa [Host.mark] using hp.files
    attempts := by simpa [Host.mark] using hp.attempts
    holding := ⟨fun l hl => ((hp.holding.holds l hl).mark hd).closeDescriptor (hp.not_made hl),
      hp.holding.apart⟩
    short := Nat.le_succ_of_le hp.short
    kinds := hp.kinds
    inherited := hp.inherited
    kept := fun l hl => by
      rw [((hp.holding.holds l hl).mark hd).get?_closeDescriptor (hp.not_made hl)]
      exact hp.kept l hl
    extra := fun i hi hio => by
      rcases Nat.lt_succ_iff_lt_or_eq.mp hi with hlt | rfl
      · rw [hother (hnot hlt)]
        exact hp.extra i hlt hio
      · simp
    ghosts := fun i hi hio c id hg => by
      rcases Nat.lt_succ_iff_lt_or_eq.mp hi with hlt | rfl
      · exact ((hp.ghosts i hlt hio c id hg).mark hp.sound hd).closeDescriptor hsm _
      · rw [hd₀] at hg
        cases hg
        exact Listener.ghost_released hsm hgm
    untouched := fun fd hfd => by
      rw [hother (hfd place (Nat.lt_succ_self _))]
      exact hp.untouched fd fun i hi => hfd i (Nat.lt_succ_of_lt hi)
    sockets := fun id hno => by
      rw [Host.get?_closeDescriptor_of_ne]
      · exact hp.sockets id fun i hi => hno i (Nat.lt_succ_of_lt hi)
      · intro c hg
        rw [hgm] at hg
        cases d with
        | mk c' t =>
          cases hg
          exact hno place (Nat.lt_succ_self _) hp.short c' hd₀
    marked := fun l hl fd hf => by
      have hne : fd ≠ first + place := fun hc => hp.not_made hl (hc ▸ hf)
      exact (hother hne).trans (hp.marked l hl fd hf) }

/-- A descriptor at an agreed place becomes a listener. -/
theorem Partway.make (hp : Partway h₀ first b place made h) {d : Descriptor}
    (hd : h.descriptors.get? (first + place) = some d) {k : Kind} (hplace : order[place]? = some k)
    {id : SocketId} (hsock : socketOf k d h = .ok id) {tls : Option Acceptor}
    (htls : b.acceptorFor k = .ok tls) (hlen : made.length = place) :
    Partway h₀ first b (place + 1) (made ++ [⟨k, id, none, some (first + place), tls, .inherited⟩])
      (h.mark (first + place) d) := by
  have hd₀ : h₀.descriptors.get? (first + place) = some d := hp.next_descriptor ▸ hd
  have hsame (id : SocketId) : h.sockets.get? id = h₀.sockets.get? id :=
    hp.sockets id fun i hi hio => by omega
  obtain ⟨htarget, sk, hsk, hfam, -⟩ := socketOf_ok hsock
  obtain ⟨c, t⟩ := d
  obtain rfl : t = .socket id := htarget
  obtain ⟨hid, hsp⟩ := hp.sound.descriptors (Table.mem_of_get? hd)
  have hopen : h.isOpen id = true := by simp [Host.isOpen, hsk]
  have hgm : (h.mark (first + place) ⟨c, .socket id⟩).descriptors.get? (first + place) =
      some ⟨true, .socket id⟩ := Table.get?_insert_self _ _ _
  have hsk₀ : h₀.sockets.get? id = some sk := hsame id ▸ hsk
  have hnew : Inherited h₀ first b place ⟨k, id, none, some (first + place), tls, .inherited⟩ :=
    ⟨rfl, rfl, rfl, htls, ⟨c, hd₀⟩, sk, hsk₀, hfam⟩
  -- All places so far have a listener, so that none of them is extra.
  have hnone {i : Nat} {l : Listener} (hi : i < place + 1) : ¬(made ++ [l]).length ≤ i := by
    rw [List.length_append, List.length_singleton, hlen]
    omega
  exact {
    sound := hp.sound.mark hd
    now := hp.now
    next := hp.next
    files := hp.files
    attempts := hp.attempts
    holding := by
      refine Host.Holding.push ⟨fun m hm => (hp.holding.holds m hm).mark hd, hp.holding.apart⟩
        ⟨hid, hsp, hopen, by simp, fun fd hf => ?_⟩ (hp.apart hplace hsk₀ hfam)
      obtain rfl := Option.some.inj hf
      exact ⟨true, hgm⟩
    short := by simp [hlen]
    kinds := by
      rw [List.map_append, hp.kinds, List.length_append, hlen, List.length_singleton,
        List.take_add_one, hplace]
      rfl
    inherited := fun {i l} hl => by
      rw [List.getElem?_append] at hl
      split at hl
      · exact hp.inherited hl
      · rename_i hi
        rw [List.getElem?_singleton] at hl
        split at hl
        · obtain rfl : i = place := by omega
          cases hl
          exact hnew
        · cases hl
    kept := fun l _ => hsame l.socket
    extra := fun i hi hio => absurd hio (hnone hi)
    ghosts := fun i hi hio => absurd hio (hnone hi)
    untouched := fun fd hfd =>
      (Table.get?_insert_of_ne _ _ (hfd place (Nat.lt_succ_self _))).trans
        (hp.untouched fd fun i hi => hfd i (Nat.lt_succ_of_lt hi))
    sockets := fun id' _ => hsame id'
    marked := fun l hl fd hf => by
      rcases List.mem_append.mp hl with hl | hl
      · have hne : fd ≠ first + place := fun hc => hp.not_made hl (hc ▸ hf)
        exact (Table.get?_insert_of_ne _ _ hne).trans (hp.marked l hl fd hf)
      · obtain rfl := List.mem_singleton.mp hl
        obtain rfl := Option.some.inj hf
        exact hgm }

/-- How the taking over of descriptors from a place up to another can end: none has a fault, or the
first one that has is reported and nothing stays open. -/
def Settles (h₀ : Host) (total : Nat) (first : Int) (b : Bundle) (start stop : Nat) (h' : Host) :
    Except EndpointError (List Listener) → Prop
  | .ok ls => (∀ i, start ≤ i → i < stop → fault? total first b h₀ i = none) ∧
      Partway h₀ first b stop ls h' ∧ ls.map Listener.kind = order.take stop
  | .error e => ∃ j, start ≤ j ∧ j < stop ∧ fault? total first b h₀ j = some e ∧
      (∀ i, start ≤ i → i < j → fault? total first b h₀ i = none) ∧
      h₀.Undone h' first (if Exceeds first j then j else j + 1) ∧ h'.files = h₀.files

theorem Settles.step {total stop : Nat} {h' : Host} {r : Except EndpointError (List Listener)}
    (hn : fault? total first b h₀ place = none)
    (hr : Settles h₀ total first b (place + 1) stop h' r) :
    Settles h₀ total first b place stop h' r := by
  have hfirst {j : Nat} (hj : ∀ i, place + 1 ≤ i → i < j → fault? total first b h₀ i = none) :
      ∀ i, place ≤ i → i < j → fault? total first b h₀ i = none := by
    intro i hi hij
    rcases Nat.eq_or_lt_of_le hi with rfl | hi
    · exact hn
    · exact hj i hi hij
  cases r with
  | ok ls => exact ⟨hfirst hr.1, hr.2⟩
  | error e =>
    obtain ⟨j, hj, hjs, hf, hb, hu⟩ := hr
    exact ⟨j, by omega, hjs, hf, hfirst hb, hu⟩

omit [Platform] in
theorem adopt_eq {fd : Int} {h : Host} {d : Descriptor} (hd : h.descriptors.get? fd = some d) :
    adopt fd h = .ok ({ d with closeOnExec := true }, h.mark fd d) := by
  unfold adopt
  rw [hd]
  rfl

omit [Platform] in
theorem socketOf_congr {k : Kind} {d d' : Descriptor} {h h' : Host} (ht : d'.target = d.target)
    (hs : ∀ id, h'.sockets.get? id = h.sockets.get? id) : socketOf k d' h' = socketOf k d h := by
  unfold socketOf
  rw [ht]
  split
  · rfl
  · rw [hs]

/-- A descriptor at an agreed place is closed if it has a fault, and otherwise it has a socket and a
policy to be served with. -/
theorem Partway.listener (hp : Partway h₀ first b place made h) (hex : ¬Exceeds first place)
    {d : Descriptor} (hd : h.descriptors.get? (first + place) = some d) {k : Kind}
    (hplace : order[place]? = some k) (hlen : made.length = place) (total : Nat) :
    let fd := first + (place : Int)
    let marked := h.mark fd d
    (∃ e, fault? total first b h₀ place = some e ∧
      listener k fd { d with closeOnExec := true } b marked = (.error e, marked.closeDescriptor fd)) ∨
    ∃ id tls, fault? total first b h₀ place = none ∧ socketOf k d h = .ok id ∧
      b.acceptorFor k = .ok tls ∧ listener k fd { d with closeOnExec := true } b marked =
        (.ok ⟨k, id, none, some fd, tls, .inherited⟩, marked) := by
  dsimp only
  have hd₀ : h₀.descriptors.get? (first + place) = some d := hp.next_descriptor ▸ hd
  have hsame (id : SocketId) : h.sockets.get? id = h₀.sockets.get? id :=
    hp.sockets id fun i hi hio => by omega
  have hmarked : socketOf k { d with closeOnExec := true } (h.mark (first + place) d) =
      socketOf k d h₀ := socketOf_congr rfl hsame
  have hsock : socketOf k d h = socketOf k d h₀ := socketOf_congr rfl hsame
  unfold Inheritance.listener
  rw [hmarked, hsock]
  cases hs : socketOf k d h₀ with
  | error e => exact Or.inl ⟨_, by simp [fault?, hex, hd₀, hplace, hs], rfl⟩
  | ok id =>
    cases htls : b.acceptorFor k with
    | error e => exact Or.inl ⟨e, by simp [fault?, hex, hd₀, hplace, hs, htls], rfl⟩
    | ok tls => exact Or.inr ⟨id, tls, by simp [fault?, hex, hd₀, hplace, hs, htls], rfl, rfl, rfl⟩

/-- One more place: the taking over ends there if it has a fault, and goes on otherwise. -/
theorem Partway.step (hp : Partway h₀ first b place made h)
    (hlen : made.length = min place order.length) (total left : Nat) :
    (∃ e h', fault? total first b h₀ place = some e ∧
      resolve total first b (left + 1) place made h = (.error e, h') ∧
      h₀.Undone h' first (if Exceeds first place then place else place + 1) ∧
      h'.files = h₀.files) ∨
    fault? total first b h₀ place = none ∧ ∃ made' h₁,
      resolve total first b (left + 1) place made h = resolve total first b left (place + 1) made' h₁ ∧
      Partway h₀ first b (place + 1) made' h₁ ∧ made'.length = min (place + 1) order.length := by
  have hfiles := (Host.files_dropAll hp.fileless h).trans hp.files
  have hd₀ := hp.next_descriptor
  rw [resolve]
  split
  · rename_i hex
    have hex : Exceeds first place := hex
    refine Or.inl ⟨_, _, by simp [fault?, hex], rfl, ?_, hfiles⟩
    rw [if_pos hex]
    exact hp.undone
  · rename_i hex
    have hex : ¬Exceeds first place := hex
    rw [if_neg hex]
    cases hd : h.descriptors.get? (first + place) with
    | none =>
      rw [hd] at hd₀
      simp only [adopt, hd]
      exact Or.inl ⟨_, _, by simp [fault?, hex, ← hd₀], rfl, hp.undone.extend hd₀.symm, hfiles⟩
    | some d =>
      rw [hd] at hd₀
      rw [adopt_eq hd]
      have hskip := hp.skip hd
      cases hplace : order[place]? with
      | none =>
        have hover : order.length ≤ place := by simpa using hplace
        exact Or.inr ⟨by simp [fault?, hex, ← hd₀, hplace], made, _, rfl, hskip, by omega⟩
      | some k =>
        have hlt := (List.getElem?_eq_some_iff.mp hplace).1
        have hall : made.length = place := by omega
        dsimp only
        rcases hp.listener hex hd hplace hall total with ⟨e, hf, hl⟩ | ⟨id, tls, hf, hs, htls, hl⟩
        · rw [hl]
          exact Or.inl ⟨e, _, hf, rfl, hskip.undone,
            (Host.files_dropAll hskip.fileless _).trans hskip.files⟩
        · rw [hl]
          refine Or.inr ⟨hf, _, _, rfl, hp.make hd hplace hs htls hall, ?_⟩
          rw [List.length_append, List.length_singleton]
          omega

theorem resolve_spec {total left : Nat} {h' : Host} {r : Except EndpointError (List Listener)}
    (hp : Partway h₀ first b place made h) (hlen : made.length = min place order.length)
    (hr : resolve total first b left place made h = (r, h')) :
    Settles h₀ total first b place (place + left) h' r := by
  induction left generalizing place made h with
  | zero =>
    cases hr
    refine ⟨fun i hi hlt => by omega, hp, ?_⟩
    rw [hp.kinds, hlen]
    exact List.take_eq_take_min.symm
  | succ left ih =>
    rcases hp.step hlen total left with ⟨e, h₁, hf, hstop, hu, hfiles⟩ |
      ⟨hf, made', h₁, hgo, hp', hlen'⟩
    · rw [hstop] at hr
      cases hr
      exact ⟨place, Nat.le_refl _, by omega, hf, fun i hi hlt => by omega, hu, hfiles⟩
    · rw [hgo] at hr
      rw [show place + (left + 1) = place + 1 + left by omega]
      exact (ih hp' hlen' hr).step hf

end Inheritance

/-- What the taking over of all descriptors comes to. -/
theorem Host.inherit_spec [Platform] {h h' : Host} (hs : h.Sound) {count : Nat} {first : Int}
    {b : Bundle} {r : Except EndpointError (List Listener)}
    (hr : h.inherit count first b = (r, h')) :
    Inheritance.Settles h count first b 0 count h' r := by
  have hspec := Inheritance.resolve_spec (Inheritance.Partway.start hs first b) rfl hr
  rwa [Nat.zero_add] at hspec

end Portkeeper
