import Portkeeper.Proofs.Host.Listening

/-!
What it means that a listener has its socket, and that it has let go of it. A fresh listener has the
socket to itself; one that was handed over has it through its descriptor, and other descriptors may
keep the socket open when that one is closed.
-/

set_option autoImplicit false

namespace Portkeeper

theorem Table.get?_of_mem {κ α : Type} [DecidableEq κ] {t : Table κ α}
    (ht : t.Pairwise fun d e => d.1 ≠ e.1) {e : κ × α} (he : e ∈ t) : t.get? e.1 = some e.2 := by
  induction t with
  | nil => cases he
  | cons d t ih =>
    rw [List.pairwise_cons] at ht
    rw [get?_cons]
    rcases List.mem_cons.mp he with rfl | he
    · rw [if_pos rfl]
    · rw [if_neg (ht.1 e he)]
      exact ih ht.2 he

namespace Host

/-- A socket is as it was, and still nobody is going to close it who was not. -/
structure Leaves (h h' : Host) (id : SocketId) : Prop where
  next : h.nextSocket ≤ h'.nextSocket
  descriptors : h'.descriptors = h.descriptors
  socket : h'.sockets.get? id = h.sockets.get? id
  spares : h.Spares id → h'.Spares id

theorem Later.leaves {h h' : Host} (hl : h.Later h') {id : SocketId} (hid : id < h.nextSocket)
    (hsp : h.Spares id) : h.Leaves h' id :=
  ⟨hl.next, hl.descriptors, hl.sockets hid hsp, hl.spares⟩

theorem Leaves.isOpen {h h' : Host} {id : SocketId} (hl : h.Leaves h' id) :
    h'.isOpen id = h.isOpen id := by
  rw [Host.isOpen, Host.isOpen, hl.socket]

end Host

namespace Listener

/-- A listener has its socket: it is open, and stays so until the listener is closed. -/
structure Holds (l : Listener) (h : Host) : Prop where
  bounded : l.socket < h.nextSocket
  spares : h.Spares l.socket
  isOpen : h.isOpen l.socket = true
  fresh : l.descriptor = none → ∀ e ∈ h.descriptors, e.2.target ≠ .socket l.socket
  inherited : ∀ fd, l.descriptor = some fd →
    ∃ b, h.descriptors.get? fd = some ⟨b, .socket l.socket⟩

/-- A listener has let go of its socket, which is closed, unless a descriptor that the listener did
not come by keeps it open. -/
structure Released (l : Listener) (h : Host) : Prop where
  bounded : l.socket < h.nextSocket
  spares : h.Spares l.socket
  fresh : l.descriptor = none → h.isOpen l.socket = false
  inherited : ∀ fd, l.descriptor = some fd → h.descriptors.get? fd = none
  shared : h.isOpen l.socket = true → ∃ e ∈ h.descriptors, e.2.target = .socket l.socket

variable {h h' : Host} {l m : Listener}

theorem Holds.leaves (hl : l.Holds h) (hh : h.Leaves h' l.socket) : l.Holds h' where
  bounded := Nat.lt_of_lt_of_le hl.bounded hh.next
  spares := hh.spares hl.spares
  isOpen := hh.isOpen.trans hl.isOpen
  fresh hd := hh.descriptors ▸ hl.fresh hd
  inherited fd hd := hh.descriptors ▸ hl.inherited fd hd

theorem Released.leaves (hl : l.Released h) (hh : h.Leaves h' l.socket) : l.Released h' where
  bounded := Nat.lt_of_lt_of_le hl.bounded hh.next
  spares := hh.spares hl.spares
  fresh hd := hh.isOpen.trans (hl.fresh hd)
  inherited fd hd := hh.descriptors ▸ hl.inherited fd hd
  shared ho := hh.descriptors ▸ hl.shared (hh.isOpen ▸ ho)

theorem Holds.later (hl : l.Holds h) (hh : h.Later h') : l.Holds h' :=
  hl.leaves (hh.leaves hl.bounded hl.spares)

theorem Released.later (hl : l.Released h) (hh : h.Later h') : l.Released h' :=
  hl.leaves (hh.leaves hl.bounded hl.spares)

/-! ### Closing another socket -/

theorem Holds.closeSocket (hl : l.Holds h) {id : SocketId} (hid : l.socket ≠ id) :
    l.Holds (h.closeSocket id) where
  bounded := hl.bounded
  spares := hl.spares
  isOpen := by simpa [Host.isOpen, Host.get?_closeSocket, hid] using hl.isOpen
  fresh := hl.fresh
  inherited := hl.inherited

theorem Released.closeSocket (hl : l.Released h) (id : SocketId) :
    l.Released (h.closeSocket id) where
  bounded := hl.bounded
  spares := hl.spares
  fresh hd := by
    have hc := hl.fresh hd
    simp only [Host.isOpen, Host.get?_closeSocket] at hc ⊢
    split <;> simp_all
  inherited := hl.inherited
  shared ho := by
    simp only [Host.isOpen, Host.get?_closeSocket] at ho
    split at ho
    · cases ho
    · exact hl.shared ho

/-- Whoever has a socket through one descriptor keeps it when another one is closed. -/
theorem Holds.get?_closeDescriptor (hl : l.Holds h) {fd : Int} (hfd : l.descriptor ≠ some fd) :
    (h.closeDescriptor fd).sockets.get? l.socket = h.sockets.get? l.socket := by
  rcases Host.closeDescriptor_cases h fd with ⟨he, -⟩ | ⟨b, id, hg, hno, he⟩
  · rw [he]
  · have hne : l.socket ≠ id := by
      rintro rfl
      cases hd : l.descriptor with
      | none => exact hl.fresh hd _ (Table.mem_of_get? hg) rfl
      | some fd' =>
        obtain ⟨b', hg'⟩ := hl.inherited fd' hd
        have hne : fd' ≠ fd := fun hc => hfd (hc ▸ hd)
        exact hno _ (Table.mem_erase.mpr ⟨Table.mem_of_get? hg', hne⟩) rfl
    rw [he]
    exact Table.get?_erase_of_ne h.sockets hne

theorem Holds.closeDescriptor (hl : l.Holds h) {fd : Int} (hfd : l.descriptor ≠ some fd) :
    l.Holds (h.closeDescriptor fd) := by
  refine ⟨by simpa using hl.bounded, by simpa [Host.Spares] using hl.spares, ?_, ?_, ?_⟩
  · rw [Host.isOpen, hl.get?_closeDescriptor hfd]
    exact hl.isOpen
  · intro hd e he
    rw [Host.descriptors_closeDescriptor] at he
    exact hl.fresh hd e (Table.mem_erase.mp he).1
  · intro fd' hd
    obtain ⟨b, hg⟩ := hl.inherited fd' hd
    have hne : fd' ≠ fd := fun hc => hfd (hc ▸ hd)
    exact ⟨b, by rw [Host.descriptors_closeDescriptor, Table.get?_erase_of_ne _ hne, hg]⟩

theorem Released.closeDescriptor (hs : h.Sound) (hl : l.Released h) (fd : Int) :
    l.Released (h.closeDescriptor fd) where
  bounded := by simpa using hl.bounded
  spares := by simpa [Host.Spares] using hl.spares
  fresh hd := by
    cases ho : (h.closeDescriptor fd).isOpen l.socket with
    | false => rfl
    | true =>
      have hc := hl.fresh hd
      rw [Host.isOpen_of_isOpen_closeDescriptor h ho] at hc
      cases hc
  inherited fd' hd := by
    have hn := hl.inherited fd' hd
    rw [Host.descriptors_closeDescriptor]
    by_cases he : fd' = fd
    · rw [he, Table.get?_erase_self]
    · rw [Table.get?_erase_of_ne _ he, hn]
  shared ho := by
    by_cases hg : ∃ b, h.descriptors.get? fd = some ⟨b, .socket l.socket⟩
    · obtain ⟨b, hg⟩ := hg
      exact h.exists_descriptor_of_isOpen hg ho
    · obtain ⟨e, he, ht⟩ := hl.shared (Host.isOpen_of_isOpen_closeDescriptor h ho)
      refine ⟨e, ?_, ht⟩
      rw [Host.descriptors_closeDescriptor, Table.mem_erase]
      refine ⟨he, ?_⟩
      rintro rfl
      exact hg ⟨e.2.closeOnExec, by rw [Table.get?_of_mem hs.distinct he, ← ht]⟩

end Listener

/-! ### Closing a listener -/

namespace Host

/-- The host without the socket of a listener, or without the descriptor that it came by. -/
def letGo (h : Host) (l : Listener) : Host :=
  match l.descriptor with
  | some fd => h.closeDescriptor fd
  | none => h.closeSocket l.socket

theorem drop_eq (h : Host) (l : Listener) :
    h.drop l = match l.file with
      | some p => (h.letGo l).unlink p
      | none => h.letGo l := by
  unfold drop letGo
  rfl

theorem unlink_eq (h : Host) (p : List Char) : ∃ files, h.unlink p = { h with files } ∧
    ∀ q m id, files.at? q = some (.socket m id) → h.files.at? q = some (.socket m id) := by
  unfold unlink
  split
  · rename_i files hr
    obtain ⟨q, node, -, hn, hd, -, rfl⟩ := Files.remove_ok hr
    exact ⟨_, rfl, fun q' m id hq => (Files.at?_of_clearAt (Files.ne_nil_of_at? hn hd) hq).2⟩
  · exact ⟨h.files, rfl, fun _ _ _ hq => hq⟩

theorem files_letGo (h : Host) (l : Listener) : (h.letGo l).files = h.files := by
  unfold letGo
  split
  · exact files_closeDescriptor h _
  · rfl

/-- Apart from its files a host is after closing a listener as it is without the listener's socket.
-/
theorem drop_keeps (h : Host) (l : Listener) : ∃ files, h.drop l = { h.letGo l with files } ∧
    ∀ q m id, files.at? q = some (.socket m id) → h.files.at? q = some (.socket m id) := by
  have hf := h.files_letGo l
  rw [drop_eq]
  split
  · rename_i p _
    obtain ⟨files, he, hn⟩ := (h.letGo l).unlink_eq p
    exact ⟨files, he, hf ▸ hn⟩
  · exact ⟨(h.letGo l).files, rfl, fun _ _ _ hq => hf ▸ hq⟩

theorem letGo_keeps (h : Host) (l : Listener) :
    (h.letGo l).now = h.now ∧ (h.letGo l).nextSocket = h.nextSocket ∧
      (h.letGo l).agenda = h.agenda ∧ (h.letGo l).attempts = h.attempts ∧
      ∀ e ∈ (h.letGo l).descriptors, e ∈ h.descriptors := by
  unfold letGo
  split
  · exact ⟨now_closeDescriptor h _, nextSocket_closeDescriptor h _, agenda_closeDescriptor h _,
      attempts_closeDescriptor h _, fun e he => by
        rw [descriptors_closeDescriptor] at he
        exact (Table.mem_erase.mp he).1⟩
  · exact ⟨rfl, rfl, rfl, rfl, fun _ he => he⟩

theorem now_drop (h : Host) (l : Listener) : (h.drop l).now = h.now := by
  obtain ⟨files, he, -⟩ := h.drop_keeps l
  rw [he]
  exact (h.letGo_keeps l).1

theorem nextSocket_drop (h : Host) (l : Listener) : (h.drop l).nextSocket = h.nextSocket := by
  obtain ⟨files, he, -⟩ := h.drop_keeps l
  rw [he]
  exact (h.letGo_keeps l).2.1

theorem attempts_drop (h : Host) (l : Listener) : (h.drop l).attempts = h.attempts := by
  obtain ⟨files, he, -⟩ := h.drop_keeps l
  rw [he]
  exact (h.letGo_keeps l).2.2.2.1

theorem Sound.drop {h : Host} (hs : h.Sound) (l : Listener) : (h.drop l).Sound := by
  obtain ⟨files, he, hn⟩ := h.drop_keeps l
  have hg : (h.letGo l).Sound := by
    unfold letGo
    split
    · exact hs.closeDescriptor _
    · exact hs.closeSocket _
  have hnext := (h.letGo_keeps l).2.1
  rw [he]
  exact ⟨hg.sockets, hg.agenda, hg.descriptors, hg.distinct,
    fun hq => hnext ▸ hs.nodes (hn _ _ _ hq)⟩

end Host

namespace Listener

variable {h : Host} {l m : Listener}

theorem Holds.of_files (hl : l.Holds h) (files : Files) : l.Holds { h with files } :=
  hl.leaves ⟨Nat.le_refl _, rfl, rfl, fun hsp => hsp⟩

theorem Released.of_files (hl : l.Released h) (files : Files) : l.Released { h with files } :=
  hl.leaves ⟨Nat.le_refl _, rfl, rfl, fun hsp => hsp⟩

theorem Holds.released_drop (hl : l.Holds h) : l.Released (h.drop l) := by
  obtain ⟨files, he, -⟩ := h.drop_keeps l
  rw [he]
  refine Released.of_files ?_ files
  unfold Host.letGo
  cases hd : l.descriptor with
  | none =>
    have hc : (h.closeSocket l.socket).isOpen l.socket = false := by
      simp [Host.isOpen, Host.get?_closeSocket]
    exact ⟨hl.bounded, hl.spares, fun _ => hc, by simp [hd], fun ho => by simp [hc] at ho⟩
  | some fd =>
    obtain ⟨b, hg⟩ := hl.inherited fd hd
    refine ⟨by simpa using hl.bounded, by simpa [Host.Spares] using hl.spares, by simp [hd], ?_,
      fun ho => h.exists_descriptor_of_isOpen hg ho⟩
    intro fd' hd'
    obtain rfl : fd = fd' := Option.some.inj (hd.symm.trans hd')
    simp

theorem Holds.drop (hm : m.Holds h) (hl : l.Holds h) (hne : m.socket ≠ l.socket) :
    m.Holds (h.drop l) := by
  obtain ⟨files, he, -⟩ := h.drop_keeps l
  rw [he]
  refine Holds.of_files ?_ files
  unfold Host.letGo
  cases hd : l.descriptor with
  | none => exact hm.closeSocket hne
  | some fd =>
    refine hm.closeDescriptor fun hc => hne ?_
    obtain ⟨b, hg⟩ := hm.inherited fd hc
    obtain ⟨b', hg'⟩ := hl.inherited fd hd
    rw [hg] at hg'
    simp only [Option.some.injEq, Descriptor.mk.injEq, DescriptorTarget.socket.injEq] at hg'
    exact hg'.2

theorem Released.drop (hs : h.Sound) (hm : m.Released h) (l : Listener) :
    m.Released (h.drop l) := by
  obtain ⟨files, he, -⟩ := h.drop_keeps l
  rw [he]
  refine Released.of_files ?_ files
  unfold Host.letGo
  cases hd : l.descriptor with
  | none => exact hm.closeSocket _
  | some fd => exact hm.closeDescriptor hs fd

theorem Holds.get?_drop (hl : l.Holds h) {id : SocketId} (hid : id ≠ l.socket) :
    (h.drop l).sockets.get? id = h.sockets.get? id := by
  obtain ⟨files, he, -⟩ := h.drop_keeps l
  rw [he]
  show (h.letGo l).sockets.get? id = _
  unfold Host.letGo
  cases hd : l.descriptor with
  | none =>
    show (h.closeSocket l.socket).sockets.get? id = _
    rw [Host.get?_closeSocket, if_neg hid]
  | some fd =>
    refine h.get?_closeDescriptor_of_ne fun b hg => hid ?_
    obtain ⟨b', hg'⟩ := hl.inherited fd hd
    rw [hg] at hg'
    cases hg'
    rfl

end Listener

namespace Host.Opens

variable [Platform] {h h' : Host} {k : Kind} {address : String} {b : Bundle} {l : Listener}

theorem later (ho : h.Opens h' k address b l) : h.Later h' := by
  obtain ⟨n, -, hg⟩ := ho.name
  exact hg.later

/-- A fresh listener has its socket, and it is one that nothing had before. -/
theorem holds (hs : h.Sound) (ho : h.Opens h' k address b l) : l.Holds h' := by
  obtain ⟨n, -, hg⟩ := ho.name
  refine ⟨?_, ?_, ?_, fun _ e he ht => ?_, by simp [ho.descriptor]⟩
  · rw [ho.socket, hg.next]
    exact Nat.lt_succ_self _
  · rw [ho.socket]
    exact hg.later.spares (hs.spares_fresh (Nat.le_refl _))
  · rw [ho.socket, isOpen, hg.get?_self]
    rfl
  · obtain ⟨fd, b, t⟩ := e
    obtain rfl : t = .socket l.socket := ht
    have hlt := (hs.descriptors (hg.descriptors ▸ he)).1
    rw [ho.socket] at hlt
    exact Nat.lt_irrefl _ hlt

theorem named (ho : h.Opens h' k address b l) : ∃ n, k.Asks address n ∧
    h'.sockets.get? l.socket = some ⟨n, .stream, true⟩ := by
  obtain ⟨n, hn, hg⟩ := ho.name
  exact ⟨n, hn, ho.socket ▸ hg.get?_self⟩

end Host.Opens
end Portkeeper
