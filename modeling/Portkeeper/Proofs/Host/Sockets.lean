import Portkeeper.Listener

/-!
What the operations of a host do to its sockets. Every socket gets a number of its own, so a socket
can only be closed by name; `Host.Later` says of two states of a host that nothing was closed in
between but what others had announced to give up.
-/

set_option autoImplicit false

namespace Portkeeper
open Net

namespace Host

/-- Nobody else is going to close a socket. -/
def Spares (h : Host) (id : SocketId) : Prop := ∀ t, (t, Deed.give id) ∉ h.agenda

/-- Every socket that is open, that others will give up, that a descriptor has or that a file names
was opened before: its number has been handed out. Others give up only what is theirs, and no two
descriptors have one number. -/
structure Sound (h : Host) : Prop where
  sockets : ∀ {id : SocketId}, h.isOpen id = true → id < h.nextSocket
  agenda : ∀ {t : Nat} {id : SocketId}, (t, Deed.give id) ∈ h.agenda → id < h.nextSocket
  descriptors : ∀ {fd : Int} {b : Bool} {id : SocketId},
    (fd, Descriptor.mk b (.socket id)) ∈ h.descriptors → id < h.nextSocket ∧ h.Spares id
  distinct : h.descriptors.Pairwise fun d e => d.1 ≠ e.1
  nodes : ∀ {q : Place} {m : Nat} {id : SocketId},
    h.files.at? q = some (.socket m id) → id < h.nextSocket

theorem Sound.get?_fresh {h : Host} (hs : h.Sound) {id : SocketId} (hid : h.nextSocket ≤ id) :
    h.sockets.get? id = none := by
  cases hg : h.sockets.get? id with
  | none => rfl
  | some s =>
    have hlt : id < h.nextSocket := hs.sockets (by simp [isOpen, hg])
    exact absurd hlt (Nat.not_lt.mpr hid)

theorem Sound.spares_fresh {h : Host} (hs : h.Sound) {id : SocketId} (hid : h.nextSocket ≤ id) :
    h.Spares id := by
  intro t ht
  exact absurd (hs.agenda ht) (Nat.not_lt.mpr hid)

/-- A host and what has become of it while nothing was closed by the daemon. -/
structure Later (h h' : Host) : Prop where
  now : h.now ≤ h'.now
  next : h.nextSocket ≤ h'.nextSocket
  agenda : ∀ e ∈ h'.agenda, e ∈ h.agenda
  descriptors : h'.descriptors = h.descriptors
  sockets : ∀ {id : SocketId}, id < h.nextSocket → h.Spares id →
    h'.sockets.get? id = h.sockets.get? id

theorem Later.refl (h : Host) : h.Later h :=
  ⟨Nat.le_refl _, Nat.le_refl _, fun _ he => he, rfl, fun _ _ => rfl⟩

theorem Later.spares {h h' : Host} (hl : h.Later h') {id : SocketId} (hsp : h.Spares id) :
    h'.Spares id :=
  fun t ht => hsp t (hl.agenda _ ht)

theorem Later.trans {a b c : Host} (hab : a.Later b) (hbc : b.Later c) : a.Later c where
  now := Nat.le_trans hab.now hbc.now
  next := Nat.le_trans hab.next hbc.next
  agenda e he := hab.agenda e (hbc.agenda e he)
  descriptors := hbc.descriptors.trans hab.descriptors
  sockets hid hsp := by
    rw [hbc.sockets (Nat.lt_of_lt_of_le hid hab.next) (hab.spares hsp), hab.sockets hid hsp]

/-! ### Opening -/

theorem get?_openSocket (h : Host) (s : Socket) (id : SocketId) :
    (h.openSocket s).2.sockets.get? id =
      if id = h.nextSocket then some s else h.sockets.get? id := by
  by_cases hid : id = h.nextSocket
  · subst hid
    simp [openSocket]
  · simp [openSocket, hid, Table.get?_insert_of_ne h.sockets s hid]

theorem Sound.openSocket {h : Host} (hs : h.Sound) (s : Socket) : (h.openSocket s).2.Sound where
  sockets {id} hid := by
    by_cases he : id = h.nextSocket
    · subst he
      exact Nat.lt_succ_self _
    · have hlt : id < h.nextSocket := hs.sockets (by simpa [isOpen, get?_openSocket, he] using hid)
      exact Nat.lt_succ_of_lt hlt
  agenda ht := Nat.lt_succ_of_lt (hs.agenda ht)
  descriptors hd := ⟨Nat.lt_succ_of_lt (hs.descriptors hd).1, (hs.descriptors hd).2⟩
  distinct := hs.distinct
  nodes hq := Nat.lt_succ_of_lt (hs.nodes hq)

/-- A host that differs in what was picked and what was attempted has the same sockets. -/
theorem Sound.of_same {h h' : Host} (hs : h.Sound) (hk : h'.sockets = h.sockets)
    (hn : h'.nextSocket = h.nextSocket) (ha : h'.agenda = h.agenda)
    (hd : h'.descriptors = h.descriptors) (hf : h'.files = h.files) : h'.Sound where
  sockets hid := hn ▸ hs.sockets (by simpa [isOpen, hk] using hid)
  agenda ht := hn ▸ hs.agenda (ha ▸ ht)
  descriptors ht := by
    obtain ⟨hlt, hsp⟩ := hs.descriptors (hd ▸ ht)
    exact ⟨hn ▸ hlt, fun t hg => hsp t (ha ▸ hg)⟩
  distinct := hd ▸ hs.distinct
  nodes hq := hn ▸ hs.nodes (hf ▸ hq)

theorem Sound.openPicked {h : Host} (hs : h.Sound) (picked : List SocketName) (s : Socket) :
    ({ h with picked }.openSocket s).2.Sound := by
  have hpicked : Sound { h with picked } := hs.of_same rfl rfl rfl rfl rfl
  exact hpicked.openSocket s

end Host

/-! ### Claiming a name -/

/-- The names that an IP address can come to: itself, or with some port if it leaves its port open. -/
inductive Net.SocketAddress.Yields (a : SocketAddress) : SocketName → Prop
  | itself (fixed : a.port ≠ 0) : Yields a (.inet a)
  | picked (free : a.port = 0) {p : UInt16} (hp : p ≠ 0) : Yields a (.inet (a.withPort p))

/-- The names that a vsock address can come to. -/
inductive Net.Vsock.Yields (v : Vsock) : SocketName → Prop
  | itself (fixed : v.port ≠ Vsock.anyPort) : Yields v (.vsock v)
  | picked (free : v.port = Vsock.anyPort) {p : UInt32} (hp : p ≠ Vsock.anyPort) :
      Yields v (.vsock ⟨v.cid, p⟩)

namespace Host

section
variable {h : Host} {n : SocketName} {r : SocketId × Host}

/-- One socket is opened, with one of the names in question. -/
theorem claim_some {picks : Bool} {names : List SocketName} (hc : h.claim picks names = some r) :
    ∃ n ∈ names, h.inUse n = false ∧
      ∃ picked, r = { h with picked }.openSocket ⟨n, .stream, true⟩ := by
  obtain ⟨n, hn, rfl⟩ := Option.map_eq_some_iff.mp hc
  exact ⟨n, List.mem_of_find?_eq_some hn, by simpa using List.find?_some hn, _, rfl⟩

/-- To whoever claims a name, one socket is opened or none. -/
theorem elim_claim (h : Host) (picks : Bool) (names : List SocketName) :
    (h.claim picks names).elim h (·.2) = h ∨
      ∃ s picked, (h.claim picks names).elim h (·.2) = ({ h with picked }.openSocket s).2 := by
  cases hc : h.claim picks names with
  | none => exact Or.inl rfl
  | some r =>
    obtain ⟨n, -, -, picked, rfl⟩ := claim_some hc
    exact Or.inr ⟨_, picked, rfl⟩

theorem eq_some_of_elim {o : Option (SocketId × Host)} {e : Nat}
    (h : o.elim (.error e) Except.ok = .ok r) : o = some r := by
  cases o with
  | none => cases h
  | some r' => exact congrArg some (Except.ok.inj h)

theorem exists_claim_iff {picks : Bool} {names : List SocketName} :
    (∃ r, h.claim picks names = some r) ↔ ∃ n ∈ names, h.inUse n = false := by
  unfold claim
  rw [← Option.isSome_iff_exists, Option.isSome_map, List.find?_isSome]
  simp

variable [Platform] {a : SocketAddress} {v : Vsock}

theorem yields_of_mem_names (hn : n ∈ h.names a) : a.Yields n := by
  unfold names at hn
  split at hn
  · rename_i hfree
    obtain ⟨p, hp, rfl⟩ := List.mem_map.mp hn
    exact .picked hfree (by simpa using (List.mem_filter.mp hp).2)
  · rename_i hfixed
    rw [List.mem_singleton.mp hn]
    exact .itself hfixed

theorem yields_of_mem_vsockNames (hn : n ∈ h.vsockNames v) : v.Yields n := by
  unfold vsockNames at hn
  split at hn
  · rename_i hfree
    obtain ⟨p, hp, rfl⟩ := List.mem_map.mp hn
    exact .picked hfree (by simpa using (List.mem_filter.mp hp).2)
  · rename_i hfixed
    rw [List.mem_singleton.mp hn]
    exact .itself hfixed

/-- Listening on an IP address opens one socket, with a name that the address can come to. -/
theorem listenTcp_ok (hl : h.listenTcp a = .ok r) : ∃ n, a.Yields n ∧
    ∃ picked, r = { h with picked }.openSocket ⟨n, .stream, true⟩ := by
  unfold listenTcp at hl
  split at hl
  · cases hl
  · obtain ⟨n, hn, -, hr⟩ := claim_some (eq_some_of_elim hl)
    exact ⟨n, yields_of_mem_names hn, hr⟩

theorem listenFirst_ok {last : IoError} {as : List SocketAddress}
    (hl : h.listenFirst last as = .ok r) : ∃ a ∈ as, h.listenTcp a = .ok r := by
  induction as generalizing last with
  | nil => cases hl
  | cons a as ih =>
    unfold listenFirst at hl
    split at hl
    · rename_i ha
      cases hl
      exact ⟨a, List.mem_cons_self, ha⟩
    · obtain ⟨b, hb, hr⟩ := ih hl
      exact ⟨b, List.mem_cons_of_mem a hb, hr⟩

theorem listenVsock_ok (hl : h.listenVsock v = .ok r) : ∃ n, v.Yields n ∧
    ∃ picked, r = { h with picked }.openSocket ⟨n, .stream, true⟩ := by
  unfold listenVsock at hl
  split at hl
  · cases hl
  · obtain ⟨n, hn, -, hr⟩ := claim_some (eq_some_of_elim hl)
    exact ⟨n, yields_of_mem_vsockNames hn, hr⟩

end

/-! ### Closing -/

theorem get?_closeSocket (h : Host) (id id' : SocketId) :
    (h.closeSocket id).sockets.get? id' = if id' = id then none else h.sockets.get? id' := by
  by_cases he : id' = id
  · subst he
    simp [closeSocket]
  · simp [closeSocket, he, Table.get?_erase_of_ne h.sockets he]

theorem Sound.closeSocket {h : Host} (hs : h.Sound) (id : SocketId) :
    (h.closeSocket id).Sound where
  sockets {id'} hid := by
    by_cases he : id' = id
    · simp [isOpen, get?_closeSocket, he] at hid
    · exact hs.sockets (by simpa [isOpen, get?_closeSocket, he] using hid)
  agenda ht := hs.agenda ht
  descriptors hd := hs.descriptors hd
  distinct := hs.distinct
  nodes hq := hs.nodes hq

/-- Closing a descriptor takes it away, and with it at most the socket that it alone had. -/
theorem closeDescriptor_cases (h : Host) (fd : Int) :
    h.closeDescriptor fd = { h with descriptors := h.descriptors.erase fd } ∧
        (∀ b id, h.descriptors.get? fd = some ⟨b, .socket id⟩ →
          ∃ e ∈ h.descriptors.erase fd, e.2.target = .socket id) ∨
      ∃ b id, h.descriptors.get? fd = some ⟨b, .socket id⟩ ∧
        (∀ e ∈ h.descriptors.erase fd, e.2.target ≠ .socket id) ∧
        h.closeDescriptor fd =
          { h with descriptors := h.descriptors.erase fd, sockets := h.sockets.erase id } := by
  unfold closeDescriptor
  dsimp only
  split
  · rename_i b id hg
    split
    · rename_i hany
      obtain ⟨e, he, ht⟩ := List.any_eq_true.mp hany
      refine Or.inl ⟨rfl, fun b' id' hg' => ?_⟩
      rw [hg] at hg'
      cases hg'
      exact ⟨e, he, by simpa using ht⟩
    · rename_i hany
      refine Or.inr ⟨b, id, hg, fun e he ht => hany ?_, rfl⟩
      exact List.any_eq_true.mpr ⟨e, he, by simpa using ht⟩
  · rename_i hno
    exact Or.inl ⟨rfl, fun b id hg => absurd hg (hno b id)⟩

@[simp] theorem descriptors_closeDescriptor (h : Host) (fd : Int) :
    (h.closeDescriptor fd).descriptors = h.descriptors.erase fd := by
  rcases closeDescriptor_cases h fd with ⟨he, -⟩ | ⟨_, _, -, -, he⟩ <;> rw [he]

@[simp] theorem now_closeDescriptor (h : Host) (fd : Int) :
    (h.closeDescriptor fd).now = h.now := by
  rcases closeDescriptor_cases h fd with ⟨he, -⟩ | ⟨_, _, -, -, he⟩ <;> rw [he]

@[simp] theorem nextSocket_closeDescriptor (h : Host) (fd : Int) :
    (h.closeDescriptor fd).nextSocket = h.nextSocket := by
  rcases closeDescriptor_cases h fd with ⟨he, -⟩ | ⟨_, _, -, -, he⟩ <;> rw [he]

@[simp] theorem agenda_closeDescriptor (h : Host) (fd : Int) :
    (h.closeDescriptor fd).agenda = h.agenda := by
  rcases closeDescriptor_cases h fd with ⟨he, -⟩ | ⟨_, _, -, -, he⟩ <;> rw [he]

@[simp] theorem files_closeDescriptor (h : Host) (fd : Int) :
    (h.closeDescriptor fd).files = h.files := by
  rcases closeDescriptor_cases h fd with ⟨he, -⟩ | ⟨_, _, -, -, he⟩ <;> rw [he]

@[simp] theorem attempts_closeDescriptor (h : Host) (fd : Int) :
    (h.closeDescriptor fd).attempts = h.attempts := by
  rcases closeDescriptor_cases h fd with ⟨he, -⟩ | ⟨_, _, -, -, he⟩ <;> rw [he]

theorem get?_closeDescriptor_of_ne (h : Host) {fd : Int} {id : SocketId}
    (hid : ∀ b, h.descriptors.get? fd ≠ some ⟨b, .socket id⟩) :
    (h.closeDescriptor fd).sockets.get? id = h.sockets.get? id := by
  rcases closeDescriptor_cases h fd with ⟨he, -⟩ | ⟨b, id', hg, -, he⟩
  · rw [he]
  · have hne : id ≠ id' := fun hc => hid b (hc ▸ hg)
    rw [he]
    exact Table.get?_erase_of_ne h.sockets hne

/-- A socket that is still open after one of its descriptors was closed has another. -/
theorem exists_descriptor_of_isOpen (h : Host) {fd : Int} {b : Bool} {id : SocketId}
    (hg : h.descriptors.get? fd = some ⟨b, .socket id⟩)
    (ho : (h.closeDescriptor fd).isOpen id = true) :
    ∃ e ∈ (h.closeDescriptor fd).descriptors, e.2.target = .socket id := by
  rcases closeDescriptor_cases h fd with ⟨he, hother⟩ | ⟨b', id', hg', -, he⟩
  · rw [he]
    exact hother b id hg
  · rw [hg] at hg'
    cases hg'
    rw [he] at ho
    simp [isOpen] at ho

theorem isOpen_of_isOpen_closeDescriptor (h : Host) {fd : Int} {id : SocketId}
    (ho : (h.closeDescriptor fd).isOpen id = true) : h.isOpen id = true := by
  rcases closeDescriptor_cases h fd with ⟨he, -⟩ | ⟨b, id', -, -, he⟩
  · simpa [isOpen, he] using ho
  · by_cases hc : id = id'
    · simp [isOpen, he, hc] at ho
    · simpa [isOpen, he, Table.get?_erase_of_ne h.sockets hc] using ho

theorem Sound.closeDescriptor {h : Host} (hs : h.Sound) (fd : Int) :
    (h.closeDescriptor fd).Sound where
  sockets hid := by
    rw [nextSocket_closeDescriptor]
    exact hs.sockets (isOpen_of_isOpen_closeDescriptor h hid)
  agenda ht := by
    rw [nextSocket_closeDescriptor]
    exact hs.agenda (by simpa using ht)
  descriptors hd := by
    rw [descriptors_closeDescriptor] at hd
    obtain ⟨hlt, hsp⟩ := hs.descriptors (Table.mem_erase.mp hd).1
    exact ⟨by simpa using hlt, by simpa [Spares] using hsp⟩
  distinct := by
    rw [descriptors_closeDescriptor]
    exact hs.distinct.filter _
  nodes hq := by
    rw [nextSocket_closeDescriptor]
    exact hs.nodes (by simpa using hq)

/-! ### Time -/

variable [Platform]

/-- What someone else does opens a socket with a number of its own, closes the socket that was
announced, or comes to nothing. -/
theorem perform_cases (h : Host) (d : Deed) :
    h.perform d = h ∨ (∃ s picked, h.perform d = ({ h with picked }.openSocket s).2) ∨
      ∃ id, d = .give id ∧ h.perform d = h.closeSocket id := by
  cases d with
  | take a => exact (h.elim_claim _ _).imp_right Or.inl
  | takeVsock v => exact (h.elim_claim _ _).imp_right Or.inl
  | give id => exact Or.inr (Or.inr ⟨id, rfl, rfl⟩)

theorem Sound.perform {h : Host} (hs : h.Sound) (d : Deed) : (h.perform d).Sound := by
  rcases perform_cases h d with he | ⟨s, picked, he⟩ | ⟨id, -, he⟩
  · rwa [he]
  · rw [he]
    exact hs.openPicked picked s
  · rw [he]
    exact hs.closeSocket id

/-- Others do not turn back the clock and leave files and descriptors alone. -/
theorem perform_keeps (h : Host) (d : Deed) :
    (h.perform d).now = h.now ∧ (h.perform d).agenda = h.agenda ∧
      (h.perform d).descriptors = h.descriptors ∧ (h.perform d).files = h.files ∧
      (h.perform d).attempts = h.attempts ∧ h.nextSocket ≤ (h.perform d).nextSocket := by
  rcases perform_cases h d with he | ⟨s, picked, he⟩ | ⟨id, -, he⟩
  · simp [he]
  · rw [he]
    exact ⟨rfl, rfl, rfl, rfl, rfl, Nat.le_succ _⟩
  · rw [he]
    exact ⟨rfl, rfl, rfl, rfl, rfl, Nat.le_refl _⟩

theorem get?_perform {h : Host} {d : Deed} {id : SocketId} (hid : id < h.nextSocket)
    (hd : d ≠ .give id) : (h.perform d).sockets.get? id = h.sockets.get? id := by
  rcases perform_cases h d with he | ⟨s, picked, he⟩ | ⟨id', hd', he⟩
  · rw [he]
  · rw [he, get?_openSocket, if_neg (Nat.ne_of_lt hid)]
  · have hne : id ≠ id' := fun hc => hd (hc ▸ hd')
    rw [he, get?_closeSocket, if_neg hne]

/-- The same for all that others do in turn. -/
theorem foldl_perform (due : List (Nat × Deed)) (h : Host) (hs : h.Sound) :
    let h' := due.foldl (fun h e => h.perform e.2) h
    h'.Sound ∧ h'.now = h.now ∧ h'.agenda = h.agenda ∧ h'.descriptors = h.descriptors ∧
      h'.files = h.files ∧ h'.attempts = h.attempts ∧ h.nextSocket ≤ h'.nextSocket ∧
      ∀ id < h.nextSocket, (∀ e ∈ due, e.2 ≠ .give id) →
        h'.sockets.get? id = h.sockets.get? id := by
  -- Induction on what is due: each deed keeps all of it, and the socket numbers only grow.
  induction due generalizing h with
  | nil => exact ⟨hs, rfl, rfl, rfl, rfl, rfl, Nat.le_refl _, fun _ _ _ => rfl⟩
  | cons e due ih =>
    obtain ⟨hn, ha, hd, hf, ht, hl⟩ := perform_keeps h e.2
    obtain ⟨is, in', ia, id', if', it, il, ik⟩ := ih (h.perform e.2) (hs.perform e.2)
    refine ⟨is, in'.trans hn, ia.trans ha, id'.trans hd, if'.trans hf, it.trans ht,
      Nat.le_trans hl il, fun id hid hsp => ?_⟩
    have hlt : id < (h.perform e.2).nextSocket := Nat.lt_of_lt_of_le hid hl
    have hrest : ∀ e' ∈ due, e'.2 ≠ .give id := fun e' he' => hsp e' (List.mem_cons_of_mem _ he')
    calc (List.foldl (fun h e => h.perform e.2) (h.perform e.2) due).sockets.get? id
        _ = (h.perform e.2).sockets.get? id := ik id hlt hrest
        _ = h.sockets.get? id := get?_perform hid (hsp e List.mem_cons_self)

/-- What sleeping does: the time is another, what was due is done, and nothing else. -/
theorem sleep_keeps {h : Host} (hs : h.Sound) (d : Nat) :
    (h.sleep d).Sound ∧ h.Later (h.sleep d) ∧ (h.sleep d).now = h.now + d ∧
      (h.sleep d).files = h.files ∧ (h.sleep d).attempts = h.attempts := by
  let due := (h.agenda.filter (·.1 ≤ h.now + d)).mergeSort fun a b => decide (a.1 ≤ b.1)
  obtain ⟨is, -, -, hd, hf, ht, hl, hk⟩ := foldl_perform due h hs
  have hdue : ∀ e ∈ due, e ∈ h.agenda := fun e he => by
    have he := (List.mergeSort_perm _ _).mem_iff.mp he
    exact (List.mem_filter.mp he).1
  refine ⟨⟨is.sockets, fun {t id} hg => ?_, fun {fd b id} hm => ?_, is.distinct, is.nodes⟩,
    ⟨Nat.le_add_right _ _, hl, fun e he => (List.mem_filter.mp he).1, hd, fun {id} hid hsp => ?_⟩,
    rfl, hf, ht⟩
  · have hg : (t, Deed.give id) ∈ h.agenda := (List.mem_filter.mp hg).1
    exact Nat.lt_of_lt_of_le (hs.agenda hg) hl
  · obtain ⟨hlt, hsp⟩ := hs.descriptors (hd ▸ hm)
    exact ⟨Nat.lt_of_lt_of_le hlt hl, fun t hg => hsp t (List.mem_filter.mp hg).1⟩
  · exact hk id hid fun e he hc => hsp e.1 (hc ▸ hdue e he)

theorem Sound.sleep {h : Host} (hs : h.Sound) (d : Nat) : (h.sleep d).Sound := (sleep_keeps hs d).1

theorem Sound.later_sleep {h : Host} (hs : h.Sound) (d : Nat) : h.Later (h.sleep d) :=
  (sleep_keeps hs d).2.1

@[simp] theorem now_sleep (h : Host) (d : Nat) : (h.sleep d).now = h.now + d := rfl

theorem Sound.files_sleep {h : Host} (hs : h.Sound) (d : Nat) : (h.sleep d).files = h.files :=
  (sleep_keeps hs d).2.2.2.1

theorem Sound.attempts_sleep {h : Host} (hs : h.Sound) (d : Nat) :
    (h.sleep d).attempts = h.attempts :=
  (sleep_keeps hs d).2.2.2.2

end Host
end Portkeeper
