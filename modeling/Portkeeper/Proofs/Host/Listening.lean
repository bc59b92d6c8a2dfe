import Portkeeper.Proofs.Host.Sockets
import Portkeeper.Proofs.Host.Paths

/-!
What comes of an attempt to listen. Either one socket is open that was not, with a name that the
address asks for, or no socket is open that was not. In no case is any other socket touched.
-/

set_option autoImplicit false

namespace Portkeeper
open Net

namespace Host

/-- No socket was opened or closed. -/
structure Steady (h h' : Host) : Prop where
  now : h'.now = h.now
  agenda : h'.agenda = h.agenda
  descriptors : h'.descriptors = h.descriptors
  next : h.nextSocket ≤ h'.nextSocket
  sockets : ∀ id, h'.sockets.get? id = h.sockets.get? id

/-- One socket was opened, with a number of its own. -/
structure Gains (h h' : Host) (s : Socket) : Prop where
  now : h'.now = h.now
  agenda : h'.agenda = h.agenda
  descriptors : h'.descriptors = h.descriptors
  next : h'.nextSocket = h.nextSocket + 1
  sockets : ∀ id, h'.sockets.get? id = if id = h.nextSocket then some s else h.sockets.get? id

theorem Steady.refl (h : Host) : h.Steady h := ⟨rfl, rfl, rfl, Nat.le_refl _, fun _ => rfl⟩

theorem Steady.trans {a b c : Host} (hab : a.Steady b) (hbc : b.Steady c) : a.Steady c :=
  ⟨hbc.now.trans hab.now, hbc.agenda.trans hab.agenda, hbc.descriptors.trans hab.descriptors,
    Nat.le_trans hab.next hbc.next, fun id => (hbc.sockets id).trans (hab.sockets id)⟩

theorem Steady.later {h h' : Host} (hs : h.Steady h') : h.Later h' :=
  ⟨Nat.le_of_eq hs.now.symm, hs.next, fun _ he => hs.agenda ▸ he, hs.descriptors,
    fun {id} _ _ => hs.sockets id⟩

theorem Gains.later {h h' : Host} {s : Socket} (hg : h.Gains h' s) : h.Later h' :=
  ⟨Nat.le_of_eq hg.now.symm, hg.next ▸ Nat.le_succ _, fun _ he => hg.agenda ▸ he, hg.descriptors,
    fun {id} hid _ => by rw [hg.sockets, if_neg (Nat.ne_of_lt hid)]⟩

theorem Gains.get?_self {h h' : Host} {s : Socket} (hg : h.Gains h' s) :
    h'.sockets.get? h.nextSocket = some s := by rw [hg.sockets, if_pos rfl]

theorem Gains.closeSocket {h h' : Host} {s : Socket} (hs : h.Sound) (hg : h.Gains h' s) :
    h.Steady (h'.closeSocket h.nextSocket) where
  now := hg.now
  agenda := hg.agenda
  descriptors := hg.descriptors
  next := by
    have : (h'.closeSocket h.nextSocket).nextSocket = h.nextSocket + 1 := hg.next
    rw [this]
    exact Nat.le_succ _
  sockets id := by
    rw [get?_closeSocket]
    by_cases hid : id = h.nextSocket
    · rw [if_pos hid, hs.get?_fresh (Nat.le_of_eq hid.symm)]
    · rw [if_neg hid, hg.sockets, if_neg hid]

theorem Steady.gains {a b c : Host} {s : Socket} (hab : a.Steady b)
    (hn : b.nextSocket = a.nextSocket) (hbc : b.Gains c s) : a.Gains c s where
  now := hbc.now.trans hab.now
  agenda := hbc.agenda.trans hab.agenda
  descriptors := hbc.descriptors.trans hab.descriptors
  next := hn ▸ hbc.next
  sockets id := by rw [hbc.sockets, hn, hab.sockets]

theorem steady_files (h : Host) (files : Files) : h.Steady { h with files } :=
  ⟨rfl, rfl, rfl, Nat.le_refl _, fun _ => rfl⟩

theorem gains_openSocket (h : Host) (picked : List SocketName) (s : Socket) :
    h.Gains ({ h with picked }.openSocket s).2 s :=
  ⟨rfl, rfl, rfl, rfl, get?_openSocket { h with picked } s⟩

theorem Steady.sound {h h' : Host} (hs : h.Sound) (hst : h.Steady h')
    (hf : ∀ q m id, h'.files.at? q = some (.socket m id) → h.files.at? q = some (.socket m id)) :
    h'.Sound where
  sockets {id} hid := by
    have hid : h.isOpen id = true := by simpa [isOpen, hst.sockets] using hid
    exact Nat.lt_of_lt_of_le (hs.sockets hid) hst.next
  agenda ht := Nat.lt_of_lt_of_le (hs.agenda (hst.agenda ▸ ht)) hst.next
  descriptors hd := by
    obtain ⟨hlt, hsp⟩ := hs.descriptors (hst.descriptors ▸ hd)
    exact ⟨Nat.lt_of_lt_of_le hlt hst.next, hst.later.spares hsp⟩
  distinct := hst.descriptors ▸ hs.distinct
  nodes hq := Nat.lt_of_lt_of_le (hs.nodes (hf _ _ _ hq)) hst.next

theorem Gains.sound {h h' : Host} {s : Socket} (hs : h.Sound) (hg : h.Gains h' s)
    (hf : ∀ q m id, h'.files.at? q = some (.socket m id) →
      h.files.at? q = some (.socket m id) ∨ id = h.nextSocket) : h'.Sound := by
  have hnext : h.nextSocket < h'.nextSocket := by
    rw [hg.next]
    exact Nat.lt_succ_self _
  refine ⟨fun {id} hid => ?_, fun ht => ?_, fun hd => ?_, hg.descriptors ▸ hs.distinct,
    fun hq => ?_⟩
  · by_cases he : id = h.nextSocket
    · exact he ▸ hnext
    · have hid : h.isOpen id = true := by simpa [isOpen, hg.sockets, he] using hid
      exact Nat.lt_trans (hs.sockets hid) hnext
  · exact Nat.lt_trans (hs.agenda (hg.agenda ▸ ht)) hnext
  · obtain ⟨hlt, hsp⟩ := hs.descriptors (hg.descriptors ▸ hd)
    exact ⟨Nat.lt_trans hlt hnext, hg.later.spares hsp⟩
  · rcases hf _ _ _ hq with hq | rfl
    · exact Nat.lt_trans (hs.nodes hq) hnext
    · exact hnext

theorem attempt_keeps (h : Host) (address : List Char) :
    h.Steady (h.attempt address).2 ∧ (h.attempt address).2.nextSocket = h.nextSocket ∧
      (h.attempt address).2.files = h.files := by
  unfold attempt
  dsimp only
  split <;> exact ⟨⟨rfl, rfl, rfl, Nat.le_refl _, fun _ => rfl⟩, rfl, rfl⟩

theorem Sound.attempt {h : Host} (hs : h.Sound) (address : List Char) :
    (h.attempt address).2.Sound := by
  unfold Host.attempt
  dsimp only
  split <;> exact hs.of_same rfl rfl rfl rfl rfl

end Host

/-! ### The names that addresses ask for -/

section
variable [Platform]

/-- A socket name that a canonical address of a kind asks for. -/
def Kind.Yields (k : Kind) (cs : List Char) (n : SocketName) : Prop :=
  match k.transport with
  | .unix => n = .unix (.path cs)
  | .tls => ∃ a : SocketAddress, a.Behind cs ∧ a.Yields n
  | .vsock => ∃ v, Listen.vsock 0 cs = .ok v ∧ v.Yields n

/-- A socket name that a listen address of a kind asks for. -/
def Kind.Asks (k : Kind) (address : String) (n : SocketName) : Prop :=
  ∃ c, k.canonicalize address = .ok c ∧ k.Yields c.toList n

namespace Bind

variable {k : Kind} {address : List Char} {h h' : Host} {r : Except EndpointError Bound}

theorem tcp_spec (hs : h.Sound) (ht : tcp k address h = (r, h')) :
    h'.Sound ∧ h'.files = h.files ∧ match r with
      | .ok (id, file) => id = h.nextSocket ∧ file = none ∧ ∃ (a : SocketAddress) (n : SocketName),
          a.Behind address ∧ a.Yields n ∧ h.Gains h' ⟨n, .stream, true⟩
      | .error e => h.Steady h' ∧ ∃ io, e = .bind k (String.ofList address) io := by
  obtain ⟨hst, hn, hf⟩ := h.attempt_keeps address
  have hsound := hs.attempt address
  unfold tcp at ht
  dsimp only at ht
  split at ht
  · rename_i ha
    rw [ha] at hst hsound hf
    cases ht
    exact ⟨hsound, hf, hst, _, rfl⟩
  · rename_i h₁ ha
    rw [ha] at hst hsound hf hn
    split at ht
    · cases ht
      exact ⟨hsound, hf, hst, _, rfl⟩
    · rename_i id h₂ hfirst
      cases ht
      cases has : addresses h₁.now address with
      | error e =>
        rw [has] at hfirst
        cases hfirst
      | ok as =>
        rw [has] at hfirst
        obtain ⟨a, hmem, hl⟩ := Host.listenFirst_ok hfirst
        obtain ⟨n, hyields, picked, he⟩ := Host.listenTcp_ok hl
        cases he
        exact ⟨hsound.openPicked picked _, hf, hn, rfl, a, n, ⟨_, as, has, hmem⟩, hyields,
          hst.gains hn (h₁.gains_openSocket picked _)⟩

theorem vsock_spec (hs : h.Sound) (ht : vsock k address h = (r, h')) :
    h'.Sound ∧ h'.files = h.files ∧ match r with
      | .ok (id, file) => id = h.nextSocket ∧ file = none ∧ ∃ (v : Vsock) (n : SocketName),
          Listen.vsock 0 address = .ok v ∧ v.Yields n ∧ h.Gains h' ⟨n, .stream, true⟩
      | .error e => h.Steady h' ∧ ((∃ io, e = .bind k (String.ofList address) io) ∨
          ∃ t, e = .invalidAddress k (String.ofList address) t) := by
  obtain ⟨hst, hn, hf⟩ := h.attempt_keeps address
  have hsound := hs.attempt address
  unfold vsock at ht
  dsimp only at ht
  split at ht
  · cases ht
    exact ⟨hs, rfl, Host.Steady.refl h, Or.inr ⟨_, rfl⟩⟩
  · rename_i v hv
    split at ht
    · rename_i ha
      rw [ha] at hst hsound hf
      cases ht
      exact ⟨hsound, hf, hst, Or.inl ⟨_, rfl⟩⟩
    · rename_i h₁ ha
      rw [ha] at hst hsound hf hn
      split at ht
      · cases ht
        exact ⟨hsound, hf, hst, Or.inl ⟨_, rfl⟩⟩
      · rename_i id h₂ hl
        obtain ⟨n, hyields, picked, he⟩ := Host.listenVsock_ok hl
        cases he
        cases ht
        exact ⟨hsound.openPicked picked _, hf, hn, rfl, v, n, hv, hyields,
          hst.gains hn (h₁.gains_openSocket picked _)⟩

end Bind

end

namespace Bind

/-! ### Unix sockets and their files -/

/-- What stands in the way of a unix socket is removed, or nothing does. -/
theorem clear_ok {k : Kind} {path : List Char} {h h' : Host} (hc : clear k path h = .ok h') :
    h' = h ∨ ∃ q node, h.files.entry path = .ok q ∧ h.files.at? q = some node ∧
      node ≠ .directory ∧ Files.Plain path ∧ '\x00' ∉ path ∧
      (∃ e, h.connectUnix path = .error e ∧ e.kind = .connectionRefused) ∧
      h' = { h with files := h.files.clearAt q } := by
  unfold clear at hc
  dsimp only at hc
  split at hc
  · exact Or.inl (Except.ok.inj hc).symm
  · rename_i hfind
    have hnul : '\x00' ∉ path := by
      intro hn
      rw [if_pos hn] at hfind
      cases hfind
    split at hc
    · cases hc
    · rename_i e hcon
      split at hc
      · rename_i hkind
        split at hc
        · rename_i files hr
          obtain ⟨q, node, he, hn, hd, hp, rfl⟩ := Files.remove_ok hr
          exact Or.inr ⟨q, node, he, hn, hd, hp, hnul, ⟨e, hcon, hkind⟩, (Except.ok.inj hc).symm⟩
        · cases hc
      · cases hc

theorem clear_error {k : Kind} {path : List Char} {h : Host} {e : EndpointError}
    (hc : clear k path h = .error e) :
    e = .socketInUse (String.ofList path) ∨ ∃ io, e = .bind k (String.ofList path) io := by
  unfold clear at hc
  dsimp only at hc
  split at hc
  · cases hc
  · split at hc
    · cases hc
      exact Or.inl rfl
    · split at hc
      · split at hc
        · cases hc
        · cases hc
          exact Or.inr ⟨_, rfl⟩
      · cases hc
        exact Or.inr ⟨_, rfl⟩

theorem clear_keeps {k : Kind} {path : List Char} {h h' : Host} (hc : clear k path h = .ok h') :
    h.Steady h' ∧ h'.nextSocket = h.nextSocket := by
  rcases clear_ok hc with rfl | ⟨q, _, _, _, _, _, _, _, rfl⟩
  · exact ⟨Host.Steady.refl h', rfl⟩
  · exact ⟨h.steady_files _, rfl⟩

/-- The permissions of a file that was just made can always be set. -/
theorem setMode_create {f f' : Files} {path : List Char} {m id : Nat} (mode : Nat)
    (hf : f.create path (.socket m id) = .ok f') :
    ∃ q, f.entry path = .ok q ∧ f.at? q = none ∧ Files.Plain path ∧
      f'.setMode path mode = .ok (f.put q (.socket mode id)) := by
  obtain ⟨q, he, hn, hp, rfl⟩ := Files.create_ok hf
  have hq : q ≠ [] := (Files.ends_of_free hn).ne_nil
  have hat : (f.put q (.socket m id)).at? q = some (.socket m id) := by simp [Files.at?_put f hq]
  have he' : (f.put q (.socket m id)).entry path = .ok q :=
    ((Files.differAt_put f hq _).entry_iff (Files.ends_of_free hn) (Files.ends_of_socket hat) hp
      q).mpr he
  have hl := Files.locate_follow hp he' (by simp [hat])
  exact ⟨q, he, hn, hp, by simp [Files.setMode, hl, hat, Files.put_put]⟩

theorem bindUnix_ok {path : List Char} {h h' : Host} {id : SocketId}
    (hb : h.bindUnix path .stream true = .ok (id, h')) :
    ∃ q, id = h.nextSocket ∧ h.files.entry path = .ok q ∧ h.files.at? q = none ∧
      Files.Plain path ∧ h.Gains h' ⟨.unix (.path path), .stream, true⟩ ∧
      h'.files.setMode path socketMode = .ok (h.files.put q (.socket socketMode id)) := by
  unfold Host.bindUnix at hb
  split at hb
  · cases hb
  · split at hb
    · cases hb
    · rename_i files hcr
      obtain ⟨q, he, hq, hp, hmode⟩ := setMode_create socketMode hcr
      cases hb
      have hg := (h.steady_files files).gains rfl
        (Host.gains_openSocket { h with files } h.picked ⟨.unix (.path path), .stream, true⟩)
      exact ⟨q, rfl, he, hq, hp, hg, hmode⟩

/-- Binding a unix socket opens one socket and makes its file, once there is nothing in the way. -/
theorem unix_ok {k : Kind} {path : List Char} {h h' : Host} {r : Bound}
    (hu : unix k path h = (.ok r, h')) :
    ∃ h₁ q, missingParent h path = false ∧ clear k path h = .ok h₁ ∧ h₁.files.entry path = .ok q ∧
      h₁.files.at? q = none ∧ Files.Plain path ∧ r = (h.nextSocket, some path) ∧
      h'.files = h₁.files.put q (.socket socketMode h.nextSocket) ∧
      h.Gains h' ⟨.unix (.path path), .stream, true⟩ := by
  unfold unix at hu
  dsimp only at hu
  split at hu
  · cases hu
  · rename_i hm
    split at hu
    · cases hu
    · rename_i h₁ hc
      obtain ⟨hst, hn⟩ := clear_keeps hc
      obtain ⟨hst', hn', hf'⟩ := h₁.attempt_keeps path
      split at hu
      · cases hu
      · rename_i h₂ ha
        rw [ha] at hst' hn' hf'
        split at hu
        · cases hu
        · split at hu
          · cases hu
          · rename_i id h₃ hb
            obtain ⟨q, rfl, he, hq, hp, hg, hmode⟩ := bindUnix_ok hb
            have hid : h₂.nextSocket = h.nextSocket := hn'.trans hn
            have hfiles : h₂.files = h₁.files := hf'
            have hg : h.Gains h₃ ⟨.unix (.path path), .stream, true⟩ :=
              (hst.trans hst').gains hid hg
            rw [hmode] at hu
            cases hu
            rw [hfiles] at he hq
            refine ⟨h₁, q, by simpa using hm, hc, he, hq, hp, by rw [hid], ?_, ?_⟩
            · simp only [hfiles, hid]
            · exact ⟨hg.now, hg.agenda, hg.descriptors, hg.next, hg.sockets⟩

/-- When no unix socket can be bound there is none, though what stood in its way may be gone. -/
theorem unix_error {k : Kind} {path : List Char} {h h' : Host} {e : EndpointError}
    (hu : unix k path h = (.error e, h')) :
    h.Steady h' ∧ (h'.files = h.files ∧
        (missingParent h path = true ∨ ∃ e, clear k path h = .error e) ∨
      ∃ h₁, missingParent h path = false ∧ clear k path h = .ok h₁ ∧ h'.files = h₁.files) ∧
      (e = .missingDirectory (String.ofList path) ∨ e = .socketInUse (String.ofList path) ∨
        ∃ io, e = .bind k (String.ofList path) io) := by
  unfold unix at hu
  dsimp only at hu
  split at hu
  · rename_i hm
    cases hu
    exact ⟨Host.Steady.refl h, Or.inl ⟨rfl, Or.inl hm⟩, Or.inl rfl⟩
  · rename_i hm
    split at hu
    · rename_i hc
      cases hu
      exact ⟨Host.Steady.refl h, Or.inl ⟨rfl, Or.inr ⟨e, hc⟩⟩, Or.inr (clear_error hc)⟩
    · rename_i h₁ hc
      obtain ⟨hst, hn⟩ := clear_keeps hc
      obtain ⟨hst', hn', hf'⟩ := h₁.attempt_keeps path
      have hm : missingParent h path = false := by simpa using hm
      split at hu
      · rename_i ha
        rw [ha] at hst' hf'
        cases hu
        exact ⟨hst.trans hst', Or.inr ⟨h₁, hm, hc, hf'⟩, Or.inr (Or.inr ⟨_, rfl⟩)⟩
      · rename_i h₂ ha
        rw [ha] at hst' hn' hf'
        split at hu
        · cases hu
          exact ⟨hst.trans hst', Or.inr ⟨h₁, hm, hc, hf'⟩, Or.inr (Or.inr ⟨_, rfl⟩)⟩
        · split at hu
          · cases hu
            exact ⟨hst.trans hst', Or.inr ⟨h₁, hm, hc, hf'⟩, Or.inr (Or.inr ⟨_, rfl⟩)⟩
          · -- The mode of a file that was just made can be set, so nothing fails after that.
            rename_i id h₃ hb
            obtain ⟨q, -, -, -, -, -, hmode⟩ := bindUnix_ok hb
            rw [hmode] at hu
            cases hu

theorem nodes_clear {k : Kind} {path : List Char} {h h' : Host} (hc : clear k path h = .ok h')
    {q : Place} {n : Node} (hn : h'.files.at? q = some n) :
    h.files.at? q = some n := by
  rcases clear_ok hc with rfl | ⟨q', node, -, hq', hd, -, -, -, rfl⟩
  · exact hn
  · exact (Files.at?_of_clearAt (Files.ne_nil_of_at? hq' hd) hn).2

theorem unix_sound {k : Kind} {path : List Char} {h h' : Host}
    {r : Except EndpointError Bound} (hs : h.Sound) (hu : unix k path h = (r, h')) : h'.Sound := by
  cases r with
  | ok r =>
    obtain ⟨h₁, q, -, hc, -, hq, -, -, hf, hg⟩ := unix_ok hu
    have hne : q ≠ [] := (Files.ends_of_free hq).ne_nil
    refine hg.sound hs fun q' m id hn => ?_
    rw [hf, Files.at?_put _ hne] at hn
    split at hn
    · cases hn
      exact Or.inr rfl
    · exact Or.inl (nodes_clear hc hn)
  | error e =>
    obtain ⟨hst, ⟨hf, -⟩ | ⟨h₁, -, hc, hf⟩, -⟩ := unix_error hu
    · exact hst.sound hs fun q m id hn => hf ▸ hn
    · exact hst.sound hs fun q m id hn => nodes_clear hc (hf ▸ hn)

variable [Platform]

theorem socket_unix {k : Kind} (hk : k.isNetwork = false) {cs : List Char} {h : Host} :
    socket k cs h = unix k cs h := by
  have ht : k.transport = .unix := by simpa [Kind.isNetwork] using hk
  simp [socket, ht]

theorem socket_ok {k : Kind} {cs : List Char} {h h' : Host} {id : SocketId}
    {file : Option (List Char)} (hs : h.Sound) (hb : socket k cs h = (.ok (id, file), h')) :
    h'.Sound ∧ id = h.nextSocket ∧
      (k.isNetwork = true → file = none ∧ h'.files = h.files) ∧
      ∃ n, k.Yields cs n ∧ h.Gains h' ⟨n, .stream, true⟩ := by
  unfold socket at hb
  unfold Kind.Yields Kind.isNetwork
  cases ht : k.transport with
  | unix =>
    rw [ht] at hb
    obtain ⟨h₁, q, -, -, -, -, -, hr, -, hg⟩ := unix_ok hb
    cases hr
    exact ⟨unix_sound hs hb, rfl, by simp, _, rfl, hg⟩
  | tls =>
    rw [ht] at hb
    obtain ⟨hsound, hf, rfl, rfl, a, n, ha, hn, hg⟩ := tcp_spec hs hb
    exact ⟨hsound, rfl, fun _ => ⟨rfl, hf⟩, n, ⟨a, ha, hn⟩, hg⟩
  | vsock =>
    rw [ht] at hb
    obtain ⟨hsound, hf, rfl, rfl, v, n, hv, hn, hg⟩ := vsock_spec hs hb
    exact ⟨hsound, rfl, fun _ => ⟨rfl, hf⟩, n, ⟨v, hv, hn⟩, hg⟩

theorem socket_error {k : Kind} {cs : List Char} {h h' : Host} {e : EndpointError}
    (hs : h.Sound) (hb : socket k cs h = (.error e, h')) :
    h'.Sound ∧ h.Steady h' ∧ (∀ k' p b r, e ≠ .unavailable k' p b r) ∧
      (k.isNetwork = true → h'.files = h.files) := by
  unfold socket at hb
  unfold Kind.isNetwork
  cases ht : k.transport with
  | unix =>
    rw [ht] at hb
    obtain ⟨hst, -, he⟩ := unix_error hb
    exact ⟨unix_sound hs hb, hst, by rcases he with rfl | rfl | ⟨io, rfl⟩ <;> simp, by simp⟩
  | tls =>
    rw [ht] at hb
    obtain ⟨hsound, hf, hst, io, rfl⟩ := tcp_spec hs hb
    exact ⟨hsound, hst, by simp, fun _ => hf⟩
  | vsock =>
    rw [ht] at hb
    obtain ⟨hsound, hf, hst, he⟩ := vsock_spec hs hb
    exact ⟨hsound, hst, by rcases he with ⟨io, rfl⟩ | ⟨t, rfl⟩ <;> simp, fun _ => hf⟩

end Bind

/-! ### Listeners -/

theorem Kind.canonicalize_error {k : Kind} {address : String} {e : EndpointError}
    (hc : k.canonicalize address = .error e) : ∃ t, e = .invalidAddress k address t := by
  unfold Kind.canonicalize at hc
  split at hc
  · cases hc
  · cases hc
    exact ⟨_, rfl⟩

variable [Platform]

theorem Bundle.acceptorFor_error {b : Bundle} {k : Kind} {e : EndpointError}
    (ht : b.acceptorFor k = .error e) : k.transport = .tls ∧ ∃ t, e = .tls k t := by
  unfold Bundle.acceptorFor at ht
  split at ht
  · split at ht
    · cases ht
    · cases ht
      exact ⟨by assumption, _, rfl⟩
  · cases ht
  · cases ht

/-- The listeners of TLS kinds have an acceptor for what is asked of their clients, and no others do. -/
theorem Bundle.acceptorFor_ok {b : Bundle} {k : Kind} {tls : Option Acceptor}
    (ht : b.acceptorFor k = .ok tls) :
    k.transport = .tls ∧ (∃ a, tls = some a ∧ b.acceptor k.clientAuth = .ok a) ∨
      k.transport ≠ .tls ∧ tls = none := by
  unfold Bundle.acceptorFor at ht
  split at ht
  · rename_i hk
    split at ht
    · rename_i a ha
      cases ht
      exact Or.inl ⟨hk, a, rfl, ha⟩
    · cases ht
  · rename_i hk
    cases ht
    exact Or.inr ⟨by simp [hk], rfl⟩
  · rename_i hk
    cases ht
    exact Or.inr ⟨by simp [hk], rfl⟩

namespace Host

/-- What a fresh listener of a kind is made of: one socket, which was opened for it. -/
structure Opens (h h' : Host) (k : Kind) (address : String) (b : Bundle) (l : Listener) : Prop where
  sound : h'.Sound
  kind : l.kind = k
  socket : l.socket = h.nextSocket
  descriptor : l.descriptor = none
  provenance : l.provenance = .bound
  tls : b.acceptorFor k = .ok l.tls
  name : ∃ n, k.Asks address n ∧ h.Gains h' ⟨n, .stream, true⟩
  network : k.isNetwork = true → l.file = none ∧ h'.files = h.files
  unix : k.isNetwork = false → ∃ c, k.canonicalize address = .ok c ∧ c ≠ "" ∧
    Bind.unix k c.toList h = (.ok (l.socket, l.file), h')

/-- What is left of a listener that could not be made: nothing, except that something may have been
removed from where its file was to be. -/
structure Declines (h h' : Host) (k : Kind) (address : String) (e : EndpointError) : Prop where
  sound : h'.Sound
  steady : h.Steady h'
  plain : ∀ k' p b r, e ≠ .unavailable k' p b r
  network : k.isNetwork = true → h'.files = h.files
  unix : k.isNetwork = false → h' = h ∨ ∃ c, k.canonicalize address = .ok c ∧ c ≠ "" ∧
    Bind.unix k c.toList h = (.error e, h')

/-- Binding a listener of a local kind is binding its socket. -/
theorem listen_unix {h : Host} {k : Kind} {address c : String} {b : Bundle}
    (hk : k.isNetwork = false) (hc : k.canonicalize address = .ok c) (hne : c ≠ "") :
    h.listen k address b = ((Bind.unix k c.toList h).1.map fun r => ⟨k, r.1, r.2, none, none, .bound⟩,
      (Bind.unix k c.toList h).2) := by
  have htls : b.acceptorFor k = .ok none := by
    have ht : k.transport = .unix := by simpa [Kind.isNetwork] using hk
    simp [Bundle.acceptorFor, ht]
  unfold listen
  simp only [hc, if_neg hne, Bind.socket_unix hk, htls]
  cases Bind.unix k c.toList h with
  | mk r h' => cases r <;> rfl

theorem listen_spec {h h' : Host} {k : Kind} {address : String} {b : Bundle}
    {r : Except EndpointError Listener} (hs : h.Sound) (hl : h.listen k address b = (r, h')) :
    match r with
      | .ok l => h.Opens h' k address b l
      | .error e => h.Declines h' k address e := by
  unfold listen at hl
  split at hl
  · rename_i e hc
    cases hl
    obtain ⟨t, rfl⟩ := Kind.canonicalize_error hc
    exact ⟨hs, Steady.refl h, by simp, fun _ => rfl, fun _ => Or.inl rfl⟩
  · rename_i c hc
    split at hl
    · cases hl
      exact ⟨hs, Steady.refl h, by simp, fun _ => rfl, fun _ => Or.inl rfl⟩
    · rename_i hne
      split at hl
      · rename_i e h₁ hb
        cases hl
        obtain ⟨hsound, hst, he, hf⟩ := Bind.socket_error hs hb
        exact ⟨hsound, hst, he, hf, fun hk => Or.inr ⟨c, hc, hne, Bind.socket_unix hk ▸ hb⟩⟩
      · rename_i id file h₁ hb
        obtain ⟨hsound, rfl, hf, n, hn, hg⟩ := Bind.socket_ok hs hb
        dsimp only at hl
        split at hl
        · rename_i tls htls
          cases hl
          exact ⟨hsound, rfl, rfl, rfl, rfl, htls, ⟨n, ⟨c, hc, hn⟩, hg⟩, hf,
            fun hk => ⟨c, hc, hne, Bind.socket_unix hk ▸ hb⟩⟩
        · rename_i e htls
          cases hl
          -- Only TLS kinds can fail here, and they have no file.
          obtain ⟨ht, t, rfl⟩ := Bundle.acceptorFor_error htls
          have hk : k.isNetwork = true := by simp [Kind.isNetwork, ht]
          obtain ⟨rfl, hfiles⟩ := hf hk
          exact ⟨hsound.closeSocket _, hg.closeSocket hs, by simp, fun _ => hfiles, by simp [hk]⟩

end Host

end Portkeeper
