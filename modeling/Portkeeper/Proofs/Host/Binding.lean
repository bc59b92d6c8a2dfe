import Portkeeper.Proofs.Host.Absence

/-!
An attempt to bind, from both ends: every one is noted with its time, and one comes to an open socket
exactly when the system has no reason of its own against it and offers a name that no socket bars.
-/

set_option autoImplicit false

namespace Portkeeper
open Net

variable [Platform]

/-! ### Attempts are noted -/

namespace Host

omit [Platform] in
theorem attempts_attempt (h : Host) (address : List Char) :
    (h.attempt address).2.attempts = ⟨h.now, address⟩ :: h.attempts := by
  unfold attempt
  dsimp only
  split <;> rfl

end Host

namespace Bind

variable {k : Kind} {cs : List Char} {h : Host}

theorem attempts_tcp (k : Kind) (cs : List Char) (h : Host) :
    (tcp k cs h).2.attempts = ⟨h.now, cs⟩ :: h.attempts := by
  have hnoted := h.attempts_attempt cs
  unfold tcp
  dsimp only
  split
  · rename_i ha
    rwa [ha] at hnoted
  · rename_i h₁ ha
    rw [ha] at hnoted
    split
    · exact hnoted
    · rename_i hfirst
      cases has : addresses h₁.now cs with
      | error e =>
        rw [has] at hfirst
        cases hfirst
      | ok as =>
        rw [has] at hfirst
        obtain ⟨a, -, hl⟩ := Host.listenFirst_ok hfirst
        obtain ⟨n, -, picked, he⟩ := Host.listenTcp_ok hl
        cases he
        exact hnoted

theorem attempts_vsock (k : Kind) {v : Vsock} (hv : Listen.vsock 0 cs = .ok v) (h : Host) :
    (vsock k cs h).2.attempts = ⟨h.now, cs⟩ :: h.attempts := by
  have hnoted := h.attempts_attempt cs
  unfold vsock
  simp only [hv]
  split
  · rename_i ha
    rwa [ha] at hnoted
  · rename_i ha
    rw [ha] at hnoted
    split
    · exact hnoted
    · rename_i hl
      obtain ⟨n, -, picked, he⟩ := Host.listenVsock_ok hl
      cases he
      exact hnoted

/-- Whoever binds an address of a network kind is noted, as long as it is one. -/
theorem attempts_socket (hk : k.isNetwork = true)
    (hv : k.transport = .vsock → ∃ v, Listen.vsock 0 cs = .ok v) (h : Host) :
    (socket k cs h).2.attempts = ⟨h.now, cs⟩ :: h.attempts := by
  unfold socket
  cases ht : k.transport with
  | unix => simp [Kind.isNetwork, ht] at hk
  | tls => exact attempts_tcp k cs h
  | vsock =>
    obtain ⟨v, hv⟩ := hv ht
    exact attempts_vsock k hv h

end Bind

/-- So is whoever listens at an address in canonical form, whatever comes of it. -/
theorem Host.attempts_listen {k : Kind} {address : String} (hk : k.isNetwork = true)
    (hc : k.canonicalize address = .ok address) (hne : address ≠ "")
    (hv : k.transport = .vsock → ∃ v, Listen.vsock 0 address.toList = .ok v) (h : Host)
    (u : Bundle) : (h.listen k address u).2.attempts = ⟨h.now, address.toList⟩ :: h.attempts := by
  have hnoted := Bind.attempts_socket hk hv h
  unfold listen
  simp only [hc, if_neg hne]
  split
  · rename_i hb
    rwa [hb] at hnoted
  · rename_i hb
    rw [hb] at hnoted
    split
    · exact hnoted
    · exact (attempts_drop _ _).trans hnoted

/-! ### What it takes to bind -/

/-- The names that an address of a network kind stands for at a time, as they are before the system has
picked a port. -/
def Kind.Names (k : Kind) (time : Nat) (address : String) (n : SocketName) : Prop :=
  match k.transport with
  | .unix => False
  | .tls => ∃ as a, addresses time address.toList = .ok as ∧ a ∈ as ∧ n = .inet a
  | .vsock => ∃ v, Listen.vsock 0 address.toList = .ok v ∧ n = .vsock v

/-- A socket stands in the way of an address of a kind. -/
def Socket.Obstructs (s : Socket) (k : Kind) (time : Nat) (address : String) : Prop :=
  ∃ n, k.Names time address n ∧ s.bars n = true

/-- The system offers a name for an address of a network kind, as far as that is no matter of sockets. -/
def Host.Offers (h : Host) (k : Kind) (address : String) (n : SocketName) : Prop :=
  h.refusals.head?.join = none ∧ match k.transport with
  | .unix => False
  | .tls => ∃ as a, addresses h.now address.toList = .ok as ∧ a ∈ as ∧
      Platform.bars? h.now a = none ∧ n ∈ h.names a
  | .vsock => ∃ v, Listen.vsock 0 address.toList = .ok v ∧
      Platform.vsockBars? h.now v = none ∧ n ∈ h.vsockNames v

namespace Host

variable {h h' : Host} {k : Kind} {address : String} {n : SocketName}

omit [Platform] in
theorem attempt_fst (h : Host) (address : List Char) :
    (h.attempt address).1 = h.refusals.head?.join := by
  unfold attempt
  dsimp only
  cases h.refusals <;> rfl

omit [Platform] in
theorem attempt_same (h : Host) (address : List Char) :
    (h.attempt address).2.now = h.now ∧ (h.attempt address).2.sockets = h.sockets ∧
      (h.attempt address).2.picked = h.picked := by
  unfold attempt
  dsimp only
  split <;> exact ⟨rfl, rfl, rfl⟩

theorem names_attempt (h : Host) (address : List Char) (a : SocketAddress) :
    (h.attempt address).2.names a = h.names a := by
  rw [names, (h.attempt_same address).2.2, names]

theorem vsockNames_attempt (h : Host) (address : List Char) (v : Vsock) :
    (h.attempt address).2.vsockNames v = h.vsockNames v := by
  rw [vsockNames, (h.attempt_same address).2.2, vsockNames]

omit [Platform] in
theorem inUse_attempt (h : Host) (address : List Char) (n : SocketName) :
    (h.attempt address).2.inUse n = h.inUse n := by
  rw [inUse, (h.attempt_same address).2.1, inUse]

/-- What is offered depends on the time, on what was picked, and on reasons of the system's own. -/
theorem Offers.of_same (ho : h.Offers k address n) (hr : h'.refusals = h.refusals)
    (hn : h'.now = h.now) (hp : h'.picked = h.picked) : h'.Offers k address n := by
  simpa only [Offers, names, vsockNames, hr, hn, hp] using ho

theorem exists_listenTcp_iff {a : SocketAddress} : (∃ r, h.listenTcp a = .ok r) ↔
    Platform.bars? h.now a = none ∧ ∃ n ∈ h.names a, h.inUse n = false := by
  have hclaim : (∃ r, h.claimTcp a = some r) ↔ ∃ n ∈ h.names a, h.inUse n = false :=
    exists_claim_iff
  rw [← hclaim]
  unfold listenTcp
  cases Platform.bars? h.now a with
  | some e => simp
  | none => cases h.claimTcp a <;> simp

theorem exists_listenFirst_iff {last : IoError} {as : List SocketAddress} :
    (∃ r, h.listenFirst last as = .ok r) ↔ ∃ a ∈ as, ∃ r, h.listenTcp a = .ok r := by
  induction as generalizing last with
  | nil => simp [listenFirst]
  | cons a as ih =>
    unfold listenFirst
    simp only [List.mem_cons, exists_eq_or_imp]
    cases h.listenTcp a with
    | ok r => simp
    | error e => simpa using ih

theorem exists_listenVsock_iff {v : Vsock} : (∃ r, h.listenVsock v = .ok r) ↔
    Platform.vsockBars? h.now v = none ∧ ∃ n ∈ h.vsockNames v, h.inUse n = false := by
  have hclaim : (∃ r, h.claimVsock v = some r) ↔ ∃ n ∈ h.vsockNames v, h.inUse n = false :=
    exists_claim_iff
  rw [← hclaim]
  unfold listenVsock
  cases Platform.vsockBars? h.now v with
  | some e => simp
  | none => cases h.claimVsock v <;> simp

end Host

namespace Bind

variable {k : Kind} {cs : List Char} {address : String} {h : Host}

theorem exists_tcp_iff : (∃ b h', tcp k cs h = (.ok b, h')) ↔ h.refusals.head?.join = none ∧
    ∃ as a, addresses h.now cs = .ok as ∧ a ∈ as ∧
      Platform.bars? h.now a = none ∧ ∃ n ∈ h.names a, h.inUse n = false := by
  have hnow := (h.attempt_same cs).1
  have hnames := h.names_attempt cs
  have hfree := h.inUse_attempt cs
  rw [← h.attempt_fst cs]
  unfold tcp
  generalize h.attempt cs = answer at hnow hnames hfree ⊢
  obtain ⟨r, h₁⟩ := answer
  cases r with
  | some e => simp
  | none =>
    dsimp only at hnow hnames hfree ⊢
    rw [hnow]
    cases addresses h.now cs with
    | error e => simp [bind, Except.bind]
    | ok as =>
      have hiff : (∃ r, h₁.listenFirst noAddress as = .ok r) ↔ _ := Host.exists_listenFirst_iff
      simp only [Host.exists_listenTcp_iff, hnow, hnames, hfree] at hiff
      refine Iff.trans ?_ (hiff.trans (by simp))
      simp only [bind, Except.bind]
      cases h₁.listenFirst noAddress as <;> simp

theorem exists_vsock_iff : (∃ b h', vsock k cs h = (.ok b, h')) ↔ h.refusals.head?.join = none ∧
    ∃ v, Listen.vsock 0 cs = .ok v ∧ Platform.vsockBars? h.now v = none ∧
      ∃ n ∈ h.vsockNames v, h.inUse n = false := by
  have hnow := (h.attempt_same cs).1
  have hnames := h.vsockNames_attempt cs
  have hfree := h.inUse_attempt cs
  rw [← h.attempt_fst cs]
  unfold vsock
  generalize h.attempt cs = answer at hnow hnames hfree ⊢
  obtain ⟨r, h₁⟩ := answer
  cases Listen.vsock 0 cs with
  | error e => simp
  | ok v =>
    cases r with
    | some e => simp
    | none =>
      have hiff := Host.exists_listenVsock_iff (h := h₁) (v := v)
      dsimp only at hnow hnames hfree ⊢
      simp only [hnow, hnames, hfree] at hiff
      refine Iff.trans ?_ (hiff.trans (by simp))
      cases h₁.listenVsock v <;> simp

/-- An address of a network kind can be bound exactly when a name is offered for it that is free. -/
theorem exists_socket_iff (hk : k.isNetwork = true) :
    (∃ b h', socket k address.toList h = (.ok b, h')) ↔
      ∃ n, h.Offers k address n ∧ h.inUse n = false := by
  unfold socket Host.Offers
  cases ht : k.transport with
  | unix => simp [Kind.isNetwork, ht] at hk
  | tls =>
    refine exists_tcp_iff.trans ⟨?_, ?_⟩
    · rintro ⟨hr, as, a, has, ha, hbars, n, hn, hfree⟩
      exact ⟨n, ⟨hr, as, a, has, ha, hbars, hn⟩, hfree⟩
    · rintro ⟨n, ⟨hr, as, a, has, ha, hbars, hn⟩, hfree⟩
      exact ⟨hr, as, a, has, ha, hbars, n, hn, hfree⟩
  | vsock =>
    refine exists_vsock_iff.trans ⟨?_, ?_⟩
    · rintro ⟨hr, v, hv, hbars, n, hn, hfree⟩
      exact ⟨n, ⟨hr, v, hv, hbars, hn⟩, hfree⟩
    · rintro ⟨n, ⟨hr, v, hv, hbars, hn⟩, hfree⟩
      exact ⟨hr, v, hv, hbars, n, hn, hfree⟩

end Bind

theorem Host.exists_listen {h : Host} {k : Kind} {address : String} {u : Bundle}
    {tls : Option Acceptor} (hc : k.canonicalize address = .ok address) (hne : address ≠ "")
    (htls : u.acceptorFor k = .ok tls)
    (hb : ∃ b h', Bind.socket k address.toList h = (.ok b, h')) :
    ∃ l h', h.listen k address u = (.ok l, h') := by
  obtain ⟨⟨id, file⟩, h', hb⟩ := hb
  unfold listen
  simp only [hc, if_neg hne, hb, htls]
  exact ⟨_, _, rfl⟩

end Portkeeper
