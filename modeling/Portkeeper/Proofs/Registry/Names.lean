import Portkeeper.Proofs.Address.Fixpoint
import Portkeeper.Proofs.Host.Listening

/-!
The addresses that are recorded for network kinds, and the sockets that they stand for.
-/

set_option autoImplicit false

namespace Portkeeper
open Text Net

/-- The transport of the sockets that can have a name. -/
def SocketName.transport : SocketName → Transport
  | .unix _ => .unix
  | .inet _ => .tls
  | .vsock _ => .vsock

namespace Kind

/-- A text that is in the form of a canonical address of a kind: it has a port. -/
def Formed (k : Kind) (address : String) : Prop :=
  match k.transport with
  | .unix => True
  | .tls => ∃ p, Ported address.toList p
  | .vsock => ∃ v : Vsock, address.toList = v.text

/-- A name that a socket of a kind can have: it is of the kind's family, and no vsock socket has the
port that asks for one. -/
def Family (k : Kind) (n : SocketName) : Prop :=
  match k.transport with
  | .unix => ∃ u, n = .unix u
  | .tls => ∃ a, n = .inet a
  | .vsock => ∃ v : Vsock, n = .vsock v ∧ v.port ≠ Vsock.anyPort

theorem transport_of_family {k : Kind} {n : SocketName} (h : k.Family n) :
    k.transport = n.transport := by
  unfold Family at h
  cases hk : k.transport with
  | unix =>
    rw [hk] at h
    obtain ⟨_, rfl⟩ := h
    rfl
  | tls =>
    rw [hk] at h
    obtain ⟨_, rfl⟩ := h
    rfl
  | vsock =>
    rw [hk] at h
    obtain ⟨_, rfl, -⟩ := h
    rfl

theorem canonicalize_ok {k : Kind} {text c : String} (h : k.canonicalize text = .ok c) :
    k.canonicalText text.toList = .ok c.toList := canonicalize_eq.mp h

/-- Only what is blank has no canonical form to speak of. -/
theorem canonicalize_blank {k : Kind} {text c : String} (h : k.canonicalize text = .ok c)
    (hb : trim text.toList = []) : c = "" := by
  rcases canonicalText_cases (canonicalize_ok h) with ⟨-, hc⟩ | ⟨hb', -⟩
  · exact String.toList_inj.mp hc
  · exact absurd hb hb'

theorem formed_of_nonblank {k : Kind} {text c : String} (h : k.canonicalize text = .ok c)
    (hb : trim text.toList ≠ []) : k.Formed c := by
  rcases canonicalText_cases (canonicalize_ok h) with ⟨hb', -⟩ | ⟨-, hc⟩
  · exact absurd hb' hb
  · unfold Formed
    cases ht : k.transport with
    | unix => trivial
    | tls =>
      rw [ht] at hc
      exact Listen.Canonical.ported hc
    | vsock =>
      rw [ht] at hc
      obtain ⟨v, -, hv⟩ := hc
      exact ⟨v, hv⟩

theorem formed_canonicalize {k : Kind} {text c : String} (h : k.canonicalize text = .ok c)
    (hc : c ≠ "") : k.Formed c :=
  formed_of_nonblank h fun hb => hc (canonicalize_blank h hb)

theorem Formed.hasPort {k : Kind} {address : String} (hf : k.Formed address)
    (hk : k.isNetwork = true) : ∃ p, HasPort address p := by
  unfold Formed at hf
  unfold isNetwork at hk
  cases ht : k.transport with
  | unix => simp [ht] at hk
  | tls =>
    rw [ht] at hf
    exact hf.imp fun _ h => h.2
  | vsock =>
    rw [ht] at hf
    obtain ⟨v, hv⟩ := hf
    exact ⟨_, _, hv⟩

theorem Formed.ne_empty {k : Kind} {address : String} (hf : k.Formed address)
    (hk : k.isNetwork = true) : address ≠ "" := by
  rintro rfl
  obtain ⟨p, host, he⟩ := hf.hasPort hk
  simp at he

theorem formed_text {k : Kind} {n : SocketName} (h : k.Family n) :
    k.Formed (String.ofList n.text) := by
  unfold Family at h
  unfold Formed
  cases ht : k.transport with
  | unix => trivial
  | tls =>
    rw [ht] at h
    obtain ⟨a, rfl⟩ := h
    exact ⟨_, by simpa [SocketName.text] using ported_text a⟩
  | vsock =>
    rw [ht] at h
    obtain ⟨v, rfl, -⟩ := h
    exact ⟨v, by simp [SocketName.text]⟩

variable [Platform]

theorem family_of_asks {k : Kind} {address : String} {n : SocketName} (h : k.Asks address n) :
    k.Family n := by
  obtain ⟨c, -, hy⟩ := h
  unfold Yields at hy
  unfold Family
  cases ht : k.transport with
  | unix =>
    rw [ht] at hy
    exact ⟨_, hy⟩
  | tls =>
    rw [ht] at hy
    obtain ⟨a, -, hn⟩ := hy
    cases hn <;> exact ⟨_, rfl⟩
  | vsock =>
    rw [ht] at hy
    obtain ⟨v, -, hn⟩ := hy
    cases hn with
    | itself fixed => exact ⟨v, rfl, fixed⟩
    | picked free hp => exact ⟨_, rfl, hp⟩

/-- A TCP socket has a port and no needless scope. -/
theorem asks_inet {k : Kind} {address : String} {a : SocketAddress}
    (h : k.Asks address (.inet a)) : a.port ≠ 0 ∧ a.effective = a := by
  obtain ⟨c, -, hy⟩ := h
  unfold Yields at hy
  cases ht : k.transport with
  | unix =>
    rw [ht] at hy
    cases hy
  | tls =>
    rw [ht] at hy
    obtain ⟨b, hb, hn⟩ := hy
    cases hn with
    | itself fixed => exact ⟨fixed, hb.effective⟩
    | picked free hp => exact ⟨by rwa [port_withPort], by rw [effective_withPort, hb.effective]⟩
  | vsock =>
    rw [ht] at hy
    obtain ⟨v, -, hn⟩ := hy
    cases hn

/-- An IP address in text form asks for itself, or for some port of its own. -/
theorem yields_text {k : Kind} {a : SocketAddress} {n : SocketName} (ht : k.transport = .tls)
    (h : k.Yields a.text n) : a.effective.Yields n := by
  unfold Yields at h
  rw [ht] at h
  obtain ⟨b, hb, hn⟩ := h
  rwa [(SocketAddress.behind_of_ofText? (SocketAddress.ofText?_text a)).mp hb] at hn

theorem asks_text {k : Kind} {a : SocketAddress} {n : SocketName} (ht : k.transport = .tls)
    (h : k.Asks (String.ofList a.text) n) : a.effective.Yields n := by
  obtain ⟨c, hc, hy⟩ := h
  have hcan := canonicalize_ok hc
  rw [String.toList_ofList, canonicalText_tls ht (.ip a)] at hcan
  rw [← Except.ok.inj hcan] at hy
  exact yields_text ht hy

/-- A socket is bound at an address: the address is what the system reports for it, or it stands for
the very name that the socket has. -/
def BoundAt (k : Kind) (address : String) (n : SocketName) : Prop :=
  address = String.ofList n.text ∨ ∃ c, k.canonicalize address = .ok c ∧ match k.transport with
    | .unix => n = .unix (.path c.toList)
    | .tls => ∃ a : SocketAddress, a.Behind c.toList ∧ n = .inet a
    | .vsock => ∃ v, Listen.vsock 0 c.toList = .ok v ∧ n = .vsock v

/-- An address by which a vsock port is picked, though it does not end as TCP addresses that ask for a
port do. -/
def PicksUnseen (k : Kind) (address : String) : Prop :=
  k.transport = .vsock ∧ ∃ v : Vsock, address.toList = v.text ∧ v.port = Vsock.anyPort

/-- What an address may be that is recorded for a socket: what the system reports for the socket, or
what was asked for when that does not ask for a TCP port. -/
structure Recorded (k : Kind) (address : String) (n : SocketName) : Prop where
  formed : k.Formed address
  family : k.Family n
  origin : address = String.ofList n.text ∨ asksForPort address = false ∧ k.Asks address n

omit [Platform] in
theorem defaultPort_ne_zero {k : Kind} (hk : k.isNetwork = true) : (k.defaultPort?.getD 0) ≠ 0 := by
  cases k <;> first | exact absurd hk (by decide) | decide

/-- Without a port to be picked, a TCP socket is bound where the address says. -/
theorem boundAt_of_asks {k : Kind} {address : String} {n : SocketName} (ht : k.transport = .tls)
    (hf : k.Formed address) (ha : k.Asks address n) (hp : asksForPort address = false) :
    k.BoundAt address n := by
  obtain ⟨c, hc, hy⟩ := ha
  unfold Formed at hf
  unfold Yields at hy
  simp only [ht] at hf hy
  obtain ⟨p, hported⟩ := hf
  obtain ⟨a, hbehind, hn⟩ := hy
  have hp0 : p ≠ 0 := fun h0 => by
    rw [hported.asksForPort_iff.mpr h0] at hp
    cases hp
  have hd0 := defaultPort_ne_zero (k := k) (by simp [isNetwork, ht])
  -- Neither the port of the address nor the one it takes by default is zero.
  have hport : a.port ≠ 0 := by
    have ht' := canonicalize_ok hc
    unfold canonicalText at ht'
    dsimp only at ht'
    split at ht'
    · have hn : c.toList = [] := (Except.ok.inj ht').symm
      obtain ⟨time, as, has, -⟩ := hbehind
      rw [hn] at has
      cases has
    · rw [ht] at ht'
      rcases Listen.ported_again hported.trim ht' with hq | hq
      · rw [hq.behind hbehind]
        intro h0
        have h1 := congrArg UInt16.toNat h0
        have h2 := hported.1
        simp only [Numeral.max16] at h2
        rw [UInt16.toNat_ofNat', Nat.mod_eq_of_lt (by omega)] at h1
        exact hp0 h1
      · rw [hq.behind hbehind, UInt16.ofNat_toNat]
        exact hd0
  cases hn with
  | itself fixed =>
    refine Or.inr ⟨c, hc, ?_⟩
    rw [ht]
    exact ⟨a, hbehind, rfl⟩
  | picked free => exact absurd free hport

omit [Platform] in
theorem vsock_text_injective {v u : Vsock} (h : v.text = u.text) : v = u := by
  have hv := Listen.vsock_text 0 v
  rw [h, Listen.vsock_text] at hv
  exact (Except.ok.inj hv).symm

/-- What a vsock address asks for. -/
theorem asks_vsock {k : Kind} {address : String} {n : SocketName} {v : Vsock}
    (ht : k.transport = .vsock) (hv : address.toList = v.text) (ha : k.Asks address n) :
    k.canonicalize address = .ok address ∧ ∃ u, n = .vsock u ∧
      (u = v ∧ v.port ≠ Vsock.anyPort ∨ v.port = Vsock.anyPort ∧ u.port ≠ Vsock.anyPort) := by
  obtain ⟨c, hc, hy⟩ := ha
  have ht' := canonicalize_ok hc
  have hne : v.text ≠ [] := by simp [Vsock.text]
  unfold canonicalText at ht'
  simp only [hv, trim_text, hne, if_false, ht, Listen.vsockText, Listen.vsock_text] at ht'
  have hcv : c.toList = v.text := (Except.ok.inj ht').symm
  have hca : c = address := String.toList_inj.mp (hcv.trans hv.symm)
  subst hca
  unfold Yields at hy
  simp only [ht, hcv, Listen.vsock_text] at hy
  obtain ⟨v', hvv, hn⟩ := hy
  cases hvv
  cases hn with
  | itself fixed => exact ⟨hc, v, rfl, Or.inl ⟨rfl, fixed⟩⟩
  | picked free hp => exact ⟨hc, _, rfl, Or.inr ⟨free, hp⟩⟩

/-- A socket is bound at the address recorded for it unless that is an address by which a vsock port
was picked. -/
theorem Recorded.boundAt_iff {k : Kind} {address : String} {n : SocketName}
    (hk : k.isNetwork = true) (h : k.Recorded address n) :
    k.BoundAt address n ↔ ¬k.PicksUnseen address := by
  have hfam := h.family
  unfold Family at hfam
  cases ht : k.transport with
  | unix => simp [isNetwork, ht] at hk
  | tls =>
    have hno : ¬k.PicksUnseen address := by simp [PicksUnseen, ht]
    rcases h.origin with he | ⟨hp, ha⟩
    · exact iff_of_true (Or.inl he) hno
    · exact iff_of_true (boundAt_of_asks ht h.formed ha hp) hno
  | vsock =>
    rw [ht] at hfam
    obtain ⟨u, rfl, hu⟩ := hfam
    rcases h.origin with he | ⟨-, ha⟩
    · refine iff_of_true (Or.inl he) ?_
      rintro ⟨-, v, hv, hany⟩
      rw [he, String.toList_ofList] at hv
      obtain rfl := vsock_text_injective hv
      exact hu hany
    · have hf := h.formed
      unfold Formed at hf
      rw [ht] at hf
      obtain ⟨v, hv⟩ := hf
      obtain ⟨hcan, u', hn, hp⟩ := asks_vsock ht hv ha
      cases hn
      constructor
      · rintro hb ⟨-, w, hw, hany⟩
        obtain rfl : v = w := vsock_text_injective (hv.symm.trans hw)
        rcases hb with he | ⟨c, hc, hb⟩
        · rw [he, String.toList_ofList] at hv
          obtain rfl := vsock_text_injective hv
          exact hu hany
        · rw [hcan] at hc
          cases hc
          rw [ht, hv] at hb
          obtain ⟨w, hw, hn⟩ := hb
          rw [Listen.vsock_text] at hw
          cases hw
          cases hn
          exact hu hany
      · intro hno
        have hany : v.port ≠ Vsock.anyPort := fun hany => hno ⟨ht, v, hv, hany⟩
        rcases hp with ⟨rfl, -⟩ | ⟨h0, -⟩
        · refine Or.inr ⟨address, hcan, ?_⟩
          rw [ht]
          exact ⟨u, by rw [hv, Listen.vsock_text], rfl⟩
        · exact absurd h0 hany

end Kind
end Portkeeper
