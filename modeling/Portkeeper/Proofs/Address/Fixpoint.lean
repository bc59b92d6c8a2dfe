import Portkeeper.EndpointError
import Portkeeper.Proofs.Address.Rereading

/-!
Canonical addresses are fixed points: one that is read again comes out as it went in, whatever the
default port is by then. The text of a socket address is a spelling of it, and a host name with a port in
plain digits keeps both.
-/

set_option autoImplicit false

namespace Portkeeper
open Text Net

namespace Listen

/-- A canonical network address is read again as it is written, whatever the default port. -/
theorem Canonical.fixed {cs : List Char} (h : Canonical cs) (d : UInt16) :
    network d cs = .ok cs := by
  cases h with
  | ip a => exact (Denotes.socket a.spelled_text).network
  | @named host p hn hp =>
    have hport : (UInt16.ofNat p).toNat = p := toNat_ofNat_of_le hp
    have hread := network_named (p := UInt16.ofNat p) hn ⟨_, digits_decimal _, .inl rfl⟩ d
    rwa [hport] at hread

end Listen

namespace Kind

variable {k k' : Kind}

/-- How a canonical address came about. Blank texts have the empty one. -/
theorem canonicalText_cases {cs c : List Char} (h : k.canonicalText cs = .ok c) :
    trim cs = [] ∧ c = [] ∨ trim cs ≠ [] ∧ match k.transport with
      | .unix => c = trim cs
      | .tls => Listen.Canonical c
      | .vsock => ∃ v : Vsock,
        Listen.vsock (k.defaultPort?.getD 0).toUInt32 (trim cs) = .ok v ∧ c = v.text := by
  unfold canonicalText at h
  dsimp only at h
  split at h
  · rename_i hb
    exact Or.inl ⟨hb, (Except.ok.inj h).symm⟩
  · rename_i hb
    refine Or.inr ⟨hb, ?_⟩
    cases ht : k.transport with
    | unix =>
      rw [ht] at h
      exact (Except.ok.inj h).symm
    | tls =>
      rw [ht] at h
      exact Listen.canonical_network h
    | vsock =>
      rw [ht] at h
      unfold Listen.vsockText at h
      cases hv : Listen.vsock (k.defaultPort?.getD 0).toUInt32 (trim cs) with
      | error e => simp [hv, Except.map] at h
      | ok v => exact ⟨v, rfl, by simpa [hv, Except.map] using h.symm⟩

theorem canonicalText_tls {cs : List Char} (ht : k.transport = .tls) (h : Listen.Canonical cs) :
    k.canonicalText cs = .ok cs := by
  obtain ⟨p, -, host, he⟩ := h.ported
  have hne : cs ≠ [] := by simp [he]
  simp [canonicalText, trim_of_tight h.tight, hne, ht, h.fixed]

theorem canonicalText_vsock (ht : k.transport = .vsock) (v : Vsock) :
    k.canonicalText v.text = .ok v.text := by
  have hne : v.text ≠ [] := by simp [Vsock.text]
  simp [canonicalText, trim_text, hne, ht, Listen.vsockText, Listen.vsock_text, Except.map]

/-- A canonical address has itself for its canonical form, for every kind of its transport. -/
theorem canonicalText_again (ht : k.transport = k'.transport) {cs c : List Char}
    (h : k.canonicalText cs = .ok c) : k'.canonicalText c = .ok c := by
  rcases canonicalText_cases h with ⟨-, rfl⟩ | ⟨hne, hc⟩
  · rfl
  · rw [ht] at hc
    cases hk : k'.transport with
    | unix =>
      rw [hk] at hc
      subst hc
      simp [canonicalText, trim_trim, hne, hk]
    | tls =>
      rw [hk] at hc
      exact canonicalText_tls hk hc
    | vsock =>
      rw [hk] at hc
      obtain ⟨v, -, rfl⟩ := hc
      exact canonicalText_vsock hk v

theorem canonicalAddress_eq {address c : String} :
    k.canonicalAddress address = .ok c ↔ k.canonicalText address.toList = .ok c.toList := by
  unfold canonicalAddress
  cases k.canonicalText address.toList with
  | error e => simp [Except.map]
  | ok cs =>
    simp only [Except.map, Except.ok.injEq]
    exact ⟨fun h => by simp [← h], fun h => by simp [h]⟩

theorem canonicalize_eq {text c : String} :
    k.canonicalize text = .ok c ↔ k.canonicalText text.toList = .ok c.toList := by
  rw [← canonicalAddress_eq]
  unfold canonicalize
  cases k.canonicalAddress text <;> simp

/-- Texts without a vsock address in them do not get one from a default port. -/
theorem vsock_blank (d : UInt32) : Listen.vsock d [] = .error (.cid [] .empty) := rfl

/-- An address in canonical form is final: it is canonical for every kind of the transport, and what it
says does not depend on a default port any more. -/
theorem canonicalAddress_final {a c : String} (ht : k.transport = k'.transport)
    (h : k.canonicalAddress a = .ok c) :
    k'.canonicalAddress c = .ok c ∧
    (k.transport = .tls → c ≠ "" → ∀ d, Listen.network d c.toList = .ok c.toList) ∧
    (k.transport = .vsock → ∀ d, Listen.vsock d c.toList =
      Listen.vsock (k.defaultPort?.getD 0).toUInt32 (trim a.toList)) ∧
    (k.transport = .vsock → c ≠ "" → ∃ v : Vsock,
      Listen.vsock (k.defaultPort?.getD 0).toUInt32 (trim a.toList) = .ok v ∧ c.toList = v.text) := by
  rw [canonicalAddress_eq] at h
  refine ⟨canonicalAddress_eq.mpr (canonicalText_again ht h), fun htls hne d => ?_,
    fun hvs d => ?_, fun hvs hne => ?_⟩
  all_goals rcases canonicalText_cases h with ⟨hb, he⟩ | ⟨-, hc⟩
  · exact absurd (String.toList_inj.mp he) hne
  · rw [htls] at hc
    exact hc.fixed d
  · rw [hb, he, vsock_blank, vsock_blank]
  · rw [hvs] at hc
    obtain ⟨v, hv, he⟩ := hc
    rw [he, Listen.vsock_text, hv]
  · exact absurd (String.toList_inj.mp he) hne
  · rw [hvs] at hc
    exact hc

theorem canonicalAddress_final_mapped :
    metrics.canonicalAddress " [0:0::FFFF:1.2.3.4%07]:080 " = .ok "[::ffff:1.2.3.4%7]:80" ∧
    cluster.canonicalAddress "[::ffff:1.2.3.4%7]:80" = .ok "[::ffff:1.2.3.4%7]:80" ∧
    vmConsole.canonicalAddress "local" = .ok "1:8443" ∧
    Listen.vsock 9 "1:8443".toList = Listen.vsock 8443 "local".toList :=
  have hmapped : metrics.canonicalAddress " [0:0::FFFF:1.2.3.4%07]:080 " =
    .ok "[::ffff:1.2.3.4%7]:80" := by decide +kernel
  have hlocal : vmConsole.canonicalAddress "local" = .ok "1:8443" := by decide +kernel
  have hfinal := @canonicalAddress_final metrics cluster _ _ rfl hmapped
  have hagain := @canonicalAddress_final vmConsole vmConsole _ _ rfl hlocal
  ⟨hmapped, hfinal.1, hlocal, hagain.2.2.1 rfl 9⟩

end Kind
end Portkeeper
