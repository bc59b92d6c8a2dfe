import Portkeeper.Proofs.Address.Acceptance

/-!
What a canonical network address looks like: a socket address, or a host name with a port. It ends with
its port, which is the one that the address had if it had any, and it has no white space at its ends.
-/

set_option autoImplicit false

namespace Portkeeper
open Text Net

namespace Net

/-- The port of a socket address in text form stands behind the last colon. -/
theorem Ported.port_spelled {cs : List Char} {p : Nat} (h : Ported cs p) {a : SocketAddress}
    (ha : SocketAddress.Spelled cs a) : a.port.toNat = p := by
  obtain ⟨-, host, rfl⟩ := h
  obtain ⟨-, hport⟩ := ha.host (notMem_decimal (by decide))
  exact hport.value.symm.trans Nat.ofDigitChars_ten_toDigits

theorem Ported.port_ofText {cs : List Char} {p : Nat} (h : Ported cs p) {a : SocketAddress}
    (ha : SocketAddress.ofText? cs = some a) : a.port = UInt16.ofNat p := by
  rw [← h.port_spelled (SocketAddress.ofText?_eq_some_iff.mp ha), UInt16.ofNat_toNat]

variable [Platform]

/-- Whatever is behind a text has the port that the text ends with. -/
theorem Ported.behind {cs : List Char} {p : Nat} (h : Ported cs p) {a : SocketAddress}
    (ha : a.Behind cs) : a.port = UInt16.ofNat p := by
  obtain ⟨time, as, has, ha⟩ := ha
  unfold addresses at has
  split at has
  · rename_i b hb
    cases has
    rw [List.mem_singleton.mp ha]
    exact (port_effective b).trans (h.port_ofText hb)
  · split at has
    · cases has
    · rename_i host port hc
      rw [h.read hc] at has
      obtain ⟨b, rfl⟩ := mem_hostAddresses has ha
      rw [port_effective, port_withPort]

end Net

namespace Listen

/-- What a canonical network address looks like. -/
inductive Canonical : List Char → Prop
  | ip (a : SocketAddress) : Canonical a.text
  | named {host : List Char} {p : Nat} (name : isHostName host = true) (port : p ≤ Numeral.max16) :
      Canonical (host ++ ':' :: decimal p)

theorem canonical_network {d : UInt16} {cs c : List Char} (h : network d cs = .ok c) :
    Canonical c := by
  obtain ⟨e, he⟩ := exists_denotes h
  rw [he.network, Except.ok.injEq] at h
  subst h
  cases e with
  | ip a => exact .ip a
  | named host p => exact .named he.name.isHostName (toNat_le p)

theorem Canonical.ported {cs : List Char} (h : Canonical cs) : ∃ p, Ported cs p := by
  cases h with
  | ip a => exact ⟨_, ported_text a⟩
  | named hn hp => exact ⟨_, hp, _, rfl⟩

/-- An address that has a port keeps it when it is read again, unless it is all host and takes the
default port. -/
theorem ported_again {d : UInt16} {cs c : List Char} {p : Nat} (hp : Ported cs p)
    (h : network d cs = .ok c) : Ported c p ∨ Ported c d.toNat := by
  -- What stands behind the last colon is the port, in plain digits.
  have hport (host : List Char) {ds : List Char} {q : UInt16} (hcs : cs = host ++ ':' :: ds)
      (hq : Numeral.Writes ds q.toNat) : p = q.toNat := by
    obtain ⟨-, host', hh⟩ := hp
    have hds := append_mark_inj (notMem_decimal (by decide)) (hq.notMem (by decide) (by decide))
      (hh.symm.trans hcs)
    exact Numeral.Writes.unique ⟨_, digits_decimal p, .inl hds.2.symm⟩ hq
  obtain ⟨e, he⟩ := exists_denotes h
  rw [he.network, Except.ok.injEq] at h
  subst h
  cases he with
  | @address _ ip spelled =>
    have ht := ported_text (.ofIP d ip)
    rw [port_ofIP] at ht
    exact .inr ht
  | bracketed spelled => exact .inr (ported_text (.v6 _ d 0))
  | @socket _ a spelled => exact .inl (hp.port_spelled spelled ▸ ported_text a)
  | everywhere port => exact .inl (hport [] rfl port ▸ ported_text (.v6 .unspecified _ 0))
  | dotted v port => exact .inl (hport v.text rfl port ▸ ported_text (.v4 v _))
  | host name => exact .inr ⟨toNat_le d, _, rfl⟩
  | @hostPort host _ q name port => exact .inl ⟨hp.1, host, by rw [hport host rfl port]; rfl⟩

/-- A text with a port ends in a digit. -/
theorem getLast?_ported {cs : List Char} {p : Nat} (h : Ported cs p) {c : Char}
    (hc : cs.getLast? = some c) : c.isDigit = true := by
  obtain ⟨-, host, rfl⟩ := h
  rw [List.getLast?_append, List.getLast?_cons,
    List.getLast?_eq_some_getLast (decimal_ne_nil p)] at hc
  obtain rfl : (decimal p).getLast (decimal_ne_nil p) = c := by simpa using hc
  exact isDigit_of_mem_decimal (List.getLast_mem _)

theorem isBlank_of_visible {c : Char} (h : 0x20 < c.toNat ∧ c.toNat < 0x7F) : isBlank c = false := by
  simp only [isBlank, Bool.or_eq_false_iff, Bool.and_eq_false_iff, decide_eq_false_iff_not,
    beq_eq_false_iff_ne]
  omega

theorem isBlank_of_isHostChar {c : Char} (h : isHostChar c = true) : isBlank c = false := by
  refine isBlank_of_visible ?_
  have h : (decide (c.val ≥ 'A'.val ∧ c.val ≤ 'Z'.val) ||
      (decide (c.val ≥ 'a'.val) && decide (c.val ≤ 'z'.val)) ||
      (decide (c.val ≥ '0'.val) && decide (c.val ≤ '9'.val)) || c == '-' || c == '.') = true := h
  simp only [Bool.or_eq_true, Bool.and_eq_true, decide_eq_true_eq, beq_iff_eq,
    UInt32.le_iff_toNat_le, ge_iff_le] at h
  rcases h with ((((h | h) | h) | rfl) | rfl)
  · change 65 ≤ c.toNat ∧ c.toNat ≤ 90 at h
    omega
  · change 97 ≤ c.toNat ∧ c.toNat ≤ 122 at h
    omega
  · change 48 ≤ c.toNat ∧ c.toNat ≤ 57 at h
    omega
  · decide
  · decide

/-- No white space stands at the start of a canonical address. -/
theorem Canonical.head? {cs : List Char} (h : Canonical cs) {c : Char} (hc : cs.head? = some c) :
    isBlank c = false := by
  have digit {n : Nat} {rest : List Char} (hc : (decimal n ++ rest).head? = some c) :
      isBlank c = false := by
    cases hd : decimal n with
    | nil => exact absurd hd (decimal_ne_nil n)
    | cons d ds =>
      rw [hd] at hc
      cases hc
      exact isBlank_of_isDigit (isDigit_of_mem_decimal (hd ▸ List.mem_cons_self))
  cases h with
  | ip a =>
    cases a with
    | v4 v p =>
      simp only [SocketAddress.text, IPv4.text, List.append_assoc] at hc
      exact digit hc
    | v6 v p s =>
      cases hc
      decide
  | @named host p hn hp =>
    unfold isHostName at hn
    rw [Bool.and_eq_true, List.all_eq_true] at hn
    cases host with
    | nil => cases hn.1
    | cons d ds =>
      cases hc
      exact isBlank_of_isHostChar (hn.2 _ List.mem_cons_self)

theorem Canonical.tight {cs : List Char} (h : Canonical cs) : Tight cs := by
  obtain ⟨p, hp⟩ := h.ported
  exact ⟨fun c hc => h.head? hc, fun c hc => isBlank_of_isDigit (getLast?_ported hp hc)⟩

end Listen
end Portkeeper
