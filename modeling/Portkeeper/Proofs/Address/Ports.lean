import Portkeeper.Kind
import Portkeeper.Net.Lookup
import Portkeeper.Registry.Basic
import Portkeeper.Proofs.Address.Numerals

/-!
Texts with a port, which stands behind the last colon in plain digits. White space around such a text does
not hide the port.
-/

set_option autoImplicit false

namespace Portkeeper
open Text Net

/-- The port of an address in canonical form: it stands behind the last colon. -/
def HasPort (address : String) (p : Nat) : Prop := ∃ host, address.toList = host ++ ':' :: decimal p

theorem asksForPort_iff {address : String} : asksForPort address = true ↔ HasPort address 0 := by
  unfold asksForPort HasPort
  rw [List.isSuffixOf_iff_suffix]
  exact ⟨fun ⟨host, h⟩ => ⟨host, h.symm⟩, fun ⟨host, h⟩ => ⟨host, h.symm⟩⟩

theorem HasPort.unique {address : String} {p q : Nat} (hp : HasPort address p) (hq : HasPort address q) :
    p = q := by
  obtain ⟨host, hh⟩ := hp
  obtain ⟨host', hh'⟩ := hq
  have hd := append_mark_inj (notMem_decimal (by decide)) (notMem_decimal (by decide)) (hh ▸ hh')
  exact decimal_injective hd.2

namespace Net

/-- A text that ends in a colon and a port in plain digits. -/
def Ported (cs : List Char) (p : Nat) : Prop :=
  p ≤ Numeral.max16 ∧ ∃ host, cs = host ++ ':' :: decimal p

theorem Ported.cutLast {cs : List Char} {p : Nat} (h : Ported cs p) :
    ∃ host, cutLast ':' cs = some (host, decimal p) := by
  obtain ⟨-, host, rfl⟩ := h
  exact ⟨host, cutLast_append (notMem_decimal (by decide)) host⟩

/-- A port of zero is the one that the system is to pick. -/
theorem Ported.asksForPort_iff {address : String} {p : Nat} (h : Ported address.toList p) :
    asksForPort address = true ↔ p = 0 := by
  have hp : HasPort address p := h.2
  rw [Portkeeper.asksForPort_iff]
  exact ⟨hp.unique, fun h0 => h0 ▸ hp⟩

theorem ported_text (a : SocketAddress) : Ported a.text a.port.toNat := by
  refine ⟨Nat.le_of_lt_succ a.port.toNat_lt, ?_⟩
  cases a with
  | v4 v p => exact ⟨v.text, rfl⟩
  | v6 v p s =>
    exact ⟨'[' :: v.text ++ SocketAddress.scopeText s ++ [']'], by
      simp [SocketAddress.text, SocketAddress.port]⟩

theorem port_ofIP (p : UInt16) (ip : IP) : (SocketAddress.ofIP p ip).port = p := by
  cases ip <;> rfl

theorem isBlank_of_isDigit {c : Char} (hc : c.isDigit = true) : isBlank c = false := by
  simp only [Char.isDigit, Bool.and_eq_true, decide_eq_true_eq, UInt32.le_iff_toNat_le] at hc
  change 48 ≤ c.toNat ∧ c.toNat ≤ 57 at hc
  simp only [isBlank, Bool.or_eq_false_iff, Bool.and_eq_false_iff, decide_eq_false_iff_not,
    beq_eq_false_iff_ne]
  omega

theorem trim_text (v : Vsock) : trim v.text = v.text := by
  have hd (n : Nat) : ∀ c ∈ decimal n, isBlank c = false := fun c hc => by
    have hdig := isDigit_of_mem_decimal hc
    exact isBlank_of_isDigit hdig
  refine trim_of_tight ⟨fun c hc => ?_, fun c hc => ?_⟩
  · cases h : decimal v.cid.toNat with
    | nil => exact absurd h (decimal_ne_nil _)
    | cons d ds =>
      rw [Vsock.text, h] at hc
      have hc : d = c := by simpa using hc
      exact hc ▸ hd _ d (h ▸ List.mem_cons_self)
  · have hm : c ∈ ':' :: decimal v.port.toNat := by
      rw [Vsock.text, List.getLast?_append, List.getLast?_eq_some_getLast (by simp),
        Option.some_or] at hc
      exact Option.some.inj hc ▸ List.getLast_mem (by simp)
    rcases List.mem_cons.mp hm with rfl | hm
    · decide
    · exact hd _ c hm

/-- Blanks in front of a colon belong to what stands before it. -/
theorem exists_dropWhile_colon (host cs : List Char) :
    ∃ host', (host ++ ':' :: cs).dropWhile isBlank = host' ++ ':' :: cs := by
  induction host with
  | nil => exact ⟨[], by simp [show isBlank ':' = false by decide]⟩
  | cons c host ih =>
    by_cases hc : isBlank c = true
    · simpa [hc] using ih
    · exact ⟨c :: host, by simp [hc]⟩

theorem dropWhile_reverse_decimal (cs : List Char) (n : Nat) :
    (cs ++ decimal n).reverse.dropWhile isBlank = (cs ++ decimal n).reverse := by
  refine dropWhile_of_head? fun c hc => isBlank_of_isDigit (isDigit_of_mem_decimal (n := n) ?_)
  cases hr : (decimal n).reverse with
  | nil => exact absurd (List.reverse_eq_nil_iff.mp hr) (decimal_ne_nil n)
  | cons d ds =>
    simp only [List.reverse_append, hr, List.cons_append, List.head?_cons, Option.some.injEq] at hc
    exact List.mem_reverse.mp (hr ▸ hc ▸ List.mem_cons_self)

theorem Ported.trim {cs : List Char} {p : Nat} (h : Ported cs p) : Ported (trim cs) p := by
  obtain ⟨hp, host, rfl⟩ := h
  obtain ⟨host', hf⟩ := exists_dropWhile_colon host (decimal p)
  have hback := dropWhile_reverse_decimal (host' ++ [':']) p
  simp only [List.append_assoc, List.singleton_append] at hback
  refine ⟨hp, host', ?_⟩
  rw [Text.trim, hf, hback, List.reverse_reverse]

theorem Ported.read {cs host port : List Char} {p : Nat} (h : Ported cs p)
    (hc : Text.cutLast ':' cs = some (host, port)) : Numeral.read Numeral.max16 port = .ok p := by
  obtain ⟨host', hh⟩ := h.cutLast
  rw [hh] at hc
  cases hc
  exact Numeral.read_decimal h.1

theorem port_effective (a : SocketAddress) : a.effective.port = a.port := by
  cases a <;> rfl

theorem port_withPort (a : SocketAddress) (p : UInt16) : (a.withPort p).port = p := by
  cases a <;> rfl

theorem ip_effective (a : SocketAddress) : a.effective.ip = a.ip := by
  cases a <;> rfl

theorem ip_withPort (a : SocketAddress) (p : UInt16) : (a.withPort p).ip = a.ip := by
  cases a <;> rfl

theorem effective_withPort (a : SocketAddress) (p : UInt16) :
    (a.withPort p).effective = a.effective.withPort p := by
  cases a <;> rfl

theorem effective_effective (a : SocketAddress) : a.effective.effective = a.effective := by
  cases a with
  | v4 v p => rfl
  | v6 v p s => by_cases hv : v.isLinkLocal = true <;> simp [SocketAddress.effective, hv]

/-- What is behind a text is an address as the system has it. -/
theorem SocketAddress.Behind.effective [Platform] {a : SocketAddress} {cs : List Char}
    (h : a.Behind cs) : a.effective = a := by
  obtain ⟨time, as, has, ha⟩ := h
  unfold addresses at has
  split at has
  · cases has
    rw [List.mem_singleton.mp ha, effective_effective]
  · split at has
    · cases has
    · split at has
      · cases has
      · obtain ⟨b, rfl⟩ := mem_hostAddresses has ha
        exact effective_effective _

end Net

namespace Listen

theorem toNat_ofNat_of_le {p : Nat} (hp : p ≤ Numeral.max16) : (UInt16.ofNat p).toNat = p := by
  simp only [Numeral.max16] at hp
  exact Nat.mod_eq_of_lt (by omega)

theorem toNat_le (p : UInt16) : p.toNat ≤ Numeral.max16 := Nat.le_of_lt_succ p.toNat_lt

theorem read_decimal32 (n : UInt32) : Numeral.read Numeral.max32 (decimal n.toNat) = .ok n.toNat :=
  Numeral.read_decimal (Nat.le_of_lt_succ n.toNat_lt)

/-- No name for a machine is a numeral. -/
theorem cid_decimal (n : UInt32) : cid (decimal n.toNat) = .ok n := by
  have hname {cs : List Char} {c : Char} (hc : c.isDigit = false) (hm : c ∈ cs) :
      decimal n.toNat ≠ cs := fun he => notMem_decimal hc (he ▸ hm)
  unfold cid
  rw [if_neg (hname (c := 'a') (by decide) (by decide)),
    if_neg (hname (c := 'l') (by decide) (by decide)),
    if_neg (hname (c := 'h') (by decide) (by decide)), read_decimal32]
  simp [Except.map]

/-- A vsock address in text form is read back, whatever the default port. -/
theorem vsock_text (d : UInt32) (v : Vsock) : vsock d v.text = .ok v := by
  have hcut : cutFirst ':' v.text = some (decimal v.cid.toNat, decimal v.port.toNat) :=
    cutFirst_append (notMem_decimal (by decide)) _
  unfold vsock
  simp only [hcut, read_decimal32, cid_decimal, UInt32.ofNat_toNat]

end Listen
end Portkeeper
