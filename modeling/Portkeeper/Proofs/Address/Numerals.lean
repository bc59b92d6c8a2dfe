import Portkeeper.Text.Cut
import Portkeeper.Text.Numeral

/-!
Decimal numerals. Plain ones are read back as what they denote, and their digits are no marks. Zeros and
a plus sign may stand in front, and a reader takes nothing else, `Numeral.read_eq_ok_iff`.
-/

set_option autoImplicit false

namespace Portkeeper.Text

theorem isDigit_of_mem_decimal {n : Nat} {c : Char} (hc : c ∈ decimal n) : c.isDigit = true :=
  Nat.isDigit_of_mem_toDigits (by decide) (by decide) hc

theorem decimal_ne_nil (n : Nat) : decimal n ≠ [] := Nat.toDigits_ne_nil

theorem notMem_decimal {n : Nat} {c : Char} (hc : c.isDigit = false) : c ∉ decimal n := by
  intro h
  rw [isDigit_of_mem_decimal h] at hc
  cases hc

theorem digit?_of_isDigit {c : Char} (hc : c.isDigit = true) :
    digit? 10 c = some (c.toNat - 48) := by
  simp only [Char.isDigit, Bool.and_eq_true, decide_eq_true_eq, UInt32.le_iff_toNat_le] at hc
  change 48 ≤ c.toNat ∧ c.toNat ≤ 57 at hc
  have hle : '0' ≤ c ∧ c ≤ '9' := by
    simp only [Char.le_def, UInt32.le_iff_toNat_le]
    exact hc
  have hlt : c.toNat - 48 < 10 := by omega
  simp only [digit?, hle, and_self, if_true, hlt]

theorem ofDigits_eq {cs : List Char} (hcs : ∀ c ∈ cs, c.isDigit = true) (n : Nat) :
    cs.foldl (fun n c => n * 10 + (digit? 10 c).getD 0) n = Nat.ofDigitChars 10 cs n := by
  induction cs generalizing n with
  | nil => simp
  | cons c cs ih =>
    rw [List.foldl_cons, ih fun c' hc' => hcs c' (List.mem_cons_of_mem _ hc'),
      digit?_of_isDigit (hcs c List.mem_cons_self), Nat.ofDigitChars_cons]
    simp [Nat.mul_comm]

theorem ofDigits_decimal (n : Nat) : ofDigits 10 (decimal n) = n := by
  unfold ofDigits
  rw [ofDigits_eq fun c hc => isDigit_of_mem_decimal hc]
  exact Nat.ofDigitChars_ten_toDigits

theorem decimal_injective {n m : Nat} (h : decimal n = decimal m) : n = m := by
  have hvalue := ofDigits_decimal n
  rw [h, ofDigits_decimal] at hvalue
  exact hvalue.symm

/-- Digits read so far make a number that only grows. -/
theorem le_ofDigitChars (cs : List Char) (n : Nat) : n ≤ Nat.ofDigitChars 10 cs n := by
  rw [Nat.ofDigitChars_eq_ofDigitChars_zero]
  have h1 : 1 * n ≤ 10 ^ cs.length * n := Nat.mul_le_mul_right n (Nat.one_le_pow _ _ (by decide))
  omega

/-! ### Digits without a needless zero are the text of their number -/

theorem code_of_isDigit {c : Char} (hc : c.isDigit = true) : 48 ≤ c.toNat ∧ c.toNat ≤ 57 := by
  simp only [Char.isDigit, Bool.and_eq_true, decide_eq_true_eq, UInt32.le_iff_toNat_le] at hc
  exact hc

theorem digitChar_of_isDigit {c : Char} (hc : c.isDigit = true) : (c.toNat - 48).digitChar = c := by
  have h := code_of_isDigit hc
  apply Char.toNat_inj.mp
  rw [Nat.toNat_digitChar_of_lt_ten (by omega)]
  omega

/-- The digits of decimal numbers are the ordinary ones. -/
theorem isDigit_ten {c : Char} (h : isDigit 10 c = true) : c.isDigit = true := by
  have code {d : Char} (hd : d ≤ c) : d.toNat ≤ c.toNat := by
    simp only [Char.le_def, UInt32.le_iff_toNat_le] at hd
    exact hd
  have value {v : Nat} (hv : (if v < 10 then some v else none).isSome = true) : v < 10 := by
    split at hv
    · assumption
    · cases hv
  unfold isDigit digit? at h
  dsimp only at h
  have hv := value h
  split at hv
  · rename_i h0
    simpa only [Char.isDigit, Bool.and_eq_true, decide_eq_true_eq, ge_iff_le, Char.le_def] using h0
  · split at hv
    · rename_i ha
      have h97 : 97 ≤ c.toNat := code ha.1
      omega
    · split at hv
      · rename_i hA
        have h65 : 65 ≤ c.toNat := code hA.1
        omega
      · omega

/-- Digits go on behind the text of a number as the text of a larger one. -/
theorem decimal_append_digits {ds : List Char} (hd : ∀ c ∈ ds, c.isDigit = true) {n : Nat}
    (hn : 0 < n) : decimal n ++ ds = decimal (Nat.ofDigitChars 10 ds n) := by
  induction ds generalizing n with
  | nil => simp
  | cons c ds ih =>
    have hc := hd c List.mem_cons_self
    have hlt : c.toNat - 48 < 10 := by
      have h := code_of_isDigit hc
      omega
    have happ := Nat.toDigits_append_toDigits (b := 10) (by decide) hn hlt
    rw [Nat.toDigits_of_lt_base hlt, digitChar_of_isDigit hc] at happ
    rw [Nat.ofDigitChars_cons]
    calc decimal n ++ c :: ds = (decimal n ++ [c]) ++ ds := by simp
      _ = decimal (10 * n + (c.toNat - 48)) ++ ds := congrArg (· ++ ds) happ
      _ = decimal (Nat.ofDigitChars 10 ds (10 * n + (c.toNat - 48))) :=
        ih (fun c hc => hd c (List.mem_cons_of_mem _ hc)) (by omega)

theorem decimal_ofDigits {ds : List Char} (hne : ds ≠ []) (hd : ∀ c ∈ ds, c.isDigit = true)
    (hz : ds.head? = some '0' → ds.length ≤ 1) : decimal (ofDigits 10 ds) = ds := by
  unfold ofDigits
  rw [ofDigits_eq hd]
  cases ds with
  | nil => exact absurd rfl hne
  | cons c ds =>
    have hc := hd c List.mem_cons_self
    have h := code_of_isDigit hc
    have hfirst : decimal (c.toNat - 48) = [c] := by
      rw [decimal, Nat.toDigits_of_lt_base (by omega), digitChar_of_isDigit hc]
    have hstart : Nat.ofDigitChars 10 (c :: ds) 0 = Nat.ofDigitChars 10 ds (c.toNat - 48) := by
      rw [Nat.ofDigitChars_cons]
      simp
    rw [hstart]
    by_cases h0 : c.toNat = 48
    · have hc0 : c = '0' := Char.toNat_inj.mp h0
      have hlen := hz (by simp [hc0])
      obtain rfl : ds = [] := by simpa using hlen
      simpa using hfirst
    · rw [← decimal_append_digits (fun d h => hd d (List.mem_cons_of_mem _ h)) (by omega), hfirst]
      rfl

/-- A spelling of a number: one or more decimal digits. Zeros may stand in front. -/
structure Digits (ds : List Char) (n : Nat) : Prop where
  nonempty : ds ≠ []
  digit : ∀ c ∈ ds, c.isDigit = true
  value : Nat.ofDigitChars 10 ds 0 = n

theorem digits_decimal (n : Nat) : Digits (decimal n) n :=
  ⟨decimal_ne_nil n, fun _ hc => isDigit_of_mem_decimal hc, Nat.ofDigitChars_ten_toDigits⟩

theorem Digits.notMem {ds : List Char} {n : Nat} (h : Digits ds n) {c : Char} (hc : c.isDigit = false) :
    c ∉ ds := by
  intro hm
  rw [h.digit c hm] at hc
  cases hc

namespace Numeral

theorem readDigits_of_digits {limit : Nat} {cs : List Char} (hcs : ∀ c ∈ cs, c.isDigit = true)
    {n : Nat} (hn : Nat.ofDigitChars 10 cs n ≤ limit) :
    readDigits limit n cs = .ok (Nat.ofDigitChars 10 cs n) := by
  induction cs generalizing n with
  | nil => simp [readDigits]
  | cons c cs ih =>
    have hc := digit?_of_isDigit (hcs c List.mem_cons_self)
    have he : n * 10 + (c.toNat - 48) = 10 * n + (c.toNat - '0'.toNat) := by simp [Nat.mul_comm]
    rw [Nat.ofDigitChars_cons] at hn ⊢
    have hle := Nat.le_trans (le_ofDigitChars cs _) hn
    rw [readDigits]
    simp only [hc]
    rw [he, if_pos hle]
    exact ih (fun c' hc' => hcs c' (List.mem_cons_of_mem _ hc')) hn

/-- A sign in front is the only text a numeral may have besides its digits. -/
theorem read_of_digits {limit : Nat} {cs : List Char} (hne : cs ≠ [])
    (hcs : ∀ c ∈ cs, c.isDigit = true) : read limit cs = readDigits limit 0 cs := by
  cases cs with
  | nil => exact absurd rfl hne
  | cons c cs =>
    have hc : c ≠ '+' := by
      rintro rfl
      exact absurd (hcs '+' List.mem_cons_self) (by decide)
    unfold read
    split
    · rename_i h
      cases h
    · rename_i h
      simp_all
    · rename_i h
      simp_all
    · rfl

theorem read_decimal {n limit : Nat} (hn : n ≤ limit) : read limit (decimal n) = .ok n := by
  have hd : ∀ c ∈ decimal n, c.isDigit = true := fun c hc => isDigit_of_mem_decimal hc
  have hv : Nat.ofDigitChars 10 (decimal n) 0 = n := Nat.ofDigitChars_ten_toDigits
  rw [read_of_digits (decimal_ne_nil n) hd, readDigits_of_digits hd (hv.symm ▸ hn), hv]

theorem readDigits_le {limit : Nat} {cs : List Char} {n m : Nat} (hn : n ≤ limit)
    (hr : readDigits limit n cs = .ok m) : m ≤ limit := by
  induction cs generalizing n with
  | nil =>
    cases hr
    exact hn
  | cons c cs ih =>
    rw [readDigits] at hr
    split at hr
    · cases hr
    · split at hr
      · rename_i hle
        exact ih hle hr
      · cases hr

theorem read_le {limit : Nat} {cs : List Char} {n : Nat} (hr : read limit cs = .ok n) :
    n ≤ limit := by
  unfold read at hr
  split at hr
  · cases hr
  · cases hr
  · exact readDigits_le (Nat.zero_le _) hr
  · exact readDigits_le (Nat.zero_le _) hr

theorem digits_of_readDigits {limit : Nat} {cs : List Char} {n m : Nat}
    (hr : readDigits limit n cs = .ok m) :
    (∀ c ∈ cs, c.isDigit = true) ∧ Nat.ofDigitChars 10 cs n = m := by
  induction cs generalizing n with
  | nil =>
    cases hr
    exact ⟨by simp, by simp⟩
  | cons c cs ih =>
    rw [readDigits] at hr
    cases hd : digit? 10 c with
    | none =>
      rw [hd] at hr
      cases hr
    | some d =>
      have hc : c.isDigit = true := isDigit_ten (by rw [isDigit, hd]; rfl)
      rw [digit?_of_isDigit hc] at hd
      rw [digit?_of_isDigit hc] at hr
      dsimp only at hr
      split at hr
      · obtain ⟨hall, hval⟩ := ih hr
        refine ⟨fun c' hc' => (List.mem_cons.mp hc').elim (· ▸ hc) (hall c'), ?_⟩
        rw [Nat.ofDigitChars_cons, ← hval]
        simp [Nat.mul_comm]
      · cases hr

/-- A spelling of a number with a plus sign in front, or without one. -/
def Writes (cs : List Char) (n : Nat) : Prop := ∃ ds, Digits ds n ∧ (cs = ds ∨ cs = '+' :: ds)

theorem readDigits_eq_ok_iff {limit n : Nat} {ds : List Char} (hne : ds ≠ []) :
    readDigits limit 0 ds = .ok n ↔ Digits ds n ∧ n ≤ limit := by
  constructor
  · intro hr
    obtain ⟨hall, hval⟩ := digits_of_readDigits hr
    exact ⟨⟨hne, hall, hval⟩, readDigits_le (Nat.zero_le _) hr⟩
  · rintro ⟨⟨-, hall, rfl⟩, hle⟩
    exact readDigits_of_digits hall hle

/-- A numeral is digits for a number within the limit, behind a plus sign or not. -/
theorem read_eq_ok_iff {limit n : Nat} {cs : List Char} :
    read limit cs = .ok n ↔ Writes cs n ∧ n ≤ limit := by
  constructor
  · intro hr
    unfold read at hr
    split at hr
    · cases hr
    · cases hr
    · rename_i ds hds
      obtain ⟨hd, hle⟩ := (readDigits_eq_ok_iff fun h => hds (by rw [h])).mp hr
      exact ⟨⟨ds, hd, .inr rfl⟩, hle⟩
    · rename_i hne _ _
      obtain ⟨hd, hle⟩ := (readDigits_eq_ok_iff hne).mp hr
      exact ⟨⟨cs, hd, .inl rfl⟩, hle⟩
  · rintro ⟨⟨ds, hd, rfl | rfl⟩, hle⟩
    · rw [read_of_digits hd.nonempty hd.digit]
      exact (readDigits_eq_ok_iff hd.nonempty).mpr ⟨hd, hle⟩
    · have hsign : read limit ('+' :: ds) = readDigits limit 0 ds := by
        obtain ⟨d, ds, rfl⟩ := List.exists_cons_of_ne_nil hd.nonempty
        rfl
      rw [hsign]
      exact (readDigits_eq_ok_iff hd.nonempty).mpr ⟨hd, hle⟩

theorem Writes.notMem {cs : List Char} {n : Nat} (h : Writes cs n) {c : Char} (hc : c.isDigit = false)
    (hsign : c ≠ '+') : c ∉ cs := by
  obtain ⟨ds, hd, rfl | rfl⟩ := h
  · exact hd.notMem hc
  · simpa [hsign] using hd.notMem hc

theorem Writes.unique {cs : List Char} {n m : Nat} (hn : Writes cs n) (hm : Writes cs m) : n = m := by
  have hread := read_eq_ok_iff.mpr ⟨hn, Nat.le_max_left n m⟩
  rw [read_eq_ok_iff.mpr ⟨hm, Nat.le_max_right n m⟩] at hread
  exact (Except.ok.inj hread).symm

end Numeral

end Portkeeper.Text
