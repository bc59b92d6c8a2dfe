import Portkeeper.Text.Utf8

/-!
Reading UTF-8 is exact: the bytes of a text are read back as that text, and no other bytes are. Between
the reader and the writer stand the sequences themselves, with the code point that each of them denotes.
-/

set_option autoImplicit false

namespace Portkeeper.Text

/-- What a lead byte announces, by its number. -/
theorem lead?_eq (b : UInt8) : lead? b =
    if b.toNat < 0xC2 then none
    else if b.toNat < 0xE0 then some (1, 0x80, 0xBF)
    else if b.toNat < 0xF0 then
      some (2, if b.toNat = 0xE0 then 0xA0 else 0x80, if b.toNat = 0xED then 0x9F else 0xBF)
    else if b.toNat < 0xF5 then
      some (3, if b.toNat = 0xF0 then 0x90 else 0x80, if b.toNat = 0xF4 then 0x8F else 0xBF)
    else none := by
  have hall : ∀ n < 256, lead? (UInt8.ofNat n) =
      if n < 0xC2 then none
      else if n < 0xE0 then some (1, 0x80, 0xBF)
      else if n < 0xF0 then some (2, if n = 0xE0 then 0xA0 else 0x80, if n = 0xED then 0x9F else 0xBF)
      else if n < 0xF5 then some (3, if n = 0xF0 then 0x90 else 0x80, if n = 0xF4 then 0x8F else 0xBF)
      else none := by decide +kernel
  have hb := hall b.toNat b.toNat_lt
  rwa [UInt8.ofNat_toNat] at hb

theorem not_lt_of_lead? {b : UInt8} {p : Nat × UInt8 × UInt8} (h : lead? b = some p) : ¬ b < 0x80 := by
  intro hb
  have hsmall : b.toNat < 0xC2 := Nat.lt_trans (UInt8.lt_iff_toNat_lt.mp hb) (by decide)
  rw [lead?_eq, if_pos hsmall] at h
  cases h

/-- A byte within bounds. -/
def Within (low high x : UInt8) : Prop := low ≤ x ∧ x ≤ high

/-- The sequences of one to four bytes, and the code points they denote. The bounds of the second byte are
those that the lead byte announces. -/
inductive Sequence : Nat → List UInt8 → Prop
  | one {b : UInt8} (ascii : b < 0x80) : Sequence b.toNat [b]
  | two {b x low high : UInt8} (lead : lead? b = some (1, low, high)) (second : Within low high x) :
      Sequence (b.toNat % 32 * 64 + x.toNat % 64) [b, x]
  | three {b x y low high : UInt8} (lead : lead? b = some (2, low, high)) (second : Within low high x)
      (third : Within 0x80 0xBF y) :
      Sequence ((b.toNat % 16 * 64 + x.toNat % 64) * 64 + y.toNat % 64) [b, x, y]
  | four {b x y z low high : UInt8} (lead : lead? b = some (3, low, high)) (second : Within low high x)
      (third : Within 0x80 0xBF y) (fourth : Within 0x80 0xBF z) :
      Sequence (((b.toNat % 8 * 64 + x.toNat % 64) * 64 + y.toNat % 64) * 64 + z.toNat % 64)
        [b, x, y, z]

/-! ### Sequences and their reader -/

theorem Within.trail {low high x : UInt8} (h : Within low high x) (r : List UInt8) :
    trail low high (x :: r) = some (x.toNat % 64, r) := by
  rw [Text.trail]
  exact if_pos h

theorem within_of_trail {low high : UInt8} {d : Nat} {r r' : List UInt8}
    (h : trail low high r = some (d, r')) :
    ∃ x, r = x :: r' ∧ d = x.toNat % 64 ∧ Within low high x := by
  cases r with
  | nil => cases h
  | cons x r =>
    rw [trail] at h
    split at h
    · rename_i hx
      cases h
      exact ⟨x, rfl, rfl, hx⟩
    · cases h

theorem within_of_trails {n v w : Nat} {r r' : List UInt8} (h : trails (n + 1) v r = (some w, r')) :
    ∃ x r₁, r = x :: r₁ ∧ Within 0x80 0xBF x ∧ trails n (v * 64 + x.toNat % 64) r₁ = (some w, r') := by
  rw [trails] at h
  split at h
  · cases h
  · rename_i d r₁ ht
    obtain ⟨x, rfl, rfl, hx⟩ := within_of_trail ht
    exact ⟨x, r₁, rfl, hx, h⟩

theorem firstChar_of_sequence {v : Nat} {b : UInt8} {bs : List UInt8} (h : Sequence v (b :: bs))
    (r : List UInt8) : firstChar b (bs ++ r) = (some (Char.ofNat v), r) := by
  cases h with
  | one ascii =>
    rw [firstChar, if_pos ascii]
    rfl
  | two lead second =>
    rw [firstChar, if_neg (not_lt_of_lead? lead), lead]
    simp [second.trail, trails]
  | three lead second third =>
    rw [firstChar, if_neg (not_lt_of_lead? lead), lead]
    simp [second.trail, third.trail, trails]
  | four lead second third fourth =>
    rw [firstChar, if_neg (not_lt_of_lead? lead), lead]
    simp [second.trail, third.trail, fourth.trail, trails]

/-- The bounds that a lead byte sets, for each number of bytes that follow it. -/
theorem bounds_of_lead? {b low high : UInt8} {n : Nat} (h : lead? b = some (n, low, high)) :
    n = 1 ∧ 0xC2 ≤ b.toNat ∧ b.toNat < 0xE0 ∧ 0x80 ≤ low.toNat ∧ high.toNat ≤ 0xBF ∨
    n = 2 ∧ 0xE0 ≤ b.toNat ∧ b.toNat < 0xF0 ∧ 0x80 ≤ low.toNat ∧ high.toNat ≤ 0xBF ∧
      (b.toNat = 0xE0 → 0xA0 ≤ low.toNat) ∧ (b.toNat = 0xED → high.toNat ≤ 0x9F) ∨
    n = 3 ∧ 0xF0 ≤ b.toNat ∧ b.toNat < 0xF5 ∧ 0x80 ≤ low.toNat ∧ high.toNat ≤ 0xBF ∧
      (b.toNat = 0xF0 → 0x90 ≤ low.toNat) ∧ (b.toNat = 0xF4 → high.toNat ≤ 0x8F) := by
  have toNat_ite {p : Prop} [Decidable p] (x y : UInt8) :
      (if p then x else y).toNat = if p then x.toNat else y.toNat := apply_ite UInt8.toNat p x y
  rw [lead?_eq] at h
  split at h
  · cases h
  · split at h
    · cases h
      exact Or.inl ⟨rfl, by omega, by omega, by simp, by simp⟩
    · split at h
      · cases h
        refine Or.inr (Or.inl ⟨rfl, by omega, by omega, ?_⟩)
        rw [toNat_ite, toNat_ite]
        simp only [UInt8.reduceToNat]
        refine ⟨?_, ?_, ?_, ?_⟩
        all_goals split <;> omega
      · split at h
        · cases h
          refine Or.inr (Or.inr ⟨rfl, by omega, by omega, ?_⟩)
          rw [toNat_ite, toNat_ite]
          simp only [UInt8.reduceToNat]
          refine ⟨?_, ?_, ?_, ?_⟩
          all_goals split <;> omega
        · cases h

theorem sequence_of_firstChar {b : UInt8} {r r' : List UInt8} {c : Char}
    (h : firstChar b r = (some c, r')) :
    ∃ v bs, Sequence v (b :: bs) ∧ r = bs ++ r' ∧ c = Char.ofNat v := by
  unfold firstChar at h
  split at h
  · rename_i ascii
    cases h
    exact ⟨_, [], .one ascii, rfl, rfl⟩
  · split at h
    · cases h
    · rename_i n low high lead
      dsimp only at h
      split at h
      · cases h
      · rename_i d r₁ ht
        obtain ⟨x, rfl, rfl, second⟩ := within_of_trail ht
        simp only [Prod.mk.injEq, Option.map_eq_some_iff] at h
        obtain ⟨⟨w, hw, rfl⟩, hr⟩ := h
        have hrest : trails (n - 1) (b.toNat % Nat.pow 2 (6 - n) * 64 + x.toNat % 64) r₁ =
            (some w, r') := Prod.ext hw hr
        rcases bounds_of_lead? lead with ⟨rfl, -⟩ | ⟨rfl, -⟩ | ⟨rfl, -⟩
        · cases hrest
          exact ⟨_, [x], .two lead second, rfl, rfl⟩
        · obtain ⟨y, r₂, rfl, third, hrest⟩ := within_of_trails hrest
          cases hrest
          exact ⟨_, [x, y], .three lead second third, rfl, rfl⟩
        · obtain ⟨y, r₂, rfl, third, hrest⟩ := within_of_trails hrest
          obtain ⟨z, r₃, rfl, fourth, hrest⟩ := within_of_trails hrest
          cases hrest
          exact ⟨_, [x, y, z], .four lead second third fourth, rfl, rfl⟩

/-! ### Sequences and their writer -/

theorem toNat_ofNat {n : Nat} (h : n < 256) : (UInt8.ofNat n).toNat = n := by
  rw [UInt8.toNat_ofNat', Nat.mod_eq_of_lt h]

theorem within_ofNat {n : Nat} {low high : UInt8} (h : low.toNat ≤ n) (h' : n ≤ high.toNat)
    (hn : n < 256) : Within low high (UInt8.ofNat n) := by
  unfold Within
  rw [UInt8.le_iff_toNat_le, UInt8.le_iff_toNat_le, toNat_ofNat hn]
  exact ⟨h, h'⟩

theorem sequence_encode (c : Char) : Sequence c.toNat (String.utf8EncodeChar c) := by
  have hv : c.toNat < 0xD800 ∨ 0xDFFF < c.toNat ∧ c.toNat < 0x110000 := c.valid
  change Sequence c.toNat (
    if c.toNat ≤ 127 then [UInt8.ofNat c.toNat]
    else if c.toNat ≤ 2047 then
      [UInt8.ofNat (c.toNat / 64 % 32 + 192), UInt8.ofNat (c.toNat % 64 + 128)]
    else if c.toNat ≤ 65535 then
      [UInt8.ofNat (c.toNat / 4096 % 16 + 224), UInt8.ofNat (c.toNat / 64 % 64 + 128),
        UInt8.ofNat (c.toNat % 64 + 128)]
    else
      [UInt8.ofNat (c.toNat / 262144 % 8 + 240), UInt8.ofNat (c.toNat / 4096 % 64 + 128),
        UInt8.ofNat (c.toNat / 64 % 64 + 128), UInt8.ofNat (c.toNat % 64 + 128)])
  generalize c.toNat = v at hv ⊢
  have hlast : Within 0x80 0xBF (UInt8.ofNat (v % 64 + 128)) :=
    within_ofNat (by simp) (by simp only [UInt8.reduceToNat]; omega) (by omega)
  have hmiddle (n : Nat) : Within 0x80 0xBF (UInt8.ofNat (n % 64 + 128)) :=
    within_ofNat (by simp) (by simp only [UInt8.reduceToNat]; omega) (by omega)
  split
  · have h := Sequence.one (b := UInt8.ofNat v)
      (UInt8.lt_iff_toNat_lt.mpr (by rw [toNat_ofNat (by omega)]; simp only [UInt8.reduceToNat]; omega))
    rwa [toNat_ofNat (by omega)] at h
  · split
    · have lead : lead? (UInt8.ofNat (v / 64 % 32 + 192)) = some (1, 0x80, 0xBF) := by
        rw [lead?_eq, toNat_ofNat (by omega), if_neg (by omega), if_pos (by omega)]
      have h := Sequence.two lead (hmiddle v)
      rw [toNat_ofNat (by omega), toNat_ofNat (by omega)] at h
      have hvalue : (v / 64 % 32 + 192) % 32 * 64 + (v % 64 + 128) % 64 = v := by omega
      rwa [hvalue] at h
    · split
      · have lead := lead?_eq (UInt8.ofNat (v / 4096 % 16 + 224))
        rw [toNat_ofNat (by omega), if_neg (by omega), if_neg (by omega), if_pos (by omega)] at lead
        have second : Within (if v / 4096 % 16 + 224 = 0xE0 then 0xA0 else 0x80)
            (if v / 4096 % 16 + 224 = 0xED then 0x9F else 0xBF)
            (UInt8.ofNat (v / 64 % 64 + 128)) := by
          refine within_ofNat ?_ ?_ (by omega)
          · split <;> simp only [UInt8.reduceToNat] <;> omega
          · split <;> simp only [UInt8.reduceToNat] <;> omega
        have h := Sequence.three lead second (hmiddle v)
        rw [toNat_ofNat (by omega), toNat_ofNat (by omega), toNat_ofNat (by omega)] at h
        have hvalue : ((v / 4096 % 16 + 224) % 16 * 64 + (v / 64 % 64 + 128) % 64) * 64 +
            (v % 64 + 128) % 64 = v := by omega
        rwa [hvalue] at h
      · have lead := lead?_eq (UInt8.ofNat (v / 262144 % 8 + 240))
        rw [toNat_ofNat (by omega), if_neg (by omega), if_neg (by omega), if_neg (by omega),
          if_pos (by omega)] at lead
        have second : Within (if v / 262144 % 8 + 240 = 0xF0 then 0x90 else 0x80)
            (if v / 262144 % 8 + 240 = 0xF4 then 0x8F else 0xBF)
            (UInt8.ofNat (v / 4096 % 64 + 128)) := by
          refine within_ofNat ?_ ?_ (by omega)
          · split <;> simp only [UInt8.reduceToNat] <;> omega
          · split <;> simp only [UInt8.reduceToNat] <;> omega
        have h := Sequence.four lead second (hmiddle (v / 64)) (hmiddle v)
        rw [toNat_ofNat (by omega), toNat_ofNat (by omega), toNat_ofNat (by omega),
          toNat_ofNat (by omega)] at h
        have hvalue : (((v / 262144 % 8 + 240) % 8 * 64 + (v / 4096 % 64 + 128) % 64) * 64 +
            (v / 64 % 64 + 128) % 64) * 64 + (v % 64 + 128) % 64 = v := by omega
        rwa [hvalue] at h

/-- The writer, by the number of the code point. -/
theorem encode_ofNat {v : Nat} (h : v.isValidChar) : String.utf8EncodeChar (Char.ofNat v) =
    if v ≤ 127 then [UInt8.ofNat v]
    else if v ≤ 2047 then [UInt8.ofNat (v / 64 % 32 + 192), UInt8.ofNat (v % 64 + 128)]
    else if v ≤ 65535 then
      [UInt8.ofNat (v / 4096 % 16 + 224), UInt8.ofNat (v / 64 % 64 + 128),
        UInt8.ofNat (v % 64 + 128)]
    else
      [UInt8.ofNat (v / 262144 % 8 + 240), UInt8.ofNat (v / 4096 % 64 + 128),
        UInt8.ofNat (v / 64 % 64 + 128), UInt8.ofNat (v % 64 + 128)] := by
  have hv : (Char.ofNat v).val.toNat = v := by
    unfold Char.ofNat
    rw [dif_pos h]
    rfl
  unfold String.utf8EncodeChar
  dsimp only
  rw [hv]

theorem ofNat_eq {n : Nat} {b : UInt8} (h : n = b.toNat) : UInt8.ofNat n = b := by
  rw [h, UInt8.ofNat_toNat]

theorem Within.bounds {low high x : UInt8} (h : Within low high x) :
    low.toNat ≤ x.toNat ∧ x.toNat ≤ high.toNat :=
  ⟨UInt8.le_iff_toNat_le.mp h.1, UInt8.le_iff_toNat_le.mp h.2⟩

theorem Sequence.encode {v : Nat} {bs : List UInt8} (h : Sequence v bs) :
    String.utf8EncodeChar (Char.ofNat v) = bs := by
  have trails {x : UInt8} (hx : Within 0x80 0xBF x) : 128 ≤ x.toNat ∧ x.toNat ≤ 191 := hx.bounds
  cases h with
  | @one b ascii =>
    have hb : b.toNat < 128 := UInt8.lt_iff_toNat_lt.mp ascii
    rw [encode_ofNat (Or.inl (by omega)), if_pos (by omega), UInt8.ofNat_toNat]
  | @two b x low high lead second =>
    obtain ⟨-, h1, h2, hlow, hhigh⟩ | ⟨hn, -⟩ | ⟨hn, -⟩ := bounds_of_lead? lead
    · have hx := second.bounds
      rw [encode_ofNat (Or.inl (by omega)), if_neg (by omega), if_pos (by omega),
        ofNat_eq (b := b) (by omega), ofNat_eq (b := x) (by omega)]
    · cases hn
    · cases hn
  | @three b x y low high lead second third =>
    obtain ⟨hn, -⟩ | ⟨-, h1, h2, hlow, hhigh, hlow', hhigh'⟩ | ⟨hn, -⟩ := bounds_of_lead? lead
    · cases hn
    · have hx := second.bounds
      have hy := trails third
      rw [encode_ofNat (by unfold Nat.isValidChar; omega), if_neg (by omega), if_neg (by omega),
        if_pos (by omega), ofNat_eq (b := b) (by omega), ofNat_eq (b := x) (by omega),
        ofNat_eq (b := y) (by omega)]
    · cases hn
  | @four b x y z low high lead second third fourth =>
    obtain ⟨hn, -⟩ | ⟨hn, -⟩ | ⟨-, h1, h2, hlow, hhigh, hlow', hhigh'⟩ := bounds_of_lead? lead
    · cases hn
    · cases hn
    · have hx := second.bounds
      have hy := trails third
      have hz := trails fourth
      rw [encode_ofNat (by unfold Nat.isValidChar; omega), if_neg (by omega), if_neg (by omega),
        if_neg (by omega), ofNat_eq (b := b) (by omega), ofNat_eq (b := x) (by omega),
        ofNat_eq (b := y) (by omega), ofNat_eq (b := z) (by omega)]

/-- The bytes of a sequence: the code point itself, or bytes that ASCII leaves over. -/
theorem Sequence.mem {v : Nat} {bs : List UInt8} {b : UInt8} (h : Sequence v bs) (hb : b ∈ bs) :
    b.toNat = v ∨ 0x80 ≤ b.toNat := by
  have hlead {b low high : UInt8} {n : Nat} (h : lead? b = some (n, low, high)) :
      0x80 ≤ b.toNat ∧ 0x80 ≤ low.toNat := by
    have hbounds := bounds_of_lead? h
    omega
  have hwithin {x low high : UInt8} (hx : Within low high x) (hlow : 0x80 ≤ low.toNat) :
      0x80 ≤ x.toNat := Nat.le_trans hlow hx.bounds.1
  cases h with
  | one ascii =>
    rw [List.mem_singleton] at hb
    exact Or.inl (by rw [hb])
  | two lead second =>
    simp only [List.mem_cons, List.not_mem_nil, or_false] at hb
    rcases hb with rfl | rfl
    · exact Or.inr (hlead lead).1
    · exact Or.inr (hwithin second (hlead lead).2)
  | three lead second third =>
    simp only [List.mem_cons, List.not_mem_nil, or_false] at hb
    rcases hb with rfl | rfl | rfl
    · exact Or.inr (hlead lead).1
    · exact Or.inr (hwithin second (hlead lead).2)
    · exact Or.inr (hwithin third (by decide))
  | four lead second third fourth =>
    simp only [List.mem_cons, List.not_mem_nil, or_false] at hb
    rcases hb with rfl | rfl | rfl | rfl
    · exact Or.inr (hlead lead).1
    · exact Or.inr (hwithin second (hlead lead).2)
    · exact Or.inr (hwithin third (by decide))
    · exact Or.inr (hwithin fourth (by decide))

/-! ### Texts -/

/-- The first character of a text is read off its bytes. -/
theorem firstChar_encode (c : Char) : ∃ b bs, String.utf8EncodeChar c = b :: bs ∧
    ∀ r, firstChar b (bs ++ r) = (some c, r) := by
  obtain ⟨b, bs, he⟩ := List.exists_cons_of_ne_nil (String.utf8EncodeChar_ne_nil (c := c))
  have hs : Sequence c.toNat (b :: bs) := he ▸ sequence_encode c
  exact ⟨b, bs, he, fun r => by rw [firstChar_of_sequence hs, Char.ofNat_toNat]⟩

/-- A character is read only off its own bytes. -/
theorem eq_encode_of_firstChar {b : UInt8} {r r' : List UInt8} {c : Char}
    (h : firstChar b r = (some c, r')) : b :: r = String.utf8EncodeChar c ++ r' := by
  obtain ⟨v, bs, hs, rfl, rfl⟩ := sequence_of_firstChar h
  rw [hs.encode]
  rfl

@[simp] theorem utf8_nil : utf8 [] = [] := rfl

theorem utf8_cons (c : Char) (cs : List Char) : utf8 (c :: cs) = String.utf8EncodeChar c ++ utf8 cs := rfl

theorem charsOfUtf8_utf8 (cs : List Char) : charsOfUtf8 (utf8 cs) = cs.map some := by
  induction cs with
  | nil => simp [charsOfUtf8]
  | cons c cs ih =>
    obtain ⟨b, bs, he, hfirst⟩ := firstChar_encode c
    rw [utf8_cons, he, List.cons_append, charsOfUtf8, hfirst, ih]
    rfl

@[simp] theorem lossyText_utf8 (cs : List Char) : lossyText (utf8 cs) = cs := by
  have hid : (fun c : Option Char => c.getD '\uFFFD') ∘ some = id := rfl
  rw [lossyText, charsOfUtf8_utf8, List.map_map, hid, List.map_id]

theorem eq_utf8_of_charsOfUtf8 {bs : List UInt8} {cs : List Char}
    (h : charsOfUtf8 bs = cs.map some) : bs = utf8 cs := by
  induction cs generalizing bs with
  | nil =>
    cases bs with
    | nil => rfl
    | cons b r =>
      rw [charsOfUtf8] at h
      cases h
  | cons c cs ih =>
    cases bs with
    | nil =>
      rw [charsOfUtf8] at h
      cases h
    | cons b r =>
      rw [charsOfUtf8, List.map_cons, List.cons.injEq] at h
      have hfirst : firstChar b r = (some c, (firstChar b r).2) := Prod.ext h.1 rfl
      rw [eq_encode_of_firstChar hfirst, ih h.2]
      rfl

theorem mapM_id_eq_some {α : Type} {xs : List (Option α)} {ys : List α} :
    xs.mapM id = some ys ↔ xs = ys.map some := by
  induction xs generalizing ys with
  | nil => cases ys <;> simp
  | cons x xs ih =>
    simp only [List.mapM_cons, Option.bind_eq_bind, Option.bind_eq_some_iff, Option.pure_def,
      Option.some.injEq, id_eq]
    constructor
    · rintro ⟨y, rfl, zs, hzs, rfl⟩
      rw [ih.mp hzs, List.map_cons]
    · intro h
      cases ys with
      | nil => cases h
      | cons y ys =>
        rw [List.map_cons, List.cons.injEq] at h
        exact ⟨y, h.1, ys, ih.mpr h.2, rfl⟩

/-- The bytes of a text, and no others, are read as that text. -/
theorem ofUtf8?_eq_some_iff {bs : List UInt8} {cs : List Char} :
    ofUtf8? bs = some cs ↔ bs = utf8 cs := by
  unfold ofUtf8?
  rw [mapM_id_eq_some]
  constructor
  · exact eq_utf8_of_charsOfUtf8
  · rintro rfl
    exact charsOfUtf8_utf8 cs

theorem utf8_injective {a b : List Char} (h : utf8 a = utf8 b) : a = b := by
  rw [← lossyText_utf8 a, h, lossyText_utf8]

end Portkeeper.Text
