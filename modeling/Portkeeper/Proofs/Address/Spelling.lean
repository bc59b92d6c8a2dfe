import Mathlib.Data.List.TakeWhile
import Mathlib.Data.Nat.Digits.Defs
import Portkeeper.Proofs.Address.Ports

/-!
How addresses are spelled. An IPv4 address has one spelling. An IPv6 address has many: its groups in
hexadecimal with any zeros in front, the last two of them as an IPv4 address perhaps, and a double colon
for one or more zero groups perhaps. The readers take exactly these spellings, `IP.ofText?_eq_some_iff`
and `SocketAddress.ofText?_eq_some_iff`.
-/

set_option autoImplicit false

namespace Portkeeper

namespace Text

/-! ### Hexadecimal digits -/

theorem digit?_digitChar {n : Nat} (h : n < 16) : digit? 16 n.digitChar = some n := by
  have hall : ∀ n : Fin 16, digit? 16 (Nat.digitChar n) = some n.val := by decide
  exact hall ⟨n, h⟩

theorem hexadecimal_ne_nil (n : Nat) : hexadecimal n ≠ [] := Nat.toDigits_ne_nil

theorem hexadecimal_of_lt {n : Nat} (h : n < 16) : hexadecimal n = [n.digitChar] :=
  Nat.toDigits_of_lt_base h

theorem hexadecimal_of_le {n : Nat} (h : 16 ≤ n) :
    hexadecimal n = hexadecimal (n / 16) ++ [(n % 16).digitChar] :=
  Nat.toDigits_of_base_le (by decide) h

theorem isDigit_of_mem_hexadecimal {n : Nat} {c : Char} (hc : c ∈ hexadecimal n) :
    isDigit 16 c = true := by
  have hdigit {m : Nat} (hm : m < 16) : isDigit 16 m.digitChar = true := by
    rw [isDigit, digit?_digitChar hm]
    rfl
  induction n using Nat.strongRecOn with
  | ind n ih =>
    by_cases hn : n < 16
    · rw [hexadecimal_of_lt hn, List.mem_singleton] at hc
      exact hc ▸ hdigit hn
    · rw [hexadecimal_of_le (Nat.not_lt.mp hn), List.mem_append, List.mem_singleton] at hc
      rcases hc with hc | rfl
      · exact ih (n / 16) (by omega) hc
      · exact hdigit (Nat.mod_lt _ (by decide))

theorem ofDigits_hexadecimal (n : Nat) : ofDigits 16 (hexadecimal n) = n := by
  unfold ofDigits
  induction n using Nat.strongRecOn with
  | ind n ih =>
    by_cases hn : n < 16
    · simp [hexadecimal_of_lt hn, digit?_digitChar hn]
    · rw [hexadecimal_of_le (Nat.not_lt.mp hn), List.foldl_append, ih (n / 16) (by omega)]
      simp only [List.foldl_cons, List.foldl_nil, digit?_digitChar (Nat.mod_lt n (show 0 < 16 by decide)),
        Option.getD_some]
      omega

/-- Decimal digits are hexadecimal ones. -/
theorem isDigit_sixteen {c : Char} (h : isDigit 10 c = true) : isDigit 16 c = true := by
  have larger {v : Nat} (hv : (if v < 10 then some v else none).isSome = true) :
      (if v < 16 then some v else none).isSome = true := by
    split at hv
    · rename_i hlt
      rw [if_pos (Nat.lt_trans hlt (by decide))]
      rfl
    · cases hv
  unfold isDigit digit? at h ⊢
  dsimp only at h ⊢
  by_cases h0 : '0' ≤ c ∧ c ≤ '9'
  · simp only [if_pos h0] at h ⊢
    exact larger h
  · by_cases ha : 'a' ≤ c ∧ c ≤ 'f'
    · simp only [if_neg h0, if_pos ha] at h ⊢
      exact larger h
    · by_cases hA : 'A' ≤ c ∧ c ≤ 'F'
      · simp only [if_neg h0, if_neg ha, if_pos hA] at h ⊢
        exact larger h
      · simp [if_neg h0, if_neg ha, if_neg hA] at h

end Text

namespace Net
open Text

theorem eq_of_expect {c : Char} {cs rest : List Char} (h : expect c cs = some rest) :
    cs = c :: rest := by
  cases cs with
  | nil => cases h
  | cons d cs =>
    by_cases hd : d = c
    · simpa [expect, hd] using h
    · simp [expect, hd] at h

/-! ### Numbers -/

theorem takeWhile_append_of_head {p : Char → Bool} {ds rest : List Char} (hd : ∀ c ∈ ds, p c = true)
    (hr : ∀ c, rest.head? = some c → p c = false) :
    (ds ++ rest).takeWhile p = ds ∧ (ds ++ rest).dropWhile p = rest := by
  induction ds with
  | nil =>
    cases rest with
    | nil => exact ⟨rfl, rfl⟩
    | cons c rest => simp [hr c rfl]
  | cons d ds ih =>
    obtain ⟨ht, hdrop⟩ := ih fun c hc => hd c (List.mem_cons_of_mem _ hc)
    simp [hd d List.mem_cons_self, ht, hdrop]

/-- Digits that nothing is wrong with are read up to where they end. -/
theorem readNumber_append {radix limit : Nat} {width : Option Nat} {zeros : Bool}
    {ds rest : List Char} (hne : ds ≠ []) (hd : ∀ c ∈ ds, isDigit radix c = true)
    (hr : ∀ c, rest.head? = some c → isDigit radix c = false)
    (hw : ∀ w, width = some w → ds.length ≤ w)
    (hz : zeros = true ∨ ds.head? ≠ some '0' ∨ ds.length = 1) (hl : ofDigits radix ds ≤ limit) :
    readNumber radix width zeros limit (ds ++ rest) = some (ofDigits radix ds, rest) := by
  obtain ⟨ht, hdrop⟩ := takeWhile_append_of_head hd hr
  unfold readNumber
  dsimp only
  rw [ht, hdrop, if_neg]
  rintro (h | h | ⟨h, h0, h1⟩ | h)
  · exact hne h
  · cases width with
    | none => cases h
    | some w =>
      have hle := hw w rfl
      simp only [Option.any_some, decide_eq_true_eq] at h
      omega
  · rcases hz with hz | hz | hz
    · rw [hz] at h
      cases h
    · exact hz h0
    · omega
  · omega

/-- Where no digit stands there is no number. -/
theorem readNumber_of_head {radix limit : Nat} {width : Option Nat} {zeros : Bool} {cs : List Char}
    (h : ∀ c, cs.head? = some c → isDigit radix c = false) :
    readNumber radix width zeros limit cs = none := by
  have ht : ([] ++ cs).takeWhile (isDigit radix) = [] := (takeWhile_append_of_head (by simp) h).1
  unfold readNumber
  dsimp only
  rw [List.nil_append] at ht
  rw [ht, if_pos (Or.inl rfl)]

/-- What a number that was read looks like. -/
theorem of_readNumber {radix limit n : Nat} {width : Option Nat} {zeros : Bool} {cs rest : List Char}
    (h : readNumber radix width zeros limit cs = some (n, rest)) :
    ∃ ds, cs = ds ++ rest ∧ ds ≠ [] ∧ (∀ c ∈ ds, isDigit radix c = true) ∧
      (∀ w, width = some w → ds.length ≤ w) ∧
      (zeros = false → ds.head? = some '0' → ds.length ≤ 1) ∧ ofDigits radix ds = n ∧ n ≤ limit := by
  unfold readNumber at h
  dsimp only at h
  split at h
  · cases h
  · rename_i hno
    simp only [not_or, not_and, Nat.not_lt] at hno
    obtain ⟨hne, hwidth, hzero, hle⟩ := hno
    cases h
    refine ⟨cs.takeWhile (isDigit radix), List.takeWhile_append_dropWhile.symm, hne,
      fun c hc => List.mem_takeWhile_imp hc, fun w hw => ?_, hzero, rfl, hle⟩
    subst hw
    simpa using hwidth

/-- Without needless zeros a number has one spelling. -/
theorem eq_of_readNumber {limit n : Nat} {width : Option Nat} {cs rest : List Char}
    (h : readNumber 10 width false limit cs = some (n, rest)) :
    cs = decimal n ++ rest ∧ n ≤ limit := by
  obtain ⟨ds, rfl, hne, hall, -, hzero, rfl, hle⟩ := of_readNumber h
  rw [decimal_ofDigits hne (fun c hc => isDigit_ten (hall c hc)) (hzero rfl)]
  exact ⟨rfl, hle⟩

theorem isDigit_ten_iff {c : Char} : isDigit 10 c = true ↔ c.isDigit = true :=
  ⟨isDigit_ten, fun h => by rw [isDigit, digit?_of_isDigit h]; rfl⟩

/-- A number without a limit on its digits is read as its spelling. -/
theorem readNumber_eq_some_iff {limit n : Nat} {cs rest : List Char}
    (hr : ∀ c, rest.head? = some c → c.isDigit = false) :
    readNumber 10 none true limit cs = some (n, rest) ↔
      ∃ ds, cs = ds ++ rest ∧ Digits ds n ∧ n ≤ limit := by
  constructor
  · intro h
    obtain ⟨ds, rfl, hne, hall, -, -, rfl, hle⟩ := of_readNumber h
    have hdigit : ∀ c ∈ ds, c.isDigit = true := fun c hc => isDigit_ten (hall c hc)
    exact ⟨ds, rfl, ⟨hne, hdigit, (ofDigits_eq hdigit 0).symm⟩, hle⟩
  · rintro ⟨ds, rfl, hd, hle⟩
    have hvalue : ofDigits 10 ds = n := (ofDigits_eq hd.digit 0).trans hd.value
    have hend : ∀ c, rest.head? = some c → isDigit 10 c = false := fun c hc => by
      rw [Bool.eq_false_iff, ne_eq, isDigit_ten_iff, hr c hc]
      exact Bool.false_ne_true
    rw [readNumber_append hd.nonempty (fun c hc => isDigit_ten_iff.mpr (hd.digit c hc)) hend
      (fun w hw => by cases hw) (Or.inl rfl) (hvalue ▸ hle), hvalue]

theorem eq_of_whole? {α : Type} {r : Reader α} {cs : List Char} {x : α} (h : r.whole? cs = some x) :
    r cs = some (x, []) := by
  unfold Reader.whole? at h
  split at h
  · rename_i hr
    cases h
    exact hr
  · cases h

/-! ### Dotted addresses -/

namespace IPv4

theorem readOctet_decimal (n : UInt8) {rest : List Char}
    (hr : ∀ c, rest.head? = some c → isDigit 10 c = false) :
    readOctet (decimal n.toNat ++ rest) = some (n, rest) := by
  have hshort : ∀ n : Fin 256, (decimal n).length ≤ 3 ∧
      ((decimal n).head? ≠ some '0' ∨ (decimal n).length = 1) := by decide +kernel
  obtain ⟨hlen, hzero⟩ := hshort ⟨n.toNat, n.toNat_lt⟩
  have hdigit : ∀ c ∈ decimal n.toNat, isDigit 10 c = true := fun c hc => by
    rw [isDigit, digit?_of_isDigit (isDigit_of_mem_decimal hc)]
    rfl
  unfold readOctet
  rw [readNumber_append (decimal_ne_nil _) hdigit hr (fun w hw => Option.some.inj hw ▸ hlen)
    (Or.inr hzero) (by rw [ofDigits_decimal]; exact Nat.le_of_lt_succ n.toNat_lt), ofDigits_decimal]
  simp

theorem read_text (v : IPv4) {rest : List Char}
    (hr : ∀ c, rest.head? = some c → isDigit 10 c = false) :
    read (v.text ++ rest) = some (v, rest) := by
  have hpoint (cs : List Char) : ∀ c, ('.' :: cs).head? = some c → isDigit 10 c = false := fun c hc => by
    rw [← Option.some.inj hc]
    decide
  simp only [text, List.append_assoc, List.cons_append, read]
  simp only [readOctet_decimal _ (hpoint _), readOctet_decimal _ hr, expect, if_true,
    Option.bind_eq_bind, Option.bind_some, Option.pure_def]

theorem readOctet_rest {cs rest : List Char} {n : UInt8} (h : readOctet cs = some (n, rest)) :
    rest = cs.dropWhile (isDigit 10) := by
  unfold readOctet readNumber at h
  obtain ⟨⟨m, r⟩, hm, he⟩ := Option.map_eq_some_iff.mp h
  dsimp only at hm
  split at hm
  · cases hm
  · cases hm
    cases he
    rfl

/-- What goes on without a point behind its first digits is no dotted address. -/
theorem read_eq_none {cs : List Char}
    (h : ∀ c, (cs.dropWhile (isDigit 10)).head? = some c → c ≠ '.') : read cs = none := by
  unfold read
  cases ho : readOctet cs with
  | none => rfl
  | some x =>
    obtain ⟨a, rest⟩ := x
    have hrest := readOctet_rest ho
    have hexpect : expect '.' rest = none := by
      cases rest with
      | nil => rfl
      | cons c rest => exact if_neg (h c (by rw [← hrest]; rfl))
    simp only [Option.bind_eq_bind, Option.bind_some, hexpect, Option.bind_none]

theorem read_of_head {cs : List Char} (h : ∀ c, cs.head? = some c → isDigit 10 c = false) :
    read cs = none := by
  unfold read readOctet
  rw [readNumber_of_head h]
  rfl

theorem eq_of_readOctet {cs rest : List Char} {o : UInt8} (h : readOctet cs = some (o, rest)) :
    cs = decimal o.toNat ++ rest := by
  unfold readOctet at h
  obtain ⟨⟨n, r⟩, hn, he⟩ := Option.map_eq_some_iff.mp h
  obtain ⟨hcs, hle⟩ := eq_of_readNumber hn
  cases he
  rw [UInt8.toNat_ofNat', Nat.mod_eq_of_lt (by omega)]
  exact hcs

theorem eq_of_read {cs rest : List Char} {v : IPv4} (h : read cs = some (v, rest)) :
    cs = v.text ++ rest := by
  simp only [read, Option.bind_eq_bind, Option.bind_eq_some_iff, Prod.exists, Option.pure_def,
    Option.some.injEq, Prod.mk.injEq] at h
  obtain ⟨a, c1, h1, c2, h2, b, c3, h3, c4, h4, c, c5, h5, c6, h6, d, c7, h7, rfl, rfl⟩ := h
  rw [eq_of_readOctet h1, eq_of_expect h2, eq_of_readOctet h3, eq_of_expect h4,
    eq_of_readOctet h5, eq_of_expect h6, eq_of_readOctet h7]
  simp [text]

theorem colon_notMem_text (v : IPv4) : ':' ∉ v.text := by
  simp [text, notMem_decimal]

end IPv4

/-! ### Groups -/

namespace IPv6

/-- A text with which groups cannot go on: it starts neither with a digit nor with a point, and no digit
follows if it starts with a colon. -/
structure Halts (cs : List Char) : Prop where
  digit : ∀ c, cs.head? = some c → isDigit 16 c = false
  point : ∀ c, cs.head? = some c → c ≠ '.'
  colon : ∀ rest, cs = ':' :: rest → ∀ c, rest.head? = some c → isDigit 16 c = false

/-- A spelling of a group: one to four hexadecimal digits. -/
structure Group (ds : List Char) (g : UInt16) : Prop where
  nonempty : ds ≠ []
  short : ds.length ≤ 4
  digit : ∀ c ∈ ds, isDigit 16 c = true
  value : ofDigits 16 ds = g.toNat

/-- The colon in front of every group but the first. -/
def colon (first : Bool) : List Char := if first then [] else [':']

/-- A spelling of groups with a colon in front of each, but of the first only if another stands before
it. The last two may be an IPv4 address, which the flag `dotted` tells. -/
inductive Groups : (first dotted : Bool) → List UInt16 → List Char → Prop
  | nil {first : Bool} : Groups first false [] []
  | dotted {first : Bool} (v : IPv4) : Groups first true (groupsOf v) (colon first ++ v.text)
  | cons {first dotted : Bool} {g : UInt16} {gs : List UInt16} {ds cs : List Char} (group : Group ds g)
      (rest : Groups false dotted gs cs) : Groups first dotted (g :: gs) (colon first ++ (ds ++ cs))

/-- The spellings of an address: eight groups, or fewer on the two sides of a double colon. -/
inductive Spelled : List Char → IPv6 → Prop
  | full {v : IPv6} {dotted : Bool} {cs : List Char} (groups : Groups true dotted v.groups cs) :
      Spelled cs v
  | compressed {v : IPv6} {head tail : List UInt16} {dotted : Bool} {hs ts : List Char}
      (before : Groups true false head hs) (after : Groups true dotted tail ts)
      (short : head.length + tail.length < 8)
      (zeros : v.groups = head ++ List.replicate (8 - head.length - tail.length) 0 ++ tail) :
      Spelled (hs ++ ':' :: ':' :: ts) v

theorem not_digit_ten {c : Char} (h : isDigit 16 c = false) : isDigit 10 c = false := by
  cases hc : isDigit 10 c with
  | false => rfl
  | true =>
    rw [isDigit_sixteen hc] at h
    cases h

theorem separator_eq_some_iff {first : Bool} {cs rest : List Char} :
    separator first cs = some rest ↔ cs = colon first ++ rest := by
  cases first with
  | true => simp [separator, colon]
  | false =>
    refine ⟨fun h => eq_of_expect h, fun h => ?_⟩
    rw [h]
    rfl

theorem readGroup_of_head {cs : List Char} (h : ∀ c, cs.head? = some c → isDigit 16 c = false) :
    readGroup cs = none := by
  unfold readGroup
  rw [readNumber_of_head h]
  rfl

theorem Group.read {ds : List Char} {g : UInt16} (h : Group ds g) {rest : List Char}
    (hr : ∀ c, rest.head? = some c → isDigit 16 c = false) :
    readGroup (ds ++ rest) = some (g, rest) := by
  have hlimit : ofDigits 16 ds ≤ 65535 := h.value ▸ Nat.le_of_lt_succ g.toNat_lt
  unfold readGroup
  rw [readNumber_append h.nonempty h.digit hr (fun w hw => Option.some.inj hw ▸ h.short) (Or.inl rfl)
    hlimit, h.value]
  simp

theorem group_of_read {cs rest : List Char} {g : UInt16} (h : readGroup cs = some (g, rest)) :
    ∃ ds, cs = ds ++ rest ∧ Group ds g := by
  unfold readGroup at h
  obtain ⟨⟨n, r⟩, hn, he⟩ := Option.map_eq_some_iff.mp h
  obtain ⟨ds, rfl, hne, hall, hwidth, -, hvalue, hle⟩ := of_readNumber hn
  cases he
  refine ⟨ds, rfl, hne, hwidth 4 rfl, hall, ?_⟩
  rw [hvalue, UInt16.toNat_ofNat', Nat.mod_eq_of_lt (by omega)]

/-- A group is no dotted address, unless a point follows. -/
theorem Group.read4 {ds : List Char} {g : UInt16} (h : Group ds g) {rest : List Char}
    (hr : ∀ c, rest.head? = some c → isDigit 16 c = false ∧ c ≠ '.') :
    IPv4.read (ds ++ rest) = none := by
  have hpoint (ds : List Char) (hds : ∀ c ∈ ds, c ≠ '.') :
      ∀ c, ((ds ++ rest).dropWhile (isDigit 10)).head? = some c → c ≠ '.' := by
    induction ds with
    | nil =>
      rw [List.nil_append, dropWhile_of_head? fun c hc => not_digit_ten (hr c hc).1]
      exact fun c hc => (hr c hc).2
    | cons d ds ih =>
      intro c hc
      rw [List.cons_append, List.dropWhile_cons] at hc
      split at hc
      · exact ih (fun c hc => hds c (List.mem_cons_of_mem _ hc)) c hc
      · exact Option.some.inj hc ▸ hds d List.mem_cons_self
  refine IPv4.read_eq_none (hpoint _ fun c hc he => ?_)
  have hdigit := h.digit c hc
  rw [he] at hdigit
  exact absurd hdigit (by decide)

/-- One more group. -/
theorem Group.readGroups {ds : List Char} {g : UInt16} (h : Group ds g) {first : Bool}
    {rest : List Char} (hr : ∀ c, rest.head? = some c → isDigit 16 c = false ∧ c ≠ '.') (room : Nat) :
    readGroups (room + 1) first (colon first ++ (ds ++ rest)) =
      (g :: (readGroups room false rest).1, (readGroups room false rest).2) := by
  have hs : separator first (colon first ++ (ds ++ rest)) = some (ds ++ rest) :=
    separator_eq_some_iff.mpr rfl
  rw [IPv6.readGroups, hs]
  simp only [Option.bind_eq_bind, Option.bind_some, h.read4 hr, ite_self,
    h.read fun c hc => (hr c hc).1]

/-- No more groups. -/
theorem readGroups_end {first : Bool} {cs : List Char}
    (h : ∀ rest, separator first cs = some rest → ∀ c, rest.head? = some c → isDigit 16 c = false)
    (room : Nat) : readGroups room first cs = ([], false, cs) := by
  cases room with
  | zero => rfl
  | succ room =>
    rw [readGroups]
    cases hs : separator first cs with
    | none => simp
    | some rest =>
      have hhead := h rest hs
      simp [IPv4.read_of_head fun c hc => not_digit_ten (hhead c hc), readGroup_of_head hhead]

theorem Halts.separated {cs : List Char} (h : Halts cs) {first : Bool} :
    ∀ rest, separator first cs = some rest → ∀ c, rest.head? = some c → isDigit 16 c = false := by
  intro rest hrest
  have he := separator_eq_some_iff.mp hrest
  cases first with
  | true =>
    obtain rfl : cs = rest := he
    exact h.digit
  | false => exact h.colon rest he

/-- What follows a group is a colon, or whatever follows the last one. -/
theorem Groups.head {dotted : Bool} {gs : List UInt16} {cs : List Char}
    (h : Groups false dotted gs cs) {rest : List Char} (hr : Halts rest) :
    ∀ c, (cs ++ rest).head? = some c → isDigit 16 c = false ∧ c ≠ '.' := by
  intro c hc
  cases h with
  | nil => exact ⟨hr.digit c hc, hr.point c hc⟩
  | dotted v =>
    obtain rfl : ':' = c := Option.some.inj hc
    decide
  | cons group more =>
    obtain rfl : ':' = c := Option.some.inj hc
    decide

/-- Groups that are spelled are read, whatever follows if only they cannot go on. -/
theorem Groups.read {first dotted : Bool} {gs : List UInt16} {cs : List Char}
    (h : Groups first dotted gs cs) {rest : List Char} (hr : Halts rest) {room : Nat}
    (hroom : gs.length ≤ room) : readGroups room first (cs ++ rest) = (gs, dotted, rest) := by
  induction h generalizing room with
  | nil => exact readGroups_end hr.separated room
  | @dotted first v =>
    obtain ⟨room, rfl⟩ : ∃ n, room = n + 2 := ⟨room - 2, by simp [groupsOf] at hroom; omega⟩
    have hs : separator first (colon first ++ v.text ++ rest) = some (v.text ++ rest) :=
      separator_eq_some_iff.mpr (List.append_assoc _ _ _)
    have hv := IPv4.read_text v fun c hc => not_digit_ten (hr.digit c hc)
    rw [readGroups, hs]
    simp [hv]
  | @cons first dotted g gs ds cs group more ih =>
    obtain ⟨room, rfl⟩ : ∃ n, room = n + 1 := ⟨room - 1, by simp at hroom; omega⟩
    rw [List.append_assoc, List.append_assoc, group.readGroups (more.head hr),
      ih (Nat.le_of_succ_le_succ hroom)]

/-- Groups that are read are spelled, and fit into the room that there is. -/
theorem groups_of_readGroups {room : Nat} {first dotted : Bool} {gs : List UInt16}
    {cs rest : List Char} (h : readGroups room first cs = (gs, dotted, rest)) :
    gs.length ≤ room ∧ ∃ t, cs = t ++ rest ∧ Groups first dotted gs t := by
  induction room generalizing first dotted gs cs rest with
  | zero =>
    cases h
    exact ⟨Nat.le_refl _, [], rfl, .nil⟩
  | succ room ih =>
    rw [readGroups] at h
    split at h
    · rename_i v r hv
      split at hv
      · cases hv
      · rename_i hroom
        obtain ⟨c, hc, hread⟩ := Option.bind_eq_some_iff.mp hv
        cases h
        refine ⟨by simp only [groupsOf, List.length_cons, List.length_nil]; omega,
          colon first ++ v.text, ?_, .dotted v⟩
        rw [separator_eq_some_iff.mp hc, IPv4.eq_of_read hread, List.append_assoc]
    · split at h
      · cases h
        exact ⟨Nat.zero_le _, [], rfl, .nil⟩
      · rename_i g r hg
        obtain ⟨c, hc, hread⟩ := Option.bind_eq_some_iff.mp hg
        obtain ⟨ds, rfl, hgroup⟩ := group_of_read hread
        cases h
        obtain ⟨hlen, t, ht, hgroups⟩ := @ih false _ _ r _ rfl
        refine ⟨Nat.succ_le_succ hlen, colon first ++ (ds ++ t), ?_, .cons hgroup hgroups⟩
        rw [separator_eq_some_iff.mp hc]
        conv_lhs => rw [ht]
        simp

/-! ### Whole addresses -/

theorem join?_eq {v : IPv6} {head tail : List UInt16}
    (h : v.groups = head ++ List.replicate (8 - head.length - tail.length) 0 ++ tail) :
    join? head tail = some v := by
  obtain ⟨gs, hlen⟩ := v
  simp only at h
  subst h
  unfold join?
  rw [dif_pos hlen]

theorem groups_of_join? {v : IPv6} {head tail : List UInt16} (h : join? head tail = some v) :
    v.groups = head ++ List.replicate (8 - head.length - tail.length) 0 ++ tail := by
  unfold join? at h
  dsimp only at h
  split at h
  · cases h
    rfl
  · cases h

theorem halts_colons (cs : List Char) : Halts (':' :: ':' :: cs) where
  digit c hc := by
    rw [← Option.some.inj hc]
    decide
  point c hc := by
    rw [← Option.some.inj hc]
    decide
  colon rest hr c hc := by
    rw [← (List.cons.inj hr).2] at hc
    rw [← Option.some.inj hc]
    decide

/-- A spelling of an address is read as the address. -/
theorem Spelled.read {cs : List Char} {v : IPv6} (h : Spelled cs v) {rest : List Char}
    (hr : Halts rest) : read (cs ++ rest) = some (v, rest) := by
  unfold IPv6.read
  cases h with
  | @full _ dotted _ groups =>
    rw [groups.read hr (Nat.le_of_eq v.length_eq)]
    simp only [v.length_eq, if_true]
    rw [join?_eq (v := v) (by simp [v.length_eq])]
    rfl
  | @compressed _ head tail dotted hs ts before after short zeros =>
    rw [List.append_assoc, List.cons_append, List.cons_append,
      before.read (halts_colons _) (by omega)]
    simp only [show head.length ≠ 8 by omega, if_false, Bool.false_eq_true, expect, if_true,
      Option.bind_eq_bind, Option.bind_some, after.read hr (show _ ≤ 7 - head.length by omega),
      join?_eq zeros, Option.pure_def]

/-- What is read as an address is a spelling of it. -/
theorem spelled_of_read {cs rest : List Char} {v : IPv6} (h : read cs = some (v, rest)) :
    ∃ t, cs = t ++ rest ∧ Spelled t v := by
  unfold read at h
  generalize hg : readGroups 8 true cs = first at h
  obtain ⟨head, dotted, r⟩ := first
  obtain ⟨hlen, t, rfl, hgroups⟩ := groups_of_readGroups hg
  dsimp only at h
  split at h
  · rename_i h8
    obtain ⟨w, hw, he⟩ := Option.map_eq_some_iff.mp h
    cases he
    have hv : v.groups = head := by simpa [h8] using groups_of_join? hw
    exact ⟨t, rfl, .full (hv.symm ▸ hgroups)⟩
  · split at h
    · cases h
    · rename_i h8 hdotted
      simp only [Option.bind_eq_bind, Option.bind_eq_some_iff, Option.pure_def, Option.some.injEq,
        Prod.mk.injEq] at h
      obtain ⟨r₁, hr₁, r₂, hr₂, w, hw, rfl, rfl⟩ := h
      generalize hg' : readGroups (7 - head.length) true r₂ = second at hw
      obtain ⟨tail, dotted', r₃⟩ := second
      obtain ⟨hlen', t', rfl, hgroups'⟩ := groups_of_readGroups hg'
      obtain rfl : dotted = false := by simpa using hdotted
      refine ⟨t ++ ':' :: ':' :: t', ?_, .compressed hgroups hgroups' (by omega) (groups_of_join? hw)⟩
      rw [eq_of_expect hr₁, eq_of_expect hr₂]
      simp

theorem halts_nil : Halts [] := ⟨nofun, nofun, nofun⟩

theorem whole?_eq_some_iff {cs : List Char} {v : IPv6} : read.whole? cs = some v ↔ Spelled cs v := by
  constructor
  · intro h
    obtain ⟨t, ht, hs⟩ := spelled_of_read (eq_of_whole? h)
    rwa [ht, List.append_nil]
  · intro h
    have hread := h.read halts_nil
    rw [List.append_nil] at hread
    rw [Reader.whole?, hread]

end IPv6
end Net
end Portkeeper
