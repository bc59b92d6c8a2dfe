import Portkeeper.Proofs.Address.Spelling

/-!
IP addresses and socket addresses in text form are read back as what they are: that form is one of their
spellings. The double colon in it stands for zeros, and no run of groups that is written out looks like a
dotted address.
-/

set_option autoImplicit false

namespace Portkeeper
namespace Net
open Text

/-! ### Groups -/

namespace IPv6

theorem group_hexadecimal (g : UInt16) : Group (hexadecimal g.toNat) g where
  nonempty := hexadecimal_ne_nil _
  short := Nat.toDigits_length 16 g.toNat 4 (by decide) g.toNat_lt
  digit _ hc := isDigit_of_mem_hexadecimal hc
  value := ofDigits_hexadecimal _

/-- Groups with a colon in front of each. -/
def colonText (gs : List UInt16) : List Char := gs.flatMap fun g => ':' :: hexadecimal g.toNat

theorem groupText_cons (g : UInt16) (gs : List UInt16) :
    groupText (g :: gs) = hexadecimal g.toNat ++ colonText gs := by
  induction gs generalizing g with
  | nil => simp [groupText, colonText]
  | cons h gs ih =>
    rw [groupText, ih h]
    simp [colonText]

theorem groups_colonText (gs : List UInt16) : Groups false false gs (colonText gs) := by
  induction gs with
  | nil => exact .nil
  | cons g gs ih => exact .cons (group_hexadecimal g) ih

/-- Groups that are written out are a spelling of them. -/
theorem groups_groupText (gs : List UInt16) : Groups true false gs (groupText gs) := by
  cases gs with
  | nil => exact .nil
  | cons g gs =>
    rw [groupText_cons]
    exact .cons (group_hexadecimal g) (groups_colonText gs)

/-! ### Runs of zeros -/

/-- The run that is left out when an address is written consists of zeros. -/
theorem zeroRun_spec (gs : List UInt16) : (zeroRun gs).1 + (zeroRun gs).2 ≤ gs.length ∧
    gs = gs.take (zeroRun gs).1 ++ List.replicate (zeroRun gs).2 0 ++
      gs.drop ((zeroRun gs).1 + (zeroRun gs).2) := by
  induction gs with
  | nil => exact ⟨Nat.le_refl _, rfl⟩
  | cons g gs ih =>
    obtain ⟨hle, heq⟩ := ih
    simp only [zeroRun]
    split
    · simp only [List.length_cons, List.take_succ_cons, List.cons_append]
      refine ⟨by omega, ?_⟩
      rw [Nat.add_right_comm, List.drop_succ_cons, ← heq]
    · have happ : g :: gs = (g :: gs).takeWhile (· == 0) ++ (g :: gs).dropWhile (· == 0) :=
        List.takeWhile_append_dropWhile.symm
      generalize hz : (g :: gs).takeWhile (· == 0) = zeros at happ ⊢
      have hzeros : zeros = List.replicate zeros.length 0 := by
        rw [List.eq_replicate_iff]
        exact ⟨rfl, fun c hc => by simpa using List.mem_takeWhile_imp (p := (· == (0 : UInt16))) (hz ▸ hc)⟩
      rw [happ]
      refine ⟨by simp, ?_⟩
      rw [Nat.zero_add, List.drop_left, List.take_zero, List.nil_append, ← hzeros]

/-! ### Whole addresses -/

theorem pair_bytes (g : UInt16) : pair (hiByte g) (loByte g) = g := by
  have hg := g.toNat_lt
  unfold pair hiByte loByte
  apply UInt16.toNat_inj.mp
  simp only [UInt8.toNat_ofNat', UInt16.toNat_ofNat']
  omega

theorem unmapped?_eq_some {v : IPv6} {w : IPv4} (h : v.unmapped? = some w) : v = mapped w := by
  obtain ⟨gs, hlen⟩ := v
  unfold unmapped? at h
  split at h
  · rename_i g g' hgs
    cases h
    simp only at hgs
    subst hgs
    simp only [mapped, pair_bytes]
  · cases h

theorem spelled_mapped (w : IPv4) : Spelled ("::ffff:".toList ++ w.text) (mapped w) := by
  have hgroup : Groups true true (0xffff :: groupsOf w)
      (hexadecimal (0xffff : UInt16).toNat ++ (':' :: w.text)) :=
    .cons (group_hexadecimal 0xffff) (.dotted w)
  exact .compressed .nil hgroup (by decide : 0 + 3 < 8) rfl

/-- The text of an address is a spelling of it. -/
theorem spelled_text (v : IPv6) : Spelled v.text v := by
  unfold text
  cases hm : v.unmapped? with
  | some w =>
    rw [unmapped?_eq_some hm]
    exact spelled_mapped w
  | none =>
    obtain ⟨hle, heq⟩ := zeroRun_spec v.groups
    dsimp only
    generalize (zeroRun v.groups).1 = start, (zeroRun v.groups).2 = length at hle heq ⊢
    have hlen := v.length_eq
    by_cases hrun : length ≤ 1
    · rw [if_pos hrun]
      exact .full (groups_groupText v.groups)
    · rw [if_neg hrun]
      have hhead : (v.groups.take start).length = start := by
        rw [List.length_take]
        omega
      have htail : (v.groups.drop (start + length)).length = 8 - (start + length) := by
        rw [List.length_drop, hlen]
      refine .compressed (groups_groupText _) (groups_groupText _) (by omega) ?_
      rw [hhead, htail, show 8 - start - (8 - (start + length)) = length by omega]
      exact heq

/-- Groups have colons between them, but for the two of a dotted part. -/
theorem Groups.length_le {first dotted : Bool} {gs : List UInt16} {cs : List Char}
    (h : Groups first dotted gs cs) : gs.length ≤ cs.count ':' + 1 + first.toNat := by
  have hmark (first : Bool) : (colon first).count ':' + first.toNat = 1 := by cases first <;> rfl
  induction h with
  | nil => simp
  | @dotted first v =>
    have hfirst := hmark first
    simp only [groupsOf, List.length_cons, List.length_nil, List.count_append]
    omega
  | @cons first dotted g gs ds cs group rest ih =>
    have hfirst := hmark first
    simp only [List.length_cons, List.count_append, Bool.toNat_false] at ih ⊢
    omega

theorem Spelled.two_colons {cs : List Char} {v : IPv6} (h : Spelled cs v) : 2 ≤ cs.count ':' := by
  cases h with
  | full groups =>
    have hlen := groups.length_le
    rw [v.length_eq, Bool.toNat_true] at hlen
    omega
  | compressed before after short zeros =>
    simp only [List.count_append, List.count_cons_self]
    omega

theorem Spelled.colon_mem {cs : List Char} {v : IPv6} (h : Spelled cs v) : ':' ∈ cs := by
  have htwo := h.two_colons
  exact List.count_pos_iff.mp (by omega)

end IPv6

/-! ### Addresses of either version -/

/-- The spellings of an IP address. -/
inductive IP.Spelled : List Char → IP → Prop
  | v4 (v : IPv4) : IP.Spelled v.text (.v4 v)
  | v6 {cs : List Char} {v : IPv6} (spelled : IPv6.Spelled cs v) : IP.Spelled cs (.v6 v)

theorem IPv4.whole?_eq_some_iff {cs : List Char} {v : IPv4} :
    IPv4.read.whole? cs = some v ↔ cs = v.text := by
  constructor
  · intro h
    rw [IPv4.eq_of_read (eq_of_whole? h), List.append_nil]
  · rintro rfl
    have hread := @IPv4.read_text v [] nofun
    rw [List.append_nil] at hread
    rw [Reader.whole?, hread]

/-- What is read as an address is a spelling of it. -/
theorem IP.ofText?_eq_some_iff {cs : List Char} {ip : IP} : IP.ofText? cs = some ip ↔ Spelled cs ip := by
  constructor
  · intro h
    unfold IP.ofText? at h
    split at h
    · rename_i v hv
      cases h
      rw [IPv4.whole?_eq_some_iff.mp hv]
      exact .v4 v
    · obtain ⟨v, hv, rfl⟩ := Option.map_eq_some_iff.mp h
      exact .v6 (IPv6.whole?_eq_some_iff.mp hv)
  · intro h
    unfold IP.ofText?
    cases h with
    | v4 v => rw [IPv4.whole?_eq_some_iff.mpr rfl]
    | @v6 _ v spelled =>
      have hnot : IPv4.read.whole? cs = none := by
        rw [Option.eq_none_iff_forall_not_mem]
        intro w hw
        have hcolon := spelled.colon_mem
        rw [IPv4.whole?_eq_some_iff.mp hw] at hcolon
        exact w.colon_notMem_text hcolon
      rw [hnot, IPv6.whole?_eq_some_iff.mpr spelled]
      rfl

/-! ### Socket addresses -/

namespace SocketAddress

/-- The spellings of a socket address: the one text of an IPv4 address, or an IPv6 address in brackets
with its scope, and a port in digits. -/
inductive Spelled : List Char → SocketAddress → Prop
  | v4 (v : IPv4) {ds : List Char} {p : UInt16} (port : Digits ds p.toNat) :
      Spelled (v.text ++ ':' :: ds) (.v4 v p)
  | v6 {cs ds : List Char} {v : IPv6} {p : UInt16} (address : IPv6.Spelled cs v)
      (port : Digits ds p.toNat) : Spelled ('[' :: (cs ++ ']' :: ':' :: ds)) (.v6 v p 0)
  | zoned {cs ss ds : List Char} {v : IPv6} {s : UInt32} {p : UInt16} (address : IPv6.Spelled cs v)
      (scope : Digits ss s.toNat) (port : Digits ds p.toNat) :
      Spelled ('[' :: (cs ++ '%' :: (ss ++ ']' :: ':' :: ds))) (.v6 v p s)

theorem readPort_eq_some_iff {cs : List Char} {p : UInt16} :
    readPort cs = some (p, []) ↔ ∃ ds, cs = ':' :: ds ∧ Digits ds p.toNat := by
  constructor
  · intro h
    simp only [readPort, Option.bind_eq_bind, Option.bind_eq_some_iff, Prod.exists, Option.pure_def,
      Option.some.injEq, Prod.mk.injEq] at h
    obtain ⟨ds, hc, n, r, hn, rfl, rfl⟩ := h
    obtain ⟨ds, rfl, hd, hle⟩ := (readNumber_eq_some_iff (by simp)).mp hn
    rw [List.append_nil] at hc
    exact ⟨ds, eq_of_expect hc, (Listen.toNat_ofNat_of_le hle).symm ▸ hd⟩
  · rintro ⟨ds, rfl, hd⟩
    have hn : readNumber 10 none true Numeral.max16 (ds ++ []) = some (p.toNat, []) :=
      (readNumber_eq_some_iff (by simp)).mpr ⟨ds, rfl, hd, Listen.toNat_le p⟩
    rw [List.append_nil] at hn
    simp [readPort, expect, hn]

theorem readScope_digits {ss : List Char} {s : UInt32} (h : Digits ss s.toNat) (cs : List Char) :
    readScope ('%' :: (ss ++ ']' :: cs)) = (s, ']' :: cs) := by
  have hn : readNumber 10 none true Numeral.max32 (ss ++ ']' :: cs) = some (s.toNat, ']' :: cs) :=
    (readNumber_eq_some_iff fun c hc => by rw [← Option.some.inj hc]; decide).mpr
      ⟨ss, rfl, h, Nat.le_of_lt_succ s.toNat_lt⟩
  simp [readScope, expect, hn]

/-- A scope that is read is none, or digits behind a percent sign. -/
theorem of_readScope {cs rest : List Char} {s : UInt32} (h : readScope cs = (s, ']' :: rest)) :
    cs = ']' :: rest ∧ s = 0 ∨ ∃ ss, cs = '%' :: (ss ++ ']' :: rest) ∧ Digits ss s.toNat := by
  unfold readScope at h
  split at h
  · rename_i n r hn
    obtain ⟨c, hc, hn⟩ := Option.bind_eq_some_iff.mp hn
    cases h
    obtain ⟨ss, rfl, hd, hle⟩ := (readNumber_eq_some_iff fun c hc => by
      rw [← Option.some.inj hc]; decide).mp hn
    refine .inr ⟨ss, eq_of_expect hc, ?_⟩
    have hn : (UInt32.ofNat n).toNat = n := Nat.mod_eq_of_lt (Nat.lt_succ_of_le hle)
    rwa [hn]
  · cases h
    exact .inl ⟨rfl, rfl⟩

/-- Groups end at a scope or at the bracket behind it. -/
theorem halts_mark {m : Char} (hm : isDigit 16 m = false ∧ m ≠ '.' ∧ m ≠ ':') (cs : List Char) :
    IPv6.Halts (m :: cs) :=
  ⟨fun _ hc => Option.some.inj hc ▸ hm.1, fun _ hc => Option.some.inj hc ▸ hm.2.1,
    fun _ hr => absurd (List.cons.inj hr).1 hm.2.2⟩

theorem whole?_read4_bracket (cs : List Char) : Reader.whole? read4 ('[' :: cs) = none := by
  have hno : IPv4.read ('[' :: cs) = none :=
    IPv4.read_of_head fun c hc => by
      rw [← Option.some.inj hc]
      decide
  simp [Reader.whole?, read4, hno]

/-- What is read as a socket address is a spelling of it. -/
theorem ofText?_eq_some_iff {cs : List Char} {a : SocketAddress} :
    ofText? cs = some a ↔ Spelled cs a := by
  constructor
  · intro h
    unfold ofText? at h
    split at h
    · rename_i a' h4
      cases h
      have h4 := eq_of_whole? h4
      simp only [read4, Option.bind_eq_bind, Option.bind_eq_some_iff, Prod.exists, Option.pure_def,
        Option.some.injEq, Prod.mk.injEq] at h4
      obtain ⟨v, c1, h1, p, c2, h2, rfl, rfl⟩ := h4
      obtain ⟨ds, rfl, hd⟩ := readPort_eq_some_iff.mp h2
      rw [IPv4.eq_of_read h1]
      exact .v4 v hd
    · have h6 := eq_of_whole? h
      simp only [read6, Option.bind_eq_bind, Option.bind_eq_some_iff, Prod.exists, Option.pure_def,
        Option.some.injEq, Prod.mk.injEq] at h6
      obtain ⟨c1, h1, v, c2, h2, c3, h3, p, c4, h4, rfl, rfl⟩ := h6
      obtain ⟨t, rfl, ht⟩ := IPv6.spelled_of_read h2
      obtain ⟨ds, rfl, hd⟩ := readPort_eq_some_iff.mp h4
      rw [eq_of_expect h1]
      have hscope : readScope c2 = ((readScope c2).1, ']' :: ':' :: ds) :=
        Prod.ext rfl (eq_of_expect h3)
      generalize (readScope c2).1 = s at hscope ⊢
      rcases of_readScope hscope with ⟨rfl, rfl⟩ | ⟨ss, rfl, hs⟩
      · exact .v6 ht hd
      · exact .zoned ht hs hd
  · intro h
    unfold ofText?
    cases h with
    | @v4 v ds p port =>
      have hread : IPv4.read (v.text ++ ':' :: ds) = some (v, ':' :: ds) :=
        IPv4.read_text v fun c hc => by
          rw [← Option.some.inj hc]
          decide
      simp [Reader.whole?, read4, hread, readPort_eq_some_iff.mpr ⟨ds, rfl, port⟩]
    | @v6 cs ds v p address port =>
      have hread := address.read (halts_mark (m := ']') (by decide) (':' :: ds))
      have hscope : readScope (']' :: ':' :: ds) = (0, ']' :: ':' :: ds) := rfl
      rw [whole?_read4_bracket]
      simp [Reader.whole?, read6, expect, hread, hscope, readPort_eq_some_iff.mpr ⟨ds, rfl, port⟩]
    | @zoned cs ss ds v s p address scope port =>
      have hread := address.read (halts_mark (m := '%') (by decide) (ss ++ ']' :: ':' :: ds))
      rw [whole?_read4_bracket]
      simp [Reader.whole?, read6, expect, hread, readScope_digits scope,
        readPort_eq_some_iff.mpr ⟨ds, rfl, port⟩]

/-- The text of a socket address is a spelling of it. -/
theorem spelled_text (a : SocketAddress) : Spelled a.text a := by
  cases a with
  | v4 v p => exact .v4 v (digits_decimal _)
  | v6 v p s =>
    have htext : (SocketAddress.v6 v p s).text =
        '[' :: (v.text ++ (scopeText s ++ ']' :: ':' :: decimal p.toNat)) := by simp [text]
    rw [htext]
    unfold scopeText
    split
    · rename_i hs
      rw [hs]
      exact .v6 v.spelled_text (digits_decimal _)
    · exact .zoned v.spelled_text (digits_decimal _) (digits_decimal _)

/-- A socket address in text form is read back. -/
theorem ofText?_text (a : SocketAddress) : ofText? a.text = some a :=
  ofText?_eq_some_iff.mpr a.spelled_text

end SocketAddress
end Net
end Portkeeper
