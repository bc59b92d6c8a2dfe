import Portkeeper.Net.IP

/-!
The distinguished encoding of ASN.1: tagged elements with definite lengths, and the simple types
that certificates and keys are made of. Every reader takes its element off the front and returns the
rest.
-/

set_option autoImplicit false

namespace Portkeeper.Der

inductive Class where
  | universal
  | application
  | context
  | own
  deriving DecidableEq, Repr

def Class.ofBits : Nat → Class
  | 0 => .universal
  | 1 => .application
  | 2 => .context
  | _ => .own

structure Tag where
  cls : Class
  constructed : Bool
  number : Nat
  deriving DecidableEq, Repr

structure Element where
  tag : Tag
  content : List UInt8
  deriving DecidableEq, Repr

abbrev Read (α : Type) := List UInt8 → Option (α × List UInt8)

/-- The number that bytes denote, most significant first. -/
def ofBytes (bs : List UInt8) : Nat := bs.foldl (fun n b => n * 256 + b.toNat) 0

/-- A tag number in groups of seven bits, the last of which has a clear top bit; at most five. -/
def readTagNumber : Nat → Nat → Read Nat
  | 0, _, _ => none
  | _, _, [] => none
  | fuel + 1, n, b :: bs =>
    let n := n * 128 + b.toNat % 128
    if b.toNat < 128 then some (n, bs) else readTagNumber fuel n bs

def readTag : Read Tag
  | [] => none
  | b :: bs =>
    let cls := Class.ofBits (b.toNat / 64)
    let constructed := b.toNat / 32 % 2 = 1
    if b.toNat % 32 = 31 then
      (readTagNumber 5 0 bs).map fun (n, r) => (⟨cls, constructed, n⟩, r)
    else some (⟨cls, constructed, b.toNat % 32⟩, bs)

/-- A definite length: one byte, or a count of bytes and the bytes. -/
def readLength : Read Nat
  | [] => none
  | b :: bs =>
    let n := b.toNat
    if n < 128 then some (n, bs)
    else
      let k := n - 128
      if k = 0 ∨ k = 127 ∨ bs.length < k then none
      else
        let v := ofBytes (bs.take k)
        if v < Nat.pow 2 64 then some (v, bs.drop k) else none

/-- An element of any type. -/
def read : Read Element := fun bs => do
  let (tag, bs) ← readTag bs
  let (n, bs) ← readLength bs
  if bs.length < n then none else some (⟨tag, bs.take n⟩, bs.drop n)

theorem length_readTagNumber {fuel n m : Nat} {bs r : List UInt8}
    (h : readTagNumber fuel n bs = some (m, r)) : r.length ≤ bs.length := by
  induction bs generalizing fuel n with
  | nil => cases fuel <;> simp [readTagNumber] at h
  | cons b bs ih =>
    cases fuel with
    | zero => simp [readTagNumber] at h
    | succ fuel =>
      simp only [readTagNumber] at h
      split at h
      · simp only [Option.some.injEq, Prod.mk.injEq] at h
        simp [← h.2]
      · have := ih h
        simp only [List.length_cons]
        omega

theorem length_readTag {t : Tag} {bs r : List UInt8} (h : readTag bs = some (t, r)) :
    r.length < bs.length := by
  cases bs with
  | nil => simp [readTag] at h
  | cons b bs =>
    simp only [readTag] at h
    split at h
    · simp only [Option.map_eq_some_iff, Prod.mk.injEq, Prod.exists] at h
      obtain ⟨n, r', hr, _, rfl⟩ := h
      have := length_readTagNumber hr
      simp only [List.length_cons]
      omega
    · simp only [Option.some.injEq, Prod.mk.injEq] at h
      simp [← h.2]

theorem length_readLength {n : Nat} {bs r : List UInt8} (h : readLength bs = some (n, r)) :
    r.length ≤ bs.length := by
  cases bs with
  | nil => simp [readLength] at h
  | cons b bs =>
    simp only [readLength] at h
    split at h
    · simp only [Option.some.injEq, Prod.mk.injEq] at h
      simp [← h.2]
    · split at h
      · simp at h
      · split at h
        · simp only [Option.some.injEq, Prod.mk.injEq] at h
          rw [← h.2]
          simp only [List.length_drop, List.length_cons]
          omega
        · simp at h

/-- Every element takes up at least one byte. -/
theorem length_read {e : Element} {bs r : List UInt8} (h : read bs = some (e, r)) :
    r.length < bs.length := by
  simp only [read, Option.bind_eq_bind, Option.bind_eq_some_iff, Prod.exists] at h
  obtain ⟨t, r₁, h₁, n, r₂, h₂, h⟩ := h
  have := length_readTag h₁
  have := length_readLength h₂
  split at h
  · simp at h
  · simp only [Option.some.injEq, Prod.mk.injEq] at h
    rw [← h.2]
    simp only [List.length_drop]
    omega

/-- The elements that make up a content, if nothing is left over. -/
def readAll (bs : List UInt8) : Option (List Element) :=
  match bs with
  | [] => some []
  | b :: bs' =>
    match _h : read (b :: bs') with
    | none => none
    | some (e, r) => (readAll r).map (e :: ·)
termination_by bs.length
decreasing_by exact length_read (by assumption)

/-- An element of the given universal type. -/
def readUniversal (number : Nat) (constructed : Bool) : Read (List UInt8) := fun bs => do
  let (e, r) ← read bs
  if e.tag = ⟨.universal, constructed, number⟩ then some (e.content, r) else none

def readSequence : Read (List UInt8) := readUniversal 16 true
def readInteger : Read (List UInt8) := readUniversal 2 false
def readOctets : Read (List UInt8) := readUniversal 4 false

/-- An object identifier, whose last byte has a clear top bit. -/
def readOid : Read (List UInt8) := fun bs => do
  let (c, r) ← readUniversal 6 false bs
  match c.getLast? with
  | some b => if b.toNat < 128 then some (c, r) else none
  | none => none

/-- Whether a content is a bit string: a count of unused bits below eight, all of which are zero. -/
def isBits : List UInt8 → Bool
  | [] => false
  | [n] => n == 0
  | n :: bs => n.toNat < 8 && (bs.getLast?.getD 0).toNat % Nat.pow 2 n.toNat == 0

/-- A bit string, as the count of its unused bits and its bytes. -/
def readBits : Read (List UInt8) := fun bs => do
  let (c, r) ← readUniversal 3 false bs
  if isBits c then some (c, r) else none

/-- A truth value is a byte of no or of all bits. -/
def readBoolean : Read Bool := fun bs => do
  match ← readUniversal 1 false bs with
  | ([0], r) => some (false, r)
  | ([255], r) => some (true, r)
  | _ => none

/-- A non-negative integer below 2 ^ 32. -/
def readSmall : Read Nat := fun bs => do
  let (c, r) ← readInteger bs
  match c with
  | [] => none
  | b :: _ => if b.toNat < 128 ∧ ofBytes c < Nat.pow 2 32 then some (ofBytes c, r) else none

/-- The content of an element with the given context tag, if one comes next. -/
def optionalContext (number : Nat) (bs : List UInt8) : Option (List UInt8) × List UInt8 :=
  match read bs with
  | some (e, r) =>
    if e.tag.cls = .context ∧ e.tag.number = number then (some e.content, r) else (none, bs)
  | none => (none, bs)

/-! ### Times -/

def twoDigits (a b : UInt8) : Option Nat := do
  let x ← Text.digit? 10 (Char.ofNat a.toNat)
  let y ← Text.digit? 10 (Char.ofNat b.toNat)
  return x * 10 + y

def isLeap (year : Nat) : Bool := year % 4 == 0 && (year % 100 != 0 || year % 400 == 0)

def daysIn (year : Nat) : Nat → Nat
  | 2 => if isLeap year then 29 else 28
  | 4 | 6 | 9 | 11 => 30
  | m => if 1 ≤ m ∧ m ≤ 12 then 31 else 0

/-- A time zone: universal time, or an offset in hours and minutes. -/
def isZone : List UInt8 → Bool
  | [90] => true
  | [s, a, b, c, d] =>
    (s == 43 || s == 45) && (match twoDigits a b, twoDigits c d with
      | some h, some m => h ≤ 23 && m ≤ 59
      | _, _ => false)
  | _ => false

def isDate (year month day hour minute second : Nat) : Bool :=
  1 ≤ day && day ≤ daysIn year month && hour ≤ 23 && minute ≤ 59 && second ≤ 59

/-- Two digits of the year and of each further part down to minutes, perhaps seconds, and a zone. -/
def isShortTime : List UInt8 → Bool
  | y :: y' :: mo :: mo' :: d :: d' :: h :: h' :: mi :: mi' :: rest =>
    match twoDigits y y', twoDigits mo mo', twoDigits d d', twoDigits h h', twoDigits mi mi' with
    | some y, some mo, some d, some h, some mi =>
      let year := if y < 50 then 2000 + y else 1900 + y
      match rest with
      | s :: s' :: zone =>
        match twoDigits s s' with
        | some s => isDate year mo d h mi s && isZone zone
        | none => false
      | zone => isDate year mo d h mi 0 && isZone zone
    | _, _, _, _, _ => false
  | _ => false

/-- Four digits of the year, two of each further part down to seconds, perhaps a fraction, and
perhaps a zone. -/
def isLongTime : List UInt8 → Bool
  | c :: c' :: y :: y' :: mo :: mo' :: d :: d' :: h :: h' :: mi :: mi' :: s :: s' :: rest =>
    match twoDigits c c', twoDigits y y', twoDigits mo mo', twoDigits d d', twoDigits h h',
      twoDigits mi mi', twoDigits s s' with
    | some c, some y, some mo, some d, some h, some mi, some s =>
      let zone := match rest with
        | 46 :: f => f.dropWhile fun b => 48 ≤ b && b ≤ 57
        | 44 :: f => f.dropWhile fun b => 48 ≤ b && b ≤ 57
        | f => f
      isDate (c * 100 + y) mo d h mi s && (zone.isEmpty || isZone zone)
    | _, _, _, _, _, _, _ => false
  | _ => false

/-- A time in either form. -/
def readTime : Read (List UInt8) := fun bs => do
  let (e, r) ← read bs
  if e.tag = ⟨.universal, false, 23⟩ then
    if isShortTime e.content then some (e.content, r) else none
  else if e.tag = ⟨.universal, false, 24⟩ then
    if isLongTime e.content then some (e.content, r) else none
  else none

end Portkeeper.Der
