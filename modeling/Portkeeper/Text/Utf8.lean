/-!
UTF-8: the bytes of a text, the text of bytes, and the text of bytes that may not be UTF-8, in which
each longest start of a sequence that breaks off becomes one U+FFFD.
-/

set_option autoImplicit false

namespace Portkeeper.Text

def utf8 (cs : List Char) : List UInt8 := cs.flatMap String.utf8EncodeChar

@[simp] theorem utf8_append (a b : List Char) : utf8 (a ++ b) = utf8 a ++ utf8 b := by
  simp [utf8]

/-- The bytes of a string. -/
def utf8Bytes (s : String) : List UInt8 := utf8 s.toList

/-- A byte of the given range at the front. -/
def trail (low high : UInt8) : List UInt8 → Option (Nat × List UInt8)
  | b :: r => if low ≤ b ∧ b ≤ high then some (b.toNat % 64, r) else none
  | [] => none

/-- The number of bytes that follow a lead byte, and the range of the first of them. Sequences for
surrogates, for code points past the last and for longer forms than needed are left out. -/
def lead? (b : UInt8) : Option (Nat × UInt8 × UInt8) :=
  if b < 0xC2 then none
  else if b < 0xE0 then some (1, 0x80, 0xBF)
  else if b = 0xE0 then some (2, 0xA0, 0xBF)
  else if b = 0xED then some (2, 0x80, 0x9F)
  else if b < 0xF0 then some (2, 0x80, 0xBF)
  else if b = 0xF0 then some (3, 0x90, 0xBF)
  else if b < 0xF4 then some (3, 0x80, 0xBF)
  else if b = 0xF4 then some (3, 0x80, 0x8F)
  else none

/-- Take `n` further bytes into a code point; what has been taken is lost when one is missing. -/
def trails : Nat → Nat → List UInt8 → Option Nat × List UInt8
  | 0, v, r => (some v, r)
  | n + 1, v, r =>
    match trail 0x80 0xBF r with
    | none => (none, r)
    | some (d, r) => trails n (v * 64 + d) r

/-- The first character of a non-empty run of bytes, `none` for a sequence that breaks off. -/
def firstChar (b : UInt8) (r : List UInt8) : Option Char × List UInt8 :=
  if b < 0x80 then (some (Char.ofNat b.toNat), r)
  else match lead? b with
    | none => (none, r)
    | some (n, low, high) =>
      let v := b.toNat % Nat.pow 2 (6 - n)
      match trail low high r with
      | none => (none, r)
      | some (d, r) =>
        let (v, r) := trails (n - 1) (v * 64 + d) r
        (v.map Char.ofNat, r)

theorem length_trail {low high : UInt8} {r r' : List UInt8} {d : Nat}
    (h : trail low high r = some (d, r')) : r'.length ≤ r.length := by
  cases r with
  | nil => simp [trail] at h
  | cons b r =>
    simp only [trail] at h
    split at h
    · simp only [Option.some.injEq, Prod.mk.injEq] at h
      simp [← h.2]
    · simp at h

theorem length_trails (n v : Nat) (r : List UInt8) : (trails n v r).2.length ≤ r.length := by
  induction n generalizing v r with
  | zero => simp [trails]
  | succ n ih =>
    simp only [trails]
    cases h : trail 0x80 0xBF r with
    | none => simp
    | some p => exact Nat.le_trans (ih _ _) (length_trail (d := p.1) (by simpa using h))

theorem length_firstChar (b : UInt8) (r : List UInt8) : (firstChar b r).2.length ≤ r.length := by
  unfold firstChar
  split
  · simp
  · split
    · simp
    · rename_i n low high _
      split
      · simp
      · rename_i d r' h
        exact Nat.le_trans (length_trails _ _ _) (length_trail h)

/-- The characters of bytes, `none` for each sequence that is not one. -/
def charsOfUtf8 : List UInt8 → List (Option Char)
  | [] => []
  | b :: r => (firstChar b r).1 :: charsOfUtf8 (firstChar b r).2
termination_by bs => bs.length
decreasing_by
  have := length_firstChar b r
  simp only [List.length_cons]
  omega

/-- The text of bytes, with U+FFFD for what is not UTF-8. -/
def lossyText (bs : List UInt8) : List Char := (charsOfUtf8 bs).map (·.getD '\uFFFD')

/-- The text of bytes that are UTF-8. -/
def ofUtf8? (bs : List UInt8) : Option (List Char) := (charsOfUtf8 bs).mapM id

/-- The string of bytes, with U+FFFD for what is not UTF-8. -/
def lossyString (bs : List UInt8) : String := String.ofList (lossyText bs)

end Portkeeper.Text
