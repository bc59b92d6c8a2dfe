import Portkeeper.Text.Numeral

/-!
Percent escapes. A percent sign that two hexadecimal digits do not follow stands for itself.
-/

set_option autoImplicit false

namespace Portkeeper.Http
open Text

/-- The byte that two hexadecimal digits denote. -/
def hexPair (a b : UInt8) : Option UInt8 := do
  let x ← digit? 16 (Char.ofNat a.toNat)
  let y ← digit? 16 (Char.ofNat b.toNat)
  return UInt8.ofNat (x * 16 + y)

def percentDecode : List UInt8 → List UInt8
  | 37 :: a :: b :: r =>
    match hexPair a b with
    | some c => c :: percentDecode r
    | none => 37 :: percentDecode (a :: b :: r)
  | b :: r => b :: percentDecode r
  | [] => []
termination_by bs => bs.length

/-- Bytes without a percent sign are left as they are. -/
theorem percentDecode_of_notMem {bs : List UInt8} (h : 37 ∉ bs) : percentDecode bs = bs := by
  induction bs with
  | nil => simp [percentDecode]
  | cons b r ih =>
    simp only [List.mem_cons, not_or] at h
    unfold percentDecode
    split
    · simp_all
    · simp_all
    · simp_all

end Portkeeper.Http
