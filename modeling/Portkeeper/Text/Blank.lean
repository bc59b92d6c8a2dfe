/-!
White space of Unicode (the property `White_Space`), and texts without it at their ends.
-/

set_option autoImplicit false

namespace Portkeeper.Text

/-- A character with the Unicode property `White_Space`. -/
def isBlank (c : Char) : Bool :=
  let n := c.toNat
  (0x9 ≤ n && n ≤ 0xD) || n == 0x20 || n == 0x85 || n == 0xA0 || n == 0x1680 ||
    (0x2000 ≤ n && n ≤ 0x200A) || n == 0x2028 || n == 0x2029 || n == 0x202F || n == 0x205F ||
    n == 0x3000

/-- The text without white space at either end. -/
def trim (cs : List Char) : List Char :=
  ((cs.dropWhile isBlank).reverse.dropWhile isBlank).reverse

/-- A text that neither starts nor ends with white space. -/
def Tight (cs : List Char) : Prop :=
  (∀ c, cs.head? = some c → isBlank c = false) ∧ ∀ c, cs.getLast? = some c → isBlank c = false

theorem dropWhile_of_head? {cs : List Char} {p : Char → Bool}
    (h : ∀ c, cs.head? = some c → p c = false) : cs.dropWhile p = cs := by
  cases cs with
  | nil => rfl
  | cons c cs => simp [h c rfl]

theorem trim_of_tight {cs : List Char} (h : Tight cs) : trim cs = cs := by
  rw [trim, dropWhile_of_head? h.1, dropWhile_of_head? (by simpa using h.2), List.reverse_reverse]

theorem head?_dropWhile {cs : List Char} {p : Char → Bool} {c : Char}
    (h : (cs.dropWhile p).head? = some c) : p c = false := by
  have := List.head?_dropWhile_not p cs
  rw [h] at this
  simpa using this

/-- White space is dropped once and for all. -/
theorem tight_trim (cs : List Char) : Tight (trim cs) := by
  refine ⟨fun c hc => ?_, fun c hc => ?_⟩
  · -- The text that remains starts where the text without white space in front starts.
    obtain ⟨after, ha⟩ : trim cs <+: cs.dropWhile isBlank := by
      have hs : trim cs <+: (cs.dropWhile isBlank).reverse.reverse :=
        List.reverse_prefix.mpr (List.dropWhile_suffix isBlank)
      rwa [List.reverse_reverse] at hs
    have hhead : (cs.dropWhile isBlank).head? = some c := by
      rw [← ha, List.head?_append, hc]
      rfl
    exact head?_dropWhile hhead
  · rw [trim, List.getLast?_reverse] at hc
    exact head?_dropWhile hc

theorem trim_trim (cs : List Char) : trim (trim cs) = trim cs := trim_of_tight (tight_trim cs)

theorem dropWhile_blank {before cs : List Char} (hb : before.all isBlank = true) :
    (before ++ cs).dropWhile isBlank = cs.dropWhile isBlank :=
  List.dropWhile_append_of_pos (List.all_eq_true.mp hb)

/-- White space around a text is dropped. -/
theorem trim_around {before after : List Char} (hb : before.all isBlank = true)
    (ha : after.all isBlank = true) (cs : List Char) : trim (before ++ cs ++ after) = trim cs := by
  rw [trim, trim, List.append_assoc, dropWhile_blank hb, List.dropWhile_append]
  split
  · rename_i he
    have hnone : (after ++ []).dropWhile isBlank = [] := dropWhile_blank ha
    rw [List.append_nil] at hnone
    rw [hnone, List.isEmpty_iff.mp he]
  · rw [List.reverse_append, dropWhile_blank (by rwa [List.all_reverse])]

/-- `trim` on strings. -/
def trimmed (s : String) : String := String.ofList (trim s.toList)

end Portkeeper.Text
