/-!
Cutting a text at a mark: at its first or last occurrence, and at a fixed start or end.
Each cut loses nothing, `cutFirst_eq` and `cutLast_eq`, and is made at any mark with no other before
it, `cutFirst_append`, or none after it, `cutLast_append`.
-/

set_option autoImplicit false

namespace Portkeeper.Text

variable {α : Type} [DecidableEq α]

/-- What remains after the given start. -/
def stripStart? : List α → List α → Option (List α)
  | [], xs => some xs
  | _ :: _, [] => none
  | p :: ps, x :: xs => if p = x then stripStart? ps xs else none

theorem stripStart?_append (ps xs : List α) : stripStart? ps (ps ++ xs) = some xs := by
  induction ps with
  | nil => rfl
  | cons p ps ih => simp [stripStart?, ih]

theorem eq_append_of_stripStart? {ps xs r : List α} (h : stripStart? ps xs = some r) :
    xs = ps ++ r := by
  induction ps generalizing xs with
  | nil => simpa [stripStart?] using h
  | cons p ps ih =>
    cases xs with
    | nil => simp [stripStart?] at h
    | cons x xs =>
      by_cases hx : p = x
      · simp only [stripStart?, hx, if_true] at h
        simp [hx, ih h]
      · simp [stripStart?, hx] at h

/-- What stands before the given end. -/
def stripEnd? (ps xs : List α) : Option (List α) :=
  (stripStart? ps.reverse xs.reverse).map List.reverse

theorem stripEnd?_append (ps xs : List α) : stripEnd? ps (xs ++ ps) = some xs := by
  simp [stripEnd?, stripStart?_append]

theorem eq_append_of_stripEnd? {ps xs r : List α} (h : stripEnd? ps xs = some r) :
    xs = r ++ ps := by
  obtain ⟨t, ht, rfl⟩ := Option.map_eq_some_iff.1 h
  have := congrArg List.reverse (eq_append_of_stripStart? ht)
  simpa using this

/-- The parts before and after the first mark. -/
def cutFirst (mark : α) : List α → Option (List α × List α)
  | [] => none
  | x :: xs =>
    if x = mark then some ([], xs) else (cutFirst mark xs).map fun (a, b) => (x :: a, b)

theorem cutFirst_eq {mark : α} {xs a b : List α} (h : cutFirst mark xs = some (a, b)) :
    xs = a ++ mark :: b := by
  induction xs generalizing a with
  | nil => simp [cutFirst] at h
  | cons x xs ih =>
    by_cases hx : x = mark
    · simp only [cutFirst, hx, if_true, Option.some.injEq, Prod.mk.injEq] at h
      simp [hx, ← h.1, ← h.2]
    · simp only [cutFirst, hx, if_false, Option.map_eq_some_iff, Prod.mk.injEq, Prod.exists] at h
      obtain ⟨a', b', h', rfl, rfl⟩ := h
      simp [ih h']

theorem cutFirst_append {mark : α} {a : List α} (h : mark ∉ a) (b : List α) :
    cutFirst mark (a ++ mark :: b) = some (a, b) := by
  induction a with
  | nil => simp [cutFirst]
  | cons x a ih =>
    simp only [List.mem_cons, not_or] at h
    simp [cutFirst, Ne.symm h.1, ih h.2]

theorem cutFirst_eq_none_iff {mark : α} {xs : List α} : cutFirst mark xs = none ↔ mark ∉ xs := by
  induction xs with
  | nil => simp [cutFirst]
  | cons x xs ih =>
    by_cases hx : x = mark
    · simp [cutFirst, hx]
    · simp [cutFirst, hx, ih, Ne.symm hx]

/-- The parts before and after the last mark. -/
def cutLast (mark : α) (xs : List α) : Option (List α × List α) :=
  (cutFirst mark xs.reverse).map fun (b, a) => (a.reverse, b.reverse)

theorem cutLast_eq {mark : α} {xs a b : List α} (h : cutLast mark xs = some (a, b)) :
    xs = a ++ mark :: b := by
  simp only [cutLast, Option.map_eq_some_iff, Prod.mk.injEq, Prod.exists] at h
  obtain ⟨b', a', h', rfl, rfl⟩ := h
  have := congrArg List.reverse (cutFirst_eq h')
  simpa using this

theorem cutLast_append {mark : α} {b : List α} (h : mark ∉ b) (a : List α) :
    cutLast mark (a ++ mark :: b) = some (a, b) := by
  have h' : mark ∉ b.reverse := by simpa using h
  simp [cutLast, cutFirst_append h' a.reverse]

theorem append_mark_inj {mark : α} {a b x y : List α} (hx : mark ∉ x) (hy : mark ∉ y)
    (h : a ++ mark :: x = b ++ mark :: y) : a = b ∧ x = y := by
  have hcut := cutLast_append hx a
  rw [h, cutLast_append hy] at hcut
  simp only [Option.some.injEq, Prod.mk.injEq] at hcut
  exact ⟨hcut.1.symm, hcut.2.symm⟩

theorem cutLast_eq_none_iff {mark : α} {xs : List α} : cutLast mark xs = none ↔ mark ∉ xs := by
  simp [cutLast, cutFirst_eq_none_iff]

/-- The parts between all marks; a text without a mark is one part. -/
def splitAll (mark : α) : List α → List (List α)
  | [] => [[]]
  | x :: xs =>
    if x = mark then [] :: splitAll mark xs
    else match splitAll mark xs with
      | [] => [[x]]
      | p :: ps => (x :: p) :: ps

end Portkeeper.Text
