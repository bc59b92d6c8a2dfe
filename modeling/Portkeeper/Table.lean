/-!
Tables: values under keys, at most one under each. What a table holds is seen through `get?`; each
operation says what it does to that view.
-/

set_option autoImplicit false

namespace Portkeeper

/-- Values under keys, in the order in which they were put in. -/
abbrev Table (κ α : Type) := List (κ × α)

namespace Table

variable {κ α : Type} [DecidableEq κ]

def get? (t : Table κ α) (k : κ) : Option α := (t.find? fun e => e.1 = k).map (·.2)

def erase (t : Table κ α) (k : κ) : Table κ α := t.filter fun e => e.1 ≠ k

/-- Put a value under a key, in place of any that was there. -/
def insert (t : Table κ α) (k : κ) (a : α) : Table κ α := (k, a) :: t.erase k

@[simp] theorem get?_nil (k : κ) : get? ([] : Table κ α) k = none := rfl

theorem get?_cons (e : κ × α) (t : Table κ α) (k : κ) :
    get? (e :: t) k = if e.1 = k then some e.2 else get? t k := by
  by_cases h : e.1 = k <;> simp [get?, h]

@[simp] theorem get?_erase_self (t : Table κ α) (k : κ) : (t.erase k).get? k = none := by
  induction t with
  | nil => rfl
  | cons e t ih =>
    by_cases h : e.1 = k
    · simpa [erase, h] using ih
    · have : erase (e :: t) k = e :: erase t k := by simp [erase, h]
      rw [this, get?_cons, if_neg h]
      exact ih

theorem get?_erase_of_ne (t : Table κ α) {k l : κ} (h : l ≠ k) : (t.erase k).get? l = t.get? l := by
  induction t with
  | nil => rfl
  | cons e t ih =>
    by_cases hk : e.1 = k
    · have he : erase (e :: t) k = erase t k := by simp [erase, hk]
      have hl : e.1 ≠ l := fun hl => h (hl ▸ hk)
      rw [he, get?_cons, if_neg hl]
      exact ih
    · have he : erase (e :: t) k = e :: erase t k := by simp [erase, hk]
      rw [he, get?_cons, get?_cons, ih]

@[simp] theorem get?_insert_self (t : Table κ α) (k : κ) (a : α) :
    (t.insert k a).get? k = some a := by
  simp [insert, get?_cons]

theorem get?_insert_of_ne (t : Table κ α) {k l : κ} (a : α) (h : l ≠ k) :
    (t.insert k a).get? l = t.get? l := by
  have : ¬ k = l := fun e => h e.symm
  simp [insert, get?_cons, this, get?_erase_of_ne t h]

theorem mem_of_get? {t : Table κ α} {k : κ} {a : α} (h : t.get? k = some a) : (k, a) ∈ t := by
  induction t with
  | nil => simp at h
  | cons e t ih =>
    rw [get?_cons] at h
    split at h
    · rename_i hk
      obtain rfl : e.2 = a := Option.some.inj h
      exact hk ▸ List.mem_cons_self
    · exact List.mem_cons_of_mem _ (ih h)

@[simp] theorem mem_erase {t : Table κ α} {k : κ} {e : κ × α} :
    e ∈ t.erase k ↔ e ∈ t ∧ e.1 ≠ k := by
  simp [erase]

end Table
end Portkeeper
