import Portkeeper.EndpointError
import Portkeeper.Text.Blank
import Portkeeper.Text.Utf8

/-!
The handoff of listening descriptors by a service manager: two environment variables that say for
which process the descriptors are meant and how many there are. Reading the handoff clears it.
-/

set_option autoImplicit false

namespace Portkeeper
open Text

/-- Environment variables with their values, which are bytes. -/
abbrev Environment := List (String × List UInt8)

namespace Environment

def get? (env : Environment) (name : String) : Option (List UInt8) := env.lookup name

/-- The value of a variable, if it is set and is UTF-8. -/
def text? (env : Environment) (name : String) : Option (List Char) := env.get? name >>= ofUtf8?

def erase (env : Environment) (name : String) : Environment := env.filter (·.1 != name)

theorem get?_erase_self (env : Environment) (name : String) :
    (env.erase name).get? name = none := by
  induction env with
  | nil => rfl
  | cons v env ih =>
    obtain ⟨n, b⟩ := v
    simp only [erase, get?] at ih ⊢
    rw [List.filter_cons]
    by_cases h : n = name
    · simpa [h] using ih
    · have hne : (name == n) = false := by simpa using Ne.symm h
      simp only [bne_iff_ne, ne_eq, h, not_false_eq_true, if_true, List.lookup_cons, hne, ih]

theorem get?_erase_of_ne (env : Environment) {name other : String} (h : other ≠ name) :
    (env.erase name).get? other = env.get? other := by
  induction env with
  | nil => rfl
  | cons v env ih =>
    obtain ⟨n, b⟩ := v
    simp only [erase, get?] at ih ⊢
    by_cases hn : n = name
    · have hne : (other == n) = false := by simpa [hn] using h
      rw [List.lookup_cons, hne, List.filter_cons]
      simpa [hn] using ih
    · rw [List.filter_cons]
      simp only [bne_iff_ne, ne_eq, hn, not_false_eq_true, if_true, List.lookup_cons, ih]

end Environment

/-- Descriptors that were handed over to this process. -/
structure Handoff where
  pid : Nat
  count : Nat
  deriving DecidableEq, Repr

namespace Handoff

def pidVariable : String := "LISTEN_PID"
def countVariable : String := "LISTEN_FDS"
def namesVariable : String := "LISTEN_FDNAMES"

/-- The handoff that an environment holds for process `own`. A handoff to another process, or one
that does not name a process, is no handoff; a count that is no number is an error only when the
handoff is ours. -/
def read (own : Nat) (env : Environment) : Except EndpointError (Option Handoff) :=
  match env.text? pidVariable, env.text? countVariable with
  | some pid, some count =>
    match Numeral.read Numeral.max32 (trim pid) with
    | .error _ => .ok none
    | .ok p =>
      if p ≠ own then .ok none
      else match Numeral.read Numeral.max64 (trim count) with
        | .ok n => .ok (some ⟨p, n⟩)
        | .error e => .error (.activation
            ("Invalid " ++ countVariable ++ " " ++ quoted (String.ofList count) ++ ": " ++
              e.message))
  | _, _ => .ok none

/-- The environment without the variables of a handoff. -/
def clear (env : Environment) : Environment :=
  ((env.erase pidVariable).erase countVariable).erase namesVariable

/-- Read the handoff and clear it, whatever it says. -/
def take (own : Nat) (env : Environment) :
    Except EndpointError (Option Handoff) × Environment :=
  (read own env, clear env)

end Handoff
end Portkeeper
