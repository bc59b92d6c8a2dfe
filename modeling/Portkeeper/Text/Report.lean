/-!
Errors with their causes, written on one line for a message or laid out for a terminal.
-/

set_option autoImplicit false

namespace Portkeeper.Text

/-- An error with what caused it, from the outside in. -/
structure Report where
  top : String
  causes : List String
  deriving DecidableEq, Repr

namespace Report

/-- An error that nothing else caused. -/
def plain (text : String) : Report := ⟨text, []⟩

/-- An error with the one that caused it. -/
def causedBy (text : String) (r : Report) : Report := ⟨text, r.top :: r.causes⟩

/-- The error and its causes, each after the one it caused. -/
def line (r : Report) : String := r.causes.foldl (fun s c => s ++ ": " ++ c) r.top

/-- A text whose first line has a mark in front; the lines after it are moved in by blanks. -/
def indent (mark blanks : List Char) (text : List Char) : List Char :=
  mark ++ text.flatMap fun c => if c = '\n' then '\n' :: blanks else [c]

/-- The number of a cause, up to its colon. -/
def number (n : Nat) : List Char :=
  let digits := Nat.toDigits 10 n
  List.replicate (5 - digits.length) ' ' ++ digits ++ [':', ' ']

/-- The causes below each other, numbered when there are several. -/
def causeLines (r : Report) : List (List Char) :=
  match r.causes with
  | [c] => [indent "    ".toList "    ".toList c.toList]
  | cs => cs.zipIdx.map fun (c, i) => indent (number i) "       ".toList c.toList

/-- The error as a program that it ends reports it. -/
def full (r : Report) : String :=
  let causes := r.causeLines.flatMap fun l => '\n' :: l
  "Error: " ++ r.top ++
    if r.causes = [] then "" else "\n\nCaused by:" ++ String.ofList causes

end Report
end Portkeeper.Text
