import Portkeeper.Text.Numeral

/-!
Writing JSON without blanks: strings with the short escapes where they exist, code escapes for other
control characters, and everything else as it is.
-/

set_option autoImplicit false

namespace Portkeeper.Json
open Text

/-- A code escape of four digits. -/
def codeEscape (c : Char) : List Char :=
  let ds := hexadecimal c.toNat
  '\\' :: 'u' :: List.replicate (4 - ds.length) '0' ++ ds

def encodeChar (c : Char) : List Char :=
  if c = '"' then ['\\', '"']
  else if c = '\\' then ['\\', '\\']
  else if c = '\x08' then ['\\', 'b']
  else if c = '\x0c' then ['\\', 'f']
  else if c = '\n' then ['\\', 'n']
  else if c = '\r' then ['\\', 'r']
  else if c = '\t' then ['\\', 't']
  else if c.toNat < 32 then codeEscape c
  else [c]

def encodeString (s : String) : List Char := '"' :: s.toList.flatMap encodeChar ++ ['"']

def encodeBool (b : Bool) : List Char := (if b then "true" else "false").toList

def encodeOption {α : Type} (f : α → List Char) : Option α → List Char
  | none => "null".toList
  | some a => f a

/-- Values divided by commas. -/
def commaSeparated : List (List Char) → List Char
  | [] => []
  | [v] => v
  | v :: w :: vs => v ++ ',' :: commaSeparated (w :: vs)

def encodeList (vs : List (List Char)) : List Char := '[' :: commaSeparated vs ++ [']']

/-- An object of named values. -/
def encodeObject (ms : List (String × List Char)) : List Char :=
  '\x7b' :: commaSeparated (ms.map fun (k, v) => encodeString k ++ ':' :: v) ++ ['\x7d']

end Portkeeper.Json
