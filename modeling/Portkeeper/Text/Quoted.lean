import Portkeeper.Text.Printable
import Portkeeper.Text.Numeral

/-!
Quoted text for messages: between double quotes, with an escape for every character that would end
the quotation, would not show, or would join its neighbour.
-/

set_option autoImplicit false

namespace Portkeeper.Text

/-- The escape of a code point. -/
def codeEscape (c : Char) : List Char :=
  ['\\', 'u', '\x7b'] ++ hexadecimal c.toNat ++ ['\x7d']

def quoteChar (c : Char) : List Char :=
  if c = '\x00' then ['\\', '0']
  else if c = '\t' then ['\\', 't']
  else if c = '\r' then ['\\', 'r']
  else if c = '\n' then ['\\', 'n']
  else if c = '\\' then ['\\', '\\']
  else if c = '"' then ['\\', '"']
  else if isGraphemeExtend c || !isPrintable c then codeEscape c
  else [c]

/-- The quoted form of a text. -/
def quoted (s : String) : String := String.ofList ('"' :: s.toList.flatMap quoteChar ++ ['"'])

end Portkeeper.Text
