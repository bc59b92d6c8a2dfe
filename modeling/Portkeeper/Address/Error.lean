import Portkeeper.Text.Numeral
import Portkeeper.Text.Report

/-!
What can be wrong with the text of an address, and how each case is worded.
-/

set_option autoImplicit false

namespace Portkeeper
open Text

/-- Why a text is not an address. Each cause keeps the text it complains about. -/
inductive AddressError where
  | ipv6 (address : List Char)
  | port (address : List Char) (cause : NumeralError)
  | hostName (host : List Char)
  | portPart (address : List Char) (cause : NumeralError)
  | cid (address : List Char) (cause : NumeralError)
  | vsockForm (address : List Char)
  | hostPortForm (address : List Char)
  deriving DecidableEq, Repr

/-- The complaint, and the fault of a part that lies beneath it. -/
def AddressError.report : AddressError → Report
  | .ipv6 a => .causedBy ("Invalid IPv6 address in " ++ String.ofList a)
      (.plain "invalid IPv6 address syntax")
  | .port a e => .causedBy ("Invalid port in address " ++ String.ofList a) (.plain e.message)
  | .hostName h => .plain ("Invalid host name " ++ String.ofList h)
  | .portPart a e => .causedBy ("While parsing port part of " ++ String.ofList a) (.plain e.message)
  | .cid a e => .causedBy ("Address " ++ String.ofList a ++ " should be in CID:PORT format")
      (.plain e.message)
  | .vsockForm a => .plain ("Address " ++ String.ofList a ++ " should be in vsock:CID:PORT format")
  | .hostPortForm a => .plain ("Address " ++ String.ofList a ++ " should be in HOST:PORT format")

def AddressError.message (e : AddressError) : String := e.report.line

end Portkeeper
