import Portkeeper.Certificate.Pem
import Portkeeper.Net.IP
import Portkeeper.OsError

/-!
What the daemon is built on: the system that it runs on and the library that does TLS for it. Which
addresses are behind a name, what can be bound, which ports are handed out, and which keys and
certificates can be put to use is theirs to say.
-/

set_option autoImplicit false

namespace Portkeeper
open Net

/-- The answers of a system and of a TLS library. Errors of the former are numbers, those of the latter
texts. -/
class Platform where
  /-- The addresses behind the name of a host, in the order in which they are to be tried. They may be
  others at another time. Their ports do not matter. -/
  lookup (time : Nat) (host : List Char) : Except IoError (List SocketAddress)
  /-- Why an IP address cannot be bound, even if nobody has it. -/
  bars? (time : Nat) (address : SocketAddress) : Option Nat
  /-- Why a vsock address cannot be bound, even if nobody has it. -/
  vsockBars? (time : Nat) (address : Vsock) : Option Nat
  /-- The ports that are tried for an IP address which leaves its port open, in this order, when some
  have been picked before. -/
  ports (picked : Nat) (address : SocketAddress) : List UInt16
  /-- The same for a vsock address. -/
  vsockPorts (picked : Nat) (address : Vsock) : List UInt32
  /-- Why a connection to an IP address cannot be made. -/
  unreachable (address : SocketAddress) : Nat
  /-- Why a connection to a vsock address cannot be made. -/
  vsockUnreachable (address : Vsock) : Nat
  /-- The public half of a private key that can be used, as far as the library knows it. -/
  readKey (key : Section) : Except String (Option (List UInt8))
  /-- The public key of a certificate that a server or a client can present. -/
  readCertificate (certificate : List UInt8) : Except String (List UInt8)
  /-- Whether a certificate may be a root of trust. -/
  checkRoot (certificate : List UInt8) : Except String Unit

end Portkeeper
