import Portkeeper.Tls.Bundle

/-!
The client's side of TLS: the roots of trust, and the identity that is presented when both its
certificate and its key are given.
-/

set_option autoImplicit false

namespace Portkeeper
open Text

/-- Where a client's settings for TLS are found. -/
structure TlsSettings where
  authority : String
  certificate : Option String
  key : Option String
  name : Option String
  deriving DecidableEq, Repr

/-- The configuration of TLS on a connection. -/
structure Connector where
  roots : List (List UInt8)
  identity : Option (List (List UInt8))
  deriving DecidableEq, Repr

def Connector.hasIdentity (c : Connector) : Bool := c.identity.isSome

inductive ConnectorError where
  | reading (path : String) (error : IoError)
  | certificates (path : String) (error : PemError)
  | root (text : String)
  | key (error : PemError)
  | noKey (path : String)
  | identity (error : AcceptorError)
  deriving DecidableEq, Repr

def ConnectorError.report : ConnectorError → Report
  | .reading path e => readingReport path e
  | .certificates path e => .causedBy ("Parsing certificates from " ++ path) (.plain e.message)
  | .root text => .plain text
  | .key e => .plain e.message
  | .noKey path => .plain ("No private key in " ++ path)
  | .identity e => .plain e.message

def ConnectorError.message (e : ConnectorError) : String := e.report.line

namespace TlsSettings

def readCertificates (read : ReadFile) (path : String) :
    Except ConnectorError (List (List UInt8)) := do
  let bytes ← (read path).mapError (.reading path)
  (Pem.certificates bytes).mapError (.certificates path)

def readKey (read : ReadFile) (path : String) : Except ConnectorError Section := do
  let bytes ← (read path).mapError (.reading path)
  match ← (Pem.privateKey bytes).mapError .key with
  | some key => .ok key
  | none => .error (.noKey path)

/-- The connector of some settings. -/
def connector [Platform] (s : TlsSettings) (read : ReadFile) : Except ConnectorError Connector := do
  let roots ← readCertificates read s.authority
  (checkRoots roots).mapError .root
  match s.certificate, s.key with
  | some certificate, some key =>
    let chain ← readCertificates read certificate
    let key ← readKey read key
    (checkChain chain key).mapError .identity
    return ⟨roots, some chain⟩
  | _, _ => return ⟨roots, none⟩

end TlsSettings
end Portkeeper
