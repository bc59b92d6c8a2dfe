import Portkeeper.Kind
import Portkeeper.Platform
import Portkeeper.Text.Report

/-!
The server's side of TLS: a key pair shared by all listeners, perhaps with an authority that vouches
for clients, and the acceptor of each client policy. Without an authority an optional certificate is
not asked for, and a required one cannot be enforced. Which keys and certificates can be used is up to
the platform.
-/

set_option autoImplicit false

namespace Portkeeper
open Text

/-- Reads a file by its path. -/
abbrev ReadFile := String → Except IoError (List UInt8)

/-- The certificates that a bundle is loaded from. -/
inductive CertificateRole where
  | server
  | authority
  deriving DecidableEq, Repr

def CertificateRole.name : CertificateRole → String
  | .server => "server"
  | .authority => "CA"

inductive BundleError where
  | noCertificates (role : CertificateRole)
  | badCertificates (role : CertificateRole) (error : PemError)
  | noKey
  | badKey (error : PemError)
  deriving DecidableEq, Repr

def BundleError.report : BundleError → Report
  | .noCertificates role => .causedBy ("Parsing " ++ role.name ++ " certificate")
      (.plain "No certificates found in PEM data")
  | .badCertificates role e => .causedBy ("Parsing " ++ role.name ++ " certificate")
      (.plain e.message)
  | .noKey => .plain "No private key found in PEM data"
  | .badKey e => .causedBy "Parsing private key" (.plain e.message)

def BundleError.message (e : BundleError) : String := e.report.line

/-- Why a bundle could not be loaded from files. -/
inductive LoadError where
  | reading (path : String) (error : IoError)
  | bundle (certificate : String) (error : BundleError)
  deriving DecidableEq, Repr

/-- A file that could not be read. -/
def readingReport (path : String) (e : IoError) : Report :=
  .causedBy ("Reading " ++ path) (.plain e.message)

def LoadError.report : LoadError → Report
  | .reading path e => readingReport path e
  | .bundle certificate e => .causedBy ("Loading key pair " ++ certificate) e.report

def LoadError.message (e : LoadError) : String := e.report.line

/-- The server's certificates, its key, and the certificates of the authority for clients. -/
structure Bundle where
  certificates : List (List UInt8)
  key : Section
  authority : List (List UInt8)
  deriving DecidableEq, Repr

/-- What an acceptor demands of its clients. -/
inductive ClientPolicy where
  | anonymous
  | verified (mandatory : Bool) (roots : List (List UInt8))
  deriving DecidableEq, Repr

/-- The configuration of TLS on a listener. -/
structure Acceptor where
  chain : List (List UInt8)
  policy : ClientPolicy
  protocols : List String
  deriving DecidableEq, Repr

inductive AcceptorError where
  | needsAuthority (auth : ClientAuth)
  | certificate (text : String)
  | key (text : String)
  | noChain
  | keyMismatch
  deriving DecidableEq, Repr

def AcceptorError.message : AcceptorError → String
  | .needsAuthority auth =>
    "Client authentication " ++ auth.name ++ " needs a CA certificate"
  | .certificate text => text
  | .key text => text
  | .noChain => "peer sent no certificates"
  | .keyMismatch => "keys may not be consistent: KeyMismatch"

section
variable [Platform]

/-- A key and a chain whose first certificate is for that key, as far as this can be known. -/
def checkChain (chain : List (List UInt8)) (key : Section) : Except AcceptorError Unit :=
  match Platform.readKey key with
  | .error text => .error (.key text)
  | .ok none => .ok ()
  | .ok (some k) =>
    match chain with
    | [] => .error .noChain
    | c :: _ =>
      match Platform.readCertificate c with
      | .error text => .error (.certificate text)
      | .ok k' => if k' = k then .ok () else .error .keyMismatch

/-- Certificates that may all be roots of trust, or what is wrong with the first that may not. -/
def checkRoots (roots : List (List UInt8)) : Except String Unit := roots.forM Platform.checkRoot

/-- The policy for clients whose certificates chain to the given roots. -/
def verifyAgainst (mandatory : Bool) (roots : List (List UInt8)) :
    Except AcceptorError ClientPolicy :=
  match checkRoots roots with
  | .ok _ => .ok (.verified mandatory roots)
  | .error text => .error (.certificate text)

theorem eq_verified_of_verifyAgainst {mandatory : Bool} {roots : List (List UInt8)}
    {p : ClientPolicy} (h : verifyAgainst mandatory roots = .ok p) :
    p = .verified mandatory roots := by
  unfold verifyAgainst at h
  split at h
  · simpa using h.symm
  · simp at h

end

namespace Bundle

def readCertificates (role : CertificateRole) (bytes : List UInt8) :
    Except BundleError (List (List UInt8)) :=
  match Pem.certificates bytes with
  | .error e => .error (.badCertificates role e)
  | .ok [] => .error (.noCertificates role)
  | .ok cs => .ok cs

def readKey (bytes : List UInt8) : Except BundleError Section :=
  match Pem.privateKey bytes with
  | .error e => .error (.badKey e)
  | .ok none => .error .noKey
  | .ok (some key) => .ok key

/-- The bundle of armoured texts. -/
def ofTexts (certificate key : List UInt8) (authority : Option (List UInt8)) :
    Except BundleError Bundle := do
  let certificates ← readCertificates .server certificate
  let key ← readKey key
  let authority ← match authority with
    | some bytes => readCertificates .authority bytes
    | none => .ok []
  return ⟨certificates, key, authority⟩

/-- Read a file, or say which could not be read. -/
def readFile (read : ReadFile) (path : String) : Except LoadError (List UInt8) :=
  (read path).mapError (.reading path)

/-- The bundle of files, which are all read before any is looked into. -/
def load (read : ReadFile) (certificate key : String) (authority : Option String) :
    Except LoadError Bundle := do
  let authority ← match authority with
    | some path => some <$> readFile read path
    | none => .ok none
  let certificateText ← readFile read certificate
  let keyText ← readFile read key
  (ofTexts certificateText keyText authority).mapError (.bundle certificate)

def hasAuthority (b : Bundle) : Bool := !b.authority.isEmpty

variable [Platform]

/-- The policy that enforces what is asked of clients. -/
def policy (b : Bundle) : ClientAuth → Except AcceptorError ClientPolicy
  | .none => .ok .anonymous
  | .optional => if b.hasAuthority then verifyAgainst false b.authority else .ok .anonymous
  | .required =>
    if b.hasAuthority then verifyAgainst true b.authority else .error (.needsAuthority .required)

/-- The protocols that are offered on top of TLS. -/
def protocols : List String := ["h2", "http/1.1"]

/-- The acceptor that enforces what is asked of clients. -/
def acceptor (b : Bundle) (auth : ClientAuth) : Except AcceptorError Acceptor := do
  let policy ← b.policy auth
  checkChain b.certificates b.key
  return ⟨b.certificates, policy, protocols⟩

/-- How diagnostic output shows a bundle: by counts, without the key. -/
def describe (b : Bundle) : String :=
  "CertBundle \x7b certs: " ++ toString b.certificates.length ++ ", ca: " ++
    toString b.authority.length ++ ", .. \x7d"

theorem acceptor_policy {b : Bundle} {auth : ClientAuth} {a : Acceptor}
    (h : b.acceptor auth = .ok a) : b.policy auth = .ok a.policy := by
  unfold acceptor at h
  cases hp : b.policy auth with
  | error e => simp [hp, bind, Except.bind] at h
  | ok p =>
    cases hc : checkChain b.certificates b.key with
    | error e => simp [hp, hc, bind, Except.bind] at h
    | ok u =>
      simp only [hp, hc, bind, Except.bind, pure, Except.pure, Except.ok.injEq] at h
      rw [← h]

end Bundle
end Portkeeper
