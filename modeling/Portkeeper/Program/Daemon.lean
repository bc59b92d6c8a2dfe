import Portkeeper.Program.Arguments
import Portkeeper.Registry.Start
import Portkeeper.Registry.Stop

/-!
The daemon as a program: its command line, and the way from there to endpoints that are up.
-/

set_option autoImplicit false

namespace Portkeeper
open Text

namespace Program

/-- Why a program ends before its work is done. -/
inductive Failure where
  | usage (error : UsageError)
  | failed (report : Report)

namespace Failure

/-- The status with which the program ends. -/
def code : Failure → Nat
  | .usage e => e.code
  | .failed _ => 1

/-- What the program says at its end. -/
def text : Failure → String
  | .usage e => e.line
  | .failed r => r.full

/-- What the program prints at its end. -/
def output : Failure → String
  | .usage e => e.output
  | .failed _ => ""

end Failure

/-- What a daemon is told on its command line. -/
structure DaemonOptions where
  directory : String
  socket : Option String
  certificate : String
  key : String
  authority : Option String
  addresses : Kind → Option String
  guestAgent : Bool

namespace DaemonOptions

/-- A parameter whose value is a path, which is not empty. -/
def path (name placeholder source : String) (default : Option String) (about : String) : Parameter :=
  ⟨name, some placeholder, some source, default, false, about⟩

/-- A parameter whose value is an address. -/
def address (name placeholder about : String) : Parameter :=
  ⟨name, some placeholder, none, none, true, about⟩

/-- The parameter that sets the address of a kind. -/
def addressParameter : Kind → Option Parameter
  | .networkAdmin => some (address "network-address" "NETWORK_ADDRESS" "")
  | .cluster => some (address "cluster-address" "CLUSTER_ADDRESS" "")
  | .metrics => some (address "metrics-address" "METRICS_ADDRESS" "")
  | .storageObjects => some (address "storage-address" "STORAGE_ADDRESS" "")
  | .vmConsole => some (address "vsock-address" "VSOCK_ADDRESS" "VM console socket (cid:port)")
  | .localAdmin | .guestAgent => none

/-- The kinds whose addresses can be set, in the order of their parameters. -/
def addressKinds : List Kind := [.networkAdmin, .cluster, .metrics, .storageObjects, .vmConsole]

def defaultDirectory : String := "/var/lib/hvd"

def parameters : List Parameter :=
  [path "dir" "DIR" "HVD_DIR" (some defaultDirectory)
      "State directory, unix sockets are created here",
    path "socket" "SOCKET" "HVD_SOCKET" none "Local admin socket, defaults to <dir>/unix.socket",
    path "cert" "CERT" "HVD_CERT" none "", path "key" "KEY" "HVD_KEY" none "",
    path "ca" "CA" "HVD_CA_CERT" none "CA used to verify client certificates"] ++
    addressKinds.filterMap addressParameter ++
    [⟨"guest-agent", none, none, none, true, "Serve the guest agent socket under <dir>/guest-agent"⟩]

def grammar (env : Environment) : Grammar where
  parameters := parameters
  places := []
  subcommands := []
  page := Page.write "Hypervisor daemon" "hvd [OPTIONS] --cert <CERT> --key <KEY>"
    [Page.options env parameters]

/-- Read a command line, with the environment behind it. -/
def read (env : Environment) (arguments : List String) : Except UsageError DaemonOptions := do
  let (r, _) ← (grammar env).read .start false arguments
  let r ← r.settle
  let r ← (grammar env).addEnvironment env r
  match r.given.get? "cert", r.given.get? "key" with
  | some certificate, some key => return {
      directory := (r.given.get? "dir").getD defaultDirectory
      socket := r.given.get? "socket"
      certificate := certificate
      key := key
      authority := r.given.get? "ca"
      addresses := fun k => addressParameter k >>= fun p => r.given.get? p.name
      guestAgent := "guest-agent" ∈ r.switches }
  | _, _ => throw .missing

/-- The handlers of the endpoints. -/
def servers (o : DaemonOptions) (k : Kind) : Option Router :=
  if k = .guestAgent ∧ o.guestAgent then some .greeting else defaultRouter? k

end DaemonOptions

end Program

/-- Reads the files of a host. -/
def Host.readFile (h : Host) : ReadFile := fun path =>
  (h.files.read path.toList).mapError fun n => .number (Int.ofNat n)

/-- An error with the failure that it reports beneath it. -/
def EndpointError.report (e : EndpointError) : Report :=
  match e.source? with
  | some source => .causedBy e.message (.plain source.message)
  | none => .plain e.message

namespace Program

/-- Make the directory of the guest agent's socket. -/
def makeGuestAgentDirectory (c : Config) (h : Host) : Except Report Host :=
  match h.files.makeDirectories c.guestAgentDirectory.toList with
  | .ok files => .ok { h with files }
  | .error n => .error (.causedBy ("Creating " ++ c.guestAgentDirectory)
      (.plain (IoError.number n).message))

variable [Platform]

/-- Bring up a daemon that is process `own`. The handoff is read before the command line is. -/
def startDaemon (w : World) (own : Nat) (env : Environment) (arguments : List String) :
    Except Failure Unit × World :=
  match Handoff.take own env with
  | (.error e, _) => (.error (.failed (.causedBy "Reading socket activation" e.report)), w)
  | (.ok handoff, env) =>
    match DaemonOptions.read env arguments with
    | .error e => (.error (.usage e), w)
    | .ok o =>
      match Bundle.load w.host.readFile o.certificate o.key o.authority with
      | .error e => (.error (.failed e.report), w)
      | .ok bundle =>
        let c : Config := {
          directory := o.directory
          unixSocket := o.socket
          bundle := bundle
          servers := o.servers
          addresses := o.addresses
          handedOver := handoff.map Handoff.count
          firstDescriptor := Config.usualFirstDescriptor }
        match if o.guestAgent then makeGuestAgentDirectory c w.host else .ok w.host with
        | .error r => (.error (.failed r), w)
        | .ok h =>
          match { w with host := h }.up c with
          | (.ok _, w) => (.ok (), w)
          | (.error e, w) => (.error (.failed (.causedBy "Starting endpoints" e.report)), w)

end Program
end Portkeeper
