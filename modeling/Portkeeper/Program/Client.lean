import Portkeeper.Client
import Portkeeper.Program.Daemon

/-!
The client as a program: its command line, the question that it puts to a daemon, and what it
prints.
-/

set_option autoImplicit false

namespace Portkeeper.Program
open Http Text

/-- What the client is to do. -/
inductive Task where
  | list (asJson : Bool)
  | set (kind : Kind) (address : String)
  deriving DecidableEq, Repr

structure ClientOptions where
  socket : String
  tls : Option TlsSettings
  task : Task
  deriving DecidableEq, Repr

namespace ClientOptions

def programName : String := "hvd-cli"

def defaultSocket : String := "/var/lib/hvd/unix.socket"

def parameters : List Parameter := [
  ⟨"socket", some "SOCKET", some "HVD_SOCKET", some defaultSocket, true,
    "Daemon address: unix socket path or host:port for the network admin API"⟩,
  DaemonOptions.path "cacert" "CACERT" "HVD_CA_CERT" none "",
  DaemonOptions.path "cert" "CERT" "HVD_CERT" none "",
  DaemonOptions.path "key" "KEY" "HVD_KEY" none "",
  ⟨"name", some "NAME", none, none, true, "Name checked against server certificate"⟩,
  ⟨"as-json", none, none, none, true, "Print JSON instead of a table"⟩]

/-- The subcommands, with what each of them does. -/
def subcommands : List (String × String) := [
  ("endpoints", "List live endpoints"),
  ("set-address", "Move an endpoint to a new address, empty address disables it"),
  ("help", "Print this message or the help of the given subcommand(s)")]

/-- What a subcommand does. -/
def about (name : String) : String := (subcommands.lookup name).getD ""

def grammar (env : Environment) : Grammar where
  parameters := parameters
  places := []
  subcommands := subcommands.map Prod.fst
  page := Page.write "Control a running hvd" (programName ++ " [OPTIONS] <COMMAND>")
    ["Commands:" ++ Page.entries (subcommands.map fun c => ("  " ++ c.1, c.2)),
      Page.options env parameters]

/-- What is wrong with a text as the name of a kind. -/
def kindFault (text : String) : Option String :=
  if (Kind.ofName? text).isSome then none else some Kind.unknownName

def listGrammar : Grammar where
  parameters := []
  places := []
  subcommands := []
  page := Page.write (about "endpoints") (programName ++ " endpoints") [Page.options [] []]

def setGrammar : Grammar where
  parameters := []
  places := [("KIND", kindFault), ("ADDRESS", fun _ => none)]
  subcommands := []
  page := Page.write (about "set-address") (programName ++ " set-address <KIND> <ADDRESS>")
    ["Arguments:" ++ Page.entries [("  <KIND>", ""), ("  <ADDRESS>", "")], Page.options [] []]

/-- The page on the subcommand that asks for pages. -/
def helpPage : String :=
  Page.write (about "help") (programName ++ " help [COMMAND]...")
    ["Arguments:" ++ Page.entries [("  [COMMAND]...", "Print help for the subcommand(s)")]]

/-- The page on a subcommand, or on the whole. No subcommand has one of its own. -/
def helpOn (env : Environment) : List String → UsageError
  | [] => .help (grammar env).page
  | name :: rest =>
    if name ∉ subcommands.map Prod.fst then .unknownSubcommand name
    else match rest with
      | more :: _ => .unknownSubcommand more
      | [] =>
        if name = "endpoints" then .help listGrammar.page
        else if name = "set-address" then .help setGrammar.page
        else .help helpPage

/-- A subcommand with its arguments. -/
def readTask (env : Environment) (name : String) (arguments : List String) :
    Except UsageError (Bool → Task) := do
  if name = "help" then throw (helpOn env arguments)
  if name = "endpoints" then
    let (r, _) ← listGrammar.read .start false arguments
    let _ ← r.settle
    return .list
  let (r, _) ← setGrammar.read .start false arguments
  let r ← r.settle
  match r.placed with
  | [kind, address] => match Kind.ofName? kind with
    | some k => return fun _ => .set k address
    | none => throw .missing
  | _ => throw .missing

/-- Read a command line, with the environment behind it. -/
def read (env : Environment) (arguments : List String) : Except UsageError ClientOptions := do
  let (r, subcommand) ← (grammar env).read .start false arguments
  let task ← match subcommand with
    | some (name, arguments) => (readTask env name arguments).map some
    | none => .ok none
  let r ← r.settle
  let r ← (grammar env).addEnvironment env r
  match task with
  | none =>
    throw (if r.given = [] ∧ r.switches = [] then .nothingGiven else .noSubcommand programName)
  | some task => return {
      socket := (r.given.get? "socket").getD defaultSocket
      tls := (r.given.get? "cacert").map fun authority =>
        ⟨authority, r.given.get? "cert", r.given.get? "key", r.given.get? "name"⟩
      task := task ("as-json" ∈ r.switches) }

end ClientOptions

/-- One endpoint in a listing for people. -/
def listingLine (e : EndpointInfo) : String :=
  e.kind.padded ++ " " ++ e.address ++ (if e.inherited then " (inherited)" else "") ++ "\n"

/-- What a task asks of the daemon. -/
def Task.question : Task → Outgoing
  | .list _ => Admin.list
  | .set k address => Admin.set k address

/-- What a task prints for a reply. -/
def Task.output (t : Task) (r : Reply) : Except ClientError String :=
  match t with
  | .list asJson => do
    let es ← Admin.readListing r
    return if asJson then String.ofList (Json.encodeList (es.map EndpointInfo.encode)) ++ "\n"
      else es.foldl (fun s e => s ++ listingLine e) ""
  | .set .. => (Admin.readChange r).map fun _ => ""

/-- Run a client, whose questions are answered by `ask`. -/
def runClient {σ : Type} (ask : Client → Outgoing → σ → Except ClientError Reply × σ)
    (env : Environment) (arguments : List String) (s : σ) : Except Failure String × σ :=
  match ClientOptions.read env arguments with
  | .error e => (.error (.usage e), s)
  | .ok o =>
    match Target.read o.socket.toList with
    | .error e => (.error (.failed e.report), s)
    | .ok target =>
      match ask ⟨target, o.tls⟩ o.task.question s with
      | (.error e, s) => (.error (.failed e.report), s)
      | (.ok reply, s) => ((o.task.output reply).mapError fun e => .failed e.report, s)

end Portkeeper.Program
