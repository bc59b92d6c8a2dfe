import Portkeeper.Machine
import Portkeeper.Program.Client

/-!
The command line: a daemon comes up on a machine that holds the files which its options name, and a
client puts one question to it there. Arguments before the first `--` are the daemon's, those behind
it the client's; without the latter the endpoints are listed.
-/

set_option autoImplicit false

namespace Portkeeper.Main
open Program

/-- The variables that the programs look at. -/
def variableNames : List String :=
  [Handoff.pidVariable, Handoff.countVariable, Handoff.namesVariable] ++
    (DaemonOptions.parameters ++ ClientOptions.parameters).filterMap Parameter.source

/-- The environment, as far as the programs look at it. -/
def environment : IO Environment := do
  let values ← variableNames.mapM fun name => do
    return (← IO.getEnv name).map fun value => (name, Text.utf8Bytes value)
  return values.filterMap id

/-- The files that a command line of the daemon names. -/
def inputs (o : DaemonOptions) : List String := [o.certificate, o.key] ++ o.authority.toList

/-- A host with directories for the files of the daemon, and with those that could be read. -/
def hostOf (o : DaemonOptions) (contents : List (String × List UInt8)) : Host :=
  let into (files : Files) (change : Files → Except Nat Files) : Files :=
    (change files).toOption.getD files
  let files := into Host.empty.files (·.makeDirectories o.directory.toList)
  let files := contents.foldl (fun files (path, content) =>
    let files := into files (·.makeDirectories ((PathText.parent? path.toList).getD []))
    into files (·.write path.toList content)) files
  { Host.empty with files }

/-- Read what can be read of the files that are named. -/
def readAll (paths : List String) : IO (List (String × List UInt8)) := do
  let contents ← paths.mapM fun (path : String) => do
    try return some (path, (← IO.FS.readBinFile path).toList) catch _ => return none
  return contents.filterMap id

/-- The number of this process, if the system tells it. -/
def processNumber : IO Nat := do
  try
    let status ← IO.FS.readFile "/proc/self/stat"
    return (String.ofList (status.toList.takeWhile Char.isDigit)).toNat?.getD 0
  catch _ => return 0

/-- The client's command line that lists the endpoints of a daemon. -/
def listing (o : DaemonOptions) : List String :=
  let path := PathText.join o.directory.toList "unix.socket".toList
  ["--socket", "unix:" ++ o.socket.getD (String.ofList path), "endpoints"]

/-- Say why a program ended. -/
def report (f : Failure) : IO UInt32 := do
  IO.print f.output
  if f.text ≠ "" then IO.eprintln f.text
  return UInt32.ofNat f.code

/-- Bring up a daemon and let a client ask it. -/
def run (arguments : List String) : IO UInt32 := do
  let (forDaemon, forClient) := match Text.cutFirst "--" arguments with
    | some (before, behind) => (before, some behind)
    | none => (arguments, none)
  let env ← environment
  match DaemonOptions.read env forDaemon with
  | .error e => report (.usage e)
  | .ok o =>
    let m := Machine.start (hostOf o (← readAll (inputs o)))
    let own ← processNumber
    match m.on 0 fun w => startDaemon w own env forDaemon with
    | (.error f, _) => report f
    | (.ok _, m) =>
      match runClient (fun c o m => Machine.ask m c o) env (forClient.getD (listing o)) m with
      | (.error f, _) => report f
      | (.ok out, _) =>
        IO.print out
        return 0

end Portkeeper.Main

def main (arguments : List String) : IO UInt32 := Portkeeper.Main.run arguments
