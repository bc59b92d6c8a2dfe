import Portkeeper.Kind
import Portkeeper.OsError
import Portkeeper.Text.Quoted

/-!
How an operation on endpoints can fail, and how each failure is reported.
-/

set_option autoImplicit false

namespace Portkeeper
open Text

/-- The stages of a registry's life, which it passes in this order. -/
inductive Stage where
  | unstarted
  | running
  | stopped
  deriving DecidableEq, Repr

def Stage.name : Stage → String
  | .unstarted => "unstarted"
  | .running => "running"
  | .stopped => "stopped"

def Stage.all : List Stage := [.unstarted, .running, .stopped]

/-- An operation that is only allowed at one stage. -/
inductive Operation where
  | start
  | stop
  | reconfigure
  deriving DecidableEq, Repr

def Operation.name : Operation → String
  | .start => "start"
  | .stop => "stop"
  | .reconfigure => "reconfigure"

def Operation.all : List Operation := [.start, .stop, .reconfigure]

inductive EndpointError where
  | invalidAddress (kind : Kind) (address reason : String)
  | config (text : String)
  | invalidState (op : Operation) (stage : Stage)
  | socketInUse (path : String)
  | missingDirectory (path : String)
  | bind (kind : Kind) (address : String) (source : IoError)
  | tls (kind : Kind) (reason : String)
  | activation (text : String)
  | interrupted (kind : Kind) (reason : String)
  | unavailable (kind : Kind) (previous : String) (bind rollback : EndpointError)
  deriving DecidableEq, Repr

namespace EndpointError

def message : EndpointError → String
  | .invalidAddress k a r => "Invalid " ++ k.name ++ " address " ++ quoted a ++ ": " ++ r
  | .config t => "Invalid endpoint configuration: " ++ t
  | .invalidState op s => "Cannot " ++ op.name ++ " endpoints in " ++ s.name ++ " state"
  | .socketInUse p => "Unix socket " ++ p ++ " is already in use by a running process"
  | .missingDirectory p => "Parent directory of unix socket " ++ p ++ " does not exist"
  | .bind k a e => "Cannot listen on " ++ k.name ++ " socket " ++ a ++ ": " ++ e.message
  | .tls k r => "Cannot set up TLS for " ++ k.name ++ ": " ++ r
  | .activation t => "Socket activation failed: " ++ t
  | .interrupted k r => k.name ++ " reconfiguration did not complete: " ++ r
  | .unavailable k p b r =>
    k.name ++ " endpoint is disabled: " ++ b.message ++ "; restoring " ++ p ++ " failed: " ++
      r.message

/-- Kinds of failure that may pass while one waits. -/
def passing : IoKind → Bool
  | .addrInUse | .addrNotAvailable | .wouldBlock | .interrupted => true
  | _ => false

/-- Errors worth another attempt: the address may become free. -/
def isTransient : EndpointError → Bool
  | .bind _ _ e => passing e.kind
  | _ => false

/-- The failure that an error reports, when it has one beneath it. -/
def source? : EndpointError → Option IoError
  | .bind _ _ e => some e
  | _ => none

/-- The bare name of the sort of error. -/
def variant : EndpointError → String
  | .invalidAddress .. => "InvalidAddress"
  | .config _ => "Config"
  | .invalidState .. => "InvalidState"
  | .socketInUse _ => "SocketInUse"
  | .missingDirectory _ => "MissingDirectory"
  | .bind .. => "Bind"
  | .tls .. => "Tls"
  | .activation _ => "Activation"
  | .interrupted .. => "Interrupted"
  | .unavailable .. => "Unavailable"

end EndpointError

/-- The canonical address of a kind, or the error that reports the text that has none. -/
def Kind.canonicalize (k : Kind) (address : String) : Except EndpointError String :=
  match k.canonicalAddress address with
  | .ok c => .ok c
  | .error e => .error (.invalidAddress k address e.message)

end Portkeeper
