import Portkeeper.Registry.Basic

/-!
What is to be opened when a registry is started: the local endpoints, and every network kind with an
address. Two kinds of one transport may not share an address, unless the system picks their ports.
-/

set_option autoImplicit false

namespace Portkeeper

/-- How a registry is set up. -/
structure Config where
  directory : String
  unixSocket : Option String
  bundle : Bundle
  servers : Kind → Option Router
  addresses : Kind → Option String
  /-- The number of descriptors that were handed over, if any handoff took place. -/
  handedOver : Option Nat
  firstDescriptor : Int

namespace Config

/-- The number at which handed-over descriptors start. -/
def usualFirstDescriptor : Int := 3

def hasServer (c : Config) (k : Kind) : Bool := (c.servers k).isSome

/-- A path in the configured directory. -/
def inDirectory (c : Config) (name : String) : String :=
  String.ofList (PathText.join c.directory.toList name.toList)

def localSocket (c : Config) : String := c.unixSocket.getD (c.inDirectory "unix.socket")

def guestAgentDirectory (c : Config) : String := c.inDirectory "guest-agent"

def guestAgentSocket (c : Config) : String := c.inDirectory "guest-agent/sock"

/-- What one kind adds to the plan, given what the kinds before it have taken. -/
def planKind (c : Config) (taken : List (Kind × String)) (k : Kind) :
    Except EndpointError (List (Kind × String)) :=
  match c.addresses k with
  | none => .ok []
  | some address =>
    if !k.isNetwork then .error (.config (k.name ++ " address is not configurable"))
    else match k.canonicalize address with
      | .error e => .error e
      | .ok canonical =>
        if canonical = "" then .ok []
        else if !c.hasServer k then .error (noHandler k)
        else if asksForPort canonical then .ok [(k, canonical)]
        else match taken.find? fun t => t.1.transport = k.transport ∧ t.2 = canonical with
          | some (other, _) => .error (.config
              (other.name ++ " and " ++ k.name ++ " both listen on " ++ canonical))
          | none => .ok [(k, canonical)]

/-- What some kinds in turn add to the plan. -/
def planKinds (c : Config) (taken : List (Kind × String)) :
    List Kind → Except EndpointError (List (Kind × String))
  | [] => .ok taken
  | k :: ks => do
    let more ← c.planKind taken k
    c.planKinds (taken ++ more) ks

/-- The local kinds, with the paths of their sockets. -/
def localPlan (c : Config) : List (Kind × String) :=
  (.localAdmin, c.localSocket) ::
    if c.hasServer .guestAgent then [(.guestAgent, c.guestAgentSocket)] else []

/-- The kinds to bind, with their addresses, in order. -/
def plan (c : Config) : Except EndpointError (List (Kind × String)) :=
  if c.hasServer .localAdmin then do
    return c.localPlan ++ (← c.planKinds [] Kind.all)
  else .error (noHandler .localAdmin)

end Config
end Portkeeper
