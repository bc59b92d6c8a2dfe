import Portkeeper.Inheritance
import Portkeeper.Registry.Plan

/-!
Starting a registry: everything comes up, or everything that was opened is closed again and the
first error is reported.
-/

set_option autoImplicit false

namespace Portkeeper

/-- Listeners that were opened, with what was asked for. -/
abbrev Opened := List (Listener × String)

namespace Opened

def has (o : Opened) (k : Kind) : Bool := o.any fun e => e.1.kind = k

def close (o : Opened) (h : Host) : Host := h.dropAll (o.map Prod.fst)

end Opened

namespace Config

variable [Platform]

/-- Take over the listeners that were handed over, each of which must have a handler. -/
def inheritAll (c : Config) (h : Host) : Except EndpointError Opened × Host :=
  match c.handedOver with
  | none => (.ok [], h)
  | some count =>
    match h.inherit count c.firstDescriptor c.bundle with
    | (.error e, h) => (.error e, h)
    | (.ok ls, h) =>
      match ls.find? fun l => !c.hasServer l.kind with
      | some l => (.error (.config
          ("Inherited " ++ l.kind.name ++ " listener has no request handler")), h.dropAll ls)
      | none => (.ok (ls.map (·, "")), h)

/-- Bind what a plan lists and was not handed over. -/
def bindAll (c : Config) (opened : Opened) (h : Host) :
    List (Kind × String) → Except EndpointError Opened × Host
  | [] => (.ok opened, h)
  | (k, address) :: plan =>
    if opened.has k then c.bindAll opened h plan
    else match h.listen k address c.bundle with
      | (.error e, h) => (.error e, opened.close h)
      | (.ok l, h) => c.bindAll (opened ++ [(l, address)]) h plan

/-- Open every listener, handed over or fresh, or none. -/
def openAll (c : Config) (h : Host) : Except EndpointError Opened × Host :=
  match c.inheritAll h with
  | (.error e, h) => (.error e, h)
  | (.ok opened, h) =>
    match c.plan with
    | .error e => (.error e, opened.close h)
    | .ok plan => c.bindAll opened h plan

end Config

namespace Site

/-- Serve some kinds; at an error everything is closed. -/
def serveAll (s : Site) : List Kind → Except EndpointError Unit × Site
  | [] => (.ok (), s)
  | k :: ks =>
    match s.serve k with
    | (.ok _, s) => s.serveAll ks
    | (.error e, s) => (.error e, (s.closeAll).2)

end Site

namespace World

variable [Platform]

/-- Open and serve every endpoint of a configuration. -/
def up (w : World) (c : Config) : Except EndpointError Unit × World :=
  match w.lifecycle with
  | .unstarted =>
    match c.openAll w.host with
    | (.error e, h) => (.error e, { w with host := h })
    | (.ok opened, h) =>
      let s : Site := ⟨h, w.loops, ⟨fun _ => none, c.servers, c.bundle, []⟩⟩
      let s := opened.foldl (fun s e => s.install e.1 e.2) s
      match s.serveAll (Kind.all.filter opened.has) with
      | (.ok _, s) => (.ok (), ofSite s)
      | (.error e, s) => (.error e, ⟨s.host, s.loops, .unstarted⟩)
  | _ => (.error (w.refuse .start), w)

end World
end Portkeeper
