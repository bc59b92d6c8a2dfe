import Portkeeper.Proofs.Registry.Manning
import Portkeeper.Proofs.Registry.Scene

/-!
A registry at work, seen so closely that nothing happens at once. Its listeners are opened one by one, its
accept loops go their own ways, and to close one takes a conversation: the loop is told to stop, leaves
off accepting, lets go of its socket and says so. A loop may have stopped by itself before that. Kinds
need not be served as soon as they are recorded, so a listener may be closed that never was. A start may
be given up halfway; a change has a task of its own, and a stop is waited for, so both are carried to
their ends. That everything is torn down at once, loops and all, is left out.
-/

set_option autoImplicit false

namespace Portkeeper

/-- What an entry is given up for: another address for its kind, or the end of the registry, in which
case there may be loops to wait for already. -/
inductive Purpose where
  | move (address : String)
  | stop (draining : List LoopId)

/-- What a registry is in the middle of: it opens what is left of a plan, or gives that up and closes
what it has opened; it has taken out an entry in order to close it; it bids for an address; it stops. -/
inductive Job where
  | opening (opened : Opened) (plan : List (Kind × String))
  | undoing (opened : Opened)
  | idle
  | releasing (kind : Kind) (entry : Entry) (purpose : Purpose)
  | changing (change : Change)
  | stopping (draining : List LoopId)
  | over

/-- A registry with what it is in the middle of, and its loops: those that were told to stop, those that
have left off accepting, and those that have said that their socket is closed. -/
structure Yard where
  site : Site
  job : Job
  signalled : List LoopId
  left : List LoopId
  told : List LoopId

/-- Keep the loop that an entry held, if it held one. -/
def Site.keep (s : Site) : Option LoopId → Site
  | some id => s.retire id
  | none => s

/-- The listener that was opened for a kind. -/
def Opened.on (o : Opened) (k : Kind) : Option Listener :=
  (o.find? fun d => d.1.kind = k).map Prod.fst

/-- The kind that a change bids for. -/
def Change.bidder? : Change → Option Kind
  | .moving b _ => some b.kind
  | .restoring b _ => some b.kind
  | .done _ => none

namespace Job

/-- The kind for which an attempt to bind comes next. -/
def bidder? : Job → Option Kind
  | .opening o ((k, _) :: _) => if o.has k then none else some k
  | .changing c => c.bidder?
  | _ => none

/-- What has been opened so far, while the registry is started. -/
def opened? : Job → Option Opened
  | .opening o _ => some o
  | .undoing o => some o
  | _ => none

/-- The entry that was taken out. -/
def hand? : Job → Option (Kind × Entry)
  | .releasing k e _ => some (k, e)
  | _ => none

/-- What comes after a step of a change. -/
def after : Change → Job
  | .done _ => .idle
  | c => .changing c

/-- A change waits while time passes. -/
def rest (time : Nat) : Job → Job
  | .changing c => .changing (c.rest time)
  | j => j

/-- The loops that are only waited for. -/
def draining : Job → List LoopId
  | .releasing _ _ (.stop d) => d
  | .stopping d => d
  | _ => []

end Job

namespace Yard

/-- The entry of a kind, which may have been taken out. -/
def held (y : Yard) : Kind → Option Entry :=
  match y.job.hand? with
  | some (k, e) => (y.site.registry.setEntry k (some e)).entries
  | none => y.site.registry.entries

/-- The listener of a kind that nobody serves yet. -/
def ready (y : Yard) (k : Kind) : Option Listener :=
  match y.job.opened? with
  | some o => o.on k
  | none => (y.held k).bind Entry.listener

/-- The loop that serves a kind. -/
def served (y : Yard) (k : Kind) : Option LoopId := (y.held k).bind Entry.serving

def posts (y : Yard) : Posts :=
  ⟨y.site.host, y.site.loops, y.ready, y.served, y.site.registry.bundle⟩

/-- A listening socket of a kind is open. -/
def Listens (y : Yard) : Kind → Listener → Prop := Portkeeper.Listens y.site.loops y.ready

/-- What others may do: anything but lay hands on the sockets of the registry. -/
structure Shares (y : Yard) (h : Host) : Prop where
  sound : h.Sound
  now : y.site.host.now ≤ h.now
  attempts : h.attempts = y.site.host.attempts
  loops : ∀ {id : LoopId} {l : Loop}, y.site.loops[id]? = some l →
    y.site.host.Leaves h l.listener.socket
  ready : ∀ {k : Kind} {l : Listener}, y.ready k = some l → y.site.host.Leaves h l.socket

variable [Platform]

/-- What can happen next. -/
inductive Step : Yard → Yard → Prop
  -- The registry is started.
  | skip {y : Yard} {o : Opened} {k : Kind} {address : String} {plan : List (Kind × String)}
      (hj : y.job = .opening o ((k, address) :: plan)) (hk : o.has k = true) :
      Step y { y with job := .opening o plan }
  | bind {y : Yard} {o : Opened} {k : Kind} {address : String} {plan : List (Kind × String)}
      {l : Listener} {h : Host} (hj : y.job = .opening o ((k, address) :: plan))
      (hk : o.has k = false)
      (hl : y.site.host.listen k address y.site.registry.bundle = (.ok l, h)) :
      Step y { y with
        site := { y.site with host := h }
        job := .opening (o ++ [(l, address)]) plan }
  | fail {y : Yard} {o : Opened} {k : Kind} {address : String} {plan : List (Kind × String)}
      {e : EndpointError} {h : Host} (hj : y.job = .opening o ((k, address) :: plan))
      (hk : o.has k = false)
      (hl : y.site.host.listen k address y.site.registry.bundle = (.error e, h)) :
      Step y { y with site := { y.site with host := h }, job := .undoing o }
  | giveUp {y : Yard} {o : Opened} {plan : List (Kind × String)} (hj : y.job = .opening o plan) :
      Step y { y with job := .undoing o }
  | undo {y : Yard} {o : Opened} {d : Listener × String} (hj : y.job = .undoing (d :: o)) :
      Step y { y with site := { y.site with host := y.site.host.drop d.1 }, job := .undoing o }
  | record {y : Yard} {o : Opened} (hj : y.job = .opening o []) :
      Step y { y with site := o.foldl (fun s e => s.install e.1 e.2) y.site, job := .idle }
  | serve {y : Yard} (k : Kind) (hj : y.job = .idle) : Step y { y with site := (y.site.serve k).2 }
  -- A kind is moved.
  | take {y : Yard} {k : Kind} {address : String} {e : Entry} (hj : y.job = .idle)
      (hk : k.isNetwork = true) (hn : y.site.isCurrent k address = false)
      (hr : address = "" ∨ (y.site.registry.servers k).isSome = true)
      (he : y.site.registry.entries k = some e) :
      Step y { y with
        site := { y.site with registry := y.site.registry.setEntry k none }
        job := .releasing k e (.move address) }
  | enter {y : Yard} {k : Kind} {address : String} (hj : y.job = .idle) (hk : k.isNetwork = true)
      (hne : address ≠ "") (hr : (y.site.registry.servers k).isSome = true)
      (he : y.site.registry.entries k = none) :
      Step y { y with job := .changing (.moving (.first k address) "") }
  | bid {y : Yard} {c : Change} (hj : y.job = .changing c) :
      Step y { y with site := (y.site.step c).2, job := .after (y.site.step c).1 }
  -- What is left of an entry is released.
  | unlisten {y : Yard} {k : Kind} {e : Entry} {p : Purpose} {l : Listener}
      (hj : y.job = .releasing k e p) (hl : e.listener = some l) :
      Step y { y with
        site := { y.site with host := y.site.host.drop l }
        job := .releasing k { e with listener := none } p }
  | signal {y : Yard} {k : Kind} {e : Entry} {p : Purpose} {id : LoopId}
      (hj : y.job = .releasing k e p) (hl : e.listener = none) (hs : e.serving = some id) :
      Step y { y with signalled := id :: y.signalled }
  | closed {y : Yard} {k : Kind} {e : Entry} {address : String}
      (hj : y.job = .releasing k e (.move address)) (hl : e.listener = none)
      (hs : ∀ id, e.serving = some id → id ∈ y.signalled ∧ id ∈ y.told) :
      Step y { y with
        site := y.site.keep e.serving
        job := .after
          (if address = "" then .done (.ok ()) else .moving (.first k address) e.address) }
  | popped {y : Yard} {k : Kind} {e : Entry} {d : List LoopId}
      (hj : y.job = .releasing k e (.stop d)) (hl : e.listener = none)
      (hs : ∀ id, e.serving = some id → id ∈ y.signalled ∧ id ∈ y.told) :
      Step y { y with job := .stopping (d ++ e.serving.toList) }
  -- The registry is stopped. Everything is told to close before anything is waited for.
  | stop {y : Yard} (hj : y.job = .idle) : Step y { y with
      site := { y.site with registry := { y.site.registry with retired := [] } }
      job := .stopping y.site.registry.retired }
  | hush {y : Yard} {d : List LoopId} {k : Kind} {e : Entry} {l : Listener}
      (hj : y.job = .stopping d) (he : y.site.registry.entries k = some e)
      (hl : e.listener = some l) :
      Step y { y with site := { y.site with
        host := y.site.host.drop l
        registry := y.site.registry.setEntry k (some { e with listener := none }) } }
  | ring {y : Yard} {d : List LoopId} {k : Kind} {e : Entry} {id : LoopId}
      (hj : y.job = .stopping d) (he : y.site.registry.entries k = some e)
      (hs : e.serving = some id) : Step y { y with signalled := id :: y.signalled }
  | pop {y : Yard} {d : List LoopId} {k : Kind} {e : Entry} (hj : y.job = .stopping d)
      (he : y.site.registry.entries k = some e) :
      Step y { y with
        site := { y.site with registry := y.site.registry.setEntry k none }
        job := .releasing k e (.stop d) }
  | stopped {y : Yard} {d : List LoopId} (hj : y.job = .stopping d)
      (hn : ∀ k, y.site.registry.entries k = none) : Step y { y with job := .over }
  -- A loop goes its own way.
  | fault {y : Yard} {id : LoopId} {l : Loop} (hl : y.site.loops[id]? = some l) :
      Step y { y with left := id :: y.left }
  | heed {y : Yard} {id : LoopId} (hs : id ∈ y.signalled) : Step y { y with left := id :: y.left }
  | drop {y : Yard} {id : LoopId} (hl : id ∈ y.left) : Step y { y with site := y.site.closeLoop id }
  | tell {y : Yard} {id : LoopId} (hs : Shut y.site.loops id) :
      Step y { y with told := id :: y.told }
  -- Others go theirs.
  | visit {y : Yard} {id : LoopId} {l l' : Loop} (hl : y.site.loops[id]? = some l)
      (hm : l.Meets y.site.now l') :
      Step y { y with site := { y.site with loops := y.site.loops.set id l' } }
  | wait {y : Yard} (time : Nat) :
      Step y { y with
        site := { y.site with host := y.site.host.sleep time }
        job := y.job.rest time }
  | others {y : Yard} {h : Host} (ho : y.Shares h) :
      Step y { y with site := { y.site with host := h } }

/-- Any number of steps. -/
inductive Run : Yard → Yard → Prop
  | refl {y : Yard} : Run y y
  | step {y₁ y₂ y₃ : Yard} : Run y₁ y₂ → Step y₂ y₃ → Run y₁ y₃

/-- A start that has taken over what was handed to it, and has made its plan. Nobody can come in between
before that; if it fails then, it leaves nothing behind. -/
def start (c : Config) (base : Opened) (h : Host) (plan : List (Kind × String)) : Yard :=
  ⟨⟨h, [], ⟨fun _ => none, c.servers, c.bundle, []⟩⟩, .opening base plan, [], [], []⟩

/-- A state that a registry can be in at any moment, from its start on. -/
def Reachable (y : Yard) : Prop := ∃ c h base h₁ plan, Host.Sound h ∧
  Config.inheritAll c h = (.ok base, h₁) ∧ c.plan = .ok plan ∧ Run (start c base h₁ plan) y

end Yard
end Portkeeper
