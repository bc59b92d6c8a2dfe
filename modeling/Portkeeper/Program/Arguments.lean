import Portkeeper.Handoff
import Portkeeper.Table

/-!
Command lines: parameters that are given by name, with a value or alone, values that are given by
place, and subcommands. A parameter that is not given may take its value from the environment. A
value is looked at when the next argument settles that it is complete, so a name that is unknown is
complained about before a bad value right in front of it.
-/

set_option autoImplicit false

namespace Portkeeper.Program
open Text

structure Parameter where
  name : String
  /-- What stands for its value, unless it is a mere switch. -/
  placeholder : Option String
  /-- The variable that its value may come from. -/
  source : Option String
  /-- The value that it has when nothing gives it one. -/
  default : Option String
  /-- Whether an empty value is one. -/
  mayBeEmpty : Bool
  /-- What it is for. -/
  about : String
  deriving DecidableEq, Repr

/-- The switch that every program and subcommand has. -/
def Parameter.help : Parameter := ⟨"help", none, none, none, true, "Print help"⟩

/-- How complaints show a parameter. -/
def Parameter.text (p : Parameter) : String :=
  match p.placeholder with
  | some v => "--" ++ p.name ++ " <" ++ v ++ ">"
  | none => "--" ++ p.name

/-- What is wrong with a command line; `help` is a call for help, with the page that answers it. -/
inductive UsageError where
  | unexpected (argument : String)
  | repeated (parameter : Parameter)
  | noValue (parameter : Parameter)
  | surplusValue (value : String) (parameter : Parameter)
  | badValue (value place reason : String)
  | missing
  | noSubcommand (program : String)
  | unknownSubcommand (name : String)
  | nothingGiven
  | help (page : String)
  deriving DecidableEq, Repr

namespace UsageError

/-- The first line of a complaint; those that show how to call the program have none. -/
def line : UsageError → String
  | .unexpected a => "error: unexpected argument '" ++ a ++ "' found"
  | .repeated p => "error: the argument '" ++ p.text ++ "' cannot be used multiple times"
  | .noValue p => "error: a value is required for '" ++ p.text ++ "' but none was supplied"
  | .surplusValue v p => "error: unexpected value '" ++ v ++ "' for '" ++ p.text ++
      "' found; no more were expected"
  | .badValue v place reason =>
    "error: invalid value '" ++ v ++ "' for '" ++ place ++ "': " ++ reason
  | .missing => "error: the following required arguments were not provided:"
  | .noSubcommand program =>
    "error: '" ++ program ++ "' requires a subcommand but one was not provided"
  | .unknownSubcommand name => "error: unrecognized subcommand '" ++ name ++ "'"
  | .nothingGiven | .help _ => ""

/-- The status with which the program ends. -/
def code : UsageError → Nat
  | .help _ => 0
  | _ => 2

/-- What is printed for a call for help. -/
def output : UsageError → String
  | .help page => page
  | _ => ""

end UsageError

/-- What a program, or one of its subcommands, accepts. -/
structure Grammar where
  parameters : List Parameter
  /-- The values that are given by place: what stands for each, and what is wrong with a text as its
  value. -/
  places : List (String × (String → Option String))
  subcommands : List String
  /-- The page that explains all this. -/
  page : String

/-- What has been read of a command line. The last value may still be open. -/
structure Reading where
  given : Table String String
  switches : List String
  placed : List String
  /-- A parameter, or else a place, whose value is not settled. -/
  pending : Option (Parameter × Option String ⊕ (String × (String → Option String)) × String)

namespace Reading

def start : Reading := ⟨[], [], [], none⟩

/-- Settle a value that was given for a parameter. -/
def take (r : Reading) (p : Parameter) (value : String) : Except UsageError Reading :=
  if (r.given.get? p.name).isSome then .error (.repeated p)
  else if value = "" ∧ !p.mayBeEmpty then .error (.noValue p)
  else .ok { r with given := r.given.insert p.name value }

/-- Settle the open value. -/
def settle (r : Reading) : Except UsageError Reading :=
  match r.pending with
  | none => .ok r
  | some (.inl (p, none)) => .error (.noValue p)
  | some (.inl (p, some value)) => { r with pending := none }.take p value
  | some (.inr ((place, fault), value)) =>
    match fault value with
    | some reason => .error (.badValue value ("<" ++ place ++ ">") reason)
    | none => .ok { r with pending := none, placed := r.placed ++ [value] }

/-- A switch is given. -/
def switch (r : Reading) (p : Parameter) : Except UsageError Reading := do
  let r ← r.settle
  if p.name ∈ r.switches then throw (.repeated p)
  return { r with switches := r.switches ++ [p.name] }

/-- The number of places that are taken. -/
def taken (r : Reading) : Nat :=
  r.placed.length + match r.pending with
    | some (.inr _) => 1
    | _ => 0

end Reading

namespace Grammar

/-- A text that stands at the next place. `free` says that a name before it marked all that follow
as values. -/
def place (g : Grammar) (r : Reading) (free : Bool) (argument : String) :
    Except UsageError Reading :=
  match g.places[r.taken]? with
  | some place => do
    let r ← r.settle
    return { r with pending := some (.inr (place, argument)) }
  | none =>
    if g.subcommands = [] ∨ (free ∧ argument ∈ g.subcommands) then .error (.unexpected argument)
    else .error (.unknownSubcommand argument)

/-- An argument that starts with two hyphens and goes on. -/
def long (g : Grammar) (r : Reading) (text : List Char) : Except UsageError Reading :=
  let (name, value) := match cutFirst '=' text with
    | some (n, v) => (String.ofList n, some (String.ofList v))
    | none => (String.ofList text, none)
  if name = "help" then
    match value with
    | none => do
      let _ ← r.settle
      throw (.help g.page)
    | some v => .error (.surplusValue v Parameter.help)
  else match g.parameters.find? (·.name = name) with
    | none => .error (.unexpected ("--" ++ name))
    | some p =>
      match p.placeholder, value with
      | none, none => r.switch p
      | none, some v => .error (.surplusValue v p)
      | some _, none => do
        let r ← r.settle
        return { r with pending := some (.inl (p, none)) }
      | some _, some v => do
        let r ← r.settle
        r.take p v

/-- Read arguments up to a subcommand, which is returned with the arguments behind it. -/
def read (g : Grammar) (r : Reading) (free : Bool) :
    List String → Except UsageError (Reading × Option (String × List String))
  | [] => .ok (r, none)
  | argument :: rest =>
    let cs := argument.toList
    if free then do
      let r ← g.place r true argument
      g.read r true rest
    else match r.pending, cs with
      | _, ['-', '-'] => g.read r true rest
      | _, '-' :: '-' :: text => do
        let r ← g.long r text
        g.read r false rest
      | _, '-' :: 'h' :: _ => do
        let _ ← r.settle
        throw (.help g.page)
      | _, '-' :: c :: _ => .error (.unexpected ("-" ++ String.singleton c))
      | some (.inl (p, none)), _ =>
        g.read { r with pending := some (.inl (p, some argument)) } false rest
      | _, _ =>
        if argument ∈ g.subcommands then .ok (r, some (argument, rest))
        else do
          let r ← g.place r false argument
          g.read r false rest

/-- Take values that were not given from the environment. -/
def addEnvironment (g : Grammar) (env : Environment) (r : Reading) : Except UsageError Reading :=
  g.parameters.foldlM (fun r p =>
    match r.given.get? p.name, p.source >>= env.get? with
    | none, some value => r.take p (lossyString value)
    | _, _ => .ok r) r

end Grammar

/-! ### Help -/

namespace Page

/-- Entries below each other, with what is said of them in a column of its own. -/
def entries (es : List (String × String)) : String :=
  let width := es.foldl (fun n e => max n e.1.length) 0
  es.foldl (fun s e => s ++ "\n" ++ e.1 ++ String.ofList (List.replicate (width + 2 - e.1.length) ' ') ++
    e.2) ""

/-- What is said of a parameter: what it is for, where its value may come from, and what it is if
nothing gives one. -/
def parameterText (env : Environment) (p : Parameter) : String :=
  let source := p.source.toList.map fun name =>
    "[env: " ++ name ++ "=" ++ ((env.get? name).map lossyString).getD "" ++ "]"
  let default := p.default.toList.map fun value => "[default: " ++ value ++ "]"
  " ".intercalate ((if p.about = "" then [] else [p.about]) ++ source ++ default)

/-- The section of the parameters. -/
def options (env : Environment) (ps : List Parameter) : String :=
  "Options:" ++ entries (ps.map (fun p => ("      " ++ p.text, parameterText env p)) ++
    [("  -h, " ++ Parameter.help.text, Parameter.help.about)])

/-- A page: what a program does, how it is called, and the sections on what it accepts. -/
def write (about usage : String) (sections : List String) : String :=
  sections.foldl (fun s part => s ++ "\n" ++ part ++ "\n")
    (about ++ "\n\nUsage: " ++ usage ++ "\n")

end Page

end Portkeeper.Program
