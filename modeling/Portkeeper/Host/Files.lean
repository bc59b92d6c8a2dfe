import Portkeeper.OsError
import Portkeeper.Table
import Portkeeper.Text.Cut
import Portkeeper.Text.Utf8

/-!
The file system of a host: a tree of directories with files, symbolic links and socket files, and
the rules by which a path leads to a place in it. A failure is an error number.
-/

set_option autoImplicit false

namespace Portkeeper
open Text

/-- The place of a file: names from the root down. -/
abbrev Place := List (List Char)

/-- What stands at a place. A socket file names the socket that made it, open or not. -/
inductive Node where
  | directory
  | file (content : List UInt8)
  | link (target : List Char)
  | socket (mode : Nat) (id : Nat)
  deriving DecidableEq, Repr

/-- The nodes below the root, and the working directory. -/
structure Files where
  nodes : Table Place Node
  here : Place
  deriving DecidableEq, Repr

/-! ### Paths as text -/

namespace PathText

/-- The parts of a text between slashes. -/
def split (cs : List Char) : List (List Char) := splitAll '/' cs

/-- The steps of a path: empty parts and single points lead nowhere. -/
def steps (cs : List Char) : List (List Char) := (split cs).filter fun p => p ≠ [] ∧ p ≠ ['.']

def isAbsolute (cs : List Char) : Bool := cs.head? == some '/'

/-- Whether a path can only mean a directory: its last part is empty or a single point. -/
def endsInDirectory (cs : List Char) : Bool :=
  match (split cs).getLast? with
  | some p => p == [] || p == ['.']
  | none => false

/-- Whether slashes stand behind the last name of a path. -/
def hasOpenEnd (cs : List Char) : Bool := cs.getLast? == some '/' && !cs.all (· == '/')

/-- A path without the slashes behind its last name. -/
def withoutEnd (cs : List Char) : List Char :=
  if hasOpenEnd cs then (cs.reverse.dropWhile (· == '/')).reverse else cs

/-- A path below another. -/
def join (directory : List Char) (name : List Char) : List Char :=
  if directory = [] ∨ directory.getLast? = some '/' then directory ++ name
  else directory ++ '/' :: name

/-- Names with slashes between them. -/
def glue : List (List Char) → List Char
  | [] => []
  | [p] => p
  | p :: ps => p ++ '/' :: glue ps

/-- The parts of a path that count as components: a single point does so only at the front. -/
def components (cs : List Char) : List (List Char) :=
  match (split cs).filter (· ≠ []) with
  | [] => []
  | p :: ps =>
    if isAbsolute cs ∧ p = ['.'] then ps.filter (· ≠ ['.']) else p :: ps.filter (· ≠ ['.'])

/-- The path of the directory that a path's last component stands in: `none` for a path without
components, empty for a lone relative name. -/
def parent? (cs : List Char) : Option (List Char) :=
  match components cs with
  | [] => none
  | p :: ps =>
    let above := glue ((p :: ps).dropLast)
    some (if isAbsolute cs then '/' :: above else above)

end PathText

namespace Files

/-- What stands at a place; the root is a directory. -/
def at? (f : Files) (p : Place) : Option Node := if p = [] then some .directory else f.nodes.get? p

/-- Where steps come to: to an end, or to a link, after which there are other steps to take from a
directory. -/
inductive Stretch where
  | straight (result : Except Nat Place)
  | bend (base : Place) (steps : List (List Char))

/-- Where steps come to from a directory, up to the first link that has to be followed. A last step may
lead to a free place, and to a link itself unless `follow` says otherwise. -/
def stretch (f : Files) (follow : Bool) (base : Place) : List (List Char) → Stretch
  | [] => .straight (.ok base)
  | step :: rest =>
    if step = ['.', '.'] then f.stretch follow base.dropLast rest
    else if 255 < (utf8 step).length then .straight (.error ErrorNumber.nameTooLong)
    else
      let place := base ++ [step]
      match f.at? place with
      | none => .straight (if rest = [] then .ok place else .error ErrorNumber.noSuchFile)
      | some .directory => f.stretch follow place rest
      | some (.link target) =>
        if rest = [] ∧ follow = false then .straight (.ok place)
        else .bend (if PathText.isAbsolute target then [] else base)
          (PathText.steps target ++ rest)
      | some _ => .straight (if rest = [] then .ok place else .error ErrorNumber.notADirectory)

theorem stretch_up {f : Files} {b : Bool} {base : Place} {rest : List (List Char)} :
    f.stretch b base (['.', '.'] :: rest) = f.stretch b base.dropLast rest := by
  rw [stretch, if_pos rfl]

/-- Where steps lead from a directory, with at most `links` links followed. -/
def walk (f : Files) (follow : Bool) : (links : Nat) → Place → List (List Char) → Except Nat Place
  | 0, base, steps =>
    match f.stretch follow base steps with
    | .straight r => r
    | .bend _ _ => .error ErrorNumber.tooManyLevels
  | links + 1, base, steps =>
    match f.stretch follow base steps with
    | .straight r => r
    | .bend base steps => f.walk follow links base steps

/-- The most links that are followed on one path. -/
def linkLimit : Nat := 40

/-- The place that a path leads to, which may be free. -/
def locate (f : Files) (follow : Bool) (path : List Char) : Except Nat Place :=
  if path = [] then .error ErrorNumber.noSuchFile
  else if 4095 < (utf8 path).length then .error ErrorNumber.nameTooLong
  else
    let base := if PathText.isAbsolute path then [] else f.here
    match walk f (follow || PathText.endsInDirectory path) linkLimit base (PathText.steps path) with
    | .error e => .error e
    | .ok place =>
      if PathText.endsInDirectory path then
        match f.at? place with
        | some .directory => .ok place
        | some _ => .error ErrorNumber.notADirectory
        | none => .error ErrorNumber.noSuchFile
      else .ok place

/-- What stands where a path leads. -/
def find (f : Files) (follow : Bool) (path : List Char) : Except Nat Node :=
  match f.locate follow path with
  | .error e => .error e
  | .ok place =>
    match f.at? place with
    | some node => .ok node
    | none => .error ErrorNumber.noSuchFile

def isDirectory (f : Files) (path : List Char) : Bool :=
  match f.find true path with
  | .ok .directory => true
  | _ => false

/-- The content of a file. -/
def read (f : Files) (path : List Char) : Except Nat (List UInt8) :=
  match f.find true path with
  | .error e => .error e
  | .ok (.file content) => .ok content
  | .ok .directory => .error ErrorNumber.isADirectory
  | .ok _ => .error ErrorNumber.noSuchDevice

/-- Put a node at a place. -/
def put (f : Files) (p : Place) (n : Node) : Files := { f with nodes := f.nodes.insert p n }

/-- The place that the last name of a path stands for, whether or not slashes follow it. -/
def entry (f : Files) (path : List Char) : Except Nat Place :=
  f.locate false (PathText.withoutEnd path)

/-- Put a node where a path leads to a free place. Only for a directory may slashes follow the name.
-/
def create (f : Files) (path : List Char) (n : Node) : Except Nat Files :=
  match f.entry path with
  | .error e => .error e
  | .ok place =>
    if (f.at? place).isSome then .error ErrorNumber.fileExists
    else if PathText.hasOpenEnd path then .error ErrorNumber.noSuchFile
    else .ok (f.put place n)

/-- Write a file: a new one where a path leads to a free place, or in place of the file there. -/
def write (f : Files) (path : List Char) (content : List UInt8) : Except Nat Files :=
  match f.locate true path with
  | .error e => .error e
  | .ok place =>
    match f.at? place with
    | none | some (.file _) => .ok (f.put place (.file content))
    | some .directory => .error ErrorNumber.isADirectory
    | some _ => .error ErrorNumber.noSuchDevice

/-- Remove what a path leads to, unless it is a directory; a link is removed itself. -/
def remove (f : Files) (path : List Char) : Except Nat Files :=
  match f.entry path with
  | .error e => .error e
  | .ok place =>
    match f.at? place with
    | none => .error ErrorNumber.noSuchFile
    | some .directory => .error ErrorNumber.isADirectory
    | some _ =>
      if PathText.hasOpenEnd path then .error ErrorNumber.notADirectory
      else .ok { f with nodes := f.nodes.erase place }

/-- Give the socket file at a path its permissions. -/
def setMode (f : Files) (path : List Char) (mode : Nat) : Except Nat Files :=
  match f.locate true path with
  | .error e => .error e
  | .ok place =>
    match f.at? place with
    | none => .error ErrorNumber.noSuchFile
    | some (.socket _ id) => .ok (f.put place (.socket mode id))
    | some _ => .ok f

/-- Make a directory and those above it that are missing. -/
def makeDirectories (f : Files) (path : List Char) : Except Nat Files :=
  let base := if PathText.isAbsolute path then [] else f.here
  let rec go (f : Files) (base : Place) : List (List Char) → Except Nat Files
    | [] => .ok f
    | step :: rest =>
      match f.walk true linkLimit base [step] with
      | .error e => .error e
      | .ok place =>
        match f.at? place with
        | some .directory => go f place rest
        | some _ => .error ErrorNumber.fileExists
        | none => go (f.put place .directory) place rest
  go f base (PathText.steps path)

/-- Move what stands at one place, with all that stands below it, to another. -/
def rename (f : Files) (source destination : List Char) : Except Nat Files :=
  match f.locate false source, f.locate false destination with
  | .error e, _ => .error e
  | _, .error e => .error e
  | .ok a, .ok b =>
    match f.at? a, f.at? b with
    | none, _ => .error ErrorNumber.noSuchFile
    | some .directory, some .directory | some .directory, none =>
      if a <+: b ∧ a ≠ b then .error ErrorNumber.invalidArgument
      else if a = b then .ok f
      else if f.nodes.any fun e => b <+: e.1 ∧ e.1 ≠ b then .error ErrorNumber.directoryNotEmpty
      else .ok { f with nodes := (f.nodes.erase b).map fun (p, n) =>
        match stripStart? a p with
        | some below => (b ++ below, n)
        | none => (p, n) }
    | some .directory, some _ => .error ErrorNumber.notADirectory
    | some _, some .directory => .error ErrorNumber.isADirectory
    | some n, _ => if a = b then .ok f else .ok { f with nodes := (f.nodes.erase a).insert b n }

/-- The names that stand in the working directory. -/
def names (f : Files) : List (List Char) :=
  f.nodes.filterMap fun (p, _) =>
    match stripStart? f.here p with
    | some [name] => some name
    | _ => none

end Files
end Portkeeper
