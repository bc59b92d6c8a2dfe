import Portkeeper.Text.Utf8
import Portkeeper.Text.Cut

/-!
Request targets: a path with an optional query, an absolute address, a bare authority, or a star.
A fragment is dropped. `Uri.read` accepts the bytes that senders are known to leave unescaped.
-/

set_option autoImplicit false

namespace Portkeeper.Http
open Text

inductive UriError where
  | empty
  | tooLong
  | character
  | authority
  | form
  | schemeTooLong
  deriving DecidableEq, Repr

def UriError.message : UriError → String
  | .empty => "empty string"
  | .tooLong => "uri too long"
  | .character => "invalid uri character"
  | .authority => "invalid authority"
  | .form => "invalid format"
  | .schemeTooLong => "scheme too long"

/-- A request target: a scheme and an authority where given, and the path with its query as they are
sent. A bare authority has no path at all. -/
structure Uri where
  scheme : Option (List UInt8)
  authority : List UInt8
  target : Option (List UInt8)
  deriving DecidableEq, Repr

namespace Uri

def between (low high b : UInt8) : Bool := low ≤ b && b ≤ high

def isAlpha (b : UInt8) : Bool := between 65 90 b || between 97 122 b
def isDigit (b : UInt8) : Bool := between 48 57 b

/-- Bytes of a path that need no escape, and three that are let through all the same. -/
def isPathByte (b : UInt8) : Bool :=
  b == 0x21 || between 0x24 0x3B b || b == 0x3D || between 0x40 0x5F b || between 0x61 0x7A b ||
    b == 0x7C || b == 0x7E || 0x7F ≤ b || b == 0x22 || b == 0x7B || b == 0x7D

def isQueryByte (b : UInt8) : Bool :=
  b == 0x21 || between 0x24 0x3B b || b == 0x3D || 0x3F ≤ b

/-- A path with its query, up to the fragment. -/
def readTarget (bs : List UInt8) : Except UriError (List UInt8) :=
  let path := bs.takeWhile fun b => b != 63 && b != 35
  let rest := bs.drop path.length
  let query := if rest.head? = some 63 then rest.takeWhile (· != 35) else []
  if !path.all isPathByte || !(query.drop 1).all isQueryByte then .error .character
  else if (ofUtf8? (path ++ query)).isNone then .error .character
  else .ok (path ++ query)

/-- The bytes that an authority consists of, the marks of its end included. -/
def isUriByte (b : UInt8) : Bool :=
  isAlpha b || isDigit b || b ∈ "!#$&'()*+,-./:;=?@[]_~".toList.map (UInt8.ofNat ·.toNat)

/-- What has been seen of an authority so far. -/
structure AuthorityScan where
  colons : Nat
  opened : Bool
  closed : Bool
  percent : Bool
  atEnd : Bool

/-- One byte of an authority. Colons and percent signs inside brackets, or before an at sign, are
forgotten. -/
def scanByte (s : AuthorityScan) (b : UInt8) : Except UriError AuthorityScan :=
  if b = 58 then
    if 8 ≤ s.colons then .error .authority
    else .ok { s with colons := s.colons + 1, atEnd := false }
  else if b = 91 then
    if s.percent || s.opened then .error .authority
    else .ok { s with opened := true, atEnd := false }
  else if b = 93 then
    if !s.opened || s.closed then .error .authority
    else .ok { s with closed := true, colons := 0, percent := false, atEnd := false }
  else if b = 64 then .ok { s with colons := 0, percent := false, atEnd := true }
  else if b = 37 then .ok { s with percent := true, atEnd := false }
  else if isUriByte b then .ok { s with atEnd := false }
  else .error .character

def scanAuthority (s : AuthorityScan) : List UInt8 → Except UriError AuthorityScan
  | [] => .ok s
  | b :: bs => do scanAuthority (← scanByte s b) bs

/-- The authority at the front, up to the path, the query or the fragment, and what follows it. -/
def readAuthority (bs : List UInt8) : Except UriError (List UInt8 × List UInt8) := do
  let part := bs.takeWhile fun b => b != 47 && b != 63 && b != 35
  let s ← scanAuthority ⟨0, false, false, false, false⟩ part
  if s.opened != s.closed || 1 < s.colons || s.atEnd || s.percent then .error .authority
  else .ok (part, bs.drop part.length)

def isSchemeByte (b : UInt8) : Bool :=
  isAlpha b || isDigit b || b == 43 || b == 45 || b == 46

/-- The scheme that two slashes after a colon mark, and what follows them. -/
def readScheme (bs : List UInt8) : Except UriError (Option (List UInt8 × List UInt8)) :=
  let name := bs.takeWhile isSchemeByte
  if bs.length ≤ 3 then .ok none
  else match stripStart? [58, 47, 47] (bs.drop name.length) with
    | none => .ok none
    | some rest => if 64 < name.length then .error .schemeTooLong else .ok (some (name, rest))

def read (bs : List UInt8) : Except UriError Uri :=
  if 65534 < bs.length then .error .tooLong
  else match bs with
    | [] => .error .empty
    | [42] => .ok ⟨none, [], some [42]⟩
    | 47 :: _ => do return ⟨none, [], some (← readTarget bs)⟩
    | [_] => do
      let (authority, rest) ← readAuthority bs
      if rest = [] then return ⟨none, authority, none⟩ else .error .authority
    | _ => do
      match ← readScheme bs with
      | none =>
        let (authority, rest) ← readAuthority bs
        if rest = [] then return ⟨none, authority, none⟩ else .error .form
      | some (scheme, rest) =>
        let (authority, rest) ← readAuthority rest
        if authority = [] then .error .form
        else return ⟨some scheme, authority, some (← readTarget rest)⟩

/-- The path that a target asks for; a target that has only a query, or nothing after its authority,
asks for the root, and a bare authority for no path. -/
def path (u : Uri) : List UInt8 :=
  match u.target with
  | none => []
  | some t =>
    let p := t.takeWhile (· != 63)
    if p = [] then [47] else p

/-- The target as it is sent. -/
def text (u : Uri) : List UInt8 :=
  match u.scheme, u.target with
  | some s, some t => s ++ [58, 47, 47] ++ u.authority ++ (if t.head? = some 47 then t else 47 :: t)
  | some s, none => s ++ [58, 47, 47] ++ u.authority
  | none, some t => t
  | none, none => u.authority

end Uri
end Portkeeper.Http
