import ScriptHost.Text.Blank

/-!
Where a request goes: a path, and perhaps a query behind a question mark. What follows a number sign
is not looked at. A target may also name a host in front of its path.
-/
namespace ScriptHost.Http

inductive TargetError where
  | empty
  | tooLong
  | strangeChar
  | badAuthority
  | badFormat
  | longScheme
  deriving DecidableEq, Repr

def TargetError.message : TargetError → String
  | .empty => "empty string"
  | .tooLong => "uri too long"
  | .strangeChar => "invalid uri character"
  | .badAuthority => "invalid authority"
  | .badFormat => "invalid format"
  | .longScheme => "scheme too long"

structure Target where
  path : String
  query : Option String
  deriving DecidableEq, Repr

namespace Target

def isAsciiAlnum (c : Char) : Bool := c.toNat < 0x80 && c.isAlphanum

def pathChar (c : Char) : Bool :=
  let n := c.toNat
  (0x21 ≤ n && n ≠ 0x23 && n ≠ 0x3C && n ≠ 0x3E && n ≠ 0x3F && n ≠ 0x60)

def queryChar (c : Char) : Bool :=
  let n := c.toNat
  (0x21 ≤ n && n ≠ 0x22 && n ≠ 0x23 && n ≠ 0x3C && n ≠ 0x3E)

def authorityChar (c : Char) : Bool :=
  isAsciiAlnum c || c ∈ ['!', '$', '&', '\x27', '(', ')', '*', '+', ',', '-', '.', ';', '=', '_',
    '~', ':', '@', '[', ']']

def schemeChar (c : Char) : Bool := isAsciiAlnum c || c ∈ ['+', '-', '.', '~']

def ofPathAndQuery (cs : List Char) : Except TargetError Target :=
  let path := cs.takeWhile fun c => c ≠ '?' && c ≠ '#'
  let shown := if path.isEmpty then "/" else String.ofList path
  if !path.all pathChar then .error .strangeChar
  else match cs.drop path.length with
    | '?' :: rest =>
      let query := rest.takeWhile (· ≠ '#')
      if query.all queryChar then .ok ⟨shown, some (String.ofList query)⟩ else .error .strangeChar
    | _ => .ok ⟨shown, none⟩

structure AuthorityScan where
  colons : Nat := 0
  opened : Bool := false
  closed : Bool := false
  percent : Bool := false
  atEnd : Bool := false

/-- Looks at one character of a host. Colons and percent signs count from the last at sign or
closing bracket on. -/
def AuthorityScan.step (a : AuthorityScan) (c : Char) : Except TargetError AuthorityScan :=
  let a := { a with atEnd := false }
  if c = ':' then
    if 8 ≤ a.colons then .error .badAuthority else .ok { a with colons := a.colons + 1 }
  else if c = '[' then
    if a.percent || a.opened then .error .badAuthority else .ok { a with opened := true }
  else if c = ']' then
    if !a.opened || a.closed then .error .badAuthority
    else .ok { a with closed := true, colons := 0, percent := false }
  else if c = '@' then .ok { a with colons := 0, percent := false, atEnd := true }
  else if c = '%' then .ok { a with percent := true }
  else if authorityChar c then .ok a
  else .error .strangeChar

def AuthorityScan.finish (a : AuthorityScan) : Except TargetError Unit :=
  if (a.opened != a.closed) || 1 < a.colons || a.atEnd || a.percent then .error .badAuthority
  else .ok ()

def endsAuthority (c : Char) : Bool := c = '/' || c = '?' || c = '#'

def takeAuthority (cs : List Char) : Except TargetError (List Char × List Char) := do
  let host := cs.takeWhile fun c => !endsAuthority c
  let scan ← host.foldlM AuthorityScan.step {}
  scan.finish
  return (host, cs.drop host.length)

def schemeLimit : Nat := 64

def afterScheme? (cs : List Char) : Except TargetError (Option (List Char)) :=
  let scheme := cs.takeWhile schemeChar
  match cs.drop scheme.length with
  | ':' :: '/' :: '/' :: rest =>
    if schemeLimit < scheme.length then .error .longScheme else .ok (some rest)
  | _ => .ok none

def parse (s : String) : Except TargetError Target :=
  if 65534 < s.utf8ByteSize then .error .tooLong
  else match s.toList with
  | [] => .error .empty
  | ['*'] => .ok ⟨"*", none⟩
  | '/' :: rest => ofPathAndQuery ('/' :: rest)
  | [c] => do
    let (host, _) ← takeAuthority [c]
    if host.isEmpty then throw .strangeChar
    return ⟨"", none⟩
  | cs => do
    match ← afterScheme? cs with
    | none =>
      let (_, rest) ← takeAuthority cs
      if rest.isEmpty then return ⟨"", none⟩ else throw .badFormat
    | some cs =>
      let (host, rest) ← takeAuthority cs
      if host.isEmpty then throw .badFormat
      ofPathAndQuery rest

end Target

end ScriptHost.Http
