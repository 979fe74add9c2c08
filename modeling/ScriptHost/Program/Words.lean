import ScriptHost.Text.Blank
import ScriptHost.Text.Utf8

/-!
The words of a command line: which of them are options, and how messages show them.
-/
namespace ScriptHost.Program

def printable (b : UInt8) : Bool := 0x20 ≤ b && b < 0x7F

def escapeOf (b : UInt8) : Bytes :=
  match b with
  | 0x07 => [0x61]
  | 0x08 => [0x62]
  | 0x09 => [0x74]
  | 0x0A => [0x6E]
  | 0x0B => [0x76]
  | 0x0C => [0x66]
  | 0x0D => [0x72]
  | b => [0x30 + b / 64, 0x30 + b / 8 % 8, 0x30 + b % 8]

def quoted (s : Bytes) : String :=
  let inside := s.flatMap fun b =>
    if b == 0x27 || b == 0x5C then [0x5C, b] else if printable b then [b] else 0x5C :: escapeOf b
  "'" ++ Bytes.lossy inside ++ "'"

def isTroubling (first alone : Bool) (b : UInt8) : Bool :=
  !printable b || (bytes " !\x22$&'()*:;<=>?[\\^\x60|").contains b
    || (first && (b == 0x23 || b == 0x7E)) || (alone && (b == 0x7B || b == 0x7D))

def isPlain (b : UInt8) : Bool :=
  let c := Char.ofNat b.toNat
  c.isAlphanum || (bytes " %'+,-./:@]_").contains b

def singleQuoted : Bool → Bytes → Bytes
  | _, [] => []
  | escaping, b :: r =>
    if b == 0x27 then bytes "'\\''" ++ singleQuoted false r
    else if printable b then
      (if escaping then bytes "''" else []) ++ b :: singleQuoted false r
    else (if escaping then [] else bytes "'$'") ++ 0x5C :: (escapeOf b ++ singleQuoted true r)

def shellQuoted (s : Bytes) : String :=
  if s.contains 0x27 && s.all isPlain then "\x22" ++ Bytes.lossy s ++ "\x22"
  else "'" ++ Bytes.lossy (singleQuoted false s) ++ "'"

/-- A word as a shell would read it, in quotes where it needs them. -/
def shellWord (s : Bytes) : String :=
  let troubled := match s with
    | [] => true
    | b :: r => isTroubling true r.isEmpty b || r.any (isTroubling false false)
  if troubled then shellQuoted s else Bytes.lossy s

/-! ## Options -/

/-- The options that a program knows. -/
structure Grammar where
  plain : String := ""
  valued : String := ""
  long : List (String × Char) := []
  /-- Whether the first word that is no option ends the options. -/
  ordered : Bool := false

def helpLetter : Char := '?'

def Grammar.names (g : Grammar) : List (String × Char) :=
  g.long ++ [("help", helpLetter), ("version", helpLetter)]

structure Line where
  options : List (Char × Bytes) := []
  words : List Bytes := []
  fault : Option String := none

def Line.option (c : Char) (value : Bytes) (l : Line) : Line :=
  { l with options := (c, value) :: l.options }

def Line.has (l : Line) (c : Char) : Bool := l.options.any fun (k, _) => k = c

inductive Letters where
  | done (options : List (Char × Bytes))
  | wants (options : List (Char × Bytes)) (letter : Char)
  | fault (options : List (Char × Bytes)) (text : String)

def readLetters (g : Grammar) (before : List (Char × Bytes)) : Bytes → Letters
  | [] => .done before.reverse
  | b :: r =>
    let c := Char.ofNat b.toNat
    if g.valued.toList.contains c then
      if r.isEmpty then .wants before.reverse c else .done ((c, r) :: before).reverse
    else if g.plain.toList.contains c then readLetters g ((c, []) :: before) r
    else .fault before.reverse ("invalid option -- '" ++ Bytes.lossy [b] ++ "'")

def longLetter (g : Grammar) (word name : String) : Except String (String × Char) :=
  let known := g.names.filter fun (k, _) => Text.startsWith k name
  match known.find? fun (k, _) => k = name with
  | some found => .ok found
  | none =>
    match known with
    | [] => .error ("unrecognized option '" ++ word ++ "'")
    | (k, c) :: more =>
      if more.all fun (_, d) => d = c && c ≠ helpLetter then .ok (k, c)
      else .error ("option '" ++ word ++ "' is ambiguous; possibilities:"
        ++ String.join (known.map fun (k, _) => " '--" ++ k ++ "'"))

def Grammar.read (g : Grammar) : List Bytes → Line
  | [] => {}
  | w :: ws =>
    match w with
    | [0x2D, 0x2D] => { words := ws }
    | 0x2D :: 0x2D :: name =>
      let key := name.takeWhile (· ≠ 0x3D)
      let value := (name.drop key.length).drop 1
      let hasValue := key.length < name.length
      match longLetter g (Bytes.lossy w) (Bytes.lossy key) with
      | .error text => { fault := some text }
      | .ok (k, c) =>
        if g.valued.toList.contains c then
          if hasValue then (g.read ws).option c value
          else match ws with
            | v :: ws => (g.read ws).option c v
            | [] => { fault := some ("option '--" ++ k ++ "' requires an argument") }
        else if hasValue then
          { fault := some ("option '--" ++ k ++ "' doesn't allow an argument") }
        else (g.read ws).option c []
    | 0x2D :: b :: r =>
      match readLetters g [] (b :: r) with
      | .done os => let l := g.read ws; { l with options := os ++ l.options }
      | .fault os text => { options := os, fault := some text }
      | .wants os c =>
        match ws with
        | v :: ws => let l := g.read ws; { l with options := os ++ (c, v) :: l.options }
        | [] =>
          { options := os
            fault := some ("option requires an argument -- '" ++ c.toString ++ "'") }
    | w =>
      if g.ordered then { words := w :: ws }
      else let l := g.read ws; { l with words := w :: l.words }

end ScriptHost.Program
