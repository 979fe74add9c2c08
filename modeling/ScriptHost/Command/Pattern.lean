import ScriptHost.Text.Utf8

/-!
Patterns of file names: a star stands for any text, a question mark for any byte, and brackets for
one byte of a set. Bytes that were quoted stand for themselves.
-/
namespace ScriptHost.Command

/-- A byte of a pattern; a live one may have a meaning of its own. -/
structure Sign where
  byte : UInt8
  live : Bool
  deriving DecidableEq, Repr

abbrev Pattern := List Sign

namespace Pattern

def inSet (b : UInt8) : List UInt8 → Bool
  | lo :: 0x2D :: hi :: r => (lo ≤ b && b ≤ hi) || inSet b r
  | c :: r => b == c || inSet b r
  | [] => false

def takeSet (p : Pattern) : Option (Bool × List UInt8 × Pattern) :=
  let (negated, p) := match p with
    | ⟨0x21, true⟩ :: r | ⟨0x5E, true⟩ :: r => (true, r)
    | r => (false, r)
  let (first, p) := match p with
    | ⟨0x5D, true⟩ :: r => (([0x5D] : List UInt8), r)
    | r => ([], r)
  let inside := p.takeWhile fun s => !(s.byte == 0x5D && s.live)
  match p.drop inside.length with
  | _ :: r => some (negated, first ++ inside.map (·.byte), r)
  | [] => none

/-- Whether a pattern stands for a whole text. The lengths of both bound the fuel. -/
def fits : Nat → Pattern → Bytes → Bool
  | 0, _, _ => false
  | _ + 1, [], s => s.isEmpty
  | fuel + 1, c :: p, s =>
    if c.live && c.byte == 0x2A then
      fits fuel p s || (match s with
        | _ :: r => fits fuel (c :: p) r
        | [] => false)
    else match s with
    | [] => false
    | b :: r =>
      if c.live && c.byte == 0x3F then fits fuel p r
      else if c.live && c.byte == 0x5B then
        match takeSet p with
        | some (negated, set, rest) => inSet b set != negated && fits fuel rest r
        | none => b == c.byte && fits fuel p r
      else b == c.byte && fits fuel p r

def covers (p : Pattern) (s : Bytes) : Bool := fits (p.length + s.length + 1) p s

def starts (p : Pattern) (s : Bytes) : List Nat :=
  (List.range (s.length + 1)).filter fun n => covers p (s.take n)

def ends (p : Pattern) (s : Bytes) : List Nat :=
  (List.range (s.length + 1)).filter fun n => covers p (s.drop (s.length - n))

def replace (every : Bool) (p : Pattern) (other : Bytes) : Nat → Bytes → Bytes
  | 0, s => s
  | fuel + 1, s =>
    match (starts p s).getLast?, s with
    | some n, s =>
      if n = 0 then
        match s with
        | b :: r => b :: replace every p other fuel r
        | [] => []
      else other ++ (if every then replace every p other fuel (s.drop n) else s.drop n)
    | none, b :: r => b :: replace every p other fuel r
    | none, [] => []

end Pattern

end ScriptHost.Command
