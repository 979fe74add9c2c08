import ScriptHost.Indented.Token
import ScriptHost.Snippet.Tree

/-!
Reading tokens one after the other, with the words that a reader of them uses.
-/
namespace ScriptHost.Indented

open Snippet

/-- The tokens ahead, and a bound on how often anything is repeated. -/
structure Ahead where
  rest : List Lexeme
  bound : Nat

abbrev Mistake := Nat × String

abbrev Read := EStateM Mistake Ahead

/-- What a reader may have to read inside of something else. -/
inductive Goal where
  | expression
  | named
  | element
  | disjunction
  | operand
  | factor
  | statement
  | pattern
  deriving DecidableEq

abbrev Self := Goal → Read Node

namespace Read

def current : Read Token := do
  match (← get).rest with
  | l :: _ => return l.token
  | [] => return .eof

def line : Read Nat := do
  match (← get).rest with
  | l :: _ => return l.line
  | [] => return 0

def second : Read Token := do
  match (← get).rest with
  | _ :: l :: _ => return l.token
  | _ => return .eof

def advance : Read Unit := modify fun a => { a with rest := a.rest.drop 1 }

def fail {α : Type} (message : String) : Read α := do throw (← line, message)

def invalid {α : Type} : Read α := fail "invalid syntax"

def isWord (w : String) : Read Bool := do return (← current) == .name w

def isOp (op : String) : Read Bool := do return (← current) == .op op

def accept (t : Token) : Read Bool := do
  if (← current) == t then advance; return true
  return false

def word (w : String) : Read Bool := accept (.name w)

def op (o : String) : Read Bool := accept (.op o)

def expect (t : Token) : Read Unit := do if !(← accept t) then invalid

def expectOp (o : String) : Read Unit := do
  if !(← op o) then fail ("expected '" ++ o ++ "'")

def expectWord (w : String) : Read Unit := do
  if !(← word w) then fail ("expected '" ++ w ++ "'")

def plainName? : Token → Option String
  | .name n => if keywords.contains n then none else some n
  | _ => none

def name : Read String := do
  match plainName? (← current) with
  | some n => advance; return n
  | none => invalid

def isName : Read Bool := do return (plainName? (← current)).isSome

def manyFrom {α : Type} (p : Read (Option α)) : Nat → List α → Read (List α)
  | 0, acc => return acc.reverse
  | n + 1, acc => do
    match ← p with
    | some a => manyFrom p n (a :: acc)
    | none => return acc.reverse

def many {α : Type} (p : Read (Option α)) : Read (List α) := do manyFrom p (← get).bound []

def growFrom (p : Node → Read (Option Node)) : Nat → Node → Read Node
  | 0, n => return n
  | fuel + 1, n => do
    match ← p n with
    | some m => growFrom p fuel m
    | none => return n

/-- Lets a node grow as long as something follows that belongs to it. -/
def grow (n : Node) (p : Node → Read (Option Node)) : Read Node := do growFrom p (← get).bound n

def attempt? {α : Type} (p : Read α) : Read (Option α) := do
  let before ← get
  try
    return some (← p)
  catch _ =>
    set before
    return none

def beginsTerm : Token → Bool
  | .name n => !keywords.contains n || ["None", "True", "False", "not", "lambda", "await"].contains n
  | .op o => ["(", "[", "\x7b", "-", "+", "~", "...", "*"].contains o
  | .newline | .indent | .dedent | .eof => false
  | _ => true

def commas (p : Read Node) : Read (List Node × Bool) := do
  let first ← p
  let rest ← many do
    if (← isOp ",") && beginsTerm (← second) then
      advance
      return some (← p)
    return none
  return (first :: rest, ← op ",")

end Read

end ScriptHost.Indented
