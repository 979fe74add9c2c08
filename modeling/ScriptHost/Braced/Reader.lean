import ScriptHost.Braced.Token
import ScriptHost.Snippet.Tree

/-!
Reading a script token by token, with what a reader has to know of the place where it is: the
function and the loops around it, and the names that have been declared.
-/
namespace ScriptHost.Braced

open Snippet

structure Context where
  strict : Bool := false
  inFunction : Bool := false
  async : Bool := false
  generator : Bool := false
  inAllowed : Bool := true
  inLoop : Bool := false
  breakable : Bool := false
  labels : List (String × Bool) := []
  superMember : Bool := false
  superCall : Bool := false
  newTarget : Bool := false
  inClass : Bool := false
  staticBlock : Bool := false

structure Scope where
  isFunction : Bool
  lexical : List String := []
  funcs : List String := []
  vars : List String := []
  params : List String := []

structure Ahead where
  token : Token := .eof
  line : Nat := 1
  broken : Bool := true
  here : List Char := []
  rest : List Char
  restLine : Nat := 1
  bound : Nat
  context : Context := {}
  scopes : List Scope := [{ isFunction := true }]
  uses : List String := []

/-- The line of a mistake and what is wrong there. -/
abbrev Mistake := Nat × String

abbrev Read := EStateM Mistake Ahead

inductive Goal where
  | assign
  | expression
  | unary
  | leftSide
  | binding
  | statement
  deriving DecidableEq

abbrev Self := Goal → Read Node

namespace Read

def fail {α : Type} (message : String) : Read α := do throw ((← get).line, message)

def shownToken : Token → String
  | .eof => "Unexpected end of input"
  | .name n _ => if ["let", "yield", "static"].contains n then "Unexpected strict mode reserved word"
    else "Unexpected identifier '" ++ n ++ "'"
  | .privateName n => "Unexpected identifier '#" ++ n ++ "'"
  | .number .. | .big _ => "Unexpected number"
  | .str .. => "Unexpected string"
  | .template .. => "Unexpected template string"
  | .regex .. => "Unexpected regular expression"
  | .op o => "Unexpected token '" ++ o ++ "'"

def unexpected {α : Type} : Read α := do fail (shownToken (← get).token)

def invalid {α : Type} : Read α := fail "Invalid or unexpected token"

def advance : Read Unit := do
  let a ← get
  match gap .space (a.here.isEmpty && a.broken) a.restLine a.rest with
  | .unclosed => invalid
  | .found broken line s =>
    match scan line s with
    | none => throw (line, "Invalid or unexpected token")
    | some t => set { a with token := t.token, line, broken, here := s, rest := t.rest, restLine := t.line }

def current : Read Token := do return (← get).token

def line : Read Nat := do return (← get).line

def broken : Read Bool := do return (← get).broken

def peek : Read (Token × Bool) := do
  let a ← get
  match gap .space false a.restLine a.rest with
  | .unclosed => invalid
  | .found broken line s =>
    match scan line s with
    | none => return (.op "", broken)
    | some t => return (t.token, broken)

/-- Takes the current slash for the beginning of a pattern. -/
def asRegex : Read Unit := do
  let a ← get
  match regex a.line (a.here.drop 1) with
  | some t => set { a with token := t.token, rest := t.rest, restLine := t.line }
  | none => fail "Invalid regular expression: missing /"

def asTemplate : Read Unit := do
  let a ← get
  match template a.line (a.here.drop 1) with
  | some t => set { a with token := t.token, rest := t.rest, restLine := t.line }
  | none => fail "Unterminated template literal"

def isOp (o : String) : Read Bool := do return (← current) == .op o

def isWord (w : String) : Read Bool := do return (← current) == .name w false

def accept (t : Token) : Read Bool := do
  if (← current) == t then advance; return true
  return false

def op (o : String) : Read Bool := accept (.op o)

def word (w : String) : Read Bool := accept (.name w false)

def expectOp (o : String) : Read Unit := do if !(← op o) then unexpected

def expectWord (w : String) : Read Unit := do if !(← word w) then unexpected

def context : Read Context := do return (← get).context

def within {α : Type} (f : Context → Context) (p : Read α) : Read α := do
  let before ← context
  modify fun a => { a with context := f before }
  let x ← p
  modify fun a => { a with context := before }
  return x

def manyFrom {α : Type} (p : Read (Option α)) : Nat → List α → Read (List α)
  | 0, acc => return acc.reverse
  | n + 1, acc => do
    match ← p with
    | some a => manyFrom p n (a :: acc)
    | none => return acc.reverse

def many {α : Type} (p : Read (Option α)) : Read (List α) := do manyFrom p (← get).bound []

def growFrom (p : Node → Read (Option Node)) : Nat → Node → Read Node
  | 0, n => return n
  | fuel + 1, n => do
    match ← p n with
    | some m => growFrom p fuel m
    | none => return n

def grow (n : Node) (p : Node → Read (Option Node)) : Read Node := do growFrom p (← get).bound n

def attempt? {α : Type} (p : Read α) : Read (Option α) := do
  let before ← get
  try
    return some (← p)
  catch _ =>
    set before
    return none

/-- The end of a statement, which a line break or a closing brace stands for too. -/
def semicolon : Read Unit := do
  if ← op ";" then return ()
  if (← isOp "\x7d") || (← current) == .eof || (← broken) then return ()
  unexpected

/-! ## Words and names -/

def reserved : List String :=
  ["break", "case", "catch", "class", "const", "continue", "debugger", "default", "delete", "do",
    "else", "enum", "export", "extends", "false", "finally", "for", "function", "if", "import", "in",
    "instanceof", "new", "null", "return", "super", "switch", "this", "throw", "true", "try",
    "typeof", "var", "void", "while", "with"]

def strictReserved : List String :=
  ["implements", "interface", "let", "package", "private", "protected", "public", "static", "yield"]

def mayName (c : Context) (w : String) : Bool :=
  !(reserved.contains w || (c.strict && strictReserved.contains w) || (c.generator && w == "yield")
    || ((c.async || c.staticBlock) && w == "await"))

def isName : Read Bool := do
  match ← current with
  | .name w _ => return mayName (← context) w
  | _ => return false

def name : Read String := do
  match ← current with
  | .name w _ =>
    if mayName (← context) w then advance; return w
    unexpected
  | _ => unexpected

def newName : Read String := do
  let strict := (← context).strict
  let w ← name
  if strict && (w == "eval" || w == "arguments") then fail "Unexpected eval or arguments in strict mode"
  return w

/-! ## Declarations -/

def twice {α : Type} (n : String) : Read α :=
  fail ("Identifier '" ++ n ++ "' has already been declared")

def openScope (s : Scope) : Read Unit := modify fun a => { a with scopes := s :: a.scopes }

def closeScope : Read Unit := modify fun a => { a with scopes := a.scopes.drop 1 }

def inScope {α : Type} (s : Scope) (p : Read α) : Read α := do
  openScope s
  let x ← p
  closeScope
  return x

def setScope (s : Scope) : Read Unit := modify fun a => { a with scopes := s :: a.scopes.drop 1 }

def declareLexical (n : String) : Read Unit := do
  match (← get).scopes with
  | s :: _ =>
    if s.lexical.contains n || s.funcs.contains n || s.vars.contains n || s.params.contains n then twice n
    setScope { s with lexical := n :: s.lexical }
  | [] => return ()

def spreadVar (n : String) : List Scope → Option (List Scope)
  | [] => some []
  | s :: ss =>
    if s.lexical.contains n || (!s.isFunction && s.funcs.contains n) then none
    else
      let s := { s with vars := if s.vars.contains n then s.vars else n :: s.vars }
      if s.isFunction then some (s :: ss) else (spreadVar n ss).map (s :: ·)

def declareVar (n : String) : Read Unit := do
  match spreadVar n (← get).scopes with
  | some scopes => modify fun a => { a with scopes }
  | none => twice n

/-- Functions of a block may be declared twice if they are plain and the script is not strict. -/
def declareFunction (n : String) (plain : Bool) : Read Unit := do
  let strict := (← context).strict
  match (← get).scopes with
  | s :: _ =>
    if s.lexical.contains n then twice n
    if !s.isFunction && (s.vars.contains n || (s.funcs.contains n && (strict || !plain))) then twice n
    setScope (if s.isFunction || plain then { s with funcs := n :: s.funcs }
      else { s with lexical := n :: s.lexical })
  | [] => return ()

end Read

end ScriptHost.Braced
