import ScriptHost.Indented.Expression

/-!
Statements of a script whose blocks are indented, and whole scripts.
-/
namespace ScriptHost.Indented

open Snippet

namespace Read

/-! ## Simple statements -/

def updates : List String :=
  ["+=", "-=", "*=", "/=", "%=", "&=", "|=", "^=", "@=", "**=", "//=", ">>=", "<<="]

def stored (self : Self) (l : Nat) (first : Node) : Read Node := do
  let values ← many do
    if ← op "=" then return some (← assigned self)
    return none
  match (first :: values).reverse with
  | value :: targets =>
    let targets ← targets.reverse.mapM target
    return .mk .store "" l (value :: targets)
  | [] => invalid

def annotated (self : Self) (l : Nat) (first : Node) : Read Node := do
  if !isSingle first then
    fail (match (bare first).kind with
      | .list => "only single target (not list) can be annotated"
      | .tuple => "only single target (not tuple) can be annotated"
      | _ => "illegal target for annotation")
  let note ← self .expression
  let value ← if ← op "=" then assigned self else pure .absent
  return .mk .annotate "" l [first, note, value]

def expressionStatement (self : Self) : Read Node := do
  let l ← line
  let first ← assigned self
  match ← current with
  | .op "=" => stored self l first
  | .op ":" => advance; annotated self l first
  | .op o =>
    if updates.contains o then
      if !isSingle first then
        fail ("'" ++ described first ++ "' is an illegal expression for augmented assignment")
      advance
      return .mk .update (o.dropEnd 1).toString l [first, ← assigned self]
    return .mk .eval "" l [first]
  | _ => return .mk .eval "" l [first]

def dotted : Read String := do
  let first ← name
  let rest ← many do
    if ← op "." then return some (← name)
    return none
  return ".".intercalate (first :: rest)

def aliased (path : String) : Read Node := do
  let shown ← if ← word "as" then name else pure ""
  return .worded .member path [Node.name shown]

def imported (l : Nat) : Read Node := do
  let first ← aliased (← dotted)
  let rest ← many do
    if ← op "," then return some (← aliased (← dotted))
    return none
  return .mk .load "" l (first :: rest)

def importedMembers : Read (List Node) := do
  if ← op "*" then return [.worded .member "*" [Node.name ""]]
  let grouped ← op "("
  let first ← aliased (← name)
  let rest ← many do
    if !(← op ",") then return none
    if grouped && (← isOp ")") then return some .absent
    return some (← aliased (← name))
  if grouped then expectOp ")"
  return first :: rest.filter fun n => !n.isAbsent

def importedFrom (l : Nat) : Read Node := do
  let dots ← many do
    if ← op "." then return some "."
    if ← op "..." then return some "..."
    return none
  let module ← if !dots.isEmpty && (← isWord "import") then pure "" else dotted
  expectWord "import"
  return .mk .loadFrom (String.join dots ++ module) l (← importedMembers)

def names : Read (List Node) := do
  let first ← name
  let rest ← many do
    if ← op "," then return some (← name)
    return none
  return (first :: rest).map Node.name

def deletions (self : Self) : Read Node := do
  let l ← line
  match ← commas (self .operand) with
  | ([n], false) => return .mk .delete "" l [← deleted n]
  | (ns, _) => return .mk .delete "" l (← ns.mapM deleted)

def raised (self : Self) (l : Nat) : Read Node := do
  if !beginsTerm (← current) then return .mk .raise "" l [.absent, .absent]
  let value ← self .expression
  let cause ← if ← word "from" then self .expression else pure .absent
  return .mk .raise "" l [value, cause]

def simple (self : Self) : Read Node := do
  let l ← line
  match ← current with
  | .name w =>
    match w with
    | "pass" => advance; return .mk .pass "" l []
    | "break" => advance; return .mk .breakLoop "" l []
    | "continue" => advance; return .mk .continueLoop "" l []
    | "return" =>
      advance
      let value ← if beginsTerm (← current) then several self else pure .absent
      return .mk .leave "" l [value]
    | "raise" => advance; raised self l
    | "global" | "nonlocal" => advance; return .mk .global w l (← names)
    | "del" => advance; deletions self
    | "assert" =>
      advance
      let c ← self .expression
      let m ← if ← op "," then self .expression else pure .absent
      return .mk .check "" l [c, m]
    | "import" => advance; imported l
    | "from" => advance; importedFrom l
    | _ => expressionStatement self
  | _ => expressionStatement self

def simpleLine (self : Self) : Read (List Node) := do
  let first ← simple self
  let rest ← many do
    if !(← op ";") then return none
    if (← current) == .newline then return some .absent
    return some (← simple self)
  expect .newline
  return first :: rest.filter fun n => !n.isAbsent

/-! ## Blocks -/

def joined : List Node → Node
  | [n] => n
  | ns => .block ns

def block (self : Self) : Read Node := do
  if !(← op ":") then fail "expected ':'"
  if ← accept .newline then
    if !(← accept .indent) then fail "expected an indented block"
    let ns ← many do
      if (← current) == .dedent || (← current) == .eof then return none
      return some (← self .statement)
    expect .dedent
    return .block ns
  return .block (← simpleLine self)

def otherwise (self : Self) : Read Node := do
  if ← word "else" then block self else return .absent

def conditionFrom (self : Self) : Nat → Read Node
  | 0 => invalid
  | n + 1 => do
    let l ← line
    advance
    let c ← self .named
    let body ← block self
    let rest ← if ← isWord "elif" then conditionFrom self n else otherwise self
    return .mk .cond "" l [c, body, rest]

def condition (self : Self) : Read Node := do conditionFrom self (← get).bound

def whileLoop (self : Self) : Read Node := do
  let l ← line
  advance
  let c ← self .named
  let body ← block self
  return .mk .loop "" l [c, body, ← otherwise self]

def forLoop (self : Self) (kind : String) : Read Node := do
  let l ← line
  advance
  let t ← loopTarget self
  expectWord "in"
  let source ← several self
  let body ← block self
  return .mk .each kind l [t, source, body, ← otherwise self]

def handler (self : Self) : Read (Option (Node × Bool)) := do
  let l ← line
  if !(← word "except") then return none
  let group ← op "*"
  if ← isOp ":" then
    if group then fail "expected one or more exception types"
    return some (.mk .handler "" l [.absent, .absent, ← block self], group)
  let kind ← self .expression
  if ← isOp "," then fail "multiple exception types must be parenthesized"
  let target ← if ← word "as" then pure (Node.name (← name)) else pure .absent
  return some (.mk .handler (if group then "*" else "") l [kind, target, ← block self], group)

def tryStatement (self : Self) : Read Node := do
  let l ← line
  advance
  let body ← block self
  let handlers ← many (handler self)
  if handlers.any (·.2) && !handlers.all (·.2) then
    fail "cannot have both 'except' and 'except*' on the same 'try'"
  let onSuccess ← if handlers.isEmpty then pure .absent else otherwise self
  let final ← if ← word "finally" then block self else pure .absent
  if handlers.isEmpty && final.isAbsent then fail "expected 'except' or 'finally' block"
  return .mk .attempt "" l (body :: onSuccess :: final :: handlers.map (·.1))

def held (self : Self) : Read Node := do
  let value ← self .expression
  if !(← word "as") then return .of .binding [.absent, value]
  let t ← if ← op "*" then pure (.of .spread [← self .operand]) else self .operand
  return .of .binding [← target t, value]

def heldInParentheses (self : Self) : Read (List Node) := do
  expectOp "("
  let (items, _) ← commas (held self)
  expectOp ")"
  if !(← isOp ":") then invalid
  return items

def heldPlainly (self : Self) : Read (List Node) := do
  let first ← held self
  let rest ← many do
    if ← op "," then return some (← held self)
    return none
  return first :: rest

def withStatement (self : Self) (kind : String) : Read Node := do
  let l ← line
  advance
  let items ← match ← attempt? (heldInParentheses self) with
    | some items => pure items
    | none => heldPlainly self
  return .mk .within kind l (items ++ [← block self])

/-! ## Functions and classes -/

def function (self : Self) (async : Bool) (decorators : List Node) : Read Node := do
  let l ← line
  advance
  let n ← name
  expectOp "("
  let ps ← params self true (.op ")")
  expectOp ")"
  let _ ← if ← op "->" then self .expression else pure .absent
  let body ← block self
  return .mk .func n l
    (ps :: body :: .worded .manner (if async then "declared async" else "declared") [] :: decorators)

def classStatement (self : Self) (decorators : List Node) : Read Node := do
  let l ← line
  advance
  let n ← name
  let args ← if ← op "(" then arguments self else pure []
  if args.any fun a => a.kind == .gather && a.text == "generator" then invalid
  let body ← block self
  return .mk .classOf n l (.of .params args :: body :: decorators)

def decorated (self : Self) : Read Node := do
  let decorators ← many do
    if !(← op "@") then return none
    let d ← self .named
    expect .newline
    return some d
  match ← current with
  | .name "def" => function self false decorators
  | .name "class" => classStatement self decorators
  | .name "async" =>
    advance
    if !(← isWord "def") then invalid
    function self true decorators
  | _ => invalid

/-! ## Choices among patterns -/

def literalPattern (self : Self) : Read Node := do
  let l ← line
  let minus ← op "-"
  let n ← atom self invalid
  let n := if minus then .mk .unary "-" l [n] else n
  match n.kind with
  | .int | .float | .str | .byteStr | .format | .nothing | .truth | .other => pure ()
  | .unary => if !(match (n.part 0).kind with | .int | .float | .other => true | _ => false) then invalid
  | _ => invalid
  if (← isOp "+") || (← isOp "-") then
    advance
    let m ← atom self invalid
    if m.kind != .other then invalid
    return .mk .other "" l []
  return .worded .case "value" [n]

def patternItem (self : Self) : Read Node := do
  if ← op "*" then return .worded .case "rest" [Node.name (← name)]
  self .pattern

def patternsUntil (stop : String) (item : Read Node) : Read (List Node × Bool) := do
  if ← op stop then return ([], false)
  let first ← item
  let rest ← many do
    if !(← op ",") then return none
    if ← isOp stop then return some .absent
    return some (← item)
  expectOp stop
  return (first :: rest.filter fun n => !n.isAbsent, !rest.isEmpty)

def mappingItem (self : Self) : Read Node := do
  if ← op "**" then return .worded .case "others" [Node.name (← name)]
  let key ← if ← isName then do
      let n := Node.name (← name)
      grow n fun n => do
        if ← op "." then return some (.mk .attr (← name) 0 [n])
        return none
    else literalPattern self
  expectOp ":"
  return .of .entry [key, ← self .pattern]

def classItem (self : Self) : Read Node := do
  if (← isName) && (← second) == .op "=" then
    let n ← name
    advance
    return .worded .named n [← self .pattern]
  self .pattern

def closedPattern (self : Self) : Read Node := do
  let l ← line
  match ← current with
  | .op "[" =>
    advance
    return .mk .case "sequence" l (← patternsUntil "]" (patternItem self)).1
  | .op "(" =>
    advance
    match ← patternsUntil ")" (patternItem self) with
    | ([p], false) => return p
    | (ps, _) => return .mk .case "sequence" l ps
  | .op "\x7b" =>
    advance
    let items := (← patternsUntil "\x7d" (mappingItem self)).1
    if items.dropLast.any fun n => n.kind == .case then invalid
    return .mk .case "mapping" l items
  | .name n =>
    if !(plainName? (.name n)).isSome then literalPattern self
    else
      advance
      if n == "_" then return .mk .case "any" l []
      let whole ← grow (Node.mk .name n l []) fun m => do
        if ← op "." then return some (.mk .attr (← name) l [m])
        return none
      if ← op "(" then
        let (items, _) ← patternsUntil ")" (classItem self)
        if (items.dropWhile fun n => n.kind != .named).any fun n => n.kind != .named then
          fail "positional patterns follow keyword patterns"
        return .mk .case "class" l (whole :: items)
      if whole.kind == .attr then return .mk .case "value" l [whole]
      return .mk .case "capture" l [whole]
  | _ => literalPattern self

def pattern (self : Self) : Read Node := do
  let l ← line
  let first ← closedPattern self
  let rest ← many do
    if ← op "|" then return some (← closedPattern self)
    return none
  let p := if rest.isEmpty then first else .mk .case "or" l (first :: rest)
  if ← word "as" then
    let n ← name
    if n == "_" then fail "cannot use '_' as a target"
    return .mk .case "as" l [p, Node.name n]
  return p

def topPattern (self : Self) : Read Node := do
  let l ← line
  match ← commas (patternItem self) with
  | ([p], false) => if p.kind == .case && p.text == "rest" then invalid else return p
  | (ps, _) => return .mk .case "sequence" l ps

def oneCase (self : Self) : Read (Option Node) := do
  let l ← line
  if !(← word "case") then return none
  let p ← topPattern self
  let guard ← if ← word "if" then self .named else pure .absent
  return some (.mk .case "" l [p, guard, ← block self])

/-- The head of a choice: its word is also a plain name, so the head is read as a whole or not at
all. -/
def choiceHead (self : Self) : Read Node := do
  advance
  let item : Read Node := self .element
  let value ← match ← commas item with
    | ([n], false) => if n.kind == .spread then invalid else pure n
    | (ns, _) => pure (Node.of .tuple ns)
  if !(← op ":") then invalid
  expect .newline
  expect .indent
  if !(← isWord "case") then invalid
  return value

def choice? (self : Self) : Read (Option Node) := do
  let l ← line
  match ← attempt? (choiceHead self) with
  | none => return none
  | some value =>
    let cases ← many (oneCase self)
    expect .dedent
    return some (.mk .choice "" l (value :: cases))

/-! ## All statements -/

def asyncStatement (self : Self) : Read Node := do
  advance
  match ← current with
  | .name "def" => function self true []
  | .name "for" => forLoop self "async"
  | .name "with" => withStatement self "async"
  | _ => invalid

def statement (self : Self) : Read Node := do
  match ← current with
  | .indent => fail "unexpected indent"
  | .op "@" => decorated self
  | .name w =>
    match w with
    | "if" => condition self
    | "while" => whileLoop self
    | "for" => forLoop self "for"
    | "try" => tryStatement self
    | "with" => withStatement self "with"
    | "def" => function self false []
    | "class" => classStatement self []
    | "async" => asyncStatement self
    | "match" =>
      match ← choice? self with
      | some n => return n
      | none => return joined (← simpleLine self)
    | _ => return joined (← simpleLine self)
  | _ => return joined (← simpleLine self)

/-- Reads what is asked for, with what is inside of it one level deeper. -/
def reader : Nat → Goal → Read Node
  | 0, _ => fail "too many nested parentheses"
  | depth + 1, goal =>
    let self := reader depth
    match goal with
    | .expression => expression self
    | .named => named self
    | .element => element self
    | .disjunction => disjunction (operand self (yielding self))
    | .operand => operand self (yielding self)
    | .factor => factor self (yielding self)
    | .statement => statement self
    | .pattern => pattern self

def script (self : Self) : Read Node := do
  let ns ← many do
    if (← current) == .eof then return none
    return some (← self .statement)
  return .block ns

end Read

/-- Reads a script, or tells the line of the first mistake and what is wrong there. -/
def parse (source : String) : Except Mistake Node := do
  if source.toList.contains '\x00' then throw (0, "source code string cannot contain null bytes")
  let ts ← tokens source.toList
  let bound := source.length + 8
  match (Read.script (Read.reader (4 * bound))).run ⟨ts, bound⟩ with
  | .ok n _ => return n
  | .error e _ => throw e

end ScriptHost.Indented
