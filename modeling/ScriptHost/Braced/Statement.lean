import ScriptHost.Braced.Expression

/-!
Statements of a script with braces, and whole scripts.
-/
namespace ScriptHost.Braced

open Snippet

namespace Read

/-! ## Declarations -/

def declareNames (kind : String) (p : Node) : Read Unit := do
  for n in boundNames p do
    if kind == "var" then declareVar n
    else
      if n == "let" then fail "let is disallowed as a lexically bound name"
      declareLexical n

def oneBinding (self : Self) (kind : String) (inHead : Bool) : Read Node := do
  let l ← line
  let p ← self .binding
  let value ← if ← op "=" then self .assign else pure .absent
  declareNames kind p
  let gives := inHead && ((← isWord "of") || (← isWord "in"))
  if value.isAbsent && !gives then
    if p.kind != .name then fail "Missing initializer in destructuring declaration"
    if kind == "const" then fail "Missing initializer in const declaration"
  return .mk .binding "" l [p, value]

def bindings (self : Self) (kind : String) (inHead : Bool) : Read Node := do
  let l ← line
  let first ← oneBinding self kind inHead
  let rest ← many do
    if ← op "," then return some (← oneBinding self kind inHead)
    return none
  return .mk .declare kind l (first :: rest)

def beginsLet : Read Bool := do
  if !(← isWord "let") then return false
  match ← peek with
  | (.op "[", _) | (.op "\x7b", _) => return true
  | (.name w _, _) => return !reserved.contains w
  | _ => return false

def declaration (self : Self) (kind : String) : Read Node := do
  advance
  let n ← bindings self kind false
  semicolon
  return n

def functionDeclaration (self : Self) (async : Bool) : Read Node := do
  let l ← line
  if async then advance
  advance
  let generator ← op "*"
  let n ← newName
  declareFunction n (!async && !generator)
  functionRest self { async, generator, words := "declared" } n l

def classDeclaration (self : Self) : Read Node := do
  let l ← line
  advance
  let n ← within (fun c => { c with strict := true }) newName
  declareLexical n
  classRest self n l

/-! ## Bodies -/

def block (self : Self) : Read Node := do
  let l ← line
  expectOp "\x7b"
  let ns ← inScope { isFunction := false } (statements self)
  expectOp "\x7d"
  return .mk .block "" l ns

/-- A statement that belongs to another one; it declares nothing, save that a function may follow
some words in scripts that are not strict. -/
def bodyStatement (self : Self) (functionAllowed : Bool) : Read Node := do
  let strict := (← context).strict
  match ← current with
  | .name "class" false | .name "const" false => unexpected
  | .name "function" false =>
    if strict || !functionAllowed then
      fail "In non-strict mode code, functions can only be declared at top level or inside a block."
    match ← peek with
    | (.op "*", _) => fail "Generators can only be declared at the top level or inside a block"
    | _ => inScope { isFunction := false } (self .statement)
  | .name "async" false =>
    match ← peek with
    | (.name "function" false, false) => fail "Async functions can only be declared at top level or inside a block."
    | _ => self .statement
  | .name "let" false =>
    match ← peek with
    | (.op "[", _) => fail "Lexical declaration cannot appear in a single-statement context"
    | (.op "\x7b", false) | (.name .., false) =>
      if ← beginsLet then fail "Lexical declaration cannot appear in a single-statement context"
      self .statement
    | _ => self .statement
  | _ => self .statement

def loopBody (self : Self) : Read Node :=
  within (fun c => { c with inLoop := true, breakable := true }) (bodyStatement self false)

def parenthesized (self : Self) : Read Node := do
  expectOp "("
  let n ← openly (self .expression)
  expectOp ")"
  return n

/-! ## Loops -/

def eachRest (self : Self) (target : Node) (awaiting : Bool) (l : Nat) : Read Node := do
  let kind ← if ← word "of" then pure "of"
    else do
      if awaiting then unexpected
      expectWord "in"
      pure "in"
  let source ← openly (if kind == "of" then self .assign else self .expression)
  expectOp ")"
  let body ← loopBody self
  return .mk .each (if awaiting then "async" else kind) l [target, source, body, .absent]

def countRest (self : Self) (start : Node) (l : Nat) : Read Node := do
  expectOp ";"
  let test ← if ← isOp ";" then pure .absent else openly (self .expression)
  expectOp ";"
  let step ← if ← isOp ")" then pure .absent else openly (self .expression)
  expectOp ")"
  let body ← loopBody self
  return .mk .count "" l [start, test, step, body]

def eachDeclaration (d : Node) (kind : String) : Read Unit := do
  match d.parts with
  | [b] =>
    if !(b.part 1).isAbsent then
      let allowed := kind == "in" && d.text == "var" && (b.part 0).kind == .name
        && !(← context).strict
      if !allowed then fail ("for-" ++ kind ++ " loop variable declaration may not have an initializer.")
  | _ => fail ("Invalid left-hand side in for-" ++ kind ++ " loop: Must have a single binding.")

def forDeclaration (self : Self) (kind : String) (awaiting : Bool) (l : Nat) : Read Node := do
  advance
  inScope { isFunction := false } do
    let d ← within (fun c => { c with inAllowed := false }) (bindings self kind true)
    if ← isWord "of" then
      eachDeclaration d "of"
      eachRest self d awaiting l
    else if ← isWord "in" then
      eachDeclaration d "in"
      eachRest self d awaiting l
    else
      if awaiting then unexpected
      countRest self d l

def forExpression (self : Self) (awaiting : Bool) (l : Nat) : Read Node := do
  let isLet ← isWord "let"
  let isAsync ← isWord "async"
  let start ← within (fun c => { c with inAllowed := false }) (self .expression)
  if (← isWord "of") || (← isWord "in") then
    let isOf ← isWord "of"
    if isOf && isLet then fail "The left-hand side of a for-of loop may not be 'let'."
    if isOf && isAsync && start.kind == .name && !awaiting then
      fail "The left-hand side of a for-of loop may not be 'async'."
    let target ← if start.kind == .list || start.kind == .dict then pattern .assigned start
      else if start.kind == .call then pure start
      else place start
    eachRest self target awaiting l
  else
    if awaiting then unexpected
    countRest self start l

def forLoop (self : Self) : Read Node := do
  let l ← line
  advance
  let c ← context
  let awaiting := c.async && (← isWord "await")
  if awaiting then advance
  expectOp "("
  if ← isOp ";" then
    if awaiting then unexpected
    countRest self .absent l
  else if ← isWord "var" then forDeclaration self "var" awaiting l
  else if ← isWord "const" then forDeclaration self "const" awaiting l
  else if ← beginsLet then forDeclaration self "let" awaiting l
  else forExpression self awaiting l

def whileLoop (self : Self) : Read Node := do
  let l ← line
  advance
  let c ← parenthesized self
  return .mk .loop "" l [c, ← loopBody self, .absent]

def doLoop (self : Self) : Read Node := do
  let l ← line
  advance
  let body ← loopBody self
  expectWord "while"
  let c ← parenthesized self
  let _ ← op ";"
  return .mk .doLoop "" l [body, c]

/-! ## Other statements -/

def condition (self : Self) : Read Node := do
  let l ← line
  advance
  let c ← parenthesized self
  let a ← bodyStatement self true
  let b ← if ← word "else" then bodyStatement self true else pure .absent
  return .mk .cond "" l [c, a, b]

def oneCase (self : Self) : Read (Option Node) := do
  let l ← line
  let test? ← if ← word "case" then pure (some (← openly (self .expression)))
    else if ← word "default" then pure (some .absent)
    else pure none
  match test? with
  | none => return none
  | some test =>
    expectOp ":"
    let ns ← many do
      if (← isWord "case") || (← isWord "default") || (← isOp "\x7d") || (← current) == .eof then
        return none
      return some (← self .statement)
    return some (.mk .case "" l [test, .block ns])

def switch (self : Self) : Read Node := do
  let l ← line
  advance
  let value ← parenthesized self
  expectOp "\x7b"
  let cases ← inScope { isFunction := false }
    (within (fun c => { c with breakable := true }) (many (oneCase self)))
  expectOp "\x7d"
  if 1 < (cases.filter fun c => (c.part 0).isAbsent).length then
    fail "More than one default clause in switch statement"
  return .mk .choice "switch" l (value :: cases)

/-- The part of an attempt that takes what was thrown; a plain name may be declared again. -/
def handler (self : Self) : Read Node := do
  let l ← line
  if !(← op "(") then return .mk .handler "" l [.absent, .absent, ← block self]
  let p ← self .binding
  expectOp ")"
  if hasTwice (boundNames p) then twice ((boundNames p).headD "")
  let bl ← line
  expectOp "\x7b"
  let scope : Scope := { isFunction := false, params := boundNames p }
  let outer : Scope := { isFunction := false, lexical := if p.kind == .name then [] else boundNames p }
  let ns ← inScope outer (inScope scope (statements self))
  expectOp "\x7d"
  return .mk .handler "" l [.absent, p, .mk .block "" bl ns]

def attempt (self : Self) : Read Node := do
  let l ← line
  advance
  let body ← block self
  let handlers ← if ← word "catch" then pure [← handler self] else pure []
  let final ← if ← word "finally" then block self else pure .absent
  if handlers.isEmpty && final.isAbsent then fail "Missing catch or finally after try"
  return .mk .attempt "" l (body :: .absent :: final :: handlers)

def jump (isBreak : Bool) : Read Node := do
  let l ← line
  let c ← context
  advance
  let kind := if isBreak then Kind.breakLoop else .continueLoop
  if (← isName) && !(← broken) then
    let n ← name
    match c.labels.find? (·.1 == n) with
    | some (_, isLoop) =>
      if !isBreak && !isLoop then
        fail ("Illegal continue statement: '" ++ n ++ "' does not denote an iteration statement")
    | none => fail ("Undefined label '" ++ n ++ "'")
    semicolon
    return .mk kind n l []
  if isBreak && !c.breakable then fail "Illegal break statement"
  if !isBreak && !c.inLoop then
    fail "Illegal continue statement: no surrounding iteration statement"
  semicolon
  return .mk kind "" l []

def ending (self : Self) : Read Node := do
  let l ← line
  if !(← context).inFunction then fail "Illegal return statement"
  advance
  if (← isOp ";") || (← isOp "\x7d") || (← current) == .eof || (← broken) then
    semicolon
    return .mk .leave "" l [.absent]
  let n ← self .expression
  semicolon
  return .mk .leave "" l [n]

def throwing (self : Self) : Read Node := do
  let l ← line
  advance
  if ← broken then fail "Illegal newline after throw"
  let n ← self .expression
  semicolon
  return .mk .raise "" l [n, .absent]

def labelled (self : Self) : Read Node := do
  let l ← line
  let n ← name
  expectOp ":"
  let c ← context
  if c.labels.any (·.1 == n) then fail ("Label '" ++ n ++ "' has already been declared")
  let isLoop ← match ← current with
    | .name w false => do
      pure (["for", "while", "do"].contains w || (← peek).1 == .op ":")
    | _ => pure false
  let body ← within (fun c => { c with labels := (n, isLoop) :: c.labels }) (bodyStatement self true)
  return .mk .label n l [body]

def withStatement (self : Self) : Read Node := do
  let l ← line
  if (← context).strict then fail "Strict mode code may not include a with statement"
  advance
  let n ← parenthesized self
  let body ← bodyStatement self false
  return .mk .other "with" l [n, body]

def expressionStatement (self : Self) : Read Node := do
  let l ← line
  let n ← self .expression
  semicolon
  return .mk .eval "" l [n]

def startsImportTerm : Read Bool := do
  match ← peek with
  | (.op "(", _) | (.op ".", _) => return true
  | _ => return false

def wordStatement (self : Self) (w : String) : Read Node := do
  match w with
  | "var" | "const" => declaration self w
  | "function" => functionDeclaration self false
  | "class" => classDeclaration self
  | "if" => condition self
  | "for" => forLoop self
  | "while" => whileLoop self
  | "do" => doLoop self
  | "switch" => switch self
  | "try" => attempt self
  | "throw" => throwing self
  | "return" => ending self
  | "break" => jump true
  | "continue" => jump false
  | "with" => withStatement self
  | "debugger" => advance; semicolon; return .of .pass []
  | "import" =>
    if ← startsImportTerm then expressionStatement self
    else fail "Cannot use import statement outside a module"
  | "export" => unexpected
  | _ =>
    if ← beginsLet then declaration self "let"
    else
      let next ← peek
      if w == "async" && next.1 == .name "function" false && !next.2 then functionDeclaration self true
      else if next.1 == .op ":" && (← isName) then labelled self
      else expressionStatement self

def statement (self : Self) : Read Node := do
  match ← current with
  | .op "\x7b" => block self
  | .op ";" => advance; return .of .pass []
  | .name w false => wordStatement self w
  | .name _ true =>
    if (← peek).1 == .op ":" then labelled self else expressionStatement self
  | _ => expressionStatement self

def reader : Nat → Goal → Read Node
  | 0, _ => fail "Maximum call stack size exceeded"
  | depth + 1, goal =>
    let self := reader depth
    match goal with
    | .assign => assign self
    | .expression => expression self
    | .unary => unary self
    | .leftSide => leftSide self
    | .binding => binding self
    | .statement => statement self

def script (self : Self) : Read Node := do
  advance
  let ds ← directives self
  let ns ← many do
    if (← current) == .eof then return none
    return some (← self .statement)
  let n := Node.block (ds ++ ns)
  if leftCover n then fail "Invalid shorthand property initializer"
  return n

end Read

def withoutHashbang : List Char → List Char
  | '#' :: '!' :: r => r.dropWhile fun c => !isBreak c
  | s => s

/-- Reads a script, or tells the line of the first mistake and what is wrong there. -/
def parse (source : String) : Except Mistake Node := do
  let s := withoutHashbang source.toList
  let bound := s.length + 8
  match (Read.script (Read.reader (4 * bound))).run { rest := s, bound } with
  | .ok n _ => return n
  | .error e _ => throw e

end ScriptHost.Braced
