import ScriptHost.Braced.Target
import ScriptHost.Snippet.Regex

/-!
Expressions, functions and classes of a script with braces. What is read inside of brackets is asked
from `self`, which reads anything.
-/
namespace ScriptHost.Braced

open Snippet

namespace Read

def pattern (use : Use) (n : Node) : Read Node := do
  match pattern? (← context).strict use n with
  | some p => return p
  | none => fail "Invalid destructuring assignment target"

def place (n : Node) : Read Node := do
  if isPlace (← context).strict n then return n
  fail "Invalid left-hand side in assignment"

/-! ## Functions -/

structure Making where
  async : Bool := false
  generator : Bool := false
  arrow : Bool := false
  isMethod : Bool := false
  derived : Bool := false
  name : String := ""
  words : String := ""

def Making.manner (m : Making) : Node :=
  .worded .manner (" ".intercalate ((if m.async then ["async"] else [])
    ++ (if m.generator then ["generator"] else []) ++ (if m.arrow then ["arrow"] else [])
    ++ (if m.isMethod then ["method"] else []) ++ (if m.words.isEmpty then [] else [m.words]))) []

def Making.inside (m : Making) (c : Context) : Context :=
  { c with
    inFunction := true, async := m.async, generator := m.generator && !m.arrow, inAllowed := true
    inLoop := false, breakable := false, labels := [], staticBlock := false
    superMember := if m.arrow then c.superMember else m.isMethod
    superCall := if m.arrow then c.superCall else m.derived
    newTarget := c.newTarget || !m.arrow }

def isSimpleParam (p : Node) : Bool :=
  p.text.isEmpty && (p.part 0).kind == .name && (p.part 1).isAbsent

def beginsStrict : Read Bool := do
  match ← current with
  | .str "use strict" _ =>
    let a ← get
    if a.here.length - a.rest.length != 12 then return false
    match ← peek with
    | (.op ";", _) | (.op "\x7d", _) | (.eof, _) => return true
    | (_, broken) => return broken
  | _ => return false

/-- The strings in front of other statements; one of them makes a script or a function strict. -/
def directives (self : Self) : Read (List Node) :=
  many do
    match ← current with
    | .str .. =>
      if ← beginsStrict then modify fun a => { a with context := { a.context with strict := true } }
      return some (← self .statement)
    | _ => return none

def statements (self : Self) : Read (List Node) :=
  many do
    if (← isOp "\x7d") || (← current) == .eof then return none
    return some (← self .statement)

/-- Checks the parameters of a function once it is known whether it is strict. -/
def checkParams (m : Making) (ps : List Node) : Read Unit := do
  let names := boundAmong ps
  let strict := (← context).strict
  if hasTwice names && (strict || m.arrow || m.isMethod || !ps.all isSimpleParam) then
    fail "Duplicate parameter name not allowed in this context"
  if strict && (names.any isRestricted || (isRestricted m.name && !m.isMethod)) then fail "Unexpected eval or arguments in strict mode"

def bodyInside (self : Self) (m : Making) (ps : List Node) : Read Node := do
  let l ← line
  let wasStrict := (← context).strict
  let ns ← inScope { isFunction := true, params := boundAmong ps } do
    let ds ← directives self
    if (← context).strict && !wasStrict && !ps.all isSimpleParam then
      fail "Illegal 'use strict' directive in function with non-simple parameter list"
    checkParams m ps
    return ds ++ (← statements self)
  if !(← isOp "\x7d") then unexpected
  return .mk .block "" l ns

def functionBody (self : Self) (m : Making) (ps : List Node) : Read Node := do
  if !(← isOp "\x7b") then unexpected
  let before ← context
  let body ← within m.inside do
    advance
    bodyInside self m ps
  modify fun a => { a with context := before }
  advance
  return body

def param (self : Self) : Read Node := do
  if ← op "..." then
    let p ← self .binding
    if !(← isOp ")") then fail "Rest parameter must be last formal parameter"
    return .worded .param "*" [p, .absent]
  let p ← self .binding
  let value ← if ← op "=" then self .assign else pure .absent
  return .of .param [p, value]

def params (self : Self) : Read (List Node) := do
  expectOp "("
  if ← op ")" then return []
  let first ← param self
  let rest ← many do
    if !(← op ",") then return none
    if ← isOp ")" then return some .absent
    return some (← param self)
  expectOp ")"
  return first :: rest.filter fun n => !n.isAbsent

def functionRest (self : Self) (m : Making) (name : String) (l : Nat) : Read Node := do
  let ps ← within m.inside (params self)
  if (m.generator || m.async) && Node.anyAmong (fun n => n.kind == .produce || n.kind == .wait) ps then
    fail "Yield expression not allowed in formal parameter"
  let body ← functionBody self { m with name } ps
  return .mk .func name l [.of .params ps, body, m.manner]

def asParam (n : Node) : Read Node := do
  match n with
  | .mk .spread _ l [p] =>
    if p.kind == .assign then fail "Rest parameter may not have a default initializer"
    return .mk .param "*" l [← pattern .bound p, .absent]
  | .mk .assign "=" l [a, v] => return .mk .param "" l [← pattern .bound a, v]
  | n => return .of .param [← pattern .bound n, .absent]

def arrow (self : Self) (async : Bool) (items : List Node) (l : Nat) : Read Node := do
  if ← broken then unexpected
  expectOp "=>"
  let m : Making := { async, arrow := true }
  let ps ← within m.inside (items.mapM asParam)
  if async && (boundAmong ps).contains "await" then unexpected
  if ← isOp "\x7b" then
    let body ← functionBody self m ps
    return .mk .func "" l [.of .params ps, body, m.manner]
  let inAllowed := (← context).inAllowed
  let body ← within (fun c => { m.inside c with inAllowed }) do
    checkParams m ps
    inScope { isFunction := true, params := boundAmong ps } (self .assign)
  return .mk .func "" l [.of .params ps, .mk .leave "" body.line [body], m.manner]

def functionTerm (self : Self) (async : Bool) : Read Node := do
  let l ← line
  advance
  let generator ← op "*"
  let m : Making := { async, generator }
  let n ← if ← isOp "(" then pure "" else within (fun c => { c with async, generator }) newName
  functionRest self m n l

/-! ## Names of members -/

def memberName (self : Self) (inClass : Bool) : Read (Node × Bool) := do
  match ← current with
  | .name w _ => advance; return (.str w, false)
  | .str s _ => advance; return (.str s, false)
  | .number t _ => advance; return (.worded .float t [], false)
  | .big t => advance; return (.str t, false)
  | .privateName n =>
    if !inClass then unexpected
    advance
    return (.str ("#" ++ n), false)
  | .op "[" =>
    advance
    let n ← within (fun c => { c with inAllowed := true }) (self .assign)
    expectOp "]"
    return (.of .group [n], true)
  | _ => unexpected

structure Front where
  async : Bool := false
  generator : Bool := false
  accessor : String := ""

/-- Whether a word is the name of a member itself, as what follows tells. -/
def isOwnName : Token × Bool → Bool
  | (.op o, _) => ["(", ",", ":", "\x7d", "=", ";"].contains o
  | (.eof, _) => true
  | _ => false

def front : Read Front := do
  let next ← peek
  let own := isOwnName next
  match ← current with
  | .name "async" false =>
    if own || next.2 then return {}
    advance
    return { async := true, generator := ← op "*" }
  | .name "get" false => if own then return {} else advance; return { accessor := "get" }
  | .name "set" false => if own then return {} else advance; return { accessor := "set" }
  | .op "*" => advance; return { generator := true }
  | _ => return {}

def Front.isPlain (f : Front) : Bool := !f.async && !f.generator && f.accessor.isEmpty

def method (self : Self) (f : Front) (derived : Bool) (name : String) (l : Nat) : Read Node := do
  let m : Making := { async := f.async, generator := f.generator, isMethod := true, derived }
  let n ← functionRest self m name l
  let ps := (n.part 0).parts
  if f.accessor == "get" && !ps.isEmpty then fail "Getter must not have any formal parameters."
  if f.accessor == "set" && (ps.length != 1 || ps.any (·.text == "*")) then
    fail "Setter must have exactly one formal parameter."
  return n

/-! ## Lists and objects -/

def listItem (self : Self) : Read Node := do
  if ← op "..." then return .of .spread [← self .assign]
  self .assign

/-- A list behind its bracket. Commas without an item leave a gap. -/
def listFrom (self : Self) (l : Nat) : Nat → List Node → Read Node
  | 0, _ => unexpected
  | n + 1, acc => do
    if ← op "]" then return .mk .list "" l acc.reverse
    if ← op "," then listFrom self l n (.absent :: acc)
    else
      let item ← listItem self
      if ← op "]" then return .mk .list "" l (item :: acc).reverse
      expectOp ","
      if item.kind == .spread && (← isOp "]") then
        advance
        return .mk .list "open" l (item :: acc).reverse
      listFrom self l n (item :: acc)

def objectEntry (self : Self) : Read Node := do
  let l ← line
  if ← op "..." then return .of .spread [← self .assign]
  let f ← front
  let token ← current
  let may ← isName
  let (key, computed) ← memberName self false
  let text := if computed then "" else key.text
  if ← isOp "(" then
    let fn ← method self f false text l
    return .mk .entry (if f.accessor.isEmpty then "method" else f.accessor) l [key, fn]
  if !f.isPlain then unexpected
  if ← op ":" then return .mk .entry "" l [key, ← self .assign]
  match token with
  | .name w _ =>
    if !may then unexpected
    if ← op "=" then
      return .mk .entry "cover" l [key, .mk .assign "=" l [.mk .name w l [], ← self .assign]]
    if !((← isOp ",") || (← isOp "\x7d")) then unexpected
    return .mk .entry "shorthand" l [key, .mk .name w l []]
  | _ => unexpected

def object (self : Self) (l : Nat) : Read Node := do
  if ← op "\x7d" then return .mk .dict "" l []
  let first ← objectEntry self
  let rest ← many do
    if !(← op ",") then return none
    if ← isOp "\x7d" then return some .absent
    return some (← objectEntry self)
  expectOp "\x7d"
  let trailing := rest.any Node.isAbsent
  let entries := first :: rest.filter fun n => !n.isAbsent
  let isParent (n : Node) := n.kind == .entry && n.text.isEmpty && (n.part 0).text == "__proto__"
  if 1 < (entries.filter isParent).length then
    fail "Duplicate __proto__ fields are not allowed in object literals"
  let closed := trailing && (entries.getLast?.map fun n => n.kind == .spread).getD false
  return .mk .dict (if closed then "open" else "") l entries

def openly {α : Type} (p : Read α) : Read α := within (fun c => { c with inAllowed := true }) p

def binding (self : Self) : Read Node := do
  let l ← line
  match ← current with
  | .op "[" => advance; pattern .bound (← openly (listFrom self l (← get).bound []))
  | .op "\x7b" => advance; pattern .bound (← openly (object self l))
  | _ => return .mk .name (← newName) l []

/-! ## Classes -/

def memberFault? (f : Front) (isStatic isField : Bool) (key : Node) : Option String :=
  if key.kind != .str then none
  else if key.text == "#constructor" then some "Classes may not have a private field named '#constructor'"
  else if isField then
    if key.text == "constructor" || (isStatic && key.text == "prototype") then
      some ("Classes may not have a field named '" ++ key.text ++ "'")
    else none
  else if isStatic then
    if key.text == "prototype" then some "Classes may not have a static property named 'prototype'"
    else none
  else if key.text == "constructor" && !f.isPlain then
    some "Class constructor may not be an accessor, a generator or an async method"
  else none

def staticBlock (self : Self) (l : Nat) : Read Node := do
  let before ← context
  let m : Making := { isMethod := true }
  let body ← within (fun c => { m.inside c with inFunction := false, staticBlock := true }) do
    advance
    let ns ← inScope { isFunction := true } (statements self)
    if !(← isOp "\x7d") then unexpected
    return Node.mk .block "" l ns
  modify fun a => { a with context := before }
  advance
  return .mk .classMember "static block" l [.absent, body]

def classMember (self : Self) (derived : Bool) : Read (Option Node) := do
  let l ← line
  if ← op ";" then return some .absent
  if ← isOp "\x7d" then return none
  let isStatic ← if (← isWord "static") && !isOwnName (← peek) then do advance; pure true else pure false
  if isStatic && (← isOp "\x7b") then return some (← staticBlock self l)
  let f ← front
  let (key, computed) ← memberName self true
  let isField := !(← isOp "(")
  match if computed then none else memberFault? f isStatic isField key with
  | some e => fail e
  | none => pure ()
  let words := if isStatic then "static " else ""
  if isField then
    if !f.isPlain then unexpected
    let m : Making := { isMethod := true }
    let value ← if ← op "=" then
        within (fun c => { m.inside c with inFunction := false }) (self .assign)
      else pure .absent
    semicolon
    return some (.mk .classMember (words ++ "field") l [key, value])
  let isMaker := !isStatic && !computed && key.kind == .str && key.text == "constructor"
  let fn ← method self f (derived && isMaker) (if computed then "" else key.text) l
  let what := if isMaker then "constructor" else if f.accessor.isEmpty then "method" else f.accessor
  return some (.mk .classMember (words ++ what) l [key, fn])

/-- Private names must not be declared twice, save as the two halves of an accessor. -/
def privateFault? (members : List Node) : Option String :=
  let shown := members.filterMap fun m =>
    let key := m.part 0
    if key.kind == .str && key.text.startsWith "#" then some (key.text, m.text) else none
  let clash (a b : String × String) : Bool :=
    a.1 == b.1 && !((a.2 == "get" && b.2 == "set") || (a.2 == "set" && b.2 == "get"))
  let rec go : List (String × String) → Option String
    | [] => none
    | a :: rest => if rest.any (clash a) then some a.1 else go rest
  go shown

def classRest (self : Self) (name : String) (l : Nat) : Read Node := do
  let before ← context
  let outerUses := (← get).uses
  modify fun a => { a with uses := [] }
  let n ← within (fun c => { c with strict := true }) do
    let parent ← if ← word "extends" then self .leftSide else pure .absent
    expectOp "\x7b"
    modify fun a => { a with context := { a.context with inClass := true, inAllowed := true } }
    let members ← many (classMember self (!parent.isAbsent))
    let members := members.filter fun m => !m.isAbsent
    if !(← isOp "\x7d") then unexpected
    if 1 < (members.filter (·.text == "constructor")).length then
      fail "A class may only have one constructor"
    match privateFault? members with
    | some p => twice p
    | none => pure ()
    let own := members.map fun m => (m.part 0).text
    let missing := (← get).uses.filter fun u => !own.contains u
    match missing, before.inClass with
    | u :: _, false =>
      fail ("Private field '" ++ u ++ "' must be declared in an enclosing class")
    | _, _ => modify fun a => { a with uses := missing ++ outerUses }
    return .mk .classOf name l (parent :: members)
  advance
  return n

def classTerm (self : Self) : Read Node := do
  let l ← line
  advance
  let n ← if (← isWord "extends") || (← isOp "\x7b") then pure ""
    else within (fun c => { c with strict := true }) newName
  classRest self n l

/-! ## Terms -/

def templateFrom (self : Self) (tagged : Bool) (l : Nat) : Nat → List Node → Read Node
  | 0, _ => unexpected
  | n + 1, acc => do
    match ← current with
    | .template cooked raw last =>
      let text ← match cooked with
        | some t => pure (Node.mk .str t l [.str raw])
        | none =>
          if tagged then pure (Node.mk .undefined "" l [.str raw])
          else fail "Invalid escape sequence in template"
      advance
      if last then return .mk .format "" l (text :: acc).reverse
      let value ← openly (self .expression)
      if !(← isOp "\x7d") then unexpected
      asTemplate
      templateFrom self tagged l n (.mk .field "" l [value] :: text :: acc)
    | _ => unexpected

def template (self : Self) (tagged : Bool) : Read Node := do
  templateFrom self tagged (← line) (← get).bound []

/-- Items between parentheses, which may turn out to be parameters: the items, and whether they can
only be that. -/
def groupItems (self : Self) : Nat → List Node → Read (List Node × Bool)
  | 0, _ => unexpected
  | n + 1, acc => do
    if ← op ")" then return (acc.reverse, true)
    if ← op "..." then
      let p ← self .binding
      expectOp ")"
      return ((Node.of .spread [p] :: acc).reverse, true)
    let item ← self .assign
    if ← op ")" then return ((item :: acc).reverse, false)
    expectOp ","
    groupItems self n (item :: acc)

def group (self : Self) (l : Nat) : Read Node := do
  let (items, onlyParams) ← openly (groupItems self (← get).bound [])
  if (← isOp "=>") then return .worded .params "" items
  if onlyParams then unexpected
  match items with
  | [n] => return .mk .group "" l [n]
  | ns => return .mk .group "" l [.mk .sequence "" l ns]

def argument (self : Self) : Read Node := do
  if ← op "..." then return .of .spread [← self .assign]
  self .assign

def arguments (self : Self) : Read (List Node) := openly do
  if ← op ")" then return []
  let first ← argument self
  let rest ← many do
    if !(← op ",") then return none
    if ← isOp ")" then return some .absent
    return some (← argument self)
  if !(← op ")") then fail "missing ) after argument list"
  return first :: rest.filter fun n => !n.isAbsent

def flagsFault (flags : String) : Bool :=
  let cs := flags.toList
  cs.any (fun c => !"dgimsuvy".toList.contains c) || hasTwice (cs.map (·.toString))
    || (cs.contains 'u' && cs.contains 'v')

def regexOptions (flags : String) : Regex.Options :=
  let has (c : Char) := flags.toList.contains c
  { ignoreCase := has 'i', multiline := has 'm', dotAll := has 's', strict := has 'u' }

def regexTerm (l : Nat) : Read Node := do
  asRegex
  match ← current with
  | .regex body flags =>
    if flagsFault flags then fail "Invalid regular expression flags"
    if !flags.toList.contains 'v' then
      match Regex.compile body (regexOptions flags) with
      | .ok _ => pure ()
      | .error e => fail ("Invalid regular expression: /" ++ body ++ "/" ++ flags ++ ": " ++ e)
    advance
    return .mk .regex body l [.str flags]
  | _ => unexpected

def memberOfSuper (self : Self) (l : Nat) : Read Node := do
  let c ← context
  match ← current with
  | .op "(" => if !c.superCall then fail "'super' keyword unexpected here"
  | .op "." | .op "[" => if !c.superMember then fail "'super' keyword unexpected here"
  | _ => fail "'super' keyword unexpected here"
  let _ := self
  return .mk .name "super" l []

def importTerm (self : Self) (l : Nat) : Read Node := do
  if ← op "(" then
    let args ← arguments self
    if args.isEmpty || args.any (·.kind == .spread) || 2 < args.length then unexpected
    return .mk .other "import" l args
  if ← isOp "." then fail "Cannot use 'import.meta' outside a module"
  fail "Cannot use import statement outside a module"

def wordTerm (self : Self) (w : String) (l : Nat) : Read Node := do
  match w with
  | "function" => functionTerm self false
  | "class" => classTerm self
  | "null" => advance; return .mk .nothing "" l []
  | "true" => advance; return .mk .truth "true" l []
  | "false" => advance; return .mk .truth "false" l []
  | "this" => advance; return .mk .name "this" l []
  | "super" => advance; memberOfSuper self l
  | "import" => advance; importTerm self l
  | _ =>
    if w == "async" then
      match ← peek with
      | (.name "function" false, false) => advance; functionTerm self true
      | _ => return .mk .name (← name) l []
    else return .mk .name (← name) l []

def term (self : Self) : Read Node := do
  let l ← line
  match ← current with
  | .name w false => wordTerm self w l
  | .name _ true => return .mk .name (← name) l []
  | .number t legacy =>
    if legacy && (← context).strict then fail "Octal literals are not allowed in strict mode."
    advance
    return .mk .float t l []
  | .big t => advance; return .mk .big t l []
  | .str s legacy =>
    if legacy && (← context).strict then fail "Octal escape sequences are not allowed in strict mode."
    advance
    return .mk .str s l []
  | .template .. => template self false
  | .op "(" => advance; group self l
  | .op "[" => advance; openly (listFrom self l (← get).bound [])
  | .op "\x7b" => advance; openly (object self l)
  | .op "/" | .op "/=" => regexTerm l
  | _ => unexpected

/-! ## Members and calls -/

def usePrivate (n : String) : Read Unit := do
  if !(← context).inClass then
    fail ("Private field '#" ++ n ++ "' must be declared in an enclosing class")
  modify fun a => { a with uses := ("#" ++ n) :: a.uses }

def memberWord : Read String := do
  match ← current with
  | .name w _ => advance; return w
  | .privateName n => advance; usePrivate n; return "#" ++ n
  | _ => unexpected

def indexed (self : Self) : Read Node := do
  let n ← openly (self .expression)
  expectOp "]"
  return n

def memberTrailer (self : Self) (n : Node) : Read (Option Node) := do
  let l ← line
  match ← current with
  | .op "." => advance; return some (.mk .attr (← memberWord) l [n])
  | .op "[" => advance; return some (.mk .index "" l [n, ← indexed self])
  | .template .. => return some (.mk .tagged "" l [n, ← template self true])
  | _ => return none

def optionalTrailer (self : Self) (n : Node) (l : Nat) : Read Node := do
  match ← current with
  | .op "(" => advance; return .mk .tryCall "" l (n :: (← arguments self))
  | .op "[" => advance; return .mk .tryIndex "" l [n, ← indexed self]
  | .template .. => fail "Invalid tagged template on optional chain"
  | _ => return .mk .tryAttr (← memberWord) l [n]

def newTerm (self : Self) : Nat → Read Node
  | 0 => unexpected
  | depth + 1 => do
    let l ← line
    advance
    if ← op "." then
      if !(← isWord "target") then unexpected
      if !(← context).newTarget then fail "new.target expression is not allowed here"
      advance
      return .mk .other "new.target" l []
    if ← isWord "import" then fail "Cannot use new with import"
    let base ← if ← isWord "new" then newTerm self depth else term self
    if base.kind == .params then unexpected
    let callee ← grow base (memberTrailer self)
    if ← isOp "?." then fail "Invalid optional chain from new expression"
    let args ← if ← op "(" then arguments self else pure []
    return .mk .make "" l (callee :: args)

def callTrailer (self : Self) (n : Node) : Read (Option Node) := do
  let l ← line
  match ← current with
  | .op "(" => advance; return some (.mk .call "" l (n :: (← arguments self)))
  | .op "?." => return none
  | _ => memberTrailer self n

def optionalChain (self : Self) (n : Node) : Read (Option Node) := do
  let l ← line
  match ← current with
  | .op "?." => advance; return some (← optionalTrailer self n l)
  | .template .. => fail "Invalid tagged template on optional chain"
  | _ => callTrailer self n

/-- A term with its members and calls. Parameters of an arrow function come back as they are. -/
def leftSide (self : Self) : Read Node := do
  let l ← line
  let isNew ← isWord "new"
  let base ← if isNew then newTerm self (← get).bound else term self
  if base.kind == .params then return base
  if base.kind == .func && (base.part 2).text.startsWith "arrow" then return base
  let n ← grow base (callTrailer self)
  if !(← isOp "?.") then return n
  return .mk .maybe "" l [← grow n (optionalChain self)]

/-! ## Operators -/

def isUnary (n : Node) : Bool := n.kind == .unary || n.kind == .wait

def postfixed (self : Self) : Read Node := do
  let l ← line
  let n ← leftSide self
  if ← broken then return n
  for o in ["++", "--"] do
    if ← isOp o then
      if !isPlace (← context).strict n && n.kind != .call then
        fail "Invalid left-hand side expression in postfix operation"
      advance
      return .mk .step ("x" ++ o) l [n]
  return n

def prefixed (self : Self) (o : String) (l : Nat) : Read Node := do
  advance
  let n ← self .unary
  if n.kind == .params then unexpected
  if o == "delete" && (← context).strict then
    match n with
    | .mk .name _ _ _ => fail "Delete of an unqualified identifier in strict mode."
    | _ => pure ()
  if o == "delete" && (n.kind == .attr || n.kind == .tryAttr) && n.text.startsWith "#" then
    fail "Private fields can not be deleted"
  return .mk .unary o l [n]

def unary (self : Self) : Read Node := do
  let l ← line
  let c ← context
  match ← current with
  | .op o =>
    if ["!", "~", "+", "-"].contains o then prefixed self o l
    else if o == "++" || o == "--" then
      advance
      let n ← self .unary
      if !isPlace c.strict n && n.kind != .call then
        fail "Invalid left-hand side expression in prefix operation"
      return .mk .step (o ++ "x") l [n]
    else postfixed self
  | .name w false =>
    if ["typeof", "void", "delete"].contains w then prefixed self w l
    else if w == "await" && c.async then
      advance
      let n ← self .unary
      if n.kind == .params then unexpected
      return .mk .wait "" l [n]
    else postfixed self
  | .privateName n =>
    usePrivate n
    match ← peek with
    | (.name "in" false, _) =>
      if !c.inAllowed then unexpected
      advance
      return .mk .str ("#" ++ n) l []
    | _ => unexpected
  | _ => postfixed self

def strength? (c : Context) : Token → Option (String × Nat)
  | .op o =>
    (match o with
      | "??" => some 1
      | "||" => some 2
      | "&&" => some 3
      | "|" => some 4
      | "^" => some 5
      | "&" => some 6
      | "==" | "!=" | "===" | "!==" => some 7
      | "<" | ">" | "<=" | ">=" => some 8
      | "<<" | ">>" | ">>>" => some 9
      | "+" | "-" => some 10
      | "*" | "/" | "%" => some 11
      | "**" => some 12
      | _ => none).map fun n => (o, n)
  | .name "instanceof" false => some ("instanceof", 8)
  | .name "in" false => if c.inAllowed then some ("in", 8) else none
  | _ => none

def joinedBy (o : String) (l : Nat) (a b : Node) : Read Node := do
  match o with
  | "&&" => return .mk .both "" l [a, b]
  | "||" =>
    if a.kind == .orNothing || b.kind == .orNothing then fail "Unexpected token '||'"
    return .mk .either "" l [a, b]
  | "??" =>
    let mixed (n : Node) := n.kind == .both || n.kind == .either
    if mixed a || mixed b then fail "Unexpected token '??'"
    return .mk .orNothing "" l [a, b]
  | "&" | "|" | "^" | _ => return .mk .binary o l [a, b]

/-- Operators that bind at least as tightly as `least`, by climbing from operand to operand. -/
def climb (self : Self) : Nat → Nat → Node → Read Node
  | 0, _, a => return a
  | fuel + 1, least, a => do
    match strength? (← context) (← current) with
    | some (o, n) =>
      if n < least then return a
      let l ← line
      if o == "**" && isUnary a then
        fail "Unary operator used immediately before exponentiation expression"
      advance
      let b ← unary self
      if b.kind == .params then unexpected
      let b ← climb self fuel (if o == "**" then n else n + 1) b
      climb self fuel least (← joinedBy o l a b)
    | none => return a

def binary (self : Self) : Read Node := do
  let a ← unary self
  if a.kind == .params then return a
  climb self (← get).bound 1 a

def conditional (self : Self) : Read Node := do
  let l ← line
  let c ← binary self
  if c.kind == .params then return c
  if !(← op "?") then return c
  let a ← openly (self .assign)
  expectOp ":"
  return .mk .choose "" l [c, a, ← self .assign]

def assignments : List String :=
  ["=", "+=", "-=", "*=", "/=", "%=", "**=", "<<=", ">>=", ">>>=", "&=", "|=", "^=", "&&=", "||=",
    "??="]

def yielding (self : Self) (l : Nat) : Read Node := do
  advance
  if ← broken then return .mk .produce "" l [.absent]
  if ← op "*" then return .mk .produceAll "" l [← self .assign]
  match ← current with
  | .op o =>
    if [")", "]", "\x7d", ",", ";", ":"].contains o then return .mk .produce "" l [.absent]
    return .mk .produce "" l [← self .assign]
  | .eof | .name "in" false | .name "of" false => return .mk .produce "" l [.absent]
  | _ => return .mk .produce "" l [← self .assign]

def beginsArrow : Read Bool := do
  if !(← isName) then return false
  match ← peek with
  | (.op "=>", false) => return true
  | _ => return false

def asyncArrow? (self : Self) : Read (Option Node) := do
  let l ← line
  if !(← isWord "async") then return none
  match ← peek with
  | (.name w _, false) =>
    if w == "function" then return none
    attempt? do
      advance
      let n := Node.mk .name (← newName) l []
      if !(← isOp "=>") || (← broken) then unexpected
      arrow self true [n] l
  | (.op "(", false) =>
    let before ← get
    let items ← attempt? do
      advance
      advance
      let (items, _) ← openly (groupItems self (← get).bound [])
      if !(← isOp "=>") || (← broken) then unexpected
      return items
    match items with
    | some items => return some (← arrow self true items l)
    | none =>
      set before
      return none
  | _ => return none

def assign (self : Self) : Read Node := do
  let l ← line
  let c ← context
  if c.generator && (← isWord "yield") then return ← yielding self l
  if let some n ← asyncArrow? self then return n
  if ← beginsArrow then
    let n := Node.mk .name (← newName) l []
    return ← arrow self false [n] l
  let left ← conditional self
  if left.kind == .params then return ← arrow self false left.parts l
  match ← current with
  | .op o =>
    if !assignments.contains o then return left
    let target ←
      if o == "=" && (left.kind == .list || left.kind == .dict) then pattern .assigned left
      else if (ungrouped left).kind == .call then pure left
      else place left
    advance
    return .mk .assign o l [target, ← self .assign]
  | _ => return left

def expression (self : Self) : Read Node := do
  let l ← line
  let first ← self .assign
  let rest ← many do
    if ← op "," then return some (← self .assign)
    return none
  return if rest.isEmpty then first else .mk .sequence "" l (first :: rest)

end Read

end ScriptHost.Braced
