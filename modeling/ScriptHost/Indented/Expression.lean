import ScriptHost.Indented.Target

/-!
Expressions, from the loosest to the tightest binding. What is read inside of brackets is asked from
`self`, which reads anything.
-/
namespace ScriptHost.Indented

open Snippet

namespace Read

/-! ## Parameters and arguments -/

/-- What has been seen among the parameters so far. -/
structure Seen where
  any : Bool := false
  slash : Bool := false
  star : Bool := false
  /-- A lone star waits for a name behind it. -/
  lone : Bool := false
  default : Bool := false
  last : Bool := false

def annotation (self : Self) (typed : Bool) : Read Node := do
  if !typed then return .absent
  if !(← op ":") then return .absent
  if ← isOp "*" then self .element else self .expression

def plainParam (self : Self) (typed : Bool) (seen : Seen) : Read (Node × Seen) := do
  let target := Node.name (← name)
  let note ← annotation self typed
  if ← op "=" then
    let value ← self .expression
    return (.of .param [target, value, note], { seen with any := true, lone := false, default := true })
  else
    if seen.default && !seen.star then fail "non-default argument follows default argument"
    return (.of .param [target, .absent, note], { seen with any := true, lone := false })

def starParam (self : Self) (typed : Bool) (seen : Seen) : Read (Node × Seen) := do
  if seen.star then fail "* argument may appear only once"
  if ← isName then
    let target := Node.name (← name)
    let note ← annotation self typed
    if ← isOp "=" then fail "var-positional argument cannot have default value"
    return (.worded .param "*" [target, .absent, note], { seen with any := true, star := true })
  else
    if !(← isOp ",") then fail "named arguments must follow bare *"
    return (.worded .param "*" [.absent], { seen with any := true, star := true, lone := true })

def oneParam (self : Self) (typed : Bool) (seen : Seen) : Read (Node × Seen) := do
  if seen.last then fail "arguments cannot follow var-keyword argument"
  if ← op "**" then
    if seen.lone then fail "named arguments must follow bare *"
    let target := Node.name (← name)
    let note ← annotation self typed
    if ← isOp "=" then fail "var-keyword argument cannot have default value"
    return (.worded .param "**" [target, .absent, note], { seen with any := true, last := true })
  else if ← op "*" then starParam self typed seen
  else if ← op "/" then
    if !seen.any then fail "at least one argument must precede /"
    if seen.slash then fail "/ may appear only once"
    if seen.star then fail "/ must be ahead of *"
    return (.worded .param "/" [.absent], { seen with slash := true })
  else plainParam self typed seen

def paramsFrom (self : Self) (typed : Bool) (stop : Token) :
    Nat → Seen → List Node → Read (List Node × Seen)
  | 0, seen, acc => return (acc.reverse, seen)
  | n + 1, seen, acc => do
    if (← current) == stop then return (acc.reverse, seen)
    let (p, seen) ← oneParam self typed seen
    if !(← op ",") then return ((p :: acc).reverse, seen)
    paramsFrom self typed stop n seen (p :: acc)

def params (self : Self) (typed : Bool) (stop : Token) : Read Node := do
  let (ps, seen) ← paramsFrom self typed stop (← get).bound {} []
  if seen.lone then fail "named arguments must follow bare *"
  return .of .params ps

def lambda (self : Self) : Read Node := do
  let l ← line
  advance
  let ps ← params self false (.op ":")
  expectOp ":"
  let body ← self .expression
  return .mk .func "<lambda>" l [ps, .of .leave [body], .worded .manner "" []]

/-! ## Comprehensions -/

def loopTarget (self : Self) : Read Node := do
  let item : Read Node := do
    if ← op "*" then return .of .spread [← self .operand]
    self .operand
  let (items, trailing) ← commas item
  match items, trailing with
  | [n], false => target n
  | ns, _ => target (.of .tuple ns)

structure Clause where
  line : Nat
  async : Bool
  target : Node
  source : Node
  conditions : List Node

def clause (self : Self) : Read (Option Clause) := do
  let l ← line
  let async := (← isWord "async") && (← second) == .name "for"
  if async then advance
  if !(← word "for") then return none
  let t ← loopTarget self
  expectWord "in"
  let source ← self .disjunction
  let conditions ← many do
    if ← word "if" then return some (← self .disjunction)
    return none
  return some ⟨l, async, t, source, conditions⟩

def Clause.around (c : Clause) (body : Node) : Node :=
  let body := c.conditions.foldr (fun t b => .mk .cond "" t.line [t, b, .absent]) body
  .mk .each (if c.async then "async" else "for") c.line [c.target, c.source, body, .absent]

def isClause : Read Bool := do
  return (← isWord "for") || ((← isWord "async") && (← second) == .name "for")

def gathered (self : Self) (kind : String) (element : Node) : Read Node := do
  if element.kind == .spread then fail "iterable unpacking cannot be used in comprehension"
  let l ← line
  let clauses ← many (clause self)
  let inner := Node.mk .eval "" l [.mk .produce "" l [element]]
  return .mk .gather kind l [clauses.foldr Clause.around inner]

/-! ## Arguments -/

structure Given where
  named : Bool := false
  spreadNamed : Bool := false

def argument (self : Self) (g : Given) : Read (Node × Given) := do
  if ← op "*" then
    if g.spreadNamed then
      fail "iterable argument unpacking follows keyword argument unpacking"
    return (.of .spread [← self .expression], g)
  else if ← op "**" then
    return (.of .spreadNamed [← self .expression], { g with spreadNamed := true })
  else if (← isName) && (← second) == .op "=" then
    let n ← name
    advance
    return (.worded .named n [← self .expression], { g with named := true })
  else
    let value ← self .named
    if ← isOp "=" then fail "expression cannot contain assignment, perhaps you meant \x22==\x22?"
    if ← isClause then
      return (← gathered self "generator" value, g)
    if g.spreadNamed then fail "positional argument follows keyword argument unpacking"
    if g.named then fail "positional argument follows keyword argument"
    return (value, g)

def argumentsFrom (self : Self) : Nat → Given → List Node → Read (List Node × Bool)
  | 0, _, acc => return (acc.reverse, false)
  | n + 1, g, acc => do
    if ← op ")" then return (acc.reverse, true)
    let (a, g) ← argument self g
    if ← op "," then argumentsFrom self n g (a :: acc)
    else
      expectOp ")"
      return ((a :: acc).reverse, false)

def arguments (self : Self) : Read (List Node) := do
  let (args, trailing) ← argumentsFrom self (← get).bound {} []
  let bareOnes := args.filter fun a => a.kind == .gather && a.text == "generator"
  if !bareOnes.isEmpty && (1 < args.length || trailing) then
    fail "Generator expression must be parenthesized"
  return args

/-! ## Atoms -/

def parenthesized (self : Self) (yielding : Read Node) : Read Node := do
  let l ← line
  if ← op ")" then return .mk .tuple "" l []
  if ← isWord "yield" then
    let y ← yielding
    expectOp ")"
    return .mk .group "" l [y]
  let first ← self .element
  if ← isClause then
    let g ← gathered self "generator" first
    expectOp ")"
    return .mk .group "" l [g]
  if ← isOp "," then
    advance
    if ← op ")" then return .mk .tuple "" l [first]
    let (rest, _) ← commas (self .element)
    expectOp ")"
    return .mk .tuple "" l (first :: rest)
  if first.kind == .spread then fail "cannot use starred expression here"
  if !(← op ")") then fail "invalid syntax. Perhaps you forgot a comma?"
  return .mk .group "" l [first]

def listed (self : Self) : Read Node := do
  let l ← line
  if ← op "]" then return .mk .list "" l []
  let first ← self .element
  if ← isClause then
    let g ← gathered self "list" first
    expectOp "]"
    return g
  let rest ← if ← op "," then
      if beginsTerm (← current) then pure (← commas (self .element)).1 else pure []
    else pure []
  if !(← op "]") then fail "invalid syntax. Perhaps you forgot a comma?"
  return .mk .list "" l (first :: rest)

def entry (self : Self) : Read Node := do
  if ← op "**" then return .of .spreadNamed [← self .operand]
  let key ← self .expression
  expectOp ":"
  return .of .entry [key, ← self .expression]

def moreUntilBrace (item : Read Node) : Read (List Node) := do
  let rest ← many do
    if !(← op ",") then return none
    if ← isOp "\x7d" then return none
    return some (← item)
  expectOp "\x7d"
  return rest

def braced (self : Self) : Read Node := do
  let l ← line
  if ← op "\x7d" then return .mk .dict "" l []
  if ← op "**" then
    let first := Node.of .spreadNamed [← self .operand]
    if ← isClause then fail "dict unpacking cannot be used in dict comprehension"
    return .mk .dict "" l (first :: (← moreUntilBrace (entry self)))
  let first ← self .element
  if ← isOp ":" then
    if first.kind == .assign || first.kind == .spread then invalid
    advance
    let value ← self .expression
    if ← isClause then
      let g ← gathered self "dict" (.of .tuple [first, value])
      expectOp "\x7d"
      return g
    return .mk .dict "" l (.of .entry [first, value] :: (← moreUntilBrace (entry self)))
  if ← isClause then
    let g ← gathered self "set" first
    expectOp "\x7d"
    return g
  return .mk .set "" l (first :: (← moreUntilBrace (self .element)))

/-! ## Strings with fields -/

def fieldText (opened : Nat) (quote : Option Char) :
    List Char → List Char → Except String (List Char × List Char)
  | acc, [] => .ok (acc.reverse, [])
  | acc, c :: r =>
    if c = '\\' then .error "f-string expression part cannot include a backslash"
    else match quote with
      | some q => fieldText opened (if c = q then none else quote) (c :: acc) r
      | none =>
        if c = '#' then .error "f-string expression part cannot include '#'"
        else if c = '"' || c = '\'' then fieldText opened (some c) (c :: acc) r
        else if c = '(' || c = '[' || c = '\x7b' then fieldText (opened + 1) none (c :: acc) r
        else if 0 < opened && (c = ')' || c = ']' || c = '\x7d') then
          fieldText (opened - 1) none (c :: acc) r
        else if 0 < opened then fieldText opened none (c :: acc) r
        else match c, r with
          | '!', '=' :: t => fieldText opened none ('=' :: '!' :: acc) t
          | '<', '=' :: t => fieldText opened none ('=' :: '<' :: acc) t
          | '>', '=' :: t => fieldText opened none ('=' :: '>' :: acc) t
          | '=', '=' :: t => fieldText opened none ('=' :: '=' :: acc) t
          | c, r =>
            if c = '!' || c = ':' || c = '\x7d' || c = '=' then .ok (acc.reverse, c :: r)
            else fieldText opened none (c :: acc) r

/-- Text up to the next brace that is not doubled; inside of a format no brace is. The braces around
the name of a character belong to the text. -/
def literalText (nested raw : Bool) : Bool → List Char → List Char → List Char × List Char
  | _, acc, [] => (acc.reverse, [])
  | true, acc, c :: r => literalText nested raw (c ≠ '\x7d') (c :: acc) r
  | false, acc, '\\' :: '\\' :: r => literalText nested raw false ('\\' :: '\\' :: acc) r
  | false, acc, '\\' :: 'N' :: '\x7b' :: r =>
    if raw then (('N' :: '\\' :: acc).reverse, '\x7b' :: r)
    else literalText nested raw true ('\x7b' :: 'N' :: '\\' :: acc) r
  | false, acc, c :: d :: r =>
    if c = '\x7b' || c = '\x7d' then
      if nested || c ≠ d then (acc.reverse, c :: d :: r)
      else literalText nested raw false (c :: acc) r
    else literalText nested raw false (c :: acc) (d :: r)
  | false, acc, [c] =>
    if c = '\x7b' || c = '\x7d' then (acc.reverse, [c]) else ((c :: acc).reverse, [])

def isBlank (c : Char) : Bool := c = ' ' || c = '\t' || c = '\n' || c = '\x0c' || c = '\r'

def fieldValue (self : Self) (yielding : Read Node) (text : List Char) (l : Nat) : Read Node := do
  if text.all isBlank then fail "f-string: empty expression not allowed"
  match Scanner.run (2 * text.length + 16)
      { rest := '(' :: (text ++ [')']), line := l, lineStart := false } with
  | .error (_, e) => fail ("f-string: " ++ e)
  | .ok ts =>
    let before ← get
    set { before with rest := ts.drop 1 }
    let n ← parenthesized self yielding
    expect .newline
    expect .eof
    set before
    return bare n

/-- The pieces of a string with fields. Formats may hold fields themselves, but not any deeper. -/
def pieces (self : Self) (yielding : Read Node) (raw : Bool) (l : Nat) :
    Nat → Nat → List Char → List Node → Read (List Node × List Char)
  | 0, _, s, acc => return (acc.reverse, s)
  | fuel + 1, depth, s, acc => do
    let (text, r) := literalText (0 < depth) raw false [] s
    let content ← if raw then pure text else match unescape false text with
      | .ok t => pure t
      | .error e => fail e
    let acc := if content.isEmpty then acc else Node.str (String.ofList content) :: acc
    match r with
    | [] => return (acc.reverse, [])
    | '\x7d' :: _ =>
      if 0 < depth then return (acc.reverse, r)
      fail "f-string: single '\x7d' is not allowed"
    | _ :: r =>
      if 2 ≤ depth then fail "f-string: expressions nested too deeply"
      match fieldText 0 none [] r with
      | .error e => fail e
      | .ok (text, r) =>
        let value ← fieldValue self yielding text l
        let (shown, r) := match r with
          | '=' :: t =>
            let gap := t.takeWhile isBlank
            (text ++ '=' :: gap, t.drop gap.length)
          | r => ([], r)
        let (conversion, r) ← match r with
          | '!' :: c :: t =>
            if c = 'r' || c = 's' || c = 'a' then pure (c.toString, t)
            else fail "f-string: invalid conversion character"
          | r => pure ("", r)
        let (spec, r) ← match r with
          | ':' :: t => do
            let (ps, t) ← pieces self yielding raw l fuel (depth + 1) t []
            pure (Node.of .format ps, t)
          | r => pure (.absent, r)
        let conversion := if conversion.isEmpty && !shown.isEmpty && spec.isAbsent then "r" else conversion
        match r with
        | '\x7d' :: t =>
          let acc := if shown.isEmpty then acc else Node.str (String.ofList shown) :: acc
          pieces self yielding raw l fuel depth t (.mk .field conversion l [value, spec] :: acc)
        | _ => fail "f-string: expecting '\x7d'"

def strings (self : Self) (yielding : Read Node) : Read Node := do
  let l ← line
  let parts ← many do
    let l ← line
    match ← current with
    | .str s => advance; return some [Node.mk .str s l []]
    | .byteStr s => advance; return some [Node.mk .byteStr s l []]
    | .format raw body =>
      advance
      let (ps, _) ← pieces self yielding raw l (body.length + 2) 0 body []
      return some [Node.mk .format "" l ps]
    | _ => return none
  let parts := parts.flatten
  let isBytes (n : Node) := n.kind == .byteStr
  if parts.any isBytes && !parts.all isBytes then fail "cannot mix bytes and nonbytes literals"
  if parts.any fun n => n.kind == .format then
    return .mk .format "" l (parts.flatMap fun n => if n.kind == .format then n.parts else [n])
  let kind := if parts.any isBytes then Kind.byteStr else .str
  return .mk kind (String.join (parts.map (·.text))) l []

def atom (self : Self) (yielding : Read Node) : Read Node := do
  let l ← line
  match ← current with
  | .int n => advance; return .mk .int (toString n) l []
  | .float t => advance; return .mk .float t l []
  | .imaginary => advance; return .mk .other "" l []
  | .str _ | .byteStr _ | .format .. => strings self yielding
  | .op "(" => advance; parenthesized self yielding
  | .op "[" => advance; listed self
  | .op "\x7b" => advance; braced self
  | .op "..." => advance; return .mk .other "..." l []
  | .name "None" => advance; return .mk .nothing "" l []
  | .name "True" => advance; return .mk .truth "true" l []
  | .name "False" => advance; return .mk .truth "false" l []
  | t =>
    match plainName? t with
    | some n => advance; return .mk .name n l []
    | none => invalid

/-! ## Operators -/

def sliceBound (self : Self) : Read Node := do
  if beginsTerm (← current) && !(← isOp "*") then self .expression else return .absent

def subscript (self : Self) : Read Node := do
  if ← isOp "*" then self .element
  else
    let l ← line
    let first ← if ← isOp ":" then pure .absent else self .named
    if !(← op ":") then return first
    if first.kind == .assign then invalid
    let stop ← sliceBound self
    let step ← if ← op ":" then sliceBound self else pure .absent
    return .mk .slice "" l [first, stop, step]

def subscripts (self : Self) : Read Node := do
  let first ← subscript self
  let rest ← many do
    if !(← op ",") then return none
    if ← isOp "]" then return some .absent
    return some (← subscript self)
  expectOp "]"
  if rest.isEmpty && first.kind != .spread then return first
  return .of .tuple (first :: rest.filter fun n => !n.isAbsent)

def trailer (self : Self) (n : Node) : Read (Option Node) := do
  let l ← line
  if ← op "." then return some (.mk .attr (← name) l [n])
  if ← op "(" then return some (.mk .call "" l (n :: (← arguments self)))
  if ← op "[" then return some (.mk .index "" l [n, ← subscripts self])
  return none

def primary (self : Self) (yielding : Read Node) : Read Node := do
  let l ← line
  let awaited ← word "await"
  let n ← grow (← atom self yielding) (trailer self)
  return if awaited then .mk .wait "" l [n] else n

def power (self : Self) (yielding : Read Node) : Read Node := do
  let a ← primary self yielding
  let l ← line
  if ← op "**" then return .mk .binary "**" l [a, ← self .factor]
  return a

def factor (self : Self) (yielding : Read Node) : Read Node := do
  let l ← line
  for o in ["-", "+", "~"] do
    if ← op o then return .mk .unary o l [← self .factor]
  power self yielding

def leftward (ops : List String) (tighter : Read Node) : Read Node := do
  grow (← tighter) fun a => do
    let l ← line
    match ← current with
    | .op o =>
      if ops.contains o then
        advance
        return some (.mk .binary o l [a, ← tighter])
      return none
    | _ => return none

def operand (self : Self) (yielding : Read Node) : Read Node :=
  leftward ["|"] <| leftward ["^"] <| leftward ["&"] <| leftward ["<<", ">>"] <|
    leftward ["+", "-"] <| leftward ["*", "/", "//", "%", "@"] <| factor self yielding

def comparison? : Read (Option String) := do
  match ← current with
  | .op o =>
    if ["==", "!=", "<", "<=", ">", ">="].contains o then advance; return some o
    return none
  | .name "in" => advance; return some "in"
  | .name "is" =>
    advance
    return some (if ← word "not" then "is not" else "is")
  | .name "not" =>
    if (← second) == .name "in" then advance; advance; return some "not in"
    return none
  | _ => return none

def comparison (operand : Read Node) : Read Node := do
  let l ← line
  let a ← operand
  let rest ← many do
    match ← comparison? with
    | some o => return some (Node.worded .compare o [← operand])
    | none => return none
  return if rest.isEmpty then a else .mk .chain "" l (a :: rest)

def inversion (operand : Read Node) : Read Node := do
  let l ← line
  let nots ← many do
    if ← word "not" then return some ()
    return none
  let n ← comparison operand
  return nots.foldl (fun n _ => .mk .unary "not" l [n]) n

def wordward (w : String) (kind : Kind) (tighter : Read Node) : Read Node := do
  grow (← tighter) fun a => do
    if ← word w then return some (.of kind [a, ← tighter])
    return none

def disjunction (operand : Read Node) : Read Node :=
  wordward "or" .either <| wordward "and" .both <| inversion operand

def expression (self : Self) : Read Node := do
  if ← isWord "lambda" then lambda self
  else
    let l ← line
    let a ← self .disjunction
    if !(← word "if") then return a
    let c ← self .disjunction
    if !(← word "else") then fail "expected 'else' after 'if' expression"
    return .mk .choose "" l [c, a, ← self .expression]

def named (self : Self) : Read Node := do
  let l ← line
  let a ← self .expression
  if ← op ":=" then
    if a.kind != .name then fail ("cannot use assignment expressions with " ++ described a)
    return .mk .assign ":=" l [a, ← self .expression]
  return a

def element (self : Self) : Read Node := do
  if ← op "*" then return .of .spread [← self .operand]
  self .named

def several (self : Self) : Read Node := do
  let l ← line
  let item : Read Node := do
    if ← op "*" then return .of .spread [← self .operand]
    self .expression
  match ← commas item with
  | ([n], false) => return n
  | (ns, _) => return .mk .tuple "" l ns

def yielding (self : Self) : Read Node := do
  let l ← line
  advance
  if ← word "from" then return .mk .produceAll "" l [← self .expression]
  if beginsTerm (← current) then return .mk .produce "" l [← several self]
  return .mk .produce "" l [.absent]

def assigned (self : Self) : Read Node := do
  if ← isWord "yield" then yielding self else several self

end Read

end ScriptHost.Indented
