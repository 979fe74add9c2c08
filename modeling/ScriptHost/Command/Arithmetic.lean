import ScriptHost.Text.Utf8
import ScriptHost.Power

/-!
Sums in commands: 64-bit integers and variables, which an expression may also set.
-/
namespace ScriptHost.Command.Arithmetic

inductive Fault where
  | noOperand
  | badOperator
  | tooGreat
  | badBase
  | leftOver
  | unclosed
  | noColon
  | notVariable
  | negativeExponent
  | divisionByZero
  | tooDeep
  deriving DecidableEq, Repr

def Fault.message : Fault → String
  | .noOperand => "syntax error: operand expected"
  | .badOperator => "syntax error: invalid arithmetic operator"
  | .tooGreat => "value too great for base"
  | .badBase => "invalid arithmetic base"
  | .leftOver => "syntax error in expression"
  | .unclosed => "missing `)'"
  | .noColon => "`:' expected for conditional expression"
  | .notVariable => "attempted assignment to non-variable"
  | .negativeExponent => "exponent less than 0"
  | .divisionByZero => "division by 0"
  | .tooDeep => "expression recursion level exceeded"

structure Failure where
  fault : Fault
  whole : List Char
  left : List Char

def Failure.message (f : Failure) : String :=
  let shown (cs : List Char) : String := String.ofList (cs.dropWhile fun c => c = ' ' || c = '\t')
  shown f.whole ++ ": " ++ f.fault.message ++ " (error token is \x22" ++ shown f.left ++ "\x22)"

inductive Token where
  | number (n : Int)
  | name (s : String)
  | op (s : String)
  | bad (fault : Fault)
  | stray
  deriving DecidableEq, Repr

def isNameChar (c : Char) : Bool := c.isAlphanum || c = '_'

def digit (c : Char) : Nat :=
  if c.isDigit then c.toNat - 48
  else if c.isLower then c.toNat - 87
  else if c.isUpper then c.toNat - 29
  else 64

def number (cs : List Char) : Token :=
  let value (base : Nat) (ds : List Char) : Token :=
    let small (c : Char) : Nat := if base ≤ 36 then digit c.toLower else digit c
    if ds.all fun c => small c < base then
      .number (ds.foldl (fun n c => n * base + small c) 0 : Nat)
    else .bad .tooGreat
  match cs with
  | '0' :: 'x' :: r | '0' :: 'X' :: r => value 16 r
  | '0' :: r => value 8 r
  | cs =>
    let base := cs.takeWhile (· ≠ '#')
    match cs.drop base.length, (String.ofList base).toNat? with
    | _ :: ds, some b => if 2 ≤ b && b ≤ 64 then value b ds else .bad .badBase
    | _ :: _, none => .bad .tooGreat
    | [], _ => value 10 cs

def operators : List String :=
  ["<<=", ">>=", "**", "<<", ">>", "<=", ">=", "==", "!=", "&&", "||", "+=", "-=", "*=", "/=", "%=",
    "&=", "|=", "^=", "++", "--", "+", "-", "*", "/", "%", "<", ">", "!", "~", "&", "|", "^", "?",
    ":", "=", "(", ")", ","]

def tokens : Nat → List Char → List (Token × List Char)
  | 0, _ => []
  | _ + 1, [] => []
  | fuel + 1, c :: r =>
    if c = ' ' || c = '\t' || c = '\n' then tokens fuel r
    else if c.isDigit then
      let word := (c :: r).takeWhile fun d => isNameChar d || d = '#' || d = '@'
      (number word, c :: r) :: tokens fuel ((c :: r).drop word.length)
    else if isNameChar c then
      let word := (c :: r).takeWhile isNameChar
      (.name (String.ofList word), c :: r) :: tokens fuel ((c :: r).drop word.length)
    else match operators.find? fun s => s.toList.isPrefixOf (c :: r) with
      | some s => (.op s, c :: r) :: tokens fuel ((c :: r).drop s.length)
      | none => [(.stray, c :: r)]

structure Scope where
  whole : List Char
  rest : List Token
  /-- The texts that the tokens begin, those that have been read among them. -/
  texts : List (List Char)
  vars : List (String × Bytes)
  idle : Bool := false

def scopeOf (e : List Char) (vars : List (String × Bytes)) : Scope :=
  let ts := tokens (e.length + 1) e
  { whole := e, rest := ts.map (·.1), texts := ts.map (·.2), vars }

def Scope.failure (s : Scope) (fault : Fault) (left : Nat) : Failure :=
  { fault, whole := s.whole
    left := (s.texts.drop (s.texts.length - max left 1)).headD [] }

abbrev Eval := EStateM Failure Scope

def fail {α : Type} (fault : Fault) : Eval α := do
  let s ← get
  throw (s.failure fault s.rest.length)

def wrap (n : Int) : Int := n.bmod (twoTo 64)

def put (name : String) (n : Int) : Eval Unit := modify fun s =>
  if s.idle then s
  else { s with vars := (name, bytes (toString n)) :: s.vars.filter fun (k, _) => k ≠ name }

def behind (r : List Token) : Eval Unit := modify fun s => { s with rest := r }

def idly (idle : Bool) (p : Eval Int) : Eval Int := do
  let saved := (← get).idle
  modify fun s => { s with idle := saved || idle }
  let v ← p
  modify fun s => { s with idle := saved }
  return v

def accept (s : String) : Eval Bool := do
  match (← get).rest with
  | .op t :: r => if t = s then modify fun st => { st with rest := r }; return true else return false
  | _ => return false

def truth (b : Bool) : Int := if b then 1 else 0

def apply (op : String) (a b : Int) : Except Fault Int :=
  let word (n : Int) : Nat := (n % twoTo 64).toNat
  match op with
  | "+" => .ok (wrap (a + b))
  | "-" => .ok (wrap (a - b))
  | "*" => .ok (wrap (a * b))
  | "/" => if b = 0 then .error .divisionByZero else .ok (wrap (a.tdiv b))
  | "%" => if b = 0 then .error .divisionByZero else .ok (a.tmod b)
  | "**" => if b < 0 then .error .negativeExponent else .ok (wrap (a.pow (min b.toNat 4096)))
  | "<<" => .ok (wrap (a * twoTo (b.toNat % 64)))
  | ">>" => .ok (a / twoTo (b.toNat % 64))
  | "<" => .ok (truth (a < b))
  | ">" => .ok (truth (b < a))
  | "<=" => .ok (truth (a ≤ b))
  | ">=" => .ok (truth (b ≤ a))
  | "==" => .ok (truth (a = b))
  | "!=" => .ok (truth (a ≠ b))
  | "&" => .ok (wrap (word a &&& word b))
  | "|" => .ok (wrap (word a ||| word b))
  | "^" => .ok (wrap (word a ^^^ word b))
  | "&&" => .ok (truth (a ≠ 0 && b ≠ 0))
  | "||" => .ok (truth (a ≠ 0 || b ≠ 0))
  | _ => .error .noOperand

/-- Operators that also set the variable in front of them. -/
def setsToo (o : String) : Bool :=
  o.toList.getLast? = some '=' && !(["==", "!=", "<=", ">="].contains o)

def strength : String → Nat
  | "||" => 1
  | "&&" => 2
  | "|" => 3
  | "^" => 4
  | "&" => 5
  | "==" | "!=" => 6
  | "<" | ">" | "<=" | ">=" => 7
  | "<<" | ">>" => 8
  | "+" | "-" => 9
  | "*" | "/" | "%" => 10
  | "**" => 11
  | _ => 0

def settled (r : Except Fault Int) (left : Nat) : Eval Int := do
  match r with
  | .ok n => return n
  | .error e =>
    let s ← get
    if s.idle then return 0 else throw (s.failure e left)

mutual

def comma (fuel : Nat) : Eval Int := match fuel with
  | 0 => fail .tooDeep
  | fuel + 1 => do
    let v ← assign fuel
    if ← accept "," then comma fuel else return v

/-- The value of a variable, which is an expression itself. -/
def valueOf (fuel : Nat) (name : String) : Eval Int := match fuel with
  | 0 => fail .tooDeep
  | fuel + 1 => do
    let s ← get
    match s.vars.find? fun (k, _) => k = name with
    | none => return 0
    | some (_, v) =>
      let inner := scopeOf (Bytes.lossy v).toList s.vars
      if s.idle || inner.rest.isEmpty then return 0
      set inner
      let n ← comma fuel
      if !(← get).rest.isEmpty then fail .leftOver
      modify fun t => { s with vars := t.vars }
      return n

def assign (fuel : Nat) : Eval Int := match fuel with
  | 0 => fail .tooDeep
  | fuel + 1 => do
    match (← get).rest with
    | .name x :: .op o :: r =>
      if o = "=" then
        behind r
        let v ← assign fuel
        put x v
        return v
      else if setsToo o then
        behind r
        let v ← assign fuel
        let old ← valueOf fuel x
        let n ← settled (apply (String.ofList o.toList.dropLast) old v) r.length
        put x n
        return n
      else choice fuel
    | _ =>
      let v ← choice fuel
      match (← get).rest with
      | .op o :: _ => if setsToo o then fail .notVariable else return v
      | _ => return v

def choice (fuel : Nat) : Eval Int := match fuel with
  | 0 => fail .tooDeep
  | fuel + 1 => do
    let c ← climb fuel 1
    if ← accept "?" then
      let a ← idly (c = 0) (comma fuel)
      if !(← accept ":") then fail .noColon
      let b ← idly (c ≠ 0) (choice fuel)
      return if c ≠ 0 then a else b
    return c

/-- Operators that bind at least as strongly as `least`. -/
def climb (fuel least : Nat) : Eval Int := match fuel with
  | 0 => fail .tooDeep
  | fuel + 1 => do
    let a ← unary fuel
    climbFrom fuel least a

def climbFrom (fuel least : Nat) (a : Int) : Eval Int := match fuel with
  | 0 => fail .tooDeep
  | fuel + 1 => do
    match (← get).rest with
    | .stray :: _ => fail .badOperator
    | .bad e :: _ => fail e
    | .op o :: r =>
      let k := strength o
      if k = 0 || k < least then return a
      behind r
      let decided := (o = "&&" && a = 0) || (o = "||" && a ≠ 0)
      let b ← idly decided (climb fuel (if o = "**" then k else k + 1))
      climbFrom fuel least (← settled (apply o a b) r.length)
    | _ => return a

def unary (fuel : Nat) : Eval Int := match fuel with
  | 0 => fail .tooDeep
  | fuel + 1 => do
    match (← get).rest with
    | .op "++" :: .name x :: r =>
      behind r
      let v := wrap ((← valueOf fuel x) + 1)
      put x v
      return v
    | .op "--" :: .name x :: r =>
      behind r
      let v := wrap ((← valueOf fuel x) - 1)
      put x v
      return v
    | .op "-" :: r => behind r; return wrap (-(← unary fuel))
    | .op "+" :: r => behind r; unary fuel
    | .op "!" :: r => behind r; return truth ((← unary fuel) = 0)
    | .op "~" :: r => behind r; return wrap (-(← unary fuel) - 1)
    | .op "(" :: r =>
      behind r
      let v ← comma fuel
      if !(← accept ")") then fail .unclosed
      return v
    | .number n :: r => behind r; return wrap n
    | .name x :: .op "++" :: r =>
      behind r
      let v ← valueOf fuel x
      put x (wrap (v + 1))
      return v
    | .name x :: .op "--" :: r =>
      behind r
      let v ← valueOf fuel x
      put x (wrap (v - 1))
      return v
    | .name x :: r =>
      let v ← valueOf fuel x
      behind r
      return v
    | .bad e :: _ => fail e
    | _ => fail .noOperand

end

def eval (vars : List (String × Bytes)) (e : List Char) :
    Except Failure (Int × List (String × Bytes)) :=
  let start := scopeOf e vars
  if start.rest.isEmpty then .ok (0, vars)
  else match (do
      let n ← comma (20 * start.rest.length + 400)
      if !(← get).rest.isEmpty then fail .leftOver
      return n : Eval Int) start with
    | .ok n s => .ok (n, s.vars)
    | .error f _ => .error f

end ScriptHost.Command.Arithmetic
