import ScriptHost.Chunk.Token
import ScriptHost.Chunk.Tree

/-!
Reading a chunk. The first thing that does not fit is reported with the line that has been reached
and the token that was met. Jumps are matched with their labels on the way.
-/
namespace ScriptHost.Chunk

inductive ParseFault where
  | malformed (line : Nat) (message : Bytes)
  | tooDeep
  deriving DecidableEq, Repr

/-- A jump that has not met its label yet, and the number of variables it can see. -/
structure Pending where
  label : Bytes
  line : Nat
  active : Nat

structure LabelMark where
  name : Bytes
  line : Nat

structure Scope where
  variadic : Bool
  locals : List (Bytes × Bool) := []
  labels : List LabelMark := []
  pending : List Pending := []

structure ParseState where
  current : Token
  line : Nat
  lastLine : Nat
  rest : List Scan
  depth : Nat
  scope : Scope
  outer : List Scope

abbrev Parse := EStateM ParseFault ParseState

namespace Parse

def breakLabel : Bytes := bytes "break"

def depthLimit : Nat := 200

def near (message shown : Bytes) : Bytes := message ++ bytes " near " ++ shown

def failNear {α : Type} (message : Bytes) : Parse α := do
  let s ← get
  throw (.malformed s.line (near message s.current.shown))

def fail {α : Type} (message : Bytes) : Parse α := do
  let s ← get
  throw (.malformed s.line message)

def failFault {α : Type} (message shown : Bytes) (line : Nat) : Parse α :=
  throw (.malformed line (near message shown))

def advance : Parse Unit := do
  let s ← get
  match s.rest with
  | .token t line :: rest => set { s with current := t, line, lastLine := s.line, rest }
  | .fault message shown line :: _ => failFault message shown line
  | [] => set { s with current := .eof, lastLine := s.line }

def peek : Parse Token := do
  match (← get).rest with
  | .token t _ :: _ => return t
  | .fault message shown line :: _ => failFault message shown line
  | [] => return .eof

def isFixed (text : String) : Parse Bool := do
  match (← get).current with
  | .fixed t => return t == text
  | _ => return false

def isByte (c : Char) : Parse Bool := do
  match (← get).current with
  | .byte b => return b.toNat == c.toNat
  | _ => return false

def isAt (text : String) : Parse Bool :=
  match text.toList with
  | [c] => isByte c
  | _ => isFixed text

def accept (text : String) : Parse Bool := do
  if ← isAt text then advance; return true
  return false

def shownText (text : String) : Bytes := Token.quoted (bytes text)

def expect (text : String) : Parse Unit := do
  if !(← accept text) then failNear (shownText text ++ bytes " expected")

def expectMatch (closing opening : String) (line : Nat) : Parse Unit := do
  if ← accept closing then return ()
  if line = (← get).line then failNear (shownText closing ++ bytes " expected")
  else failNear (shownText closing ++ bytes " expected (to close " ++ shownText opening
    ++ bytes " at line " ++ Bytes.ofNat line ++ [0x29])

def expectName : Parse Bytes := do
  match (← get).current with
  | .name n => advance; return n
  | _ => failNear (bytes "<name> expected")

def deeper {α : Type} (p : Parse α) : Parse α := do
  let d := (← get).depth + 1
  if depthLimit ≤ d then throw .tooDeep
  modify fun s => { s with depth := d }
  let a ← p
  modify fun s => { s with depth := d - 1 }
  return a

def modifyScope (f : Scope → Scope) : Parse Unit := modify fun s => { s with scope := f s.scope }

def declare (name : Bytes) (constant : Bool) : Parse Unit :=
  modifyScope fun s => { s with locals := (name, constant) :: s.locals }

def declareAll (names : List Bytes) : Parse Unit := names.forM fun n => declare n false

def failJump {α : Type} (j : Pending) : Parse α :=
  if j.label = breakLabel then
    fail (bytes "break outside a loop at line " ++ Bytes.ofNat j.line)
  else
    fail (bytes "no visible label '" ++ j.label ++ bytes "' for <goto> at line "
      ++ Bytes.ofNat j.line)

/-- Reads the inside of a block. Its variables and labels end with it, and the breaks of a loop are
answered by it; other jumps look further outside. -/
def inBlock {α : Type} (isLoop : Bool) (p : Parse α) : Parse α := do
  let before := (← get).scope
  modifyScope fun s => { s with pending := [] }
  let a ← p
  modifyScope fun s =>
    let left := if isLoop then s.pending.filter (·.label ≠ breakLabel) else s.pending
    let active := before.locals.length
    { s with
      locals := before.locals, labels := before.labels
      pending := before.pending ++ left.map fun j => { j with active := min j.active active } }
  return a

def inFunction {α : Type} (variadic : Bool) (p : Parse α) : Parse α := do
  let s ← get
  set { s with scope := { variadic }, outer := s.scope :: s.outer }
  let a ← p
  match (← get).scope.pending with
  | j :: _ => failJump j
  | [] =>
    modify fun t => { t with scope := s.scope, outer := s.outer }
    return a

def isConstant (name : Bytes) : Parse Bool := do
  let s ← get
  let known := (s.scope :: s.outer).flatMap Scope.locals
  match known.find? fun (n, _) => n = name with
  | some (_, constant) => return constant
  | none => return false

def checkAssignable (target : Expr) : Parse Unit := do
  match target with
  | .var name _ =>
    if ← isConstant name then
      fail (bytes "attempt to assign to const variable '" ++ name ++ [0x27])
  | _ => return ()

def addJump (label : Bytes) (line : Nat) : Parse Unit :=
  modifyScope fun s =>
    { s with pending := s.pending ++ [⟨label, line, s.locals.length⟩] }

/-- A `goto` is answered at once by a label that stands before it. -/
def jumpTo (label : Bytes) (line : Nat) : Parse Unit := do
  let known := (← get).scope.labels
  if known.any (·.name = label) then return () else addJump label line

def addLabel (name : Bytes) (line : Nat) (last : Bool) (blockActive : Nat) : Parse Unit := do
  let s := (← get).scope
  match s.labels.find? (·.name = name) with
  | some l =>
    fail (bytes "label '" ++ name ++ bytes "' already defined on line " ++ Bytes.ofNat l.line)
  | none => pure ()
  let active := if last then blockActive else s.locals.length
  match s.pending.find? fun j => j.label = name && j.active < active with
  | some j =>
    let hidden := (s.locals.reverse[j.active]?.map (·.1)).getD []
    fail (bytes "<goto " ++ name ++ bytes "> at line " ++ Bytes.ofNat j.line
      ++ bytes " jumps into the scope of local '" ++ hidden ++ [0x27])
  | none =>
    modifyScope fun s =>
      { s with
        labels := ⟨name, line⟩ :: s.labels
        pending := s.pending.filter (·.label ≠ name) }

def blockEnds (withUntil : Bool) : Parse Bool := do
  match (← get).current with
  | .eof => return true
  | .fixed t => return t ∈ ["else", "elseif", "end"] || (withUntil && t == "until")
  | _ => return false

structure Operator where
  text : String
  left : Nat
  right : Nat
  make : Expr → Expr → Nat → Expr

def operators : List Operator :=
  let op (o : BinaryOp) : Expr → Expr → Nat → Expr := .binary o
  [⟨"+", 10, 10, op .add⟩, ⟨"-", 10, 10, op .sub⟩, ⟨"*", 11, 11, op .mul⟩, ⟨"%", 11, 11, op .mod⟩,
    ⟨"^", 14, 13, op .pow⟩, ⟨"/", 11, 11, op .div⟩, ⟨"//", 11, 11, op .idiv⟩,
    ⟨"&", 6, 6, op .band⟩, ⟨"|", 4, 4, op .bor⟩, ⟨"~", 5, 5, op .bxor⟩,
    ⟨"<<", 7, 7, op .shl⟩, ⟨">>", 7, 7, op .shr⟩, ⟨"..", 9, 8, op .concat⟩,
    ⟨"==", 3, 3, op .eq⟩, ⟨"<", 3, 3, op .lt⟩, ⟨"<=", 3, 3, op .le⟩,
    ⟨"~=", 3, 3, op .ne⟩, ⟨">", 3, 3, op .gt⟩, ⟨">=", 3, 3, op .ge⟩,
    ⟨"and", 2, 2, fun a b _ => .both a b⟩, ⟨"or", 1, 1, fun a b _ => .either a b⟩]

def unaryStrength : Nat := 12

def operator? : Parse (Option Operator) := do
  match (← get).current with
  | .fixed t => return operators.find? (·.text == t)
  | .byte b => return operators.find? (·.text == String.ofList [Char.ofNat b.toNat])
  | _ => return none

def unary? : Parse (Option UnaryOp) := do
  if ← isAt "not" then return some .not
  if ← isAt "-" then return some .neg
  if ← isAt "~" then return some .bnot
  if ← isAt "#" then return some .len
  return none

def qualifier : Parse Bool := do
  if !(← accept "<") then return false
  let a ← expectName
  expect ">"
  if a = bytes "const" || a = bytes "close" then return true
  fail (bytes "unknown attribute '" ++ a ++ [0x27])

def param (name : Bytes) (line : Nat) : Expr := .var name line

mutual

/-- An expression whose operators bind more strongly than `limit`; all operators bind more strongly
than 0. -/
def subexpr (fuel limit : Nat) : Parse Expr := match fuel with
  | 0 => throw .tooDeep
  | fuel + 1 => deeper do
    let first ← match ← unary? with
      | some op => do
        let line := (← get).line
        advance
        let a ← subexpr fuel unaryStrength
        pure (.unary op a line)
      | none => simple fuel
    operands fuel limit first

def operands (fuel limit : Nat) (a : Expr) : Parse Expr := match fuel with
  | 0 => throw .tooDeep
  | fuel + 1 => do
    match ← operator? with
    | none => return a
    | some op =>
      if op.left ≤ limit then return a
      let line := (← get).line
      advance
      let b ← subexpr fuel op.right
      operands fuel limit (op.make a b line)

def simple (fuel : Nat) : Parse Expr := match fuel with
  | 0 => throw .tooDeep
  | fuel + 1 => do
    match (← get).current with
    | .number n _ => advance; return .number n
    | .str s _ => advance; return .str s
    | .fixed "nil" => advance; return .nil
    | .fixed "true" => advance; return .bool true
    | .fixed "false" => advance; return .bool false
    | .fixed "..." =>
      if !(← get).scope.variadic then
        failNear (bytes "cannot use '...' outside a vararg function")
      advance
      return .vararg
    | .fixed "function" => do
      let line := (← get).line
      advance
      return .func (← funcBody fuel false line)
    | .byte 0x7B => table fuel
    | _ => suffixed fuel

def primary (fuel : Nat) : Parse Expr := match fuel with
  | 0 => throw .tooDeep
  | fuel + 1 => do
    let line := (← get).line
    match (← get).current with
    | .name n => advance; return .var n line
    | .byte 0x28 => do
      advance
      let e ← subexpr fuel 0
      expectMatch ")" "(" line
      return .single e
    | _ => failNear (bytes "unexpected symbol")

def suffixed (fuel : Nat) : Parse Expr := match fuel with
  | 0 => throw .tooDeep
  | fuel + 1 => do
    let e ← primary fuel
    suffixes fuel e

def suffixes (fuel : Nat) (e : Expr) : Parse Expr := match fuel with
  | 0 => throw .tooDeep
  | fuel + 1 => do
    match (← get).current with
    | .byte 0x2E => do
      advance
      let line := (← get).line
      let n ← expectName
      suffixes fuel (.index e (.str n) line)
    | .byte 0x5B => do
      advance
      let k ← subexpr fuel 0
      let line := (← get).line
      expect "]"
      suffixes fuel (.index e k line)
    | .byte 0x3A => do
      advance
      let n ← expectName
      let line := (← get).line
      let args ← arguments fuel
      suffixes fuel (.method e n args line)
    | .byte 0x28 | .byte 0x7B | .str .. => do
      let line := (← get).line
      let args ← arguments fuel
      suffixes fuel (.call e args line)
    | _ => return e

def arguments (fuel : Nat) : Parse (List Expr) := match fuel with
  | 0 => throw .tooDeep
  | fuel + 1 => do
    let line := (← get).line
    match (← get).current with
    | .str s _ => advance; return [.str s]
    | .byte 0x7B => do
      let t ← table fuel
      return [t]
    | .byte 0x28 => do
      advance
      if ← accept ")" then return []
      let es ← exprs fuel
      expectMatch ")" "(" line
      return es
    | _ => failNear (bytes "function arguments expected")

def exprs (fuel : Nat) : Parse (List Expr) := match fuel with
  | 0 => throw .tooDeep
  | fuel + 1 => do
    let e ← subexpr fuel 0
    if ← accept "," then
      let es ← exprs fuel
      return e :: es
    return [e]

def table (fuel : Nat) : Parse Expr := match fuel with
  | 0 => throw .tooDeep
  | fuel + 1 => do
    let line := (← get).line
    expect "\x7b"
    let fs ← fields fuel
    expectMatch "\x7d" "\x7b" line
    return .table fs line

def fields (fuel : Nat) : Parse (List Field) := match fuel with
  | 0 => throw .tooDeep
  | fuel + 1 => do
    if ← isAt "\x7d" then return []
    let f ← field fuel
    if (← accept ",") || (← accept ";") then
      let fs ← fields fuel
      return f :: fs
    return [f]

def field (fuel : Nat) : Parse Field := match fuel with
  | 0 => throw .tooDeep
  | fuel + 1 => do
    match (← get).current with
    | .name n => do
      match ← peek with
      | .byte 0x3D => do
        advance
        advance
        return .keyed (.str n) (← subexpr fuel 0)
      | _ => return .item (← subexpr fuel 0)
    | .byte 0x5B => do
      advance
      let k ← subexpr fuel 0
      expect "]"
      expect "="
      return .keyed k (← subexpr fuel 0)
    | _ => return .item (← subexpr fuel 0)

def params (fuel : Nat) : Parse (List Bytes × Bool) := match fuel with
  | 0 => throw .tooDeep
  | fuel + 1 => do
    match (← get).current with
    | .name n => do
      advance
      if ← accept "," then
        let (ns, variadic) ← params fuel
        return (n :: ns, variadic)
      return ([n], false)
    | .fixed "..." => advance; return ([], true)
    | _ => failNear (bytes "<name> or '...' expected")

def funcBody (fuel : Nat) (isMethod : Bool) (line : Nat) : Parse Func := match fuel with
  | 0 => throw .tooDeep
  | fuel + 1 => do
    inFunction false do
      expect "("
      let (names, variadic) ← if ← isAt ")" then pure ([], false) else params fuel
      expect ")"
      let names := if isMethod then bytes "self" :: names else names
      modifyScope fun s => { s with variadic }
      declareAll names
      let body ← stats fuel 0
      expectMatch "end" "function" line
      return .mk names variadic body

def stats (fuel active : Nat) : Parse (List Stat) := match fuel with
  | 0 => throw .tooDeep
  | fuel + 1 => do
    if ← blockEnds true then return []
    if ← isAt "return" then
      stat fuel active
    else
      let s ← stat fuel active
      let rest ← stats fuel active
      return s ++ rest

def blockBody (fuel : Nat) (isLoop : Bool) : Parse (List Stat) := match fuel with
  | 0 => throw .tooDeep
  | fuel + 1 => do
    let active := (← get).scope.locals.length
    inBlock isLoop (stats fuel active)

def stat (fuel active : Nat) : Parse (List Stat) := match fuel with
  | 0 => throw .tooDeep
  | fuel + 1 => deeper do
    let line := (← get).line
    match (← get).current with
    | .byte 0x3B => advance; return []
    | .fixed "if" => do
      let arms ← arms fuel line
      return [arms]
    | .fixed "while" => do
      advance
      let c ← subexpr fuel 0
      expect "do"
      let body ← blockBody fuel true
      expectMatch "end" "while" line
      return [.whileDo c body]
    | .fixed "do" => do
      advance
      let body ← blockBody fuel false
      expectMatch "end" "do" line
      return [.block body]
    | .fixed "for" => do
      let s ← forLoop fuel line
      return [s]
    | .fixed "repeat" => do
      advance
      let s ← inBlock true (inBlock false do
        let body ← stats fuel (← get).scope.locals.length
        expectMatch "until" "repeat" line
        let c ← subexpr fuel 0
        return .repeatUntil body c)
      return [s]
    | .fixed "function" => do
      advance
      let name ← expectName
      let (target, isMethod) ← funcName fuel (.var name line)
      let f ← funcBody fuel isMethod line
      checkAssignable target
      return [.assign [target] [.func f]]
    | .fixed "local" => do
      advance
      if ← accept "function" then
        let name ← expectName
        declare name false
        let f ← funcBody fuel false (← get).line
        return [.localFunc name f]
      let names ← localNames fuel
      let values ← if ← accept "=" then exprs fuel else pure []
      names.forM fun (n, constant) => declare n constant
      return [.locals (names.map (·.1)) values]
    | .fixed "::" => do
      advance
      let name ← expectName
      expect "::"
      let more ← noOps fuel active
      addLabel name line (← blockEnds false) active
      return .label name :: more
    | .fixed "return" => do
      advance
      let values ← if (← blockEnds true) || (← isAt ";") then pure [] else exprs fuel
      let _ ← accept ";"
      return [.leave values]
    | .fixed "break" => do
      advance
      addJump breakLabel line
      return [.breakLoop]
    | .fixed "goto" => do
      advance
      let line := (← get).line
      let name ← expectName
      jumpTo name line
      return [.jump name]
    | _ => do
      let e ← suffixed fuel
      if (← isAt "=") || (← isAt ",") then
        let s ← assignment fuel [e]
        return [s]
      if !e.isCall then failNear (bytes "syntax error")
      return [.eval e]

def noOps (fuel active : Nat) : Parse (List Stat) := match fuel with
  | 0 => throw .tooDeep
  | fuel + 1 => do
    if (← isAt ";") || (← isAt "::") then
      let s ← stat fuel active
      let rest ← noOps fuel active
      return s ++ rest
    return []

def assignment (fuel : Nat) (targets : List Expr) : Parse Stat := match fuel with
  | 0 => throw .tooDeep
  | fuel + 1 => do
    match targets with
    | [] => failNear (bytes "syntax error")
    | e :: _ =>
      if !e.isTarget then failNear (bytes "syntax error")
      checkAssignable e
      if ← accept "," then
        let next ← suffixed fuel
        deeper (assignment fuel (next :: targets))
      else
        expect "="
        let values ← exprs fuel
        return .assign targets.reverse values

def arms (fuel line : Nat) : Parse Stat := match fuel with
  | 0 => throw .tooDeep
  | fuel + 1 => do
    advance
    let c ← subexpr fuel 0
    expect "then"
    let body ← blockBody fuel false
    let first : Arm := .mk c body
    if ← isAt "elseif" then
      match ← arms fuel line with
      | .cond rest otherwise => return .cond (first :: rest) otherwise
      | s => return .cond [first] [s]
    if ← accept "else" then
      let otherwise ← blockBody fuel false
      expectMatch "end" "if" line
      return .cond [first] otherwise
    expectMatch "end" "if" line
    return .cond [first] []

def forLoop (fuel line : Nat) : Parse Stat := match fuel with
  | 0 => throw .tooDeep
  | fuel + 1 => do
    advance
    let name ← expectName
    inBlock true do
      match (← get).current with
      | .byte 0x3D => do
        advance
        let start ← subexpr fuel 0
        expect ","
        let limit ← subexpr fuel 0
        let step ← if ← accept "," then some <$> subexpr fuel 0 else pure none
        let body ← forBody fuel [name] line
        return .forNumber name start limit step body line
      | .byte 0x2C | .fixed "in" => do
        let more ← moreNames fuel
        expect "in"
        let values ← exprs fuel
        let body ← forBody fuel (name :: more) line
        return .forEach (name :: more) values body line
      | _ => failNear (bytes "'=' or 'in' expected")

def moreNames (fuel : Nat) : Parse (List Bytes) := match fuel with
  | 0 => throw .tooDeep
  | fuel + 1 => do
    if ← accept "," then
      let n ← expectName
      let ns ← moreNames fuel
      return n :: ns
    return []

def forBody (fuel : Nat) (names : List Bytes) (line : Nat) : Parse (List Stat) := match fuel with
  | 0 => throw .tooDeep
  | fuel + 1 => do
    expect "do"
    let body ← inBlock false do
      let active := (← get).scope.locals.length
      declareAll names
      stats fuel (active + names.length)
    expectMatch "end" "for" line
    return body

def funcName (fuel : Nat) (e : Expr) : Parse (Expr × Bool) := match fuel with
  | 0 => throw .tooDeep
  | fuel + 1 => do
    let line := (← get).line
    if ← accept "." then
      let n ← expectName
      funcName fuel (.index e (.str n) line)
    else if ← accept ":" then
      let n ← expectName
      return (.index e (.str n) line, true)
    else return (e, false)

def localNames (fuel : Nat) : Parse (List (Bytes × Bool)) := match fuel with
  | 0 => throw .tooDeep
  | fuel + 1 => do
    let n ← expectName
    let constant ← qualifier
    if ← accept "," then
      let ns ← localNames fuel
      return (n, constant) :: ns
    return [(n, constant)]

end

def chunk (fuel : Nat) : Parse Func := do
  advance
  inFunction true do
    let body ← stats fuel 0
    match (← get).current with
    | .eof => return .mk [] true body
    | _ => failNear (bytes "<eof> expected")

end Parse

/-- Reads a chunk. The number of calls between two tokens bounds the fuel. -/
def parse (source : Bytes) : Except ParseFault Func :=
  let scans := Scan.all source
  let start : ParseState := ⟨.eof, 1, 1, scans, 0, { variadic := true }, []⟩
  match Parse.chunk (20 * scans.length + 100) start with
  | .ok f _ => .ok f
  | .error e _ => .error e

end ScriptHost.Chunk
