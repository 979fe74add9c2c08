import ScriptHost.Chunk.Frame

/-!
The machine that runs a chunk, one small step at a time. A failure is a value; failures of operators
and of most functions are texts that begin with the place where they happened.
-/
namespace ScriptHost.Chunk

def callLimit : Nat := 190000

def position (chunk : Bytes) : Option Nat → Bytes
  | some line => chunk ++ [0x3A] ++ Bytes.ofNat line ++ bytes ": "
  | none => []

def first (vs : List Value) : Value := vs.headD .nil

/-! ## Names in messages -/

def Place.find? (place : Place) (name : Bytes) : Option Binding :=
  List.find? (fun b => b.name == name) place.env

def Expr.known? (place : Place) : Expr → Option Known
  | .var name _ =>
    match place.find? name with
    | some b => some ⟨if b.level = place.level then "local" else "upvalue", name⟩
    | none => some ⟨"global", name⟩
  | .index _ (.str name) _ => some ⟨"field", name⟩
  | .index _ (.number (.int n)) _ =>
    some ⟨"field", bytes (if 0 ≤ n && n ≤ 255 then "integer index" else "?")⟩
  | .index .. => some ⟨"field", bytes "?"⟩
  | .str s => some ⟨"constant", s⟩
  | _ => none

def Known.shown : Option Known → Bytes
  | some k => bytes (" (" ++ k.kind ++ " '") ++ k.name ++ bytes "')"
  | none => []

def wrongType (action typeName : String) (known : Option Known) : Bytes :=
  bytes ("attempt to " ++ action ++ " a " ++ typeName ++ " value") ++ Known.shown known

def OperatorFault.message (a b : Option Known) : OperatorFault → Bytes
  | .wrongType action side typeName =>
    Chunk.wrongType action typeName (match side with
      | .first => a
      | .second => b)
  | .badText typeName => Chunk.wrongType "perform arithmetic on" typeName none
  | .notInteger side =>
    bytes "number" ++ Known.shown (match side with
      | .first => a
      | .second => b) ++ bytes " has no integer representation"
  | .divideByZero => bytes "attempt to divide by zero"
  | .moduloByZero => bytes "attempt to perform 'n%%0'"
  | .notOrdered x y =>
    if x = y then bytes ("attempt to compare two " ++ x ++ " values")
    else bytes ("attempt to compare " ++ x ++ " with " ++ y)

/-- Comparisons that ask for more look at their operands the other way around. -/
def BinaryOp.swaps : BinaryOp → Bool
  | .gt | .ge => true
  | _ => false

/-- Joined texts are put together at once, at the line of the last operator. -/
def lastConcat : Expr → Nat → Nat
  | .binary .concat _ b line, _ => lastConcat b line
  | _, line => line

namespace State

def goOn (s : State) (c : Control) : State := { s with control := c }

def push (s : State) (f : Frame) (c : Control) : State :=
  { s with control := c, frames := f :: s.frames }

def one (s : State) (v : Value) : State := s.goOn (.give [v])

def failAt (chunk : Bytes) (line : Option Nat) (message : Bytes) (s : State) : State :=
  s.goOn (.raise (.str (position chunk line ++ message)))

def globals (s : State) : Table := s.heap.table Heap.globals

/-! ## Variables -/

def valueOf (name : Bytes) (place : Place) (s : State) : Value :=
  match place.find? name with
  | some b => s.heap.cell b.cell
  | none => s.globals.get (.str name)

def bind (name : Bytes) (v : Value) (place : Place) (s : State) : Place × State :=
  let (cell, heap) := s.heap.newCell v
  ({ place with env := ⟨name, cell, place.level⟩ :: place.env }, { s with heap })

def bindAll : List Bytes → List Value → Place → State → Place × State
  | [], _, place, s => (place, s)
  | name :: names, vs, place, s =>
    let (place, s) := s.bind name (first vs) place
    bindAll names vs.tail place s

def newClosure (f : Func) (place : Place) (s : State) : Value × State :=
  let (id, heap) := s.heap.newClosure ⟨f, place.env, place.level + 1⟩
  (.closure id, { s with heap })

/-! ## Tables -/

def lookUp? (object key : Value) (s : State) : Option Value :=
  match object with
  | .table id => some ((s.heap.table id).get key)
  | .str _ => some ((s.heap.table Heap.strings).get key)
  | _ => none

def keyFault? : Value → Option Bytes
  | .nil => some (bytes "table index is nil")
  | .number (.float x) => if x.isNaN then some (bytes "table index is NaN") else none
  | _ => none

def assignKey (object key v : Value) (known : Option Known) (s : State) : Except Bytes State :=
  match object with
  | .table id =>
    match keyFault? key with
    | some message => .error message
    | none => .ok { s with heap := s.heap.setTable id ((s.heap.table id).set key v) }
  | object => .error (wrongType "index" object.typeName known)

def targetParts : List Expr → List Expr
  | [] => []
  | .index o k _ :: ts => .single o :: .single k :: targetParts ts
  | _ :: ts => targetParts ts

def assignAll (place : Place) : List Expr → List Value → List Value → State →
    Except (Nat × Bytes) State
  | .index o _ line :: ts, object :: key :: parts, vs, s => do
    let s ← assignAll place ts parts vs.tail s
    match s.assignKey object key (first vs) (o.known? place) with
    | .ok s => .ok s
    | .error message => .error (line, message)
  | .var name _ :: ts, parts, vs, s => do
    let s ← assignAll place ts parts vs.tail s
    match place.find? name with
    | some b => .ok { s with heap := s.heap.setCell b.cell (first vs) }
    | none =>
      .ok { s with heap := s.heap.setTable Heap.globals (s.globals.set (.str name) (first vs)) }
  | _, _, _, s => .ok s

def batch : Nat := 50

def flush (m : Making) (s : State) : Making × State :=
  let t := (m.waiting.foldr (fun v (t, n) => (t.set (.int (n + 1 : Nat)) v, n + 1))
    (s.heap.table m.id, m.stored)).1
  ({ m with stored := m.stored + m.waiting.length, waiting := [] },
    { s with heap := s.heap.setTable m.id t })

def fill (m : Making) (fields : List Field) (place : Place) (s : State) : State :=
  let (m, s) := if batch ≤ m.waiting.length || fields.isEmpty then s.flush m else (m, s)
  match fields with
  | [] => s.one (.table m.id)
  | .item e :: rest => s.push (.item m rest place) (.eval e place)
  | .keyed k v :: rest => s.push (.entryKey m v rest place) (.eval k place)

/-! ## Expressions and statements -/

def enter (body : List Stat) (place : Place) : Control :=
  .exec body ⟨body, place.env.length⟩ place

def eval (e : Expr) (place : Place) (s : State) : State :=
  match e with
  | .nil => s.one .nil
  | .bool b => s.one (.bool b)
  | .number n => s.one (.number n)
  | .str t => s.one (.str t)
  | .vararg => s.goOn (.give place.varargs)
  | .var name _ => s.one (s.valueOf name place)
  | .index o k line => s.push (.object o k line place) (.eval o place)
  | .call c args line => s.push (.callee c args line false place) (.eval c place)
  | .method o name args line => s.push (.receiver o name args line false place) (.eval o place)
  | .func f =>
    let (v, s) := s.newClosure f place
    s.one v
  | .binary op a b line => s.push (.leftOperand op a b line place) (.eval a place)
  | .unary op a line => s.push (.operand op a line place) (.eval a place)
  | .both a b => s.push (.both b place) (.eval a place)
  | .either a b => s.push (.either b place) (.eval a place)
  | .single a => s.push .single (.eval a place)
  | .table fields line =>
    let (id, heap) := s.heap.newTable {}
    { s with heap, control := .fill ⟨id, 0, [], line⟩ fields place }

def branch (arms : List Arm) (otherwise : List Stat) (place : Place) (s : State) : State :=
  match arms with
  | .mk c body :: arms => s.push (.arm body arms otherwise place) (.eval c place)
  | [] => s.goOn (enter otherwise place)

/-- A call in place of a return takes the place of the function that makes it. -/
def startLeave (es : List Expr) (place : Place) (s : State) : State :=
  let s := { s with frames := .returning :: s.frames }
  match es with
  | [.call c args line] => s.push (.callee c args line true place) (.eval c place)
  | [.method o name args line] => s.push (.receiver o name args line true place) (.eval o place)
  | es => s.goOn (.evalAll es place)

def exec (stats : List Stat) (block : Block) (place : Place) (s : State) : State :=
  match stats with
  | [] => s.goOn (.finish place)
  | .label _ :: rest => s.goOn (.exec rest block place)
  | .locals names es :: rest => s.push (.declare names rest block place) (.evalAll es place)
  | .localFunc name f :: rest =>
    let (place, s) := s.bind name .nil place
    let (v, s) := s.newClosure f place
    let heap := match place.env with
      | b :: _ => s.heap.setCell b.cell v
      | [] => s.heap
    { s with heap, control := .exec rest block place }
  | stat :: rest =>
    let s := { s with frames := .block rest block place :: s.frames }
    match stat with
    | .eval e => s.goOn (.eval e place)
    | .assign ts vs => s.push (.targets ts vs place) (.evalAll (targetParts ts) place)
    | .block body => s.goOn (enter body place)
    | .cond arms otherwise => s.branch arms otherwise place
    | .whileDo c body => s.push (.whileTest c body place) (.eval c place)
    | .repeatUntil body c => s.push (.repeatBody body c place) (enter body place)
    | .forNumber name a b c body line =>
      s.push (.bounds name body line place)
        (.evalAll [.single a, .single b, .single (c.getD (.number (.int 1)))] place)
    | .forEach names es body line => s.push (.iterator names body line place) (.evalAll es place)
    | .leave es => s.startLeave es place
    | .breakLoop => s.goOn .breakLoop
    | .jump label => s.goOn (.jump label)
    | _ => s

/-! ## Loops that count -/

/-- The last whole number that a count may reach; `none` when it cannot begin. -/
def intLimit (limit : Number) (step : Int) : Option Int :=
  match limit with
  | .int n => some n
  | .float x =>
    match (Decimal.integer? (if step < 0 then x.ceil else x.floor)).filter fitsInt with
    | some n => some n
    | none =>
      if 0 < x then (if step < 0 then none else some greatestInt)
      else if 0 < step then none
      else some leastInt

def countLoop (name : Bytes) (i step : Int) (left : Nat) (body : List Stat) (place : Place)
    (s : State) : State :=
  let (inner, s) := s.bind name (.int i) place
  s.push (.intLoop name i step left body place) (enter body inner)

def floatRound (name : Bytes) (x limit step : Float) (body : List Stat) (place : Place)
    (s : State) : State :=
  if (if 0 < step then x ≤ limit else limit ≤ x) then
    let (inner, s) := s.bind name (.float x) place
    s.push (.floatLoop name x limit step body place) (enter body inner)
  else s.goOn (.give [])

def badBound (chunk : Bytes) (line : Nat) (what : String) (v : Value) (s : State) : State :=
  s.failAt chunk (some line)
    (bytes ("bad 'for' " ++ what ++ " (number expected, got " ++ v.typeName ++ ")"))

def startCount (chunk name : Bytes) (body : List Stat) (line : Nat) (place : Place)
    (start limit step : Value) (s : State) : State :=
  match start, step with
  | .number (.int i), .number (.int k) =>
    if k = 0 then s.failAt chunk (some line) (bytes "'for' step is zero")
    else match limit.number? with
    | none => s.badBound chunk line "limit" limit
    | some n =>
      match intLimit n k with
      | none => s.goOn (.give [])
      | some last =>
        if (if 0 < k then last < i else i < last) then s.goOn (.give [])
        else s.countLoop name i k ((last - i).natAbs / k.natAbs) body place
  | start, step =>
    match limit.number?, step.number?, start.number? with
    | none, _, _ => s.badBound chunk line "limit" limit
    | _, none, _ => s.badBound chunk line "step" step
    | _, _, none => s.badBound chunk line "initial value" start
    | some n, some k, some i =>
      if k.asFloat == 0 then s.failAt chunk (some line) (bytes "'for' step is zero")
      else s.floatRound name i.asFloat n.asFloat k.asFloat body place

/-! ## Calls -/

/-- The line of the call at a level: the call itself is on the first, the call of its function on
the second. -/
def lineAt (site : Site) (level : Nat) (frames : List Frame) : Option Nat :=
  match level with
  | 0 => none
  | 1 => site.line
  | n + 2 => ((frames.filterMap Frame.callLine?)[n]?).join

def badArgument (b : Builtin) (site : Site) (number : Nat) (reason : String) : Bytes :=
  let close := bytes (" (" ++ reason ++ ")")
  let about (n : Nat) (name : Bytes) : Bytes :=
    bytes "bad argument #" ++ Bytes.ofNat n ++ bytes " to '" ++ name ++ [0x27] ++ close
  match site.known with
  | some k =>
    if k.kind = "method" then
      if number ≤ 1 then bytes "calling '" ++ k.name ++ bytes "' on bad self" ++ close
      else about (number - 1) k.name
    else about number k.name
  | none => about number (bytes (Library.fullName b))

def applyBuiltin (chunk : Bytes) (b : Builtin) (args : List Value) (site : Site) (s : State) :
    State :=
  match Library.call b args s.heap with
  | .values vs heap => { s with heap, control := .give vs }
  | .log line => { s with logs := line :: s.logs, control := .give [] }
  | .thrown v => s.goOn (.raise v)
  | .failed message level => s.failAt chunk (lineAt site level s.frames) message
  | .badArgument number reason => s.failAt chunk site.line (badArgument b site number reason)
  | .protect f args => s.push (.protect site.line) (.apply f args ⟨none, none⟩ false)

/-- Enters a function of the chunk. Instead of a return, its frames take the place of those of the
function that calls it. -/
def applyClosure (chunk : Bytes) (c : Closure) (args : List Value) (site : Site) (tail : Bool)
    (s : State) : State :=
  if !tail && callLimit ≤ s.depth then s.failAt chunk site.line (bytes "stack overflow")
  else
    let .mk params variadic body := c.func
    let s :=
      if tail then { s with frames := s.frames.dropWhile fun f => !f.isBoundary }
      else { s with frames := .boundary site.line :: s.frames, depth := s.depth + 1 }
    let place : Place := ⟨c.env, c.level, if variadic then args.drop params.length else []⟩
    let (place, s) := s.bindAll params args place
    s.goOn (enter body place)

def apply (chunk : Bytes) (f : Value) (args : List Value) (site : Site) (tail : Bool)
    (s : State) : State :=
  match f with
  | .closure id => s.applyClosure chunk (s.heap.closures.getD id default) args site tail
  | .builtin b => s.applyBuiltin chunk b args site
  | f => s.failAt chunk site.line (wrongType "call" f.typeName site.known)

/-! ## Values that frames wait for -/

def operate (chunk : Bytes) (line : Nat) (a b : Option Known) (result : Operation) (s : State) :
    State :=
  match result with
  | .ok v => s.one v
  | .error fault => s.failAt chunk (some line) (fault.message a b)

def iterate (f state control : Value) (names : List Bytes) (body : List Stat) (line : Nat)
    (place : Place) (s : State) : State :=
  s.push (.iterated names f state body line place)
    (.apply f [state, control] ⟨some line, some ⟨"for iterator", bytes "for iterator"⟩⟩ false)

def resume (chunk : Bytes) (frame : Frame) (vs : List Value) (s : State) : State :=
  let v := first vs
  match frame with
  | .leftOperand op a b line place => s.push (.rightOperand op v a b line place) (.eval b place)
  | .rightOperand op x a b line place =>
    let (ka, kb) := if op.swaps then (b.known? place, a.known? place)
      else (a.known? place, b.known? place)
    s.operate chunk (if op = .concat then lastConcat b line else line) ka kb (binary op x v)
  | .operand op a line place => s.operate chunk line (a.known? place) none (unary s.heap op v)
  | .both b place => if v.truthy then s.push .single (.eval b place) else s.one v
  | .either b place => if v.truthy then s.one v else s.push .single (.eval b place)
  | .single => s.one v
  | .object e k line place => s.push (.key v e line place) (.eval k place)
  | .key object e line place =>
    match s.lookUp? object v with
    | some w => s.one w
    | none => s.failAt chunk (some line) (wrongType "index" object.typeName (e.known? place))
  | .callee e args line tail place =>
    s.push (.arguments v [] ⟨some line, e.known? place⟩ tail) (.evalAll args place)
  | .receiver e name args line tail place =>
    match s.lookUp? v (.str name) with
    | some f =>
      s.push (.arguments f [v] ⟨some line, some ⟨"method", name⟩⟩ tail) (.evalAll args place)
    | none => s.failAt chunk (some line) (wrongType "index" v.typeName (e.known? place))
  | .arguments f self site tail => s.goOn (.apply f (self ++ vs) site tail)
  | .collect done [] _ => s.goOn (.give (done.reverse ++ vs))
  | .collect done (e :: es) place => s.push (.collect (v :: done) es place) (.eval e place)
  | .item m [] place => s.goOn (.fill { m with waiting := vs.reverse ++ m.waiting } [] place)
  | .item m fields place => s.goOn (.fill { m with waiting := v :: m.waiting } fields place)
  | .entryKey m value fields place => s.push (.entryValue m v fields place) (.eval value place)
  | .entryValue m key fields place =>
    match s.assignKey (.table m.id) key v none with
    | .ok s => s.goOn (.fill m fields place)
    | .error message => s.failAt chunk (some m.line) message
  | .block stats block place => s.goOn (.exec stats block place)
  | .declare names stats block place =>
    let (place, s) := s.bindAll names vs place
    s.goOn (.exec stats block place)
  | .targets ts values place => s.push (.store ts vs place) (.evalAll values place)
  | .store ts parts place =>
    match s.assignAll place ts parts vs with
    | .ok s => s.goOn (.give [])
    | .error (line, message) => s.failAt chunk (some line) message
  | .arm body arms otherwise place =>
    if v.truthy then s.goOn (enter body place) else s.branch arms otherwise place
  | .whileTest c body place =>
    if v.truthy then s.push (.whileBody c body place) (enter body place) else s.goOn (.give [])
  | .whileBody c body place => s.push (.whileTest c body place) (.eval c place)
  | .repeatBody body c place => s.push (.repeatTest body c place) (.eval c place)
  | .repeatTest body c place =>
    if v.truthy then s.goOn (.give []) else s.push (.repeatBody body c place) (enter body place)
  | .bounds name body line place =>
    s.startCount chunk name body line place v (vs.getD 1 .nil) (vs.getD 2 .nil)
  | .intLoop _ _ _ 0 _ _ => s.goOn (.give [])
  | .intLoop name i k (left + 1) body place => s.countLoop name (i + k) k left body place
  | .floatLoop name x limit k body place => s.floatRound name (x + k) limit k body place
  | .iterator names body line place =>
    s.iterate v (vs.getD 1 .nil) (vs.getD 2 .nil) names body line place
  | .iterated names f state body line place =>
    if v.isNil then s.goOn (.give [])
    else
      let (inner, s) := s.bindAll names vs place
      s.push (.eachBody names f state v body line place) (enter body inner)
  | .eachBody names f state control body line place =>
    s.iterate f state control names body line place
  | .returning => s.goOn (.leave vs)
  | .boundary _ => { s with depth := s.depth - 1, control := .give [] }
  | .protect _ => s.goOn (.give (.bool true :: vs))

/-! ## Ways out -/

def leave (vs : List Value) (s : State) : State :=
  match s.frames.dropWhile fun f => !f.isBoundary with
  | _ :: frames => { s with frames, depth := s.depth - 1, control := .give vs }
  | [] => { s with frames := [], control := .halt (.ok vs) }

def raise (v : Value) (s : State) : State :=
  let left := s.frames.takeWhile fun f => !f.isProtect
  let depth := s.depth - left.countP Frame.isBoundary
  match s.frames.drop left.length with
  | _ :: frames => { s with frames, depth, control := .give [.bool false, v] }
  | [] => { s with frames := [], depth, control := .halt (.error v) }

def breakLoop (s : State) : State :=
  { s with
    frames := (s.frames.dropWhile fun f => !f.isLoop).drop 1
    control := .give [] }

def declared (stats : List Stat) : Nat :=
  stats.foldl (fun n s => n + match s with
    | .locals names _ => names.length
    | .localFunc _ _ => 1
    | _ => 0) 0

def isLabel (label : Bytes) : Stat → Bool
  | .label name => name == label
  | _ => false

/-- Goes on behind a label of the innermost block that has it. -/
def jump (label : Bytes) (s : State) : State :=
  match s.frames with
  | .block _ block place :: frames =>
    match block.all.dropWhile fun stat => !isLabel label stat with
    | _ :: rest =>
      let before := block.all.takeWhile fun stat => !isLabel label stat
      let seen := block.base + declared before
      let place := { place with env := place.env.drop (place.env.length - seen) }
      { s with frames, control := .exec rest block place }
    | [] => { s with frames }
  | _ :: frames => { s with frames }
  | [] => s.goOn (.halt (.ok []))

/-- The end of a block; a condition behind it sees its variables. -/
def finish (place : Place) (s : State) : State :=
  match s.frames with
  | .repeatBody body c outer :: frames =>
    { s with frames := .repeatTest body c outer :: frames, control := .eval c place }
  | _ => s.goOn (.give [])

def step (chunk : Bytes) (s : State) : State :=
  match s.control with
  | .eval e place => s.eval e place
  | .evalAll [] _ => s.goOn (.give [])
  | .evalAll (e :: es) place => s.push (.collect [] es place) (.eval e place)
  | .exec stats block place => s.exec stats block place
  | .fill m fields place => s.fill m fields place
  | .give vs =>
    match s.frames with
    | frame :: frames => resume chunk frame vs { s with frames }
    | [] => s.goOn (.halt (.ok vs))
  | .finish place => s.finish place
  | .apply f args site tail => s.apply chunk f args site tail
  | .raise v => s.raise v
  | .leave vs => s.leave vs
  | .breakLoop => s.breakLoop
  | .jump label => s.jump label
  | .halt _ => s

end State

end ScriptHost.Chunk
