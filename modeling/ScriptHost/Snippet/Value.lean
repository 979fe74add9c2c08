import ScriptHost.Snippet.Tree
import ScriptHost.Text.Utf8
import ScriptHost.Decimal.Exact

/-!
The values of a running script. Whatever can change, or is known by its identity, is a thing, which
stands in a heap under a number; values refer to things by these numbers.
-/
namespace ScriptHost.Snippet

inductive Value where
  /-- No value at all: a gap, or a name that has been declared and not yet set. -/
  | absent
  | undefined
  | nothing
  | truth (b : Bool)
  | int (n : Int)
  | float (x : Float)
  | str (s : String)
  | bytes (b : Bytes)
  | native (name : String)
  | bound (name : String) (self : Value)
  | ref (id : Nat)

instance : Inhabited Value := ⟨.absent⟩

namespace Value

def isAbsent : Value → Bool
  | .absent => true
  | _ => false

/-- The same value, or the same thing; a number that is not a number is never the same. -/
def same : Value → Value → Bool
  | .undefined, .undefined | .nothing, .nothing => true
  | .truth a, .truth b => a = b
  | .int a, .int b => a = b
  | .float a, .float b => a == b
  | .str a, .str b => a = b
  | .bytes a, .bytes b => a = b
  | .native a, .native b => a = b
  | .bound a x, .bound b y => a = b && same x y
  | .ref a, .ref b => a = b
  | _, _ => false

end Value

/-- What is known of a function of a script. -/
structure Code where
  name : String
  params : List Node
  body : Node
  manner : List String := []
  scope : Nat
  defaults : List Value := []
  own : List String := []
  outermost : List String := []
  home : Value := .absent
  hidden : Bool := false

def Code.is (c : Code) (word : String) : Bool := c.manner.contains word

structure Entry where
  /-- Keys that are equal have the same mark. -/
  mark : String
  key : Value
  value : Value
  deriving Inhabited

inductive Shape where
  | list | tuple | set | dict
  | object | instanceOf
  | func | classOf
  | generator
  | iterator
  | promise
  | module
  | pattern
  | file
  | accessor
  | error
  deriving DecidableEq, Repr

inductive Place where
  | var (name : String) (scope : Nat)
  | attr (object : Value) (name : String)
  | index (object key : Value)

inductive Giving where
  | assigned
  | declared (word : String)
  deriving DecidableEq

/-- What a loop goes through. -/
inductive Source where
  | items (vs : List Value)
  | list (id position : Nat)
  | range (i step : Int) (left : Nat)
  | generator (id : Nat)
  deriving Inhabited

inductive Leaving where
  | value (v : Value)
  | breakLoop (label : String)
  | continueLoop (label : String)
  | link
  | failure (v : Value)
  deriving Inhabited

inductive Phase where
  | start | test | body | step
  deriving DecidableEq

/-- Arguments of a call under way: what is called, for whom, and what has been worked out, the last
one first, with the names that were given. -/
structure Calling where
  f : Value
  this : Value
  node : Node
  done : List (String × Value) := []

/-- What is still to be done with a value that is being worked out. -/
inductive Frame where
  | parts (node : Node) (scope : Nat) (done : List Value) (rest : List Node)
  | spreading (node : Node) (scope : Nat) (done : List Value) (rest : List Node)
  | callee (node : Node) (scope : Nat) (this : Value)
  | calleeObject (node : Node) (scope : Nat)
  | calleeKey (node : Node) (scope : Nat) (object : Value)
  | arguments (c : Calling) (scope : Nat) (rest : List Node)
  | spreadingArguments (c : Calling) (scope : Nat) (rest : List Node)
  | applying (f this : Value) (args : List Value) (named : List (String × Value))
  | next (rest : List Node) (scope : Nat)
  | choice (node : Node) (scope : Nat)
  | chain (scope : Nat) (rest : List Node)
  | compared (scope : Nat) (left : Value) (op : String) (rest : List Node)
  | looping (phase : Phase) (node : Node) (scope : Nat) (label : String)
  | eachSource (node : Node) (scope : Nat) (label : String)
  | eachValue (node : Node) (scope : Nat) (label : String) (source : Source)
  | eachBody (node : Node) (scope : Nat) (label : String) (source : Source)
  | labelled (label : String)
  | storing (targets : List Node) (scope : Nat)
  | binding (target : Node) (giving : Giving) (scope : Nat)
  | bindNext (pairs : List (Node × Value)) (giving : Giving) (scope : Nat)
  | target (node : Node) (value : Value) (scope : Nat) (done : List Value) (rest : List Node)
  | placing (node : Node) (scope : Nat) (done : List Value) (rest : List Node)
  | reading (node : Node) (scope : Nat) (place : Place)
  | combining (node : Node) (scope : Nat) (place : Place) (old : Value)
  | putting (place : Place) (result : Value)
  | maybe
  | leaving
  | raising
  | guarded (node : Node) (scope : Nat)
  | matching (node : Node) (scope : Nat) (failure : Value) (handlers : List Node)
  | handling (node : Node) (scope : Nat) (failure : Value) (name : String)
  /-- What comes in any case is under way; then things go on as they were going before. -/
  | resuming (how : Leaving) (line : Nat)
  | finishing (node : Node) (scope : Nat)
  | boundary (line : Nat) (name : String) (hidden : Bool)
  /-- A new object is the result of its maker, unless that gives another one. -/
  | making (object : Value)
  | giving (v : Value)
  | generating (id line : Nat)
  | asynchronous (promise line : Nat)
  | drawing (source : Source) (acc : List Value)
  /-- Values of a source are handed on: one is awaited, or one has been handed on. -/
  | relaying (source : Source)
  | relayed (source : Source)
  | asking (default : Value)
  | classBody (node : Node) (inner : Nat) (bases : List (String × Value)) (scope : Nat)
  | classMembers (id : Nat) (key : Option Node) (rest : List Node) (scope : Nat)
  | decorating (fs : List Value)
  | holding (node : Node) (scope : Nat) (item : Node) (rest : List Node)
  | entered (node : Node) (scope : Nat) (item : Node) (rest : List Node) (manager : Value)
  | held (manager : Value)
  | exiting (how : Leaving)
  | choosing (node : Node) (scope : Nat)
  | caseTest (value : Value) (all rest : List Node) (scope : Nat)
  | caseGuard (value : Value) (rest : List Node) (scope : Nat)
  | caseBody
  | fields (object : Value) (rest : List Entry)
  | field (object : Value) (name : String)
  | calling (f this : Value) (args : List Value)
  /-- A function of the library goes on with the result of another one. -/
  | after (step : String) (data : List Value)

structure Thing where
  shape : Shape
  name : String := ""
  items : Array Value := #[]
  entries : Array Entry := #[]
  members : Array Entry := #[]
  parent : Value := .absent
  code : Option Code := none
  /-- What a generator still has to do. -/
  saved : List Frame := []
  done : Bool := false
  trace : List (Nat × String) := []
  handled : Option (Nat × String) := none

instance : Inhabited Thing := ⟨{ shape := .object }⟩

structure Variable where
  name : String
  value : Value
  fixed : Bool := false
  deriving Inhabited

inductive Extent where
  | script
  | function
  | classBody
  | block
  deriving DecidableEq, Repr

structure Scope where
  extent : Extent
  vars : Array Variable := #[]
  parent : Option Nat := none
  outermost : List String := []

instance : Inhabited Scope := ⟨{ extent := .block }⟩

/-- Something that is done when all else has been done. -/
structure Job where
  f : Value
  args : List Value
  resumes : Option Nat := none
  fails : Bool := false

structure Timer where
  id : Nat
  due : Nat
  every : Option Nat
  f : Value
  args : List Value

structure World where
  heap : Array Thing := #[]
  scopes : Array Scope := #[{ extent := .script }]
  stdin : Bytes
  out : List Bytes := []
  err : List Bytes := []
  ms : Nat := 0
  env : List (String × String)
  args : List String := []
  jobs : List Job := []
  timers : List Timer := []
  timerCount : Nat := 0
  exitCode : Nat := 0

inductive Finish where
  | exited (code : Nat)
  | killed
  | endless
  deriving DecidableEq, Repr

/-- What keeps an operation from giving a value by itself. -/
inductive Detour where
  | raise (v : Value)
  | call (f this : Value) (args : List Value) (named : List (String × Value))
  /-- A function is called, and its result is used in a further step. -/
  | callThen (f this : Value) (args : List Value) (step : String) (data : List Value)
  /-- All that a source holds is drawn; a function gets the list before other arguments. -/
  | draw (source : Source) (f this : Value) (args : List Value) (named : List (String × Value))
  | ask (generator : Nat) (sent default : Value)
  | wait (v : Value)
  | finish (f : Finish)

abbrev Work := EStateM Detour World

namespace Work

def thing (id : Nat) : Work Thing := do return (← get).heap.getD id default

def new (t : Thing) : Work Value := do
  let id := (← get).heap.size
  modify fun w => { w with heap := w.heap.push t }
  return .ref id

def setThing (id : Nat) (t : Thing) : Work Unit := modify fun w => { w with heap := w.heap.setIfInBounds id t }

def modifyThing (id : Nat) (f : Thing → Thing) : Work Unit :=
  modify fun w => { w with heap := w.heap.modify id f }

def newList (vs : List Value) : Work Value := new { shape := .list, items := vs.toArray }

def newTuple (vs : List Value) : Work Value := new { shape := .tuple, items := vs.toArray }

def thing? (v : Value) : Work (Option Thing) := do
  match v with
  | .ref id => return some (← thing id)
  | _ => return none

def shape? (v : Value) : Work (Option Shape) := do return (← thing? v).map (·.shape)

def writeOut (b : Bytes) : Work Unit := modify fun w => { w with out := b :: w.out }

def writeErr (b : Bytes) : Work Unit := modify fun w => { w with err := b :: w.err }

end Work

/-! ## Entries -/

def findEntry (entries : Array Entry) (mark : String) : Option Entry :=
  entries.find? fun e => e.mark == mark

/-- Puts a value under a key; a key that is there keeps its place. -/
def putEntry (entries : Array Entry) (mark : String) (key value : Value) : Array Entry :=
  match entries.findIdx? fun e => e.mark == mark with
  | some i => entries.modify i fun e => { e with value }
  | none => entries.push ⟨mark, key, value⟩

def dropEntry (entries : Array Entry) (mark : String) : Array Entry :=
  entries.filter fun e => e.mark != mark

namespace Thing

def member? (t : Thing) (name : String) : Option Value := (findEntry t.members name).map (·.value)

def putMember (t : Thing) (name : String) (v : Value) : Thing :=
  { t with members := putEntry t.members name (.str name) v }

end Thing

end ScriptHost.Snippet
