import ScriptHost.Chunk.Library

/-!
What a running chunk has still to do: a stack of frames, each of which waits for the values of what
runs above it.
-/
namespace ScriptHost.Chunk

/-- Where code stands while it runs: the variables in sight, how deep its function is nested, and
the surplus arguments of that function. -/
structure Place where
  env : Env
  level : Nat
  varargs : List Value

structure Known where
  kind : String
  name : Bytes
  deriving DecidableEq, Repr

structure Site where
  line : Option Nat
  known : Option Known

structure Block where
  all : List Stat
  base : Nat

/-- A table under construction. Values without a key wait until fifty have come together or the
table is complete. -/
structure Making where
  id : Nat
  stored : Nat
  waiting : List Value
  line : Nat

inductive Frame where
  | leftOperand (op : BinaryOp) (a b : Expr) (line : Nat) (place : Place)
  | rightOperand (op : BinaryOp) (x : Value) (a b : Expr) (line : Nat) (place : Place)
  | operand (op : UnaryOp) (a : Expr) (line : Nat) (place : Place)
  | both (b : Expr) (place : Place)
  | either (b : Expr) (place : Place)
  | single
  | object (e key : Expr) (line : Nat) (place : Place)
  | key (object : Value) (e : Expr) (line : Nat) (place : Place)
  | callee (e : Expr) (args : List Expr) (line : Nat) (tail : Bool) (place : Place)
  | receiver (e : Expr) (name : Bytes) (args : List Expr) (line : Nat) (tail : Bool) (place : Place)
  | arguments (f : Value) (self : List Value) (site : Site) (tail : Bool)
  | collect (done : List Value) (es : List Expr) (place : Place)
  | item (m : Making) (fields : List Field) (place : Place)
  | entryKey (m : Making) (value : Expr) (fields : List Field) (place : Place)
  | entryValue (m : Making) (key : Value) (fields : List Field) (place : Place)
  | block (stats : List Stat) (block : Block) (place : Place)
  | declare (names : List Bytes) (stats : List Stat) (block : Block) (place : Place)
  | targets (targets values : List Expr) (place : Place)
  | store (targets : List Expr) (parts : List Value) (place : Place)
  | arm (body : List Stat) (arms : List Arm) (otherwise : List Stat) (place : Place)
  | whileTest (condition : Expr) (body : List Stat) (place : Place)
  | whileBody (condition : Expr) (body : List Stat) (place : Place)
  | repeatBody (body : List Stat) (condition : Expr) (place : Place)
  | repeatTest (body : List Stat) (condition : Expr) (place : Place)
  | bounds (name : Bytes) (body : List Stat) (line : Nat) (place : Place)
  /-- A count by whole numbers; `left` rounds follow the one under way. -/
  | intLoop (name : Bytes) (i step : Int) (left : Nat) (body : List Stat) (place : Place)
  | floatLoop (name : Bytes) (x limit step : Float) (body : List Stat) (place : Place)
  | iterator (names : List Bytes) (body : List Stat) (line : Nat) (place : Place)
  | iterated (names : List Bytes) (f state : Value) (body : List Stat) (line : Nat) (place : Place)
  | eachBody (names : List Bytes) (f state control : Value) (body : List Stat) (line : Nat)
      (place : Place)
  | returning
  | boundary (line : Option Nat)
  /-- A failure goes no further. -/
  | protect (line : Option Nat)

namespace Frame

def isBoundary : Frame → Bool
  | .boundary _ => true
  | _ => false

def isProtect : Frame → Bool
  | .protect _ => true
  | _ => false

def isLoop : Frame → Bool
  | .whileBody .. | .repeatBody .. | .intLoop .. | .floatLoop .. | .eachBody .. => true
  | _ => false

def callLine? : Frame → Option (Option Nat)
  | .boundary line | .protect line => some line
  | _ => none

end Frame

inductive Control where
  | eval (e : Expr) (place : Place)
  | evalAll (es : List Expr) (place : Place)
  | exec (stats : List Stat) (block : Block) (place : Place)
  | fill (m : Making) (fields : List Field) (place : Place)
  | give (vs : List Value)
  /-- The end of a block; the condition of a loop may still see its variables. -/
  | finish (place : Place)
  | apply (f : Value) (args : List Value) (site : Site) (tail : Bool)
  | raise (v : Value)
  | leave (vs : List Value)
  | breakLoop
  | jump (label : Bytes)
  | halt (result : Except Value (List Value))

structure State where
  control : Control
  frames : List Frame
  heap : Heap
  logs : List String
  depth : Nat

end ScriptHost.Chunk
