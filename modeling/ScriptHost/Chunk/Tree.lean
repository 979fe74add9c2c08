import ScriptHost.Chunk.Number

/-!
Chunks as trees: expressions and statements, with the lines that messages about them name.
-/
namespace ScriptHost.Chunk

inductive BinaryOp where
  | add | sub | mul | div | mod | pow | idiv
  | band | bor | bxor | shl | shr
  | concat
  | eq | ne | lt | le | gt | ge
  deriving DecidableEq, Repr

inductive UnaryOp where
  | neg | bnot | not | len
  deriving DecidableEq, Repr

mutual

inductive Expr where
  | nil
  | bool (b : Bool)
  | number (n : Number)
  | str (s : Bytes)
  | vararg
  | var (name : Bytes) (line : Nat)
  | index (object key : Expr) (line : Nat)
  | call (callee : Expr) (args : List Expr) (line : Nat)
  | method (object : Expr) (name : Bytes) (args : List Expr) (line : Nat)
  | func (f : Func)
  | binary (op : BinaryOp) (a b : Expr) (line : Nat)
  | unary (op : UnaryOp) (a : Expr) (line : Nat)
  /-- `a`, or `b` when `a` does not count as false. -/
  | both (a b : Expr)
  | either (a b : Expr)
  | single (a : Expr)
  | table (fields : List Field) (line : Nat)

inductive Field where
  | item (value : Expr)
  | keyed (key value : Expr)

inductive Func where
  | mk (params : List Bytes) (variadic : Bool) (body : List Stat)

inductive Stat where
  | eval (e : Expr)
  | assign (targets values : List Expr)
  | locals (names : List Bytes) (values : List Expr)
  | localFunc (name : Bytes) (f : Func)
  | block (body : List Stat)
  | cond (arms : List Arm) (otherwise : List Stat)
  | whileDo (condition : Expr) (body : List Stat)
  | repeatUntil (body : List Stat) (condition : Expr)
  | forNumber (name : Bytes) (start limit : Expr) (step : Option Expr) (body : List Stat)
      (line : Nat)
  | forEach (names : List Bytes) (values : List Expr) (body : List Stat) (line : Nat)
  | leave (values : List Expr)
  | breakLoop
  | jump (label : Bytes)
  | label (name : Bytes)

inductive Arm where
  | mk (condition : Expr) (body : List Stat)

end

instance : Inhabited Expr := ⟨.nil⟩

instance : Inhabited Stat := ⟨.breakLoop⟩

instance : Inhabited Func := ⟨.mk [] false []⟩

namespace Expr

def isTarget : Expr → Bool
  | .var .. | .index .. => true
  | _ => false

def isCall : Expr → Bool
  | .call .. | .method .. => true
  | _ => false

end Expr

end ScriptHost.Chunk
