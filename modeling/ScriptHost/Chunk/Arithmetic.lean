import ScriptHost.Chunk.Value

/-!
Operators on values. An operator that does not fit its operands says which of them is at fault.
-/
namespace ScriptHost.Chunk

inductive Side where
  | first
  | second
  deriving DecidableEq, Repr

inductive OperatorFault where
  | wrongType (action : String) (side : Side) (typeName : String)
  | badText (typeName : String)
  | notInteger (side : Side)
  | divideByZero
  | moduloByZero
  | notOrdered (first second : String)
  deriving DecidableEq, Repr

abbrev Operation := Except OperatorFault Value

namespace Value

def number? : Value → Option Number
  | .number n => some n
  | .str s => Chunk.number? s
  | _ => none

def isNumber : Value → Bool
  | .number _ => true
  | _ => false

def isText : Value → Bool
  | .str _ => true
  | _ => false

end Value

def floorDiv (x y : Float) : Float := (x / y).floor

def floorMod (x y : Float) : Float :=
  let r := Decimal.remainder x y
  if (r > 0 && y < 0) || (r < 0 && y > 0) then r + y else r

def arithFloat (op : BinaryOp) (x y : Float) : Float :=
  match op with
  | .add => x + y
  | .sub => x - y
  | .mul => x * y
  | .div => x / y
  | .mod => floorMod x y
  | .pow => if y == 2 then x * x else Float.pow x y
  | _ => floorDiv x y

def arithNumbers (op : BinaryOp) (a b : Number) : Operation :=
  match op, a, b with
  | .add, .int m, .int n => .ok (.int (wrap (m + n)))
  | .sub, .int m, .int n => .ok (.int (wrap (m - n)))
  | .mul, .int m, .int n => .ok (.int (wrap (m * n)))
  | .idiv, .int m, .int n =>
    if n = 0 then .error .divideByZero else .ok (.int (wrap (m.fdiv n)))
  | .mod, .int m, .int n => if n = 0 then .error .moduloByZero else .ok (.int (m.fmod n))
  | op, a, b => .ok (.float (arithFloat op a.asFloat b.asFloat))

/-- Arithmetic on numbers and on texts that are numbers. -/
def arith (op : BinaryOp) (a b : Value) : Operation :=
  match a, b with
  | .number x, .number y => arithNumbers op x y
  | a, b =>
    if a.isText || b.isText then
      match a.number?, b.number? with
      | some x, some y => arithNumbers op x y
      | _, _ => .error (.badText a.typeName)
    else if a.isNumber then .error (.wrongType "perform arithmetic on" .second b.typeName)
    else .error (.wrongType "perform arithmetic on" .first a.typeName)

def word (n : Int) : Nat := (n % twoTo 64).toNat

def shiftLeft (m n : Int) : Int :=
  if n ≤ -64 || 64 ≤ n then 0
  else if n < 0 then wrap (word m / twoTo n.natAbs)
  else wrap (word m * twoTo n.natAbs)

def bitsOf (op : BinaryOp) (m n : Int) : Int :=
  match op with
  | .band => wrap (word m &&& word n)
  | .bor => wrap (word m ||| word n)
  | .bxor => wrap (word m ^^^ word n)
  | .shl => shiftLeft m n
  | _ => shiftLeft m (-n)

def bitwise (op : BinaryOp) (a b : Value) : Operation :=
  match a.number?.bind Number.int?, b.number?.bind Number.int? with
  | some m, some n => .ok (.int (bitsOf op m n))
  | i, _ =>
    if a.isNumber && b.isNumber then .error (.notInteger (if i.isSome then .second else .first))
    else if a.isNumber then .error (.wrongType "perform bitwise operation on" .second b.typeName)
    else .error (.wrongType "perform bitwise operation on" .first a.typeName)

def Value.joinable? : Value → Option Bytes
  | .str s => some s
  | .number n => some (bytes n.text)
  | _ => none

def concat (a b : Value) : Operation :=
  match a.joinable?, b.joinable? with
  | some s, some t => .ok (.str (s ++ t))
  | some _, none => .error (.wrongType "concatenate" .second b.typeName)
  | none, _ => .error (.wrongType "concatenate" .first a.typeName)

def Number.less : Number → Number → Bool
  | .int m, .int n => m < n
  | .float x, .float y => x < y
  | .int m, .float y => Decimal.intLess m y
  | .float x, .int n => Decimal.lessInt x n

def Number.lessOrEqual : Number → Number → Bool
  | .int m, .int n => m ≤ n
  | .float x, .float y => x ≤ y
  | .int m, .float y => Decimal.intLess m y || Decimal.intEqual m y
  | .float x, .int n => Decimal.lessInt x n || Decimal.intEqual n x

def compare (numbers : Number → Number → Bool) (texts : Bytes → Bytes → Bool) (a b : Value) :
    Operation :=
  match a, b with
  | .number x, .number y => .ok (.bool (numbers x y))
  | .str s, .str t => .ok (.bool (texts s t))
  | a, b => .error (.notOrdered a.typeName b.typeName)

def less : Value → Value → Operation := compare Number.less Bytes.less

def lessOrEqual : Value → Value → Operation :=
  compare Number.lessOrEqual fun s t => !Bytes.less t s

def binary (op : BinaryOp) (a b : Value) : Operation :=
  match op with
  | .add | .sub | .mul | .div | .mod | .pow | .idiv => arith op a b
  | .band | .bor | .bxor | .shl | .shr => bitwise op a b
  | .concat => concat a b
  | .eq => .ok (.bool (a.equal b))
  | .ne => .ok (.bool (!a.equal b))
  | .lt => less a b
  | .le => lessOrEqual a b
  | .gt => less b a
  | .ge => lessOrEqual b a

def negate : Number → Value
  | .int n => .int (wrap (-n))
  | .float x => .float (-x)

def unary (h : Heap) (op : UnaryOp) (a : Value) : Operation :=
  match op, a with
  | .not, a => .ok (.bool (!a.truthy))
  | .neg, .number n => .ok (negate n)
  | .neg, .str s =>
    match Chunk.number? s with
    | some n => .ok (negate n)
    | none => .error (.badText "string")
  | .neg, a => .error (.wrongType "perform arithmetic on" .first a.typeName)
  | .bnot, a =>
    match a.number?.bind Number.int? with
    | some n => .ok (.int (wrap (-n - 1)))
    | none =>
      if a.isNumber then .error (.notInteger .first)
      else .error (.wrongType "perform bitwise operation on" .first a.typeName)
  | .len, .str s => .ok (.int s.length)
  | .len, .table id => .ok (.int (h.table id).length)
  | .len, a => .error (.wrongType "get length of" .first a.typeName)

end ScriptHost.Chunk
