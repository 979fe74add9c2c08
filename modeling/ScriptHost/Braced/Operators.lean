import ScriptHost.Braced.Shown

/-!
Operators of a script whose blocks stand in braces: equality in two strengths, order, arithmetic on
numbers and on whole numbers without a bound, and what stands between brackets behind a value.
-/
namespace ScriptHost.Braced

open Snippet

/-! ## Simple values -/

def ownConversion (v : Value) (names : List String) : Work (Option Value) := do
  match v with
  | .ref id =>
    match (← Work.thing id).shape with
    | .func | .classOf => return none
    | _ =>
      for n in names do
        if let some (.ref f) ← rawMember? v n then
          if (← Work.thing f).shape == .func then return some (.ref f)
      return none
  | _ => return none

def toNumber (v : Value) : Work Float := do
  match v with
  | .absent | .undefined => return nan
  | .nothing => return 0
  | .truth b => return if b then 1 else 0
  | .int _ => typeError "Cannot convert a BigInt value to a number"
  | .float x => return x
  | .str s => return textNumber s
  | .native _ | .bound .. | .bytes _ =>
    if isSymbol v then typeError "Cannot convert a Symbol value to a number"
    return nan
  | .ref id =>
    match dateOf? (← Work.thing id) with
    | some ms => return ms
    | none => return textNumber (← textOf v)

def keyText' (v : Value) : Work String := do
  match v with
  | .str s => return s
  | .float x => return numberText x
  | v => if isSymbol v then return symbolKey v else textOf v

/-- The simple value of a thing: a date beside a number is one too. -/
def simple (v : Value) (numeric : Bool) : Work Value := do
  match v with
  | .ref id =>
    match dateOf? (← Work.thing id), numeric with
    | some ms, true => return .float ms
    | _, _ => return .str (← textOf v)
  | .native _ | .bound .. | .bytes _ => if isSymbol v then return v else return .str (← textOf v)
  | .absent => return .undefined
  | v => return v

/-! ## Equality -/

def strictEqual (a b : Value) : Bool :=
  match a, b with
  | .absent, .undefined | .undefined, .absent => true
  | .bytes _, .bytes _ => false
  | a, b => a.same b

/-- Equality of keys: a number that is not a number equals itself. -/
def sameKey (a b : Value) : Bool :=
  match a, b with
  | .float x, .float y => x == y || (x.isNaN && y.isNaN)
  | a, b => strictEqual a b

def sameValue (a b : Value) : Bool :=
  match a, b with
  | .float x, .float y => x.toBits == y.toBits || (x.isNaN && y.isNaN)
  | a, b => strictEqual a b

def looseEqualWith : Nat → Value → Value → Work Bool
  | 0, a, b => return strictEqual a b
  | fuel + 1, a, b => do
    if isNullish a || isNullish b then return isNullish a && isNullish b
    match a, b with
    | .float _, .float _ | .str _, .str _ | .int _, .int _ | .truth _, .truth _ => return strictEqual a b
    | .truth x, b => looseEqualWith fuel (.float (if x then 1 else 0)) b
    | a, .truth y => looseEqualWith fuel a (.float (if y then 1 else 0))
    | .float x, .str s => return x == textNumber s
    | .str s, .float y => return textNumber s == y
    | .int n, .float y => return Decimal.intEqual n y
    | .float x, .int n => return Decimal.intEqual n x
    | .int n, .str s => return Decimal.intEqual n (textNumber s)
    | .str s, .int n => return Decimal.intEqual n (textNumber s)
    | a, b =>
      let isThing (v : Value) : Bool := match v with
        | .ref _ | .native _ | .bound .. | .bytes _ => true
        | _ => false
      if isThing a && isThing b then return strictEqual a b
      if isSymbol a || isSymbol b then return false
      if isThing a then looseEqualWith fuel (← simple a false) b
      else looseEqualWith fuel a (← simple b false)

def looseEqual (a b : Value) : Work Bool := looseEqualWith 6 a b

/-! ## Order -/

def unitsLess : List Nat → List Nat → Bool
  | [], b => !b.isEmpty
  | _ :: _, [] => false
  | a :: as, b :: bs => a < b || (a = b && unitsLess as bs)

def textLess (a b : String) : Bool := unitsLess (unitsOf a).toList (unitsOf b).toList

/-- Whether one simple value is below another one; nothing when they cannot be compared. -/
def less? (a b : Value) : Work (Option Bool) := do
  match a, b with
  | .str x, .str y => return some (textLess x y)
  | .int x, .int y => return some (x < y)
  | .int x, b =>
    let y ← toNumber b
    return if y.isNaN then none else some (Decimal.intLess x y)
  | a, .int y =>
    let x ← toNumber a
    return if x.isNaN then none else some (Decimal.lessInt x y)
  | a, b =>
    let x ← toNumber a
    let y ← toNumber b
    return if x.isNaN || y.isNaN then none else some (x < y)

def compared (op : String) (a b : Value) : Work Bool := do
  let a ← simple a true
  let b ← simple b true
  match op with
  | "<" => return (← less? a b).getD false
  | ">" => return (← less? b a).getD false
  | "<=" => return !((← less? b a).getD true)
  | _ => return !((← less? a b).getD true)

/-! ## Arithmetic -/

def power (x y : Float) : Float :=
  if y.isNaN then nan
  else if (x == 1 || x == -1) && y.isInf then nan
  else x.pow y

def bitLimit : Nat := 4000000

def bigArithmetic (op : String) (a b : Int) : Work Value := do
  match op with
  | "+" => return .int (a + b)
  | "-" => return .int (a - b)
  | "*" => return .int (a * b)
  | "/" =>
    if b = 0 then rangeError "Division by zero"
    return .int (a.tdiv b)
  | "%" =>
    if b = 0 then rangeError "Division by zero"
    return .int (a.tmod b)
  | "**" =>
    if b < 0 then rangeError "Exponent must be non-negative"
    if bitLimit < (Nat.log2 a.natAbs + 1) * b.toNat && 1 < a.natAbs then throw (.finish .endless)
    return .int (a.pow b.toNat)
  | "&" => return .int (Bits.and a b)
  | "|" => return .int (Bits.or a b)
  | "^" => return .int (Bits.xor a b)
  | "<<" | ">>" =>
    let n := if op == "<<" then b else -b
    if 0 ≤ n then
      if bitLimit < n.toNat then rangeError "Maximum BigInt size exceeded"
      return .int (Bits.shiftLeft a n.toNat)
    return .int (Bits.shiftRight a (min n.natAbs (Nat.log2 a.natAbs + 2)))
  | _ => typeError "BigInts have no unsigned right shift, use >> instead"

def floatArithmetic (op : String) (x y : Float) : Value :=
  match op with
  | "+" => .float (x + y)
  | "-" => .float (x - y)
  | "*" => .float (x * y)
  | "/" => .float (x / y)
  | "%" =>
    if y.isInf && x.isFinite then .float x
    else if x.isNaN || y.isNaN || x.isInf || y == 0 then .float nan
    else
      let r := Decimal.remainder x y
      .float (if r == 0 && (x < 0 || (1 / x) < 0) then -0.0 else r)
  | "**" => .float (power x y)
  | "&" => numberOfInt (Bits.and (wrapped 32 x) (wrapped 32 y))
  | "|" => numberOfInt (Bits.or (wrapped 32 x) (wrapped 32 y))
  | "^" => numberOfInt (Bits.xor (wrapped 32 x) (wrapped 32 y))
  | "<<" => numberOfInt (Bits.shiftLeft (wrapped 32 x) (unsigned32 y % 32) |>.bmod (twoTo 32))
  | ">>" => numberOfInt (Bits.shiftRight (wrapped 32 x) (unsigned32 y % 32))
  | ">>>" => numberOf (unsigned32 x / twoTo (unsigned32 y % 32))
  | _ => .float nan

def arithmetic (op : String) (a b : Value) : Work Value := do
  let a ← simple a (op != "+")
  let b ← simple b (op != "+")
  match a, b with
  | .str x, b => if op == "+" then return .str (x ++ (← textOf b)) else mixed a b
  | a, .str y => if op == "+" then return .str ((← textOf a) ++ y) else mixed a b
  | a, b => mixed a b
where
  mixed (a b : Value) : Work Value := do
    match a, b with
    | .int x, .int y => bigArithmetic op x y
    | .int _, _ | _, .int _ =>
      typeError "Cannot mix BigInt and other types, use explicit conversions"
    | a, b => return floatArithmetic op (← toNumber a) (← toNumber b)

/-! ## Kinds -/

def isUnderNative (n of' : String) : Bool :=
  n == of' || of' == "Object" || (of' == "Error" && errorKinds.contains n)

def goesBack : Nat → Value → Value → Work Bool
  | 0, _, _ => return false
  | fuel + 1, v, proto => do
    match v with
    | .ref id =>
      let t ← Work.thing id
      let p := protoOf t
      if p.same proto then return true
      match p, proto with
      | .native n, .native m =>
        return isUnderNative n m
      | p, _ => goesBack fuel p proto
    | _ => return false

def isInstance (v kind : Value) : Work Bool := do
  match kind with
  | .native n =>
    match v with
    | .native m => return n == "Function" && !isPlainNative m && !isSymbol v || n == "Object"
    | .bound .. => return n == "Function" || n == "Object"
    | .bytes _ => return n == "Buffer" || n == "Uint8Array"
    | v => goesBack 100 v (.native n)
  | .ref id =>
    let t ← Work.thing id
    match t.shape with
    | .func | .classOf =>
      match ← ownMember? id t "prototype" with
      | some p => goesBack 100 v p
      | none => typeError "Function has non-object prototype 'undefined' in instanceof check"
    | _ => typeError "Right-hand side of 'instanceof' is not callable"
  | _ => typeError "Right-hand side of 'instanceof' is not callable"

def position? (x : Float) : Option Nat :=
  match Decimal.integer? x with
  | some n => if 0 ≤ n && n < 4294967295 then some n.toNat else none
  | none => none

def isIn (k o : Value) : Work Bool := do
  match o, k with
  | .ref id, .float x =>
    let t ← Work.thing id
    match t.shape, position? x with
    | .list, some i => return match t.items[i]? with
        | some .absent | none => false
        | some _ => true
    | _, _ => pure ()
  | _, _ => pure ()
  match o with
  | .ref _ | .native _ => return (← rawMember? o (← keyText' k)).isSome
  | o =>
    typeError ("Cannot use 'in' operator to search for '" ++ (← textOf k) ++ "' in " ++ (← textOf o))

/-! ## Operators -/

def binary (op : String) (a b : Value) : Work Value := do
  match op with
  | "===" => return .truth (strictEqual a b)
  | "!==" => return .truth (!strictEqual a b)
  | "instanceof" => return .truth (← isInstance a b)
  | "in" => return .truth (← isIn a b)
  | _ =>
    let names := ["@@toPrimitive", "valueOf", "toString"]
    let bothThings := match a, b with
      | .ref _, .ref _ => op == "==" || op == "!="
      | _, _ => (op == "==" || op == "!=") && (isNullish a || isNullish b)
    if !bothThings then
      if let some f ← ownConversion a names then
        throw (.callThen f a [.str "default"] "leftOperand" [.str op, b])
      if let some f ← ownConversion b names then
        throw (.callThen f b [.str "default"] "rightOperand" [.str op, a])
    match op with
    | "==" => return .truth (← looseEqual a b)
    | "!=" => return .truth (!(← looseEqual a b))
    | "<" | ">" | "<=" | ">=" => return .truth (← compared op a b)
    | _ => arithmetic op a b

def unary (op : String) (v : Value) : Work Value := do
  match op with
  | "!" => return .truth (!truthy v)
  | "typeof" => return .str (← typeOf v)
  | "void" => return .undefined
  | "key" => return .str (← keyText' v)
  | "delete" => return .truth true
  | _ =>
    if let some f ← ownConversion v ["@@toPrimitive", "valueOf", "toString"] then
      throw (.callThen f v [.str "number"] "operand" [.str op])
    match op, v with
    | "-", .int n => return .int (-n)
    | "~", .int n => return .int (-n - 1)
    | "++", .int n => return .int (n + 1)
    | "--", .int n => return .int (n - 1)
    | "number", .int n => return .int n
    | "-", v => return .float (-(← toNumber v))
    | "~", v => return numberOfInt (-(wrapped 32 (← toNumber v)) - 1)
    | "++", v => return .float ((← toNumber v) + 1)
    | "--", v => return .float ((← toNumber v) - 1)
    | _, v => return .float (← toNumber v)

/-! ## Brackets -/

def getIndex (o k : Value) : Work Value := do
  match o, k with
  | .ref id, .float x =>
    let t ← Work.thing id
    match t.shape, position? x with
    | .list, some i =>
      match t.items[i]? with
      | some .absent | none => return .undefined
      | some v => return v
    | _, _ => getMember o (numberText x)
  | o, k =>
    if isNullish o then
      typeError ("Cannot read properties of " ++ shownNullish o ++ " (reading '"
        ++ shownKey (← keyText' k) ++ "')")
    getMember o (← keyText' k)

def setIndex (o k v : Value) : Work Unit := do
  match o, k with
  | .ref id, .float x =>
    let t ← Work.thing id
    match t.shape, position? x with
    | .list, some i => if isFrozen t then return () else setItem id i v
    | _, _ => setMember o (numberText x) v
  | o, k => setMember o (← keyText' k) v

def dropIndex (o k : Value) : Work Value := do dropMember o (← keyText' k)

end ScriptHost.Braced
