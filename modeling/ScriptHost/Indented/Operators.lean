import ScriptHost.Indented.Shown
import ScriptHost.Text.Blank
import ScriptHost.Snippet.Numeral

/-!
Operators of a script whose blocks are indented: truth, equality, order, arithmetic, membership, and
what stands between brackets behind a value.
-/
namespace ScriptHost.Indented

open Snippet

def newList (vs : List Value) : Work Value := Work.newList vs

def newTuple (vs : List Value) : Work Value := Work.newTuple vs

def truthy (v : Value) : Work Bool := do
  match v with
  | .absent | .undefined | .nothing => return false
  | .truth b => return b
  | .int n => return n != 0
  | .float x => return !(x == 0)
  | .str s => return !s.isEmpty
  | .bytes b => return !b.isEmpty
  | .native _ | .bound .. => return true
  | .ref id =>
    let t ← Work.thing id
    match t.shape with
    | .list | .tuple => return !t.items.isEmpty
    | .dict | .set => return !t.entries.isEmpty
    | .object =>
      match t.name, t.items.toList with
      | "range", [.int i, .int stop, .int step] => return if 0 < step then i < stop else stop < i
      | _, _ => return true
    | _ => return true

inductive Number where
  | int (n : Int)
  | float (x : Float)

def number? : Value → Option Number
  | .int n => some (.int n)
  | .truth b => some (.int (if b then 1 else 0))
  | .float x => some (.float x)
  | _ => none

def Number.toFloat : Number → Float
  | .int n => Float.ofInt n
  | .float x => x

def Number.equal : Number → Number → Bool
  | .int a, .int b => a = b
  | .float a, .float b => a == b
  | .int a, .float b => Decimal.intEqual a b
  | .float a, .int b => Decimal.intEqual b a

def Number.less : Number → Number → Bool
  | .int a, .int b => a < b
  | .float a, .float b => a < b
  | .int a, .float b => Decimal.intLess a b
  | .float a, .int b => Decimal.lessInt a b

/-! ## Equality and order -/

mutual

def equalWith : Nat → Value → Value → Work Bool
  | 0, a, b => return a.same b
  | fuel + 1, a, b => do
    match number? a, number? b with
    | some x, some y => return x.equal y
    | _, _ =>
      match a, b with
      | .ref x, .ref y =>
        if x = y then return true
        let s ← Work.thing x
        let t ← Work.thing y
        match s.shape, t.shape with
        | .list, .list | .tuple, .tuple =>
          if s.items.size != t.items.size then return false
          allEqual fuel s.items.toList t.items.toList
        | .dict, .dict =>
          if s.entries.size != t.entries.size then return false
          entriesEqual fuel s.entries.toList t.entries
        | .set, .set =>
          return s.entries.size == t.entries.size
            && s.entries.all fun e => t.entries.any fun f => e.mark == f.mark
        | .object, .object => allEqual fuel s.items.toList t.items.toList
        | _, _ => return false
      | a, b => return a.same b

def allEqual : Nat → List Value → List Value → Work Bool
  | fuel, a :: as, b :: bs => do
    match fuel with
    | 0 => return false
    | fuel + 1 =>
      if ← equalWith fuel a b then allEqual (fuel + 1) as bs else return false
  | _, as, bs => return as.isEmpty && bs.isEmpty

def entriesEqual : Nat → List Entry → Array Entry → Work Bool
  | _, [], _ => return true
  | fuel, e :: es, others => do
    match fuel with
    | 0 => return false
    | fuel + 1 =>
      match findEntry others e.mark with
      | some f => if ← equalWith fuel e.value f.value then entriesEqual (fuel + 1) es others else return false
      | none => return false

end

def equal (a b : Value) : Work Bool := do
  if let some f ← special a "__eq__" then throw (.call f .absent [b] [])
  equalWith 1000 a b

def notOrdered {α : Type} (op : String) (a b : Value) : Work α := do
  typeError ("'" ++ op ++ "' not supported between instances of '" ++ (← typeName a) ++ "' and '"
    ++ (← typeName b) ++ "'")

def subsetOf (a b : Thing) : Bool := a.entries.all fun e => b.entries.any fun f => e.mark == f.mark

mutual

def lessWith (op : String) : Nat → Value → Value → Work Bool
  | 0, _, _ => return false
  | fuel + 1, a, b => do
    match number? a, number? b with
    | some x, some y => return x.less y
    | _, _ =>
      match a, b with
      | .str x, .str y => return x < y
      | .bytes x, .bytes y => return Bytes.less x y
      | .ref x, .ref y =>
        let s ← Work.thing x
        let t ← Work.thing y
        match s.shape, t.shape with
        | .list, .list | .tuple, .tuple => lessAll op fuel s.items.toList t.items.toList
        | .set, .set => return subsetOf s t && s.entries.size < t.entries.size
        | _, _ => notOrdered op a b
      | a, b => notOrdered op a b

def lessAll (op : String) : Nat → List Value → List Value → Work Bool
  | fuel, a :: as, b :: bs => do
    match fuel with
    | 0 => return false
    | fuel + 1 =>
      if ← equalWith 100 a b then lessAll op (fuel + 1) as bs else lessWith op fuel a b
  | _, as, bs => return as.isEmpty && !bs.isEmpty

end

def ordered (op : String) (a b : Value) : Work Bool := do
  let method := match op with
    | "<" => "__lt__"
    | "<=" => "__le__"
    | ">" => "__gt__"
    | _ => "__ge__"
  if let some f ← special a method then throw (.call f .absent [b] [])
  let isNan (v : Value) := match v with
    | .float x => x.isNaN
    | _ => false
  if isNan a || isNan b then
    match number? a, number? b with
    | some _, some _ => return false
    | _, _ => notOrdered op a b
  match ← Work.thing? a, ← Work.thing? b with
  | some s, some t =>
    if s.shape == .set && t.shape == .set then
      return match op with
        | "<" => subsetOf s t && s.entries.size < t.entries.size
        | "<=" => subsetOf s t
        | ">" => subsetOf t s && t.entries.size < s.entries.size
        | _ => subsetOf t s
  | _, _ => pure ()
  match op with
  | "<" => lessWith op 1000 a b
  | ">" => lessWith op 1000 b a
  | "<=" => return !(← lessWith op 1000 b a)
  | _ => return !(← lessWith op 1000 a b)

/-! ## Arithmetic -/

def unsupported {α : Type} (op : String) (a b : Value) : Work α := do
  typeError ("unsupported operand type(s) for " ++ op ++ ": '" ++ (← typeName a) ++ "' and '"
    ++ (← typeName b) ++ "'")

def floatMod (x y : Float) : Float :=
  let r := Decimal.remainder x y
  if r == 0 then (if y < 0 then -0.0 else 0.0)
  else if (r < 0) != (y < 0) then r + y else r

def floatFloorDiv (x y : Float) : Float :=
  let q := (x - floatMod x y) / y
  let f := q.floor
  if q - f > 0.5 then f + 1 else f

def powerLimit : Nat := 4000000

def intPower (a : Int) (n : Nat) : Work Value := do
  if powerLimit < (Nat.log2 a.natAbs + 1) * n && 1 < a.natAbs then throw (.finish .endless)
  return .int (a.pow n)

def divideByZero {α : Type} (message : String) : Work α := raise "ZeroDivisionError" message

def intArithmetic (op : String) (a b : Int) : Work Value := do
  match op with
  | "+" => return .int (a + b)
  | "-" => return .int (a - b)
  | "*" => return .int (a * b)
  | "/" =>
    if b = 0 then divideByZero "division by zero"
    return .float (if a % b = 0 then Float.ofInt (a / b) else Float.ofInt a / Float.ofInt b)
  | "//" =>
    if b = 0 then divideByZero "integer division or modulo by zero"
    return .int (a.fdiv b)
  | "%" =>
    if b = 0 then divideByZero "integer modulo by zero"
    return .int (a.fmod b)
  | "**" =>
    if 0 ≤ b then intPower a b.toNat
    else
      if a = 0 then divideByZero "0.0 cannot be raised to a negative power"
      return .float (Float.pow (Float.ofInt a) (Float.ofInt b))
  | "&" => return .int (Bits.and a b)
  | "|" => return .int (Bits.or a b)
  | "^" => return .int (Bits.xor a b)
  | "<<" =>
    if b < 0 then valueError "negative shift count"
    if powerLimit < b.toNat then throw (.finish .endless)
    return .int (Bits.shiftLeft a b.toNat)
  | ">>" =>
    if b < 0 then valueError "negative shift count"
    return .int (Bits.shiftRight a (min b.toNat (Nat.log2 a.natAbs + 2)))
  | _ => unsupported op (.int a) (.int b)

def floatArithmetic (op : String) (a b : Value) (x y : Float) : Work Value := do
  match op with
  | "+" => return .float (x + y)
  | "-" => return .float (x - y)
  | "*" => return .float (x * y)
  | "/" =>
    if y == 0 then divideByZero "float division by zero"
    return .float (x / y)
  | "//" =>
    if y == 0 then divideByZero "float floor division by zero"
    return .float (floatFloorDiv x y)
  | "%" =>
    if y == 0 then divideByZero "float modulo"
    return .float (floatMod x y)
  | "**" =>
    if x == 0 && y < 0 then divideByZero "0.0 cannot be raised to a negative power"
    return .float (Float.pow x y)
  | _ => unsupported op a b

def repeated (vs : List Value) (n : Int) : List Value :=
  (List.replicate n.toNat vs).flatten

def setEntries (op : String) (a b : Array Entry) : Array Entry :=
  let has (es : Array Entry) (e : Entry) := es.any fun f => f.mark == e.mark
  match op with
  | "|" => a ++ b.filter fun e => !has a e
  | "&" => a.filter (has b)
  | "-" => a.filter fun e => !has b e
  | _ => (a.filter fun e => !has b e) ++ b.filter fun e => !has a e

def thingArithmetic (op : String) (a b : Value) : Work Value := do
  match ← Work.thing? a, ← Work.thing? b, op with
  | some s, some t, "+" =>
    match s.shape, t.shape with
    | .list, .list => newList (s.items ++ t.items).toList
    | .tuple, .tuple => newTuple (s.items ++ t.items).toList
    | .dict, .dict =>
      if s.name != "collections.Counter" then unsupported op a b
      let sum := t.entries.foldl (fun es e =>
        match findEntry es e.mark, e.value with
        | some f, .int n => putEntry es e.mark e.key (match f.value with
          | .int m => .int (m + n)
          | v => v)
        | _, v => putEntry es e.mark e.key v) s.entries
      Work.new { s with entries := sum }
    | .list, _ => typeError ("can only concatenate list (not \x22" ++ (← typeName b) ++ "\x22) to list")
    | .tuple, _ => typeError ("can only concatenate tuple (not \x22" ++ (← typeName b) ++ "\x22) to tuple")
    | _, _ => unsupported op a b
  | some s, none, "+" =>
    match s.shape with
    | .list => typeError ("can only concatenate list (not \x22" ++ (← typeName b) ++ "\x22) to list")
    | _ => unsupported op a b
  | some s, _, "*" =>
    match number? b, s.shape with
    | some (.int n), .list => newList (repeated s.items.toList n)
    | some (.int n), .tuple => newTuple (repeated s.items.toList n)
    | _, _ => unsupported op a b
  | _, some t, "*" =>
    match number? a, t.shape with
    | some (.int n), .list => newList (repeated t.items.toList n)
    | some (.int n), .tuple => newTuple (repeated t.items.toList n)
    | _, _ => unsupported op a b
  | some s, some t, op =>
    match s.shape, t.shape with
    | .set, .set =>
      if ["|", "&", "-", "^"].contains op then
        Work.new { s with entries := setEntries op s.entries t.entries }
      else unsupported op a b
    | .dict, .dict =>
      if op == "|" then
        Work.new { s with entries := t.entries.foldl (fun es e => putEntry es e.mark e.key e.value) s.entries }
      else unsupported op a b
    | _, _ => unsupported op a b
  | _, _, _ => unsupported op a b

def specialName : String → String
  | "+" => "__add__"
  | "-" => "__sub__"
  | "*" => "__mul__"
  | "/" => "__truediv__"
  | "//" => "__floordiv__"
  | "%" => "__mod__"
  | "**" => "__pow__"
  | "&" => "__and__"
  | "|" => "__or__"
  | "^" => "__xor__"
  | _ => ""

def arithmetic (op : String) (a b : Value) : Work Value := do
  match a, b, op with
  | .str s, _, "%" =>
    for n in ["__str__", "__repr__"] do
      if let some f ← special b n then throw (.callThen f .absent [] "percent" [a])
    percentFormat s b
  | .str s, .str t, "+" => return .str (s ++ t)
  | .str _, _, "+" => typeError ("can only concatenate str (not \x22" ++ (← typeName b) ++ "\x22) to str")
  | .str s, _, "*" =>
    match number? b with
    | some (.int n) => return .str (String.join (List.replicate n.toNat s))
    | _ => typeError ("can't multiply sequence by non-int of type '" ++ (← typeName b) ++ "'")
  | _, .str s, "*" =>
    match number? a with
    | some (.int n) => return .str (String.join (List.replicate n.toNat s))
    | _ => typeError ("can't multiply sequence by non-int of type '" ++ (← typeName a) ++ "'")
  | .bytes s, .bytes t, "+" => return .bytes (s ++ t)
  | .truth x, .truth y, "&" => return .truth (x && y)
  | .truth x, .truth y, "|" => return .truth (x || y)
  | .truth x, .truth y, "^" => return .truth (x != y)
  | _, _, _ =>
    match number? a, number? b with
    | some (.int x), some (.int y) => intArithmetic op x y
    | some x, some y => floatArithmetic op a b x.toFloat y.toFloat
    | _, _ =>
      if let some f ← special a (specialName op) then throw (.call f .absent [b] [])
      let right := (specialName op).replace "__" "__r"
      if let some f ← special b ((right.dropEnd 3).toString ++ "__") then throw (.call f .absent [a] [])
      thingArithmetic (if op == "**" then "** or pow()" else op) a b

/-! ## Membership -/

def occursIn (part whole : List Char) : Bool := Text.occurs part whole

def contains (container v : Value) : Work Bool := do
  match container with
  | .str s =>
    match v with
    | .str part => return occursIn part.toList s.toList
    | v => typeError ("'in <string>' requires string as left operand, not " ++ (← typeName v))
  | .bytes b =>
    match v with
    | .int n => return b.contains (UInt8.ofNat n.toNat)
    | _ => return false
  | .ref id =>
    let t ← Work.thing id
    match t.shape with
    | .dict | .set =>
      let m ← mark v
      return (findEntry t.entries m).isSome
    | .list | .tuple | .iterator =>
      for x in t.items do
        if ← equalWith 1000 x v then return true
      return false
    | .object =>
      match t.name, t.items.toList, v with
      | "range", [.int i, .int stop, .int step], .int n =>
        return if 0 < step then i ≤ n && n < stop && (n - i) % step = 0
          else n ≤ i && stop < n && (i - n) % (-step) = 0
      | _, _, _ => return false
    | .module =>
      match v with
      | .str s => return (findEntry t.entries ("s" ++ s)).isSome
      | _ => return false
    | .instanceOf =>
      match ← special container "__contains__" with
      | some f => throw (.call f .absent [v] [])
      | none => typeError ("argument of type '" ++ (← typeName container) ++ "' is not iterable")
    | _ => typeError ("argument of type '" ++ (← typeName container) ++ "' is not iterable")
  | c => typeError ("argument of type '" ++ (← typeName c) ++ "' is not iterable")

def inPlace (op : String) (a b : Value) : Work (Option Value) := do
  match a with
  | .ref id =>
    let t ← Work.thing id
    match t.shape, op with
    | .list, "+" =>
      match ← valuesAtHand b with
      | some vs =>
        Work.modifyThing id fun t => { t with items := t.items ++ vs.toArray }
        return some a
      | none =>
        throw (.draw (← sourceOf b) (.bound "list.extended" a) .absent [] [])
    | .set, "|" =>
      match ← Work.thing? b with
      | some u =>
        Work.modifyThing id fun t => { t with entries := setEntries "|" t.entries u.entries }
        return some a
      | none => return none
    | .dict, "|" =>
      match ← Work.thing? b with
      | some u =>
        Work.modifyThing id fun t =>
          { t with entries := u.entries.foldl (fun es e => putEntry es e.mark e.key e.value) t.entries }
        return some a
      | none => return none
    | _, _ => return none
  | _ => return none

def isSame (a b : Value) : Bool :=
  match a, b with
  | .undefined, .nothing | .nothing, .undefined => true
  | a, b => a.same b

def binary (op : String) (a b : Value) : Work Value := do
  match op with
  | "==" => return .truth (← equal a b)
  | "!=" =>
    if let some f ← special a "__ne__" then throw (.call f .absent [b] [])
    if let some f ← special a "__eq__" then throw (.callThen f .absent [b] "not" [])
    return .truth (!(← equalWith 1000 a b))
  | "<" | "<=" | ">" | ">=" => return .truth (← ordered op a b)
  | "in" => return .truth (← contains b a)
  | "not in" => return .truth (!(← contains b a))
  | "is" => return .truth (isSame a b)
  | "is not" => return .truth (!isSame a b)
  | _ =>
    let isUpdate := op.endsWith "=" && op.length > 1
    let op := if isUpdate then (op.dropEnd 1).toString else op
    if isUpdate then
      if let some v ← inPlace op a b then return v
    arithmetic op a b

def unary (op : String) (v : Value) : Work Value := do
  match op with
  | "not" =>
    if let some f ← special v "__bool__" then throw (.callThen f .absent [] "not" [])
    return .truth (!(← truthy v))
  | "-" =>
    match number? v with
    | some (.int n) => return .int (-n)
    | some (.float x) => return .float (-x)
    | none =>
      if let some f ← special v "__neg__" then throw (.call f .absent [] [])
      typeError ("bad operand type for unary -: '" ++ (← typeName v) ++ "'")
  | "+" =>
    match number? v with
    | some (.int n) => return .int n
    | some (.float x) => return .float x
    | none => typeError ("bad operand type for unary +: '" ++ (← typeName v) ++ "'")
  | "~" =>
    match number? v with
    | some (.int n) => return .int (-n - 1)
    | _ => typeError ("bad operand type for unary ~: '" ++ (← typeName v) ++ "'")
  | _ => return v

/-! ## Brackets -/

def position? (n : Int) (size : Nat) : Option Nat :=
  let i := if n < 0 then n + size else n
  if 0 ≤ i && i < size then some i.toNat else none

def bound? (v : Value) : Work (Option Int) := do
  match v with
  | .absent | .nothing | .undefined => return none
  | v =>
    match number? v with
    | some (.int n) => return some n
    | _ => typeError "slice indices must be integers or None or have an __index__ method"

def slicePositions (slice : Thing) (size : Nat) : Work (List Nat) := do
  let start ← bound? (slice.items.getD 0 .absent)
  let stop ← bound? (slice.items.getD 1 .absent)
  let step := (← bound? (slice.items.getD 2 .absent)).getD 1
  if step = 0 then valueError "slice step cannot be zero"
  let n : Int := size
  let clamp (i low high : Int) : Int :=
    let i := if i < 0 then i + n else i
    max low (min high i)
  if 0 < step then
    let a := (start.map (clamp · 0 n)).getD 0
    let b := (stop.map (clamp · 0 n)).getD n
    let count := ((b - a + step - 1) / step).toNat
    return (List.range count).map fun (k : Nat) => (a + step * (k : Int)).toNat
  else
    let a := (start.map (clamp · (-1) (n - 1))).getD (n - 1)
    let b := (stop.map (clamp · (-1) (n - 1))).getD (-1)
    let count := ((a - b + -step - 1) / -step).toNat
    return (List.range count).map fun (k : Nat) => (a + step * (k : Int)).toNat

def isSlice (t : Thing) : Bool := t.shape == .object && t.name == "slice"

def pick {α : Type} (items : Array α) (ps : List Nat) : List α := ps.filterMap fun i => items[i]?

def keyError {α : Type} (k : Value) : Work α := do
  throw (.raise (← newFailure (.native "KeyError") [k]))

def sequenceIndex (name : String) (items : Array Value) (k : Value) : Work Value := do
  match number? k with
  | some (.int n) =>
    match position? n items.size with
    | some i => return items.getD i .nothing
    | none => raise "IndexError" (name ++ " index out of range")
  | _ => typeError (name ++ " indices must be integers or slices, not " ++ (← typeName k))

def getIndex (o k : Value) : Work Value := do
  let slice ← match ← Work.thing? k with
    | some t => pure (if isSlice t then some t else none)
    | none => pure none
  match o with
  | .str s =>
    let cs := s.toList.toArray
    match slice with
    | some t => return .str (String.ofList (pick cs (← slicePositions t cs.size)))
    | none =>
      match number? k with
      | some (.int n) =>
        match position? n cs.size with
        | some i => return .str ((cs.getD i ' ').toString)
        | none => raise "IndexError" "string index out of range"
      | _ => typeError ("string indices must be integers, not '" ++ (← typeName k) ++ "'")
  | .bytes b =>
    let xs := b.toArray
    match slice with
    | some t => return .bytes (pick xs (← slicePositions t xs.size))
    | none => sequenceIndex "index" (xs.map fun x => .int x.toNat) k
  | .native n =>
    if isType n || n.startsWith "typing." then return o
    typeError ("'" ++ (← typeName o) ++ "' object is not subscriptable")
  | .ref id =>
    let t ← Work.thing id
    match t.shape with
    | .list =>
      match slice with
      | some s => newList (pick t.items (← slicePositions s t.items.size))
      | none => sequenceIndex "list" t.items k
    | .tuple =>
      match slice with
      | some s => newTuple (pick t.items (← slicePositions s t.items.size))
      | none => sequenceIndex "tuple" t.items k
    | .dict =>
      match findEntry t.entries (← mark k) with
      | some e => return e.value
      | none =>
        if t.name == "collections.Counter" then return .int 0
        if t.name == "collections.defaultdict" then
          if !(t.parent.same .nothing) then throw (.callThen t.parent .absent [] "default" [o, k])
        if t.name == "os.environ" then
          match k with
          | .str _ => pure ()
          | k => typeError ("str expected, not " ++ (← typeName k))
        keyError k
    | .object =>
      match t.name, t.items.toList with
      | "range", [.int i, .int stop, .int step] =>
        let n := (if 0 < step then (stop - i + step - 1) / step else (i - stop + -step - 1) / -step).toNat
        match slice with
        | some s => newList ((← slicePositions s n).map fun (j : Nat) => .int (i + step * (j : Int)))
        | none =>
          match number? k with
          | some (.int j) =>
            match position? j n with
            | some j => return .int (i + step * (j : Int))
            | none => raise "IndexError" "range object index out of range"
          | _ => typeError ("range indices must be integers or slices, not " ++ (← typeName k))
      | "re.Match", items =>
        match k with
        | .int n =>
          match items[n.toNat]? with
          | some v => return v
          | none => raise "IndexError" "no such group"
        | .str s =>
          match t.member? ("group " ++ s) with
          | some v => return v
          | none => raise "IndexError" "no such group"
        | _ => raise "IndexError" "no such group"
      | _, _ => typeError ("'" ++ (← typeName o) ++ "' object is not subscriptable")
    | _ =>
      match ← special o "__getitem__" with
      | some f => throw (.call f .absent [k] [])
      | none => typeError ("'" ++ (← typeName o) ++ "' object is not subscriptable")
  | o => typeError ("'" ++ (← typeName o) ++ "' object is not subscriptable")

def setIndex (o k v : Value) : Work Unit := do
  let cannot {α : Type} : Work α := do
    typeError ("'" ++ (← typeName o) ++ "' object does not support item assignment")
  match o with
  | .ref id =>
    let t ← Work.thing id
    match t.shape with
    | .list =>
      match ← Work.thing? k with
      | some s =>
        if !isSlice s then typeError ("list indices must be integers or slices, not " ++ shapeName s)
        let ps ← slicePositions s t.items.size
        let vs := (← valuesAtHand v).getD []
        let stepped := !((← bound? (s.items.getD 2 .absent)).getD 1 = 1)
        if stepped then
          if ps.length != vs.length then
            valueError ("attempt to assign sequence of size " ++ toString vs.length
              ++ " to extended slice of size " ++ toString ps.length)
          let items := (ps.zip vs).foldl (fun (xs : Array Value) (i, x) => xs.setIfInBounds i x) t.items
          Work.setThing id { t with items }
        else
          let start ← match ← bound? (s.items.getD 0 .absent) with
            | some n => pure (max 0 (min (t.items.size : Int) (if n < 0 then n + t.items.size else n))).toNat
            | none => pure 0
          let xs := t.items.toList
          Work.setThing id { t with items := (xs.take start ++ vs ++ xs.drop (start + ps.length)).toArray }
      | none =>
        match number? k with
        | some (.int n) =>
          match position? n t.items.size with
          | some i => Work.setThing id { t with items := t.items.setIfInBounds i v }
          | none => raise "IndexError" "list assignment index out of range"
        | _ => typeError ("list indices must be integers or slices, not " ++ (← typeName k))
    | .dict =>
      let m ← mark k
      Work.modifyThing id fun t => { t with entries := putEntry t.entries m k v }
    | _ =>
      match ← special o "__setitem__" with
      | some f => throw (.call f .absent [k, v] [])
      | none => cannot
  | _ => cannot

def dropIndex (o k : Value) : Work Value := do
  match o with
  | .ref id =>
    let t ← Work.thing id
    match t.shape with
    | .list =>
      match ← Work.thing? k with
      | some s =>
        let ps ← slicePositions s t.items.size
        let items := t.items.zipIdx.filterMap fun (x, i) => if ps.contains i then none else some x
        Work.setThing id { t with items }
      | none =>
        match number? k with
        | some (.int n) =>
          match position? n t.items.size with
          | some i => Work.setThing id { t with items := t.items.eraseIdxIfInBounds i }
          | none => raise "IndexError" "list assignment index out of range"
        | _ => typeError ("list indices must be integers or slices, not " ++ (← typeName k))
      return .nothing
    | .dict =>
      let m ← mark k
      if (findEntry t.entries m).isNone then keyError k
      Work.setThing id { t with entries := dropEntry t.entries m }
      return .nothing
    | _ =>
      match ← special o "__delitem__" with
      | some f => throw (.call f .absent [k] [])
      | none => typeError ("'" ++ (← typeName o) ++ "' object doesn't support item deletion")
  | _ => typeError ("'" ++ (← typeName o) ++ "' object doesn't support item deletion")

end ScriptHost.Indented
