import ScriptHost.Indented.Given
import ScriptHost.Snippet.Numeral

/-!
Numbers out of texts, numbers that are rounded, and the functions of mathematics.
-/
namespace ScriptHost.Indented

open Snippet

/-! ## Numbers out of other values -/

def trimGaps (s : List Char) : List Char :=
  let front := s.dropWhile Text.isBlank
  (front.reverse.dropWhile Text.isBlank).reverse

def signOf (s : List Char) : Bool × List Char :=
  match s with
  | '-' :: r => (true, r)
  | '+' :: r => (false, r)
  | r => (false, r)

def basedDigits (base : Nat) (s : List Char) : Nat × List Char :=
  let marked (b : Nat) (r : List Char) : Nat × List Char :=
    if base = 0 || base = b then (b, match r with
      | '_' :: t => t
      | t => t) else (base, s)
  match s with
  | '0' :: 'x' :: r | '0' :: 'X' :: r => marked 16 r
  | '0' :: 'o' :: r | '0' :: 'O' :: r => marked 8 r
  | '0' :: 'b' :: r | '0' :: 'B' :: r => marked 2 r
  | s => (if base = 0 then 10 else base, s)

def digitValue? (c : Char) : Option Nat :=
  if isDigit c then some (c.toNat - 48)
  else
    let l := c.toLower
    if 'a' ≤ l && l ≤ 'z' then some (l.toNat - 87) else none

def valueInBase? (base : Nat) (cs : List Char) : Option Nat :=
  cs.foldlM (fun n c => (digitValue? c).bind fun d => if d < base then some (n * base + d) else none) 0

def intOfText? (base : Nat) (text : String) : Option Int :=
  let (negative, s) := signOf (trimGaps text.toList)
  let (base, s) := basedDigits base s
  let (ds, rest) := spacedDigits (fun c => (digitValue? c).isSome) s
  match ds, rest with
  | _ :: _, [] => (valueInBase? base ds).map fun n => if negative then -(n : Int) else n
  | _, _ => none

def floatOfText? (text : String) : Option Float :=
  let (negative, s) := signOf (trimGaps text.toList)
  let plain := s.filter (· ≠ '_')
  let x := match (String.ofList plain).toLower with
    | "inf" | "infinity" => some (1.0 / 0.0)
    | "nan" => some (0.0 / 0.0)
    | _ => float? plain
  x.map fun x => if negative then -x else x

def intOfFloat (x : Float) : Work Int := do
  if x.isNaN then valueError "cannot convert float NaN to integer"
  match Decimal.integer? (if x < 0 then x.ceil else x.floor) with
  | some n => return n
  | none => raise "OverflowError" "cannot convert float infinity to integer"

def toInt (args : List Value) (named : List (String × Value)) : Work Value := do
  let vs ← given "int" ["x", "base"] 0 args named
  match arg vs 0 with
  | .absent => return .int 0
  | .str s =>
    let base ← intOr 10 (arg vs 1)
    match intOfText? base.toNat s with
    | some n => return .int n
    | none => valueError ("invalid literal for int() with base " ++ toString base ++ ": " ++ quotedText s)
  | .bytes b =>
    match intOfText? 10 (Bytes.lossy b) with
    | some n => return .int n
    | none => valueError ("invalid literal for int() with base 10: " ++ quotedBytes b)
  | v =>
    match number? v with
    | some (.int n) => return .int n
    | some (.float x) => return .int (← intOfFloat x)
    | none =>
      if let some f ← special v "__int__" then throw (.call f .absent [] [])
      if let some f ← special v "__index__" then throw (.call f .absent [] [])
      typeError ("int() argument must be a string, a bytes-like object or a real number, not '"
        ++ (← typeName v) ++ "'")

def toFloat (args : List Value) (named : List (String × Value)) : Work Value := do
  let vs ← given "float" ["x"] 0 args named
  match arg vs 0 with
  | .absent => return .float 0
  | .str s =>
    match floatOfText? s with
    | some x => return .float x
    | none => valueError ("could not convert string to float: " ++ quotedText s)
  | v =>
    match number? v with
    | some x => return .float x.toFloat
    | none =>
      if let some f ← special v "__float__" then throw (.call f .absent [] [])
      typeError ("float() argument must be a string or a real number, not '" ++ (← typeName v) ++ "'")

/-! ## Rounding -/

def roundDown (n : Int) (unit : Nat) : Int :=
  let u : Int := unit
  let low := n.fdiv u
  let twice := 2 * (n - low * u)
  if twice < u then low * u
  else if u < twice then (low + 1) * u
  else if low % 2 = 0 then low * u
  else (low + 1) * u

def roundPlaces (x : Float) (places : Nat) : Float :=
  match Decimal.kind x with
  | .finite negative v =>
    match float? (Text.Field.fixed places v).toList with
    | some y => if negative then -y else y
    | none => x
  | _ => x

def roundValue (v digits : Value) : Work Value := do
  match number? v with
  | some (.int n) =>
    let d ← intOr 0 digits
    return .int (if 0 ≤ d then n else roundDown n (tenTo d.natAbs))
  | some (.float x) =>
    if isNone digits then
      if x.isNaN then valueError "cannot convert float NaN to integer"
      if x.isInf then raise "OverflowError" "cannot convert float infinity to integer"
      return .int (← intOfFloat (roundPlaces x 0))
    let d ← needInt digits
    if 0 ≤ d then return .float (roundPlaces x (min d.toNat 400))
    return .float (Float.ofInt (roundDown (← intOfFloat (roundPlaces x 0)) (tenTo d.natAbs)))
  | none =>
    if let some f ← special v "__round__" then throw (.call f .absent [] [])
    typeError ("type " ++ (← typeName v) ++ " doesn't define __round__ method")

def powerMod (base exponent modulus : Nat) : Nat :=
  let rec go : Nat → Nat → Nat → Nat → Nat
    | 0, _, _, acc => acc
    | fuel + 1, b, e, acc =>
      if e = 0 then acc
      else go fuel (b * b % modulus) (e / 2) (if e % 2 = 1 then acc * b % modulus else acc)
  go (Nat.log2 exponent + 1) (base % modulus) exponent (1 % modulus)

/-! ## Mathematics -/

def wholeRoot (n : Nat) : Nat :=
  let rec go : Nat → Nat → Nat
    | 0, x => x
    | fuel + 1, x =>
      let y := (x + n / x) / 2
      if y < x then go fuel y else x
  if n = 0 then 0 else go (Nat.log2 n + 4) (twoTo (Nat.log2 n / 2 + 1))

def fallingProduct (n k : Nat) : Nat := (List.range k).foldl (fun acc i => acc * (n - i)) 1

def productLimit : Nat := 20000

def floatFunction? (name : String) : Option (Float → Float) :=
  match name with
  | "sqrt" => some Float.sqrt
  | "exp" => some Float.exp
  | "sin" => some Float.sin
  | "cos" => some Float.cos
  | "tan" => some Float.tan
  | "asin" => some Float.asin
  | "acos" => some Float.acos
  | "atan" => some Float.atan
  | "log2" => some Float.log2
  | "log10" => some Float.log10
  | "cbrt" => some Float.cbrt
  | "fabs" => some Float.abs
  | "degrees" => some fun x => x * (180.0 / 3.141592653589793)
  | "radians" => some fun x => x * (3.141592653589793 / 180.0)
  | _ => none

def outsideDomain (name : String) (x : Float) : Bool :=
  match name with
  | "sqrt" => x < 0
  | "log2" | "log10" | "log" => x ≤ 0
  | "asin" | "acos" => x < -1 || 1 < x
  | "sin" | "cos" | "tan" => x.isInf
  | _ => false

def wholePart (name : String) (x : Float) : Work Value := do
  if x.isNaN then valueError "cannot convert float NaN to integer"
  let y := match name with
    | "floor" => x.floor
    | "ceil" => x.ceil
    | _ => if x < 0 then x.ceil else x.floor
  return .int (← intOfFloat y)

def callMath (name : String) (args : List Value) (named : List (String × Value)) : Work Value := do
  if let some f := floatFunction? name then
    let x ← needFloat (arg (← given name ["x"] 1 args named) 0)
    if outsideDomain name x then valueError "math domain error"
    return .float (f x)
  match name with
  | "floor" | "ceil" | "trunc" =>
    let v := arg (← given name ["x"] 1 args named) 0
    match number? v with
    | some (.int n) => return .int n
    | _ => wholePart name (← needFloat v)
  | "log" =>
    let vs ← given name ["x", "base"] 1 args named
    let x ← needFloat (arg vs 0)
    if outsideDomain name x then valueError "math domain error"
    if isNone (arg vs 1) then return .float x.log
    return .float (x.log / (← needFloat (arg vs 1)).log)
  | "pow" | "atan2" | "copysign" | "fmod" | "hypot" =>
    let x ← needFloat (arg args 0)
    let y ← needFloat (arg args 1)
    match name with
    | "pow" => return .float (x.pow y)
    | "atan2" => return .float (x.atan2 y)
    | "hypot" => return .float (x * x + y * y).sqrt
    | "fmod" =>
      if y == 0 then valueError "math domain error"
      return .float (Decimal.remainder x y)
    | _ =>
      let negative := match Decimal.kind y with
        | .finite n _ => n
        | .infinite n => n
        | .nan => false
      return .float (if negative then -x.abs else x.abs)
  | "gcd" =>
    let ns ← args.mapM needInt
    return .int ((ns.map Int.natAbs).foldl Nat.gcd 0 : Nat)
  | "lcm" =>
    let ns ← args.mapM needInt
    return .int ((ns.map Int.natAbs).foldl Nat.lcm 1 : Nat)
  | "factorial" =>
    let n ← needInt (arg args 0)
    if n < 0 then valueError "factorial() not defined for negative values"
    if productLimit < n.toNat then throw (.finish .endless)
    return .int (fallingProduct n.toNat n.toNat)
  | "comb" | "perm" =>
    let n ← needInt (arg args 0)
    let k ← intOr n (arg args 1)
    if n < 0 || k < 0 then valueError (if n < 0 then "n must be a non-negative integer" else "k must be a non-negative integer")
    if n < k then return .int 0
    let k := if name = "comb" then min k.toNat (n - k).toNat else k.toNat
    if productLimit < k then throw (.finish .endless)
    let p := fallingProduct n.toNat k
    return .int ((if name = "comb" then p / fallingProduct k k else p) : Nat)
  | "isqrt" =>
    let n ← needInt (arg args 0)
    if n < 0 then valueError "isqrt() argument must be nonnegative"
    return .int (wholeRoot n.toNat)
  | "isnan" => return .truth (← needFloat (arg args 0)).isNaN
  | "isinf" => return .truth (← needFloat (arg args 0)).isInf
  | "isfinite" => return .truth (← needFloat (arg args 0)).isFinite
  | "isclose" =>
    let vs ← given name ["a", "b", "rel_tol", "abs_tol"] 2 args named
    let a ← needFloat (arg vs 0)
    let b ← needFloat (arg vs 1)
    let rel ← if isNone (arg vs 2) then pure 1e-9 else needFloat (arg vs 2)
    let least ← if isNone (arg vs 3) then pure 0 else needFloat (arg vs 3)
    let bound := rel * (if a.abs < b.abs then b.abs else a.abs)
    return .truth (a == b || (a - b).abs ≤ (if bound < least then least else bound))
  | "modf" =>
    let x ← needFloat (arg args 0)
    let whole := if x < 0 then x.ceil else x.floor
    newTuple [.float (x - whole), .float whole]
  | "fsum" =>
    let (vs, _) ← listed (.native "math.fsum") args named
    let xs ← vs.mapM needFloat
    return .float (xs.foldl (· + ·) 0)
  | "prod" =>
    let (vs, _) ← listed (.native "math.prod") args named
    vs.foldlM (fun acc v => arithmetic "*" acc v) (.int 1)
  | "dist" =>
    let p ← listed (.native "math.dist") (args.take 1) []
    let q ← listed (.native "math.dist") (args.drop 1) []
    let squares ← (p.1.zip q.1).mapM fun (a, b) => do
      let d := (← needFloat a) - (← needFloat b)
      return d * d
    return .float (squares.foldl (· + ·) 0).sqrt
  | _ => raise "AttributeError" ("module 'math' has no attribute '" ++ name ++ "'")

/-- An integer with the mark of its base. -/
def markedDigits (base : Nat) (mark : String) (n : Int) : String :=
  (if n < 0 then "-" else "") ++ mark ++ String.ofList (Nat.toDigits base n.natAbs)

end ScriptHost.Indented
