import ScriptHost.Braced.Lists

/-!
What is asked of numbers: digits to some place, digits in other bases, and the functions of the
calculus.
-/
namespace ScriptHost.Braced

open Snippet

/-! ## Digits -/

/-- The nearest multiple of a power of ten below or at the middle; a half goes up. -/
def roundedAt (v : Decimal.Binary) (places : Int) : Nat :=
  let (num, den) := if 0 ≤ v.exponent then (v.mantissa * twoTo v.exponent.toNat, 1)
    else (v.mantissa, twoTo (-v.exponent).toNat)
  let (num, den) := if 0 ≤ places then (num * tenTo places.toNat, den) else (num, den * tenTo (-places).toNat)
  (2 * num + den) / (2 * den)

def pointed (digits places : Nat) : String :=
  let cs := (Decimal.padLeft (places + 1) (toString digits)).toList
  if places = 0 then String.ofList cs
  else String.ofList (cs.take (cs.length - places) ++ '.' :: cs.drop (cs.length - places))

def signed (negative : Bool) (s : String) : String := if negative then "-" ++ s else s

def fixedText (x : Float) (places : Nat) : String :=
  match Decimal.kind x with
  | .finite negative v =>
    if x.abs ≥ 1e21 then numberText x
    else
      let digits := roundedAt v places
      signed (negative && x != 0) (pointed digits places)
  | _ => numberText x

def digitsTo (v : Decimal.Binary) (precision : Nat) : Nat × Int :=
  if v.mantissa = 0 then (0, 0)
  else
    let e := Decimal.magnitude v
    let fit := (List.range 5).findSome? fun (i : Nat) =>
      let e : Int := e - 2 + (i : Int)
      let digits := roundedAt v ((precision : Int) - 1 - e)
      if tenTo (precision - 1) ≤ digits && digits < tenTo precision then some (digits, e) else none
    fit.getD (tenTo (precision - 1), e + 1)

def powerText (digits : Nat) (places : Nat) (e : Int) : String :=
  let cs := (toString digits).toList
  let fraction := if places = 0 then [] else '.' :: (cs.drop 1 ++ List.replicate (places + 1 - cs.length) '0')
  String.ofList (cs.take 1 ++ fraction) ++ (if e < 0 then "e-" else "e+") ++ toString e.natAbs

def precisionText (x : Float) (precision : Nat) : String :=
  match Decimal.kind x with
  | .finite negative v =>
    let (digits, e) := digitsTo v precision
    let body :=
      if e < -6 || (precision : Int) ≤ e then powerText digits (precision - 1) e
      else if 0 ≤ e then pointed digits (precision - 1 - e.toNat)
      else "0." ++ Decimal.zeros ((-e).toNat - 1) ++ Decimal.padLeft precision (toString digits)
    signed (negative && x != 0) (if v.mantissa = 0 then pointed 0 (precision - 1) else body)
  | _ => numberText x

def exponentialText (x : Float) (places : Option Nat) : String :=
  match Decimal.kind x with
  | .finite negative v =>
    let body := match places with
      | some n =>
        let (digits, e) := digitsTo v (n + 1)
        powerText digits n e
      | none =>
        let short := Decimal.shortest false v
        let size := (toString short.digits).length
        powerText short.digits (size - 1) (if short.digits = 0 then 0 else short.exponent + size - 1)
    signed (negative && x != 0) body
  | _ => numberText x

def digitText (n : Nat) : Char := "0123456789abcdefghijklmnopqrstuvwxyz".toList.getD n '0'

def baseText (radix n : Nat) : String :=
  let rec go : Nat → Nat → List Char → List Char
    | 0, _, acc => acc
    | fuel + 1, n, acc =>
      if n < radix then digitText n :: acc else go fuel (n / radix) (digitText (n % radix) :: acc)
  String.ofList (go (Nat.log2 n + 2) n [])

def carried (radix : Nat) : List Nat → List Nat × Bool
  | [] => ([], true)
  | d :: ds => if d + 1 < radix then ((d + 1) :: ds, false) else carried radix ds

/-- The digits behind the point, the last one first, until they tell a number from its neighbours. -/
def fractionDigits (radix : Nat) : Nat → Float → Float → List Nat → List Nat × Bool
  | 0, _, _, acc => (acc, false)
  | fuel + 1, fraction, delta, acc =>
    if fraction < delta then (acc, false)
    else
      let fraction := fraction * Float.ofNat radix
      let delta := delta * Float.ofNat radix
      let digit := fraction.floor
      let fraction := fraction - digit
      let d := digit.toUInt64.toNat
      if (fraction > 0.5 || (fraction == 0.5 && d % 2 = 1)) && fraction + delta > 1 then carried radix (d :: acc)
      else fractionDigits radix fuel fraction delta (d :: acc)

def radixText (x : Float) (radix : Nat) : String :=
  if radix = 10 || !x.isFinite then numberText x
  else
    let y := x.abs
    let whole := y.floor
    let next := Float.ofBits (y.toBits + 1)
    let delta := max (0.5 * (next - y)) 5e-324
    let (ds, carried) := fractionDigits radix 1100 (y - whole) delta []
    let n := (wholePart? whole).getD 0 |>.toNat
    let n := if carried then n + 1 else n
    let fraction := if ds.isEmpty then "" else "." ++ String.ofList (ds.reverse.map digitText)
    signed (x < 0) (baseText radix n ++ fraction)

def grouped (s : String) : String :=
  let rec go : List Char → Nat → List Char
    | [], _ => []
    | c :: cs, i => c :: (if i % 3 = 2 && !cs.isEmpty then ',' :: go cs (i + 1) else go cs (i + 1))
  String.ofList (go s.toList.reverse 0).reverse

def localText (x : Float) : String :=
  match Decimal.kind x with
  | .nan => "NaN"
  | .infinite negative => signed negative "∞"
  | .finite negative v =>
    let digits := roundedAt v 3
    let fraction := (Decimal.padLeft 3 (toString (digits % 1000))).toList.reverse.dropWhile (· = '0')
    let tail := if fraction.isEmpty then "" else "." ++ String.ofList fraction.reverse
    signed negative (grouped (toString (digits / 1000)) ++ tail)

def numberThis (this : Value) : Work Float := do
  match this with
  | .float x => return x
  | v => toNumber v

def callNumber (name : String) (this : Value) (args : List Value) : Work Value := do
  let x ← numberThis this
  let a := arg args 0
  let n := intOfFloat (← toNumber a)
  match name with
  | "valueOf" => return .float x
  | "toFixed" =>
    if n < 0 || 100 < n then rangeError "toFixed() digits argument must be between 0 and 100"
    return .str (fixedText x n.toNat)
  | "toPrecision" =>
    if !isGiven a then return .str (numberText x)
    if n < 1 || 100 < n then rangeError "toPrecision() argument must be between 1 and 100"
    return .str (precisionText x n.toNat)
  | "toExponential" =>
    if !isGiven a then return .str (exponentialText x none)
    if n < 0 || 100 < n then rangeError "toExponential() argument must be between 0 and 100"
    return .str (exponentialText x (some n.toNat))
  | "toLocaleString" => return .str (localText x)
  | _ =>
    if !isGiven a then return .str (numberText x)
    if n < 2 || 36 < n then rangeError "toString() radix must be between 2 and 36"
    return .str (radixText x n.toNat)

def callBig (name : String) (this : Value) (args : List Value) : Work Value := do
  match this with
  | .int n =>
    match name with
    | "valueOf" => return .int n
    | "toLocaleString" => return .str (signed (n < 0) (grouped (toString n.natAbs)))
    | _ =>
      let radix := intOfFloat (← toNumber (arg args 0))
      if !isGiven (arg args 0) then return .str (toString n)
      if radix < 2 || 36 < radix then rangeError "toString() radix must be between 2 and 36"
      return .str (signed (n < 0) (baseText radix.toNat n.natAbs))
  | _ => typeError "BigInt.prototype.valueOf requires that 'this' be a BigInt"

def callNumbers (name : String) (args : List Value) : Work Value := do
  let a := arg args 0
  match name with
  | "parseInt" => return .float (leadingInteger (← textOf a) (intOfFloat (← toNumber (arg args 1))).toNat)
  | "parseFloat" => return .float (leadingNumber (← textOf a))
  | "isInteger" | "isSafeInteger" | "isFinite" | "isNaN" =>
    match a with
    | .float x => return .truth (match name with
        | "isNaN" => x.isNaN
        | "isFinite" => x.isFinite
        | "isInteger" => x.isFinite && x.floor == x
        | _ => x.isFinite && x.floor == x && x.abs ≤ 9007199254740991)
    | _ => return .truth false
  | _ => typeError ("Number." ++ name ++ " is not a function")

def bigOfText? (s : String) : Option Int :=
  let cs := trimSpaces s.toList
  let plain (ds : List Char) : Option Int :=
    if ds.all isDigit && !ds.isEmpty then (valueIn? 10 ds).map Int.ofNat else none
  match cs with
  | [] => some 0
  | '0' :: 'x' :: r | '0' :: 'X' :: r => if r.isEmpty then none else (valueIn? 16 r).map Int.ofNat
  | '-' :: r => (plain r).map fun n => -n
  | '+' :: r => plain r
  | r => plain r

def toBig (v : Value) : Work Value := do
  match v with
  | .int n => return .int n
  | .truth b => return .int (if b then 1 else 0)
  | .float x =>
    match Decimal.integer? x with
    | some n => return .int n
    | none =>
      rangeError ("The number " ++ numberText x
        ++ " cannot be converted to a BigInt because it is not an integer")
  | .str s =>
    match bigOfText? s with
    | some n => return .int n
    | none => raise "SyntaxError" ("Cannot convert " ++ s ++ " to a BigInt")
  | v => typeError ("Cannot convert " ++ (← textOf v) ++ " to a BigInt")

/-! ## Calculus -/

def roundedHalfUp (x : Float) : Float :=
  if !x.isFinite || x.floor == x then x
  else
    let f := x.floor
    let r := if x - f < 0.5 then f else f + 1
    if r == 0 && x < 0 then -0.0 else r

def extremeOf (greatest : Bool) (xs : List Float) : Float :=
  let first := if greatest then -infinity else infinity
  xs.foldl (fun m x =>
    if m.isNaN || x.isNaN then nan
    else if m == 0 && x == 0 then
      let negative := (1 / m < 0) || (1 / x < 0)
      let both := (1 / m < 0) && (1 / x < 0)
      if (if greatest then both else negative) then -0.0 else 0
    else if (if greatest then x > m else x < m) then x else m) first

/-- A number that nobody foresees; it comes from how far the script has got. -/
def chance : Work Float := do
  let w ← get
  let seed := (w.heap.size * 2654435761 + w.scopes.size * 40503 + w.ms * 69069 + w.out.length * 7919 + 12345)
  modify fun w => { w with scopes := w.scopes.push { extent := .block } }
  return Float.ofNat (seed * 6364136223846793005 % 9007199254740992) / 9007199254740992.0

def calculus? (name : String) (x : Float) : Option Float :=
  match name with
  | "abs" => some x.abs
  | "floor" => some x.floor
  | "ceil" => some x.ceil
  | "round" => some (roundedHalfUp x)
  | "trunc" => some (if x < 0 then x.ceil else x.floor)
  | "sign" => some (if x > 0 then 1 else if x < 0 then -1 else x)
  | "sqrt" => some x.sqrt
  | "cbrt" =>
    let r := x.cbrt
    some (if r == 0 || !r.isFinite then r else r - (r * r * r - x) / (3 * r * r))
  | "sin" => some x.sin
  | "cos" => some x.cos
  | "tan" => some x.tan
  | "asin" => some x.asin
  | "acos" => some x.acos
  | "atan" => some x.atan
  | "sinh" => some x.sinh
  | "cosh" => some x.cosh
  | "tanh" => some x.tanh
  | "exp" => some x.exp
  | "expm1" => some (if x.abs < 1e-5 then x + x * x / 2 else x.exp - 1)
  | "log" => some x.log
  | "log2" => some x.log2
  | "log10" => some x.log10
  | "log1p" => some (if x.abs < 1e-5 then x - x * x / 2 else (1 + x).log)
  | "fround" => some x.toFloat32.toFloat
  | "clz32" =>
    let n := unsigned32 x
    some (Float.ofNat (if n = 0 then 32 else 31 - Nat.log2 n))
  | _ => none

def callMath (name : String) (args : List Value) : Work Value := do
  let xs ← args.mapM toNumber
  let x := xs.getD 0 nan
  let y := xs.getD 1 nan
  match name with
  | "max" => return .float (extremeOf true xs)
  | "min" => return .float (extremeOf false xs)
  | "pow" => return .float (power x y)
  | "atan2" => return .float (x.atan2 y)
  | "hypot" => return .float ((xs.foldl (fun s x => s + x * x) 0).sqrt)
  | "imul" => return numberOfInt ((wrapped 32 x * wrapped 32 y).bmod (twoTo 32))
  | "random" => return .float (← chance)
  | _ =>
    match calculus? name x with
    | some r => return .float r
    | none => typeError ("Math." ++ name ++ " is not a function")

end ScriptHost.Braced
