import ScriptHost.Decimal.Shortest

/-!
Floating-point numbers as the exact numbers they stand for: integers among them, their order beside
integers, remainders, and a given number of decimal digits.
-/
namespace ScriptHost.Decimal

def kind (x : Float) : Kind := kindOfBits x.toBits

def floor? (x : Float) : Option Int :=
  match kind x with
  | .finite negative v =>
    let whole := v.mantissa * twoTo v.exponent.toNat / twoTo (-v.exponent).toNat
    let exact := v.mantissa * twoTo v.exponent.toNat % twoTo (-v.exponent).toNat = 0
    some (if negative then (if exact then -(whole : Int) else -(whole : Int) - 1) else whole)
  | _ => none

def integer? (x : Float) : Option Int :=
  match kind x with
  | .finite negative v =>
    let scaled := v.mantissa * twoTo v.exponent.toNat
    let unit := twoTo (-v.exponent).toNat
    if scaled % unit = 0 then
      some (if negative then -((scaled / unit : Nat) : Int) else (scaled / unit : Nat))
    else none
  | _ => none

def intLess (n : Int) (x : Float) : Bool :=
  match kind x with
  | .nan => false
  | .infinite negative => !negative
  | .finite .. =>
    match floor? x with
    | some f => n < f || (n = f && (integer? x).isNone)
    | none => false

def lessInt (x : Float) (n : Int) : Bool :=
  match kind x with
  | .nan => false
  | .infinite negative => negative
  | .finite .. =>
    match floor? x with
    | some f => f < n
    | none => false

def intEqual (n : Int) (x : Float) : Bool := integer? x = some n

/-- The remainder of a division toward zero, which is always exact; it has the sign of `x`. -/
def remainder (x y : Float) : Float :=
  match kind x, kind y with
  | .finite negative a, .finite _ b =>
    if b.mantissa = 0 then 0.0 / 0.0
    else
      let e := min a.exponent b.exponent
      let r := a.mantissa * twoTo (a.exponent - e).toNat % (b.mantissa * twoTo (b.exponent - e).toNat)
      let z := Float.scaleB (Float.ofNat r) e
      if negative then -z else z
  | .finite .., .infinite _ => x
  | _, _ => 0.0 / 0.0

/-- The value rounded to `n` decimal digits, a tie to the even one: digits and their exponent. -/
def significant (n : Nat) (v : Binary) : Nat × Int :=
  if v.mantissa = 0 then (0, 0)
  else
    let top := magnitude v + 1 - n
    let k := ((List.range 4).map fun (i : Nat) => top - (i : Int)).find? fun k =>
      tenTo (n - 1) ≤ neighbour v k
    let k := k.getD (top - 4)
    let d := neighbour v k
    stripZeros (n + 1) (if upperNearer v d k then d + 1 else d) k

def toDigits (n : Nat) (negative : Bool) (v : Binary) : Short :=
  let (d, k) := significant n v
  ⟨negative, d, k⟩

end ScriptHost.Decimal
