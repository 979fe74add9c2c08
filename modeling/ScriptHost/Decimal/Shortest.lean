import ScriptHost.Power

/-!
The shortest decimal form of a floating-point number. A finite number stands for an interval of
reals that round to it; the fewest digits that name a point of that interval are its digits.
-/
namespace ScriptHost.Decimal

structure Short where
  negative : Bool
  digits : Nat
  exponent : Int
  deriving Repr, DecidableEq

/-- A finite number as `mantissa · 2^exponent`; `narrow` says that the gap below is half the gap
above. -/
structure Binary where
  mantissa : Nat
  exponent : Int
  narrow : Bool
  deriving Repr, DecidableEq

inductive Kind where
  | nan
  | infinite (negative : Bool)
  | finite (negative : Bool) (value : Binary)
  deriving Repr

def kindOfBits (bits : UInt64) : Kind :=
  let b : Nat := bits.toNat
  let negative := b / twoTo 63 = 1
  let e : Nat := b / twoTo 52 % twoTo 11
  let m : Nat := b % twoTo 52
  if e = 2047 then (if m = 0 then .infinite negative else .nan)
  else if e = 0 then .finite negative ⟨m, -1074, false⟩
  else .finite negative ⟨m + twoTo 52, (e : Int) - 1075, m = 0 && 1 < e⟩

/-- `true` when `d · 10^k` lies in the interval of reals that round to `v`; the ends belong to it
when the mantissa is even. All sides are scaled by four so that the half gaps are whole. -/
def reads (v : Binary) (d : Nat) (k : Int) : Bool :=
  let low := 4 * v.mantissa - (if v.narrow then 1 else 2)
  let high := 4 * v.mantissa + 2
  let two := v.exponent - 2
  -- compare d · 10^k with low · 2^two and high · 2^two
  let ten := tenTo k.toNat
  let unten := tenTo (-k).toNat
  let pow := twoTo two.toNat
  let unpow := twoTo (-two).toNat
  let point := d * ten * unpow
  let lo := low * pow * unten
  let hi := high * pow * unten
  if v.mantissa % 2 = 0 then lo ≤ point && point ≤ hi else lo < point && point < hi

def neighbour (v : Binary) (k : Int) : Nat :=
  v.mantissa * twoTo v.exponent.toNat * tenTo (-k).toNat / (twoTo (-v.exponent).toNat * tenTo k.toNat)

def upperNearer (v : Binary) (d : Nat) (k : Int) : Bool :=
  let value := 2 * v.mantissa * twoTo v.exponent.toNat * tenTo (-k).toNat
  let middle := (2 * d + 1) * tenTo k.toNat * twoTo (-v.exponent).toNat
  if value = middle then d % 2 = 1 else middle < value

def hit? (v : Binary) (k : Int) : Option Nat :=
  let d := neighbour v k
  match reads v d k, reads v (d + 1) k with
  | true, true => some (if upperNearer v d k then d + 1 else d)
  | true, false => some d
  | false, true => some (d + 1)
  | false, false => none

def magnitude (v : Binary) : Int :=
  let bits : Int := (Nat.log2 v.mantissa : Int) + v.exponent
  bits * 30103 / 100000 + 1

def stripZeros (fuel d : Nat) (k : Int) : Nat × Int :=
  match fuel with
  | 0 => (d, k)
  | fuel + 1 => if d ≠ 0 ∧ d % 10 = 0 then stripZeros fuel (d / 10) (k + 1) else (d, k)

/-- The coarsest grid with a hit wins; twenty grids always reach one. -/
def search (v : Binary) : Nat → Int → Nat × Int
  | 0, k => (neighbour v k, k)
  | n + 1, k =>
    match hit? v k with
    | some d => if d = 0 then search v n (k - 1) else stripZeros 20 d k
    | none => search v n (k - 1)

def shortest (negative : Bool) (v : Binary) : Short :=
  if v.mantissa = 0 then ⟨negative, 0, 0⟩
  else
    let (d, k) := search v 24 (magnitude v + 1)
    ⟨negative, d, k⟩

/-- How a number is laid out: the sizes written without an exponent, and the spelling of the rest.
`point` is the number of digits before the decimal point. -/
structure Layout where
  leastPoint : Int
  greatestPoint : Int
  pointZero : Bool
  exponentMark : String
  exponentPlus : Bool
  exponentWidth : Nat
  deriving Repr

def padLeft (width : Nat) (s : String) : String :=
  String.ofList (List.replicate (width - s.length) '0') ++ s

def zeros (n : Nat) : String := String.ofList (List.replicate n '0')

def Short.render (style : Layout) (s : Short) : String :=
  let sign := if s.negative then "-" else ""
  let text := toString s.digits
  let point : Int := text.length + s.exponent
  let tail := if style.pointZero then ".0" else ""
  if s.digits = 0 then sign ++ "0" ++ tail
  else if style.leastPoint ≤ point ∧ point ≤ style.greatestPoint then
    if 0 ≤ s.exponent then sign ++ text ++ zeros s.exponent.toNat ++ tail
    else if 0 < point then
      let cs := text.toList
      sign ++ String.ofList (cs.take point.toNat) ++ "." ++ String.ofList (cs.drop point.toNat)
    else sign ++ "0." ++ zeros (-point).toNat ++ text
  else
    let e := point - 1
    let cs := text.toList
    let body := match cs with
      | [] => ""
      | [c] => String.ofList [c]
      | c :: rest => String.ofList (c :: '.' :: rest)
    let esign := if e < 0 then "-" else if style.exponentPlus then "+" else ""
    sign ++ body ++ style.exponentMark ++ esign ++ padLeft style.exponentWidth (toString e.natAbs)

end ScriptHost.Decimal
