import ScriptHost.Power
import ScriptHost.Snippet.Letter
import ScriptHost.Decimal.Exact

/-!
Operations on the bits of integers, where a negative integer has ones without end in front of it,
and decimal numbers in texts: digits, perhaps with a point among them, and a power of ten.
-/
namespace ScriptHost.Snippet.Bits

def below (n : Int) : Nat := (-n - 1).toNat

def opposite (n : Nat) : Int := -(n : Int) - 1

def without (a b : Nat) : Nat := a ^^^ (a &&& b)

def and (a b : Int) : Int :=
  if 0 ≤ a then
    if 0 ≤ b then ((a.toNat &&& b.toNat : Nat) : Int) else (without a.toNat (below b) : Nat)
  else if 0 ≤ b then (without b.toNat (below a) : Nat)
  else opposite (below a ||| below b)

def or (a b : Int) : Int :=
  if 0 ≤ a then
    if 0 ≤ b then ((a.toNat ||| b.toNat : Nat) : Int) else opposite (without (below b) a.toNat)
  else if 0 ≤ b then opposite (without (below a) b.toNat)
  else opposite (below a &&& below b)

def xor (a b : Int) : Int :=
  if 0 ≤ a then
    if 0 ≤ b then ((a.toNat ^^^ b.toNat : Nat) : Int) else opposite (a.toNat ^^^ below b)
  else if 0 ≤ b then opposite (below a ^^^ b.toNat)
  else (below a ^^^ below b : Nat)

def shiftLeft (a : Int) (n : Nat) : Int := a * twoTo n

def shiftRight (a : Int) (n : Nat) : Int := a.fdiv (twoTo n)

end ScriptHost.Snippet.Bits

namespace ScriptHost.Snippet

/-- Powers of ten beyond which a number is zero or infinite in any case. -/
def clampPower (n : Int) : Int := max (-100000) (min 100000 n)

def scaledFloat (digits : Nat) (power : Int) : Float :=
  if digits = 0 then 0
  else
    let e := clampPower power
    if e < 0 then Float.ofScientific digits true e.natAbs else Float.ofScientific digits false e.natAbs

def powerFront (s : List Char) : Int × List Char :=
  match s with
  | c :: r =>
    if c = 'e' || c = 'E' then
      let (negative, t) := match r with
        | '-' :: t => (true, t)
        | '+' :: t => (false, t)
        | t => (false, t)
      let ds := t.takeWhile isDigit
      match ds, valueIn? 10 ds with
      | _ :: _, some n => (if negative then -(n : Int) else n, t.drop ds.length)
      | _, _ => (0, s)
    else (0, s)
  | [] => (0, s)

def floatFront? (s : List Char) : Option (Float × List Char) :=
  let whole := s.takeWhile isDigit
  let (fraction, r) := match s.drop whole.length with
    | '.' :: r =>
      let ds := r.takeWhile isDigit
      (ds, r.drop ds.length)
    | r => ([], r)
  if whole.isEmpty && fraction.isEmpty then none
  else
    let (power, r) := powerFront r
    match valueIn? 10 (whole ++ fraction) with
    | some n => some (scaledFloat n (power - fraction.length), r)
    | none => none

def float? (s : List Char) : Option Float :=
  match floatFront? s with
  | some (x, []) => some x
  | _ => none

end ScriptHost.Snippet
