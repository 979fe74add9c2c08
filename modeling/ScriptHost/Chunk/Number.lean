import ScriptHost.Text.Utf8
import ScriptHost.Decimal.Exact

/-!
Numbers of the chunk language: 64-bit integers, whose arithmetic wraps around, and floating-point
numbers; how they are written and read.
-/
namespace ScriptHost.Chunk

inductive Number where
  | int (n : Int)
  | float (x : Float)

def wrap (n : Int) : Int := n.bmod (twoTo 64)

def leastInt : Int := -twoTo 63

def greatestInt : Int := twoTo 63 - 1

def fitsInt (n : Int) : Bool := leastInt ≤ n && n ≤ greatestInt

def toFloat (n : Int) : Float := Float.ofInt n

namespace Number

def asFloat : Number → Float
  | .int n => toFloat n
  | .float x => x

def int? : Number → Option Int
  | .int n => some n
  | .float x => (Decimal.integer? x).filter fitsInt

/-- Fourteen digits; sizes from 10^-4 up to 10^14 are written without an exponent. -/
def layout : Decimal.Layout := ⟨-3, 14, true, "e", true, 2⟩

def floatText (x : Float) : String :=
  match Decimal.kind x with
  | .nan => "-nan"
  | .infinite negative => if negative then "-inf" else "inf"
  | .finite negative v => (Decimal.toDigits 14 negative v).render layout

def text : Number → String
  | .int n => toString n
  | .float x => floatText x

end Number

def isDigit (b : UInt8) : Bool := 0x30 ≤ b && b ≤ 0x39

def hexValue? (b : UInt8) : Option Nat :=
  if isDigit b then some (b.toNat - 0x30)
  else if 0x61 ≤ b && b ≤ 0x66 then some (b.toNat - 0x57)
  else if 0x41 ≤ b && b ≤ 0x46 then some (b.toNat - 0x37)
  else none

def isHexDigit (b : UInt8) : Bool := (hexValue? b).isSome

def isSpace (b : UInt8) : Bool := b == 0x20 || (0x09 ≤ b && b ≤ 0x0D)

def decimalValue (ds : Bytes) : Nat := ds.foldl (fun n d => n * 10 + (d.toNat - 0x30)) 0

def hexDigitsValue (ds : Bytes) : Nat := ds.foldl (fun n d => n * 16 + (hexValue? d).getD 0) 0

def takeSign : Bytes → Bool × Bytes
  | 0x2D :: r => (true, r)
  | 0x2B :: r => (false, r)
  | r => (false, r)

def takeExponent (lower upper : UInt8) (s : Bytes) : Option (Int × Bytes) :=
  match s with
  | c :: r =>
    if c == lower || c == upper then
      let (negative, r) := takeSign r
      let ds := r.takeWhile isDigit
      if ds.isEmpty then none
      else
        let e : Int := decimalValue ds
        some (if negative then -e else e, r.drop ds.length)
    else some (0, s)
  | [] => some (0, [])

def takeFraction (digit : UInt8 → Bool) (s : Bytes) : Bytes × Bytes × Bytes :=
  let whole := s.takeWhile digit
  match s.drop whole.length with
  | 0x2E :: r =>
    let fraction := r.takeWhile digit
    (whole, fraction, r.drop fraction.length)
  | r => (whole, [], r)

def clampExponent (e : Int) : Int := max (-100000) (min 100000 e)

def decimalFloat? (s : Bytes) : Option Float :=
  let (whole, fraction, r) := takeFraction isDigit s
  if whole.isEmpty && fraction.isEmpty then none
  else match takeExponent 0x65 0x45 r with
  | some (e, []) =>
    let digits := decimalValue (whole ++ fraction)
    let e := clampExponent (e - fraction.length)
    some (if digits = 0 then 0.0
      else if e < 0 then
        (if e < -(1000 + (whole.length + fraction.length : Int)) then 0.0
          else Float.ofScientific digits true e.natAbs)
      else if 400 < e then 1.0 / 0.0
      else Float.ofScientific digits false e.natAbs)
  | _ => none

def hexFloat? (s : Bytes) : Option Float :=
  let (whole, fraction, r) := takeFraction isHexDigit s
  if whole.isEmpty && fraction.isEmpty then none
  else match takeExponent 0x70 0x50 r with
  | some (e, []) =>
    let m := hexDigitsValue (whole ++ fraction)
    some (Float.scaleB (Float.ofNat m) (clampExponent (e - 4 * fraction.length)))
  | _ => none

/-- Digits alone are an integer when it fits; hexadecimal ones wrap around. -/
def unsigned? (negative : Bool) (s : Bytes) : Option Number :=
  match s with
  | 0x30 :: 0x78 :: r | 0x30 :: 0x58 :: r =>
    if !r.isEmpty && r.all isHexDigit then
      let n : Int := hexDigitsValue r
      some (.int (wrap (if negative then -n else n)))
    else (hexFloat? r).map fun x => .float (if negative then -x else x)
  | _ =>
    let n : Int := decimalValue s
    let n := if negative then -n else n
    if !s.isEmpty && s.all isDigit && fitsInt n then some (.int n)
    else (decimalFloat? s).map fun x => .float (if negative then -x else x)

def number? (s : Bytes) : Option Number :=
  let s := ((s.dropWhile isSpace).reverse.dropWhile isSpace).reverse
  let (negative, r) := takeSign s
  unsigned? negative r

end ScriptHost.Chunk
