import ScriptHost.Text.Utf8
import ScriptHost.Decimal.Exact

/-!
Fields of formatted texts: what stands between a percent sign and its letter, and how texts and
numbers are laid out under it.
-/
namespace ScriptHost.Text

structure Field where
  left : Bool := false
  plus : Bool := false
  space : Bool := false
  alternate : Bool := false
  zero : Bool := false
  width : Nat := 0
  precision : Option Nat := none

namespace Field

def isFlag (b : UInt8) : Bool := [0x2D, 0x2B, 0x20, 0x23, 0x30].contains b

def isDigit (b : UInt8) : Bool := 0x30 ≤ b && b ≤ 0x39

def value (ds : Bytes) : Nat := ds.foldl (fun n d => n * 10 + (d.toNat - 0x30)) 0

def read (most : Nat) (s : Bytes) : Field × Bytes :=
  let flags := s.takeWhile isFlag
  let r := s.drop flags.length
  let width := (r.take most).takeWhile isDigit
  let r := r.drop width.length
  let (precision, r) := match r with
    | 0x2E :: t =>
      let p := (t.take most).takeWhile isDigit
      (some (value p), t.drop p.length)
    | r => (none, r)
  (⟨flags.contains 0x2D, flags.contains 0x2B, flags.contains 0x20, flags.contains 0x23,
    flags.contains 0x30, value width, precision⟩, r)

def pad (f : Field) (zeros : Bool) (s : Bytes) : Bytes :=
  let fill := f.width - s.length
  if f.left then s ++ List.replicate fill 0x20
  else if zeros && f.zero then
    match s with
    | b :: r =>
      if b == 0x2D || b == 0x2B || b == 0x20 then b :: (List.replicate fill 0x30 ++ r)
      else List.replicate fill 0x30 ++ s
    | [] => List.replicate fill 0x30
  else List.replicate fill 0x20 ++ s

def text (f : Field) (s : Bytes) : Bytes :=
  f.pad false (match f.precision with
    | some p => s.take p
    | none => s)

def signed (f : Field) (negative : Bool) (digits : Bytes) : Bytes :=
  if negative then 0x2D :: digits
  else if f.plus then 0x2B :: digits
  else if f.space then 0x20 :: digits
  else digits

def digitsIn (base : Nat) (upper : Bool) (n : Nat) : Bytes :=
  let cs := String.ofList (Nat.toDigits base n)
  bytes (if upper then cs.map Char.toUpper else cs)

/-- An integer under one of the letters `d`, `i`, `u`, `x`, `X` and `o`; all but the first two show
the 64-bit word of a negative number. -/
def integer (f : Field) (letter : UInt8) (n : Int) : Bytes :=
  let word : Nat := (n % twoTo 64).toNat
  let (negative, digits) :=
    if letter == 0x78 then (false, digitsIn 16 false word)
    else if letter == 0x58 then (false, digitsIn 16 true word)
    else if letter == 0x6F then (false, digitsIn 8 false word)
    else if letter == 0x75 then (false, Bytes.ofNat word)
    else (decide (n < 0), Bytes.ofNat n.natAbs)
  let digits := match f.precision with
    | some p => List.replicate (p - digits.length) 0x30 ++ digits
    | none => digits
  let mark := if !f.alternate || n = 0 then []
    else if letter == 0x78 then bytes "0x"
    else if letter == 0x58 then bytes "0X"
    else if letter == 0x6F then bytes "0"
    else []
  f.pad f.precision.isNone (f.signed negative (mark ++ digits))

def fixed (places : Nat) (v : Decimal.Binary) : String :=
  let k : Int := -(places : Int)
  let d := Decimal.neighbour v k
  let d := if Decimal.upperNearer v d k then d + 1 else d
  let digits := toString d
  let digits := String.ofList (List.replicate (places + 1 - digits.length) '0') ++ digits
  let cs := digits.toList
  let whole := cs.take (cs.length - places)
  String.ofList (if places = 0 then whole else whole ++ '.' :: cs.drop (cs.length - places))

def scientific (digits places : Nat) (exponent : Int) : String :=
  let cs := (Decimal.padLeft (places + 1) (toString digits)).toList
  let fraction := if places = 0 then [] else '.' :: cs.drop 1
  let exponent := if digits = 0 then 0 else exponent
  String.ofList (cs.take 1 ++ fraction) ++ (if exponent < 0 then "e-" else "e+")
    ++ Decimal.padLeft 2 (toString exponent.natAbs)

def float (f : Field) (letter : UInt8) (x : Float) : Bytes :=
  match Decimal.kind x with
  | .nan => f.pad false (bytes "-nan")
  | .infinite negative => f.pad false (f.signed negative (bytes "inf"))
  | .finite negative v =>
    let places := f.precision.getD 6
    let digits :=
      if letter == 0x66 then fixed places v
      else if letter == 0x65 then
        let short := Decimal.toDigits (places + 1) false v
        let missing := places + 1 - (toString short.digits).length
        scientific (short.digits * tenTo missing) places (short.exponent - missing + places)
      else (Decimal.toDigits (max 1 places) false v).render ⟨-3, max 1 places, false, "e", true, 2⟩
    f.pad true (f.signed negative (bytes digits))

end Field

end ScriptHost.Text
