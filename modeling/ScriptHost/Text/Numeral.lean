import ScriptHost.Power

/-!
Numbers as people write them in settings and in addresses: decimal digits, perhaps behind a sign,
within the bounds of a machine word.
-/
namespace ScriptHost.Text

inductive NumeralError where
  | empty
  | invalidDigit
  | tooLarge
  | tooSmall
  deriving DecidableEq, Repr

def NumeralError.message : NumeralError → String
  | .empty => "cannot parse integer from empty string"
  | .invalidDigit => "invalid digit found in string"
  | .tooLarge => "number too large to fit in target type"
  | .tooSmall => "number too small to fit in target type"

def isDecimal (c : Char) : Bool := '0' ≤ c && c ≤ '9'

/-- The digits are looked at from the left, so a number that is already out of bounds is reported
before a letter behind it. -/
def accumulate (negative : Bool) (low high : Int) : Int → List Char → Except NumeralError Int
  | n, [] => .ok n
  | n, c :: cs =>
    if isDecimal c then
      let d : Int := c.toNat - 48
      let m := if negative then n * 10 - d else n * 10 + d
      if high < m then .error .tooLarge
      else if m < low then .error .tooSmall
      else accumulate negative low high m cs
    else .error .invalidDigit

/-- An integer between two bounds. A minus sign is understood only where the lower bound is
negative. -/
def integer? (low high : Int) (s : String) : Except NumeralError Int :=
  match s.toList with
  | [] => .error .empty
  | ['+'] | ['-'] => .error .invalidDigit
  | '+' :: cs => accumulate false low high 0 cs
  | '-' :: cs =>
    if low < 0 then accumulate true low high 0 cs else .error .invalidDigit
  | cs => accumulate false low high 0 cs

def natural? (bits : Nat) (s : String) : Except NumeralError Nat :=
  (integer? 0 (twoTo bits - 1) s).map Int.toNat

def signed64? (s : String) : Except NumeralError Int := integer? (-twoTo 63) (twoTo 63 - 1) s

def notBoolean : String := "provided string was not `true` or `false`"

def boolean? (s : String) : Except String Bool :=
  if s = "true" then .ok true else if s = "false" then .ok false else .error notBoolean

theorem le_ofDigitChars (cs : List Char) (n : Nat) : n ≤ Nat.ofDigitChars 10 cs n := by
  rw [Nat.ofDigitChars_eq_ofDigitChars_zero]
  exact Nat.le_add_right_of_le (Nat.le_mul_of_pos_left _ (Nat.pow_pos (by decide)))

end ScriptHost.Text
