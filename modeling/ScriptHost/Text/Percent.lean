import ScriptHost.Text.Utf8
import ScriptHost.Text.Blank

/-!
Text in which a byte may be written as a percent sign and two hexadecimal digits. A percent sign
that is not followed by two digits stands for itself.
-/
namespace ScriptHost.Text.Percent

def hexDigit? (b : UInt8) : Option UInt8 :=
  if 0x30 ≤ b ∧ b ≤ 0x39 then some (b - 0x30)
  else if 0x41 ≤ b ∧ b ≤ 0x46 then some (b - 0x37)
  else if 0x61 ≤ b ∧ b ≤ 0x66 then some (b - 0x57)
  else none

def decode : List UInt8 → List UInt8
  | 0x25 :: a :: b :: rest =>
    match hexDigit? a, hexDigit? b with
    | some x, some y => (x * 16 + y) :: decode rest
    | _, _ => 0x25 :: decode (a :: b :: rest)
  | b :: rest => b :: decode rest
  | [] => []

def text? (s : String) : Option String := Utf8.text? (decode (Utf8.bytesOf s))

/-- A name or a value of a form: a plus sign stands for a space, and bytes that are no text are
shown as U+FFFD. -/
def formText (s : String) : String :=
  let spaced := (Utf8.bytesOf s).map fun b => if b = 0x2B then 0x20 else b
  String.ofList (Utf8.lossy (decode spaced))

def formField (piece : String) : String × String :=
  let cs := piece.toList
  (formText (String.ofList (cs.takeWhile (· ≠ '='))),
    formText (String.ofList ((cs.dropWhile (· ≠ '=')).drop 1)))

def formFields (s : String) : List (String × String) :=
  ((splitOn s '&').filter fun piece => !piece.isEmpty).map formField

end ScriptHost.Text.Percent
