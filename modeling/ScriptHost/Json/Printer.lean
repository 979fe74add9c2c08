import ScriptHost.Json.Value
import ScriptHost.Decimal.Shortest

/-!
The compact text of a JSON value: no white space, members in the order of their keys.
-/
namespace ScriptHost.Json

/-- Sizes from 10^-5 up to 10^16 are written without an exponent, and a whole float keeps its
`.0`. -/
def layout : Decimal.Layout := ⟨-4, 16, true, "e", true, 1⟩

/-- There is no JSON text for infinities and for what is not a number; they are written `null`. -/
def floatText (x : Float) : String :=
  match Decimal.kindOfBits x.toBits with
  | .finite negative v => (Decimal.shortest negative v).render layout
  | _ => "null"

def hexDigit (n : Nat) : Char := Char.ofNat (if n < 10 then 48 + n else 87 + n)

def escape (c : Char) : List Char :=
  match c with
  | '\x22' => ['\\', '\x22']
  | '\\' => ['\\', '\\']
  | '\x08' => ['\\', 'b']
  | '\t' => ['\\', 't']
  | '\n' => ['\\', 'n']
  | '\x0c' => ['\\', 'f']
  | '\r' => ['\\', 'r']
  | c =>
    if c.toNat < 0x20 then
      ['\\', 'u', '0', '0', hexDigit (c.toNat / 16), hexDigit (c.toNat % 16)]
    else [c]

def quoted (s : String) : List Char := '\x22' :: (s.toList.flatMap escape ++ ['\x22'])

mutual

def chars : Json → List Char
  | .null => "null".toList
  | .bool true => "true".toList
  | .bool false => "false".toList
  | .int n => (toString n).toList
  | .float x => (floatText x).toList
  | .str s => quoted s
  | .arr items => '[' :: itemChars items
  | .obj members => '\x7b' :: memberChars members

def itemChars : List Json → List Char
  | [] => [']']
  | x :: xs => chars x ++ moreItemChars xs

def moreItemChars : List Json → List Char
  | [] => [']']
  | x :: xs => ',' :: (chars x ++ moreItemChars xs)

def memberChars : List (String × Json) → List Char
  | [] => ['\x7d']
  | (k, v) :: ms => quoted k ++ (':' :: (chars v ++ moreMemberChars ms))

def moreMemberChars : List (String × Json) → List Char
  | [] => ['\x7d']
  | (k, v) :: ms => ',' :: (quoted k ++ (':' :: (chars v ++ moreMemberChars ms)))

end

def render (j : Json) : String := String.ofList j.chars

end ScriptHost.Json
