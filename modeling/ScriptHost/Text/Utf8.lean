/-!
Bytes and characters. A byte sequence is read piece by piece: a well-formed character is one piece,
and so is the longest start of a character that cannot be completed. Texts are also taken as
sequences of bytes, which need not be UTF-8.
-/
namespace ScriptHost.Text.Utf8

/-- A character under way: how many bytes are owed, the bits read so far, and the range the next
byte must lie in. -/
structure Open where
  owed : Nat
  bits : Nat
  low : Nat
  high : Nat
  deriving Repr, DecidableEq

inductive First where
  | whole (c : Char)
  | opens (o : Open)
  | bad
  deriving Repr

/-- The ranges keep out overlong forms, surrogates and numbers above 0x10FFFF. -/
def first (b : Nat) : First :=
  if b < 0x80 then .whole (Char.ofNat b)
  else if b < 0xC2 then .bad
  else if b < 0xE0 then .opens ⟨1, b - 0xC0, 0x80, 0xBF⟩
  else if b = 0xE0 then .opens ⟨2, 0, 0xA0, 0xBF⟩
  else if b = 0xED then .opens ⟨2, 0xD, 0x80, 0x9F⟩
  else if b < 0xF0 then .opens ⟨2, b - 0xE0, 0x80, 0xBF⟩
  else if b = 0xF0 then .opens ⟨3, 0, 0x90, 0xBF⟩
  else if b < 0xF4 then .opens ⟨3, b - 0xF0, 0x80, 0xBF⟩
  else if b = 0xF4 then .opens ⟨3, 4, 0x80, 0x8F⟩
  else .bad

/-- The pieces of a byte sequence in order; `none` stands for a broken one. -/
def piecesFrom : Option Open → List UInt8 → List (Option Char)
  | none, [] => []
  | some _, [] => [none]
  | some o, b :: rest =>
    let n := b.toNat
    if o.low ≤ n ∧ n ≤ o.high then
      let bits := o.bits * 64 + (n - 0x80)
      if o.owed ≤ 1 then some (Char.ofNat bits) :: piecesFrom none rest
      else piecesFrom (some ⟨o.owed - 1, bits, 0x80, 0xBF⟩) rest
    else
      none :: match first n with
        | .whole c => some c :: piecesFrom none rest
        | .opens o' => piecesFrom (some o') rest
        | .bad => none :: piecesFrom none rest
  | none, b :: rest =>
    match first b.toNat with
    | .whole c => some c :: piecesFrom none rest
    | .opens o => piecesFrom (some o) rest
    | .bad => none :: piecesFrom none rest

def pieces (bytes : List UInt8) : List (Option Char) := piecesFrom none bytes

def decode? (bytes : List UInt8) : Option (List Char) := (pieces bytes).mapM id

/-- The characters of any byte sequence, each broken piece shown as U+FFFD. -/
def lossy (bytes : List UInt8) : List Char := (pieces bytes).map (·.getD '\uFFFD')

def encodeChar (c : Char) : List UInt8 := String.utf8EncodeChar c

def encode (cs : List Char) : List UInt8 := cs.flatMap encodeChar

def textOf (bytes : ByteArray) : String :=
  match String.fromUTF8? bytes with
  | some s => s
  | none => String.ofList (lossy bytes.toList)

def text? (bytes : List UInt8) : Option String := (decode? bytes).map String.ofList

def bytesOf (s : String) : List UInt8 := s.toUTF8.toList

theorem toNat_ofNat {n : Nat} (h : n < 256) : (UInt8.ofNat n).toNat = n :=
  UInt8.toNat_ofNat_of_lt' h

end ScriptHost.Text.Utf8

namespace ScriptHost

abbrev Bytes := List UInt8

def bytes (s : String) : Bytes := Text.Utf8.bytesOf s

namespace Bytes

def lossy (b : Bytes) : String := Text.Utf8.textOf b.toByteArray

def ofNat (n : Nat) : Bytes := bytes (toString n)

def untilNul (b : Bytes) : Bytes := b.takeWhile (· ≠ 0)

def less : Bytes → Bytes → Bool
  | _, [] => false
  | [], _ :: _ => true
  | a :: as, b :: bs => a < b || (a == b && less as bs)

end Bytes

end ScriptHost
