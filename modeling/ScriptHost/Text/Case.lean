/-!
Small and capital letters of the Latin, Greek, Cyrillic and Armenian alphabets. In most blocks the
two forms of a letter are a fixed distance apart; in the others they follow one another.
-/
namespace ScriptHost.Text

def capitalBlocks : List (Nat × Nat × Nat) :=
  [(0x41, 0x5A, 32), (0xC0, 0xD6, 32), (0xD8, 0xDE, 32), (0x386, 0x386, 38), (0x388, 0x38A, 37),
    (0x38C, 0x38C, 64), (0x38E, 0x38F, 63), (0x391, 0x3A1, 32), (0x3A3, 0x3AB, 32),
    (0x400, 0x40F, 80), (0x410, 0x42F, 32), (0x531, 0x556, 48), (0xFF21, 0xFF3A, 32)]

def pairedBlocks : List (Nat × Nat) :=
  [(0x100, 0x12F), (0x132, 0x137), (0x139, 0x148), (0x14A, 0x177), (0x179, 0x17E), (0x460, 0x481),
    (0x48A, 0x4BF), (0x4D0, 0x52F), (0x1E00, 0x1E95), (0x1EA0, 0x1EFF)]

def pairedOffset? (n : Nat) : Option Nat :=
  (pairedBlocks.find? fun (a, b) => a ≤ n && n ≤ b).map fun (a, _) => n - a

def smallOf (c : Char) : Char :=
  let n := c.toNat
  match capitalBlocks.find? fun (a, b, _) => a ≤ n && n ≤ b with
  | some (_, _, d) => Char.ofNat (n + d)
  | none =>
    if n = 0x178 then '\u00FF'
    else match pairedOffset? n with
      | some k => if k % 2 = 0 then Char.ofNat (n + 1) else c
      | none => c

def capitalOf (c : Char) : Char :=
  let n := c.toNat
  match capitalBlocks.find? fun (a, b, d) => a + d ≤ n && n ≤ b + d with
  | some (_, _, d) => Char.ofNat (n - d)
  | none =>
    if n = 0xFF then '\u0178'
    else if n = 0xB5 then '\u039C'
    else if n = 0x3C2 then '\u03A3'
    else match pairedOffset? n with
      | some k => if k % 2 = 1 then Char.ofNat (n - 1) else c
      | none => c

def isCapital (c : Char) : Bool := smallOf c ≠ c

def isSmall (c : Char) : Bool := capitalOf c ≠ c || c = '\u00DF'

def inSmall (s : String) : String := s.map smallOf

def inCapitals (s : String) : String :=
  String.join (s.toList.map fun c => if c = '\u00DF' then "SS" else (capitalOf c).toString)

end ScriptHost.Text
