/-!
The characters of names. Letters and digits beyond ASCII are told from signs by the blocks in which
signs stand; a name may hold anything else.
-/
namespace ScriptHost.Snippet

def signBlocks : List (Nat × Nat) :=
  [(0x80, 0xA9), (0xAB, 0xB4), (0xB6, 0xB6), (0xB8, 0xB9), (0xBB, 0xBF), (0xD7, 0xD7), (0xF7, 0xF7),
    (0x2000, 0x200B), (0x200E, 0x203E), (0x2041, 0x2053), (0x2055, 0x2070), (0x207A, 0x207E),
    (0x208A, 0x208F), (0x20A0, 0x20CF), (0x2190, 0x2BFF), (0x2E00, 0x2E7F), (0x3000, 0x3004),
    (0x3008, 0x3020), (0x3030, 0x3030), (0xD800, 0xF8FF), (0xFE10, 0xFE1F), (0xFE30, 0xFE32),
    (0xFE35, 0xFE4C), (0xFE50, 0xFE6F), (0xFEFF, 0xFF0F), (0xFF1A, 0xFF20), (0xFF3B, 0xFF3E),
    (0xFF40, 0xFF40), (0xFF5B, 0xFF65), (0xFFE0, 0xFFFF), (0x1D100, 0x1D1FF), (0x1F000, 0x1FAFF),
    (0xE0000, 0x10FFFF)]

/-- What stands in a name behind its first character only. -/
def followerBlocks : List (Nat × Nat) :=
  [(0xB7, 0xB7), (0x300, 0x36F), (0x203F, 0x2040), (0x2054, 0x2054), (0x20D0, 0x20F0),
    (0x660, 0x669), (0x966, 0x96F), (0xFE00, 0xFE0F), (0xFE20, 0xFE2F), (0xFE33, 0xFE34),
    (0xFE4D, 0xFE4F), (0xFF10, 0xFF19)]

def inBlocks (blocks : List (Nat × Nat)) (c : Char) : Bool :=
  blocks.any fun (a, b) => a ≤ c.toNat && c.toNat ≤ b

def isLetter (c : Char) : Bool :=
  c.isAlpha || c = '_' ||
    (0x80 ≤ c.toNat && !inBlocks signBlocks c && !inBlocks followerBlocks c)

def isNamePart (c : Char) : Bool :=
  c.isAlphanum || c = '_' || (0x80 ≤ c.toNat && !inBlocks signBlocks c)

def isDigit (c : Char) : Bool := '0' ≤ c && c ≤ '9'

def hexValue? (c : Char) : Option Nat :=
  if isDigit c then some (c.toNat - 48)
  else if 'a' ≤ c && c ≤ 'f' then some (c.toNat - 87)
  else if 'A' ≤ c && c ≤ 'F' then some (c.toNat - 55)
  else none

def valueIn? (base : Nat) (cs : List Char) : Option Nat :=
  cs.foldlM (fun n c => (hexValue? c).bind fun d => if d < base then some (n * base + d) else none) 0

def isHex (c : Char) : Bool := (hexValue? c).isSome

/-- Digits with single low lines between them, and what follows. The low lines are dropped. -/
def spacedDigits (ok : Char → Bool) : List Char → List Char × List Char
  | c :: '_' :: d :: r =>
    if ok c && ok d then
      let (ds, rest) := spacedDigits ok (d :: r)
      (c :: ds, rest)
    else if ok c then ([c], '_' :: d :: r)
    else ([], c :: '_' :: d :: r)
  | c :: r =>
    if ok c then
      let (ds, rest) := spacedDigits ok r
      (c :: ds, rest)
    else ([], c :: r)
  | [] => ([], [])

def charOf (n : Nat) : Char := if n.isValidChar then Char.ofNat n else '\uFFFD'

def after? : List Char → List Char → Option (List Char)
  | [], s => some s
  | c :: cs, d :: s => if c = d then after? cs s else none
  | _ :: _, [] => none

end ScriptHost.Snippet
