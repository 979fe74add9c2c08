import ScriptHost.Program.Counting

/-!
A program that changes, drops and squeezes bytes; sets of bytes are written as ranges and classes.
It is the last of the small programs, which are found by name.
-/
namespace ScriptHost.Program

def byteRange (a b : Nat) : List UInt8 := (List.range (b + 1 - a)).map fun i => UInt8.ofNat (a + i)

def byteClass? (name : String) : Option (List UInt8) :=
  match name with
  | "lower" => some (byteRange 0x61 0x7A)
  | "upper" => some (byteRange 0x41 0x5A)
  | "digit" => some (byteRange 0x30 0x39)
  | "xdigit" => some (byteRange 0x30 0x39 ++ byteRange 0x41 0x46 ++ byteRange 0x61 0x66)
  | "alpha" => some (byteRange 0x41 0x5A ++ byteRange 0x61 0x7A)
  | "alnum" => some (byteRange 0x30 0x39 ++ byteRange 0x41 0x5A ++ byteRange 0x61 0x7A)
  | "space" => some (byteRange 0x09 0x0D ++ [0x20])
  | "blank" => some [0x09, 0x20]
  | "cntrl" => some (byteRange 0x00 0x1F ++ [0x7F])
  | "print" => some (byteRange 0x20 0x7E)
  | "graph" => some (byteRange 0x21 0x7E)
  | "punct" =>
    some (byteRange 0x21 0x2F ++ byteRange 0x3A 0x40 ++ byteRange 0x5B 0x60 ++ byteRange 0x7B 0x7E)
  | _ => none

inductive Member where
  | byte (b : UInt8)
  | alike (b : UInt8)
  | range (first last : UInt8)
  | ofClass (name : String) (set : List UInt8)
  /-- A byte so many times, or as often as there is room. -/
  | repeated (b : UInt8) (times : Option Nat)

def setByte (b : UInt8) (r : Bytes) : UInt8 × Bytes :=
  if b != 0x5C then (b, r)
  else match r with
    | [] => (b, [])
    | c :: t =>
      let (k, n) := digitsIn 8 3 r
      if 0 < k then
        if n < 256 then (UInt8.ofNat n, r.drop k) else (UInt8.ofNat (n / 8), r.drop (k - 1))
      else match Char.ofNat c.toNat with
        | 'a' => (7, t)
        | 'b' => (8, t)
        | 'f' => (12, t)
        | 'n' => (10, t)
        | 'r' => (13, t)
        | 't' => (9, t)
        | 'v' => (11, t)
        | _ => (c, t)

def bracketed? (r : Bytes) : Option (Except String (Member × Bytes)) :=
  match r with
  | 0x3A :: t =>
    let name := t.takeWhile (· ≠ 0x3A)
    match t.drop name.length with
    | 0x3A :: 0x5D :: rest =>
      match byteClass? (Bytes.lossy name) with
      | some set => some (.ok (.ofClass (Bytes.lossy name) set, rest))
      | none => some (.error ("invalid character class " ++ quoted name))
    | _ => none
  | 0x3D :: b :: 0x3D :: 0x5D :: rest => some (.ok (.alike b, rest))
  | b :: t =>
    let (one, t) := setByte b t
    match t with
    | 0x2A :: t =>
      let digits := t.takeWhile Text.Field.isDigit
      match t.drop digits.length with
      | 0x5D :: rest =>
        let n := if digits.head? = some 0x30 then (digitsIn 8 digits.length digits).2
          else Text.Field.value digits
        some (.ok (.repeated one (if n = 0 then none else some n), rest))
      | _ => none
    | _ => none
  | [] => none

def members : Nat → Bytes → Except String (List Member)
  | 0, _ => .ok []
  | _ + 1, [] => .ok []
  | fuel + 1, b :: r =>
    let plain : Except String (List Member) :=
      let (first, r) := setByte b r
      match r with
      | 0x2D :: c :: t =>
        let (last, t) := setByte c t
        if first ≤ last then (members fuel t).map (.range first last :: ·)
        else
          .error ("range-endpoints of '" ++ Bytes.lossy [first, 0x2D, last]
            ++ "' are in reverse collating sequence order")
      | r => (members fuel r).map (.byte first :: ·)
    if b == 0x5B then
      match bracketed? r with
      | some (.ok (m, rest)) => (members fuel rest).map (m :: ·)
      | some (.error e) => .error e
      | none => plain
    else plain

/-- The bytes of a set; what is repeated without a count fills it up to `room` bytes. -/
def bytesOf (room : Nat) (ms : List Member) : List UInt8 :=
  let fixed (m : Member) : List UInt8 :=
    match m with
    | .byte b | .alike b => [b]
    | .range a b => byteRange a.toNat b.toNat
    | .ofClass _ set => set
    | .repeated b (some n) => List.replicate n b
    | .repeated _ none => []
  let size := (ms.map fixed).flatten.length
  ms.flatMap fun m =>
    match m with
    | .repeated b none => List.replicate (room - size) b
    | m => fixed m

def squeeze (inSet : UInt8 → Bool) : Bytes → Bytes
  | a :: b :: r => if a = b && inSet a then squeeze inSet (b :: r) else a :: squeeze inSet (b :: r)
  | s => s

/-- The byte in the place of `b`; the last byte of the target stands for all that follow. -/
def translate (source target : List UInt8) (b : UInt8) : UInt8 :=
  match source.reverse.idxOf? b with
  | some i => (target[source.length - 1 - i]?).getD (target.getLastD b)
  | none => b

def trGrammar : Grammar where
  plain := "AcCdst"
  long := [("complement", 'c'), ("delete", 'd'), ("squeeze-repeats", 's'), ("truncate-set1", 't')]
  ordered := true

def casePlaces (start : Nat) : List Member → List Nat
  | [] => []
  | m :: ms =>
    match m with
    | .ofClass "lower" set | .ofClass "upper" set => start :: casePlaces (start + set.length) ms
    | m => casePlaces (start + (bytesOf 0 [m]).length) ms

def firstFault? (ms : List Member) : Option String :=
  ms.findSome? fun m =>
    match m with
    | .repeated _ none => some "the [c*] repeat construct may not appear in string1"
    | _ => none

def Member.isClass : Member → Bool
  | .ofClass _ _ => true
  | _ => false

def Member.isAlike : Member → Bool
  | .alike _ => true
  | _ => false

def Member.isOtherClass : Member → Bool
  | .ofClass name _ => !(name = "lower" || name = "upper")
  | _ => false

def Member.isEndless : Member → Bool
  | .repeated _ none => true
  | _ => false

def secondFault? (l : Line) (firsts ms : List Member) (source target : List UInt8) :
    Option String :=
  let complements := l.has 'c' || l.has 'C'
  let isShort := target.length < source.length && !l.has 't'
  let one := (target.all fun b => target.head? = some b)
    && (isShort || target.length = source.length)
  if 1 < (ms.filter Member.isEndless).length then
    some "only one [c*] repeat construct may appear in string2"
  else if l.has 'd' then
    if ms.any Member.isEndless then
      some "the [c*] construct may appear in string2 only when translating"
    else none
  else if ms.any Member.isAlike then
    some "[=c=] expressions may not appear in string2 when translating"
  else if ms.any Member.isOtherClass then
    some "when translating, the only character classes that may appear in\nstring2 are 'upper' and 'lower'"
  else if !complements && !(casePlaces 0 ms).all (casePlaces 0 firsts).contains then
    some "misaligned [:upper:] and/or [:lower:] construct"
  else if isShort && target.isEmpty then
    some "when not truncating set1, string2 must be non-empty"
  else if isShort && ms.getLast?.any Member.isClass then
    some "when translating with string1 longer than string2,\nthe latter string must not end with a character class"
  else if complements && firsts.any Member.isClass && !one then
    some "when translating with complemented character classes,\nstring2 must map all characters in the domain to one"
  else none

def trSets (l : Line) (first : Bytes) (second : Option Bytes) (input : Bytes) :
    Except String Bytes := do
  let complements := l.has 'c' || l.has 'C'
  let firsts ← members (first.length + 1) first
  if let some fault := firstFault? firsts then throw fault
  let source := bytesOf 0 firsts
  let source := if complements then (byteRange 0 255).filter fun b => !source.contains b else source
  let dropped := input.filter fun b => !source.contains b
  match second with
  | none => return if l.has 'd' then dropped else squeeze source.contains input
  | some second =>
    let ms ← members (second.length + 1) second
    let target := bytesOf source.length ms
    if let some fault := secondFault? l firsts ms source target then throw fault
    if l.has 'd' then return squeeze target.contains dropped
    let source := if l.has 't' then source.take target.length else source
    let out := input.map (translate source target)
    return if l.has 's' then squeeze target.contains out else out

def endsOpen : Bytes → Bool
  | 0x5C :: _ :: r => endsOpen r
  | [0x5C] => true
  | _ :: r => endsOpen r
  | [] => false

def tr (args : List Bytes) (stdin : Input) : Ran :=
  let l := trGrammar.read args
  let both := l.has 'd' == l.has 's'
  let least := if both then 2 else 1
  let most := if l.has 'd' && !l.has 's' then 1 else 2
  match l.fault, l.words with
  | some fault, _ => misused "tr" fault
  | none, [] => if l.has helpLetter then {} else misused "tr" "missing operand"
  | none, first :: rest =>
    if l.has helpLetter then {}
    else if rest.length + 1 < least then
      misused "tr" ("missing operand after " ++ quoted first ++ "\nTwo strings must be given when "
        ++ (if l.has 'd' then "both deleting and squeezing repeats." else "translating."))
    else if most < rest.length + 1 then
      misused "tr" ("extra operand " ++ quoted ((first :: rest).getD most [])
        ++ (if rest.length = 1 then
            "\nOnly one string may be given when deleting without squeezing repeats."
          else ""))
    else
      let warned := (first :: rest).filter endsOpen
      let err := bytes (String.join (warned.map fun _ =>
        "tr: warning: an unescaped backslash at end of string is not portable\n"))
      let r : Ran := match trSets l first rest.head? (stdin.getD []) with
        | .ok out => .wrote out
        | .error e => .failed 1 ("tr: " ++ e)
      { r with err := err ++ r.err }

def tool? (name : String) (args : List Bytes) (stdin : Input) : Option Ran :=
  match name with
  | "cat" => some (cat args stdin)
  | "echo" => some (echo .plain args)
  | "printf" => some (printf args)
  | "true" => some {}
  | "false" => some { code := 1 }
  | "sleep" => some (sleep args)
  | "head" => some (head args stdin)
  | "wc" => some (wc args stdin)
  | "tr" => some (tr args stdin)
  | _ => none

end ScriptHost.Program
