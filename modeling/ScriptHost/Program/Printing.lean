import ScriptHost.Text.Field
import ScriptHost.Decimal.Exact
import ScriptHost.Child.Basic
import ScriptHost.Program.Words

/-!
Printing under a format: escapes, and conversions that take one argument each. The format is used
again as long as arguments are left over.
-/
namespace ScriptHost.Program

/-- Who prints: a program, or a shell on its own. They word their complaints differently. A plain
program knows no characters by their numbers. -/
inductive Printer where
  | tool
  | plain
  | shell
  deriving DecidableEq, Repr

structure Printed where
  out : Bytes := []
  faults : List String := []
  stopped : Bool := false

def hexDigit? (b : UInt8) : Option Nat :=
  if 0x30 ≤ b && b ≤ 0x39 then some (b.toNat - 0x30)
  else if 0x61 ≤ b && b ≤ 0x66 then some (b.toNat - 0x57)
  else if 0x41 ≤ b && b ≤ 0x46 then some (b.toNat - 0x37)
  else none

def digitsIn (base most : Nat) (s : Bytes) : Nat × Nat :=
  let ds := ((s.take most).map hexDigit?).takeWhile fun d => (d.filter (· < base)).isSome
  (ds.length, ds.foldl (fun n d => n * base + d.getD 0) 0)

def codeText (n : Nat) : Bytes :=
  if n < 0x80 then [UInt8.ofNat n]
  else
    let digits := Text.Field.digitsIn 16 true n
    let width := if n < 0x10000 then 4 else 8
    bytes (if n < 0x10000 then "\\u" else "\\U") ++ List.replicate (width - digits.length) 0x30
      ++ digits

inductive Escaped where
  | text (b rest : Bytes)
  /-- All printing ends. -/
  | stop
  | missingDigits

def escape (printer : Printer) (s : Bytes) : Escaped :=
  match s with
  | [] => .text [0x5C] []
  | b :: r =>
    let kept : Escaped := .text [0x5C, b] r
    let code (most least : Nat) : Escaped :=
      let (k, n) := digitsIn 16 most r
      if printer = .tool && k < least then .missingDigits
      else if k = 0 then kept
      else .text (if most = 2 then [UInt8.ofNat n] else codeText n) (r.drop k)
    match Char.ofNat b.toNat with
    | 'a' => .text [7] r
    | 'b' => .text [8] r
    | 'e' => .text [27] r
    | 'f' => .text [12] r
    | 'n' => .text [10] r
    | 'r' => .text [13] r
    | 't' => .text [9] r
    | 'v' => .text [11] r
    | '\\' => .text [0x5C] r
    | '\x22' => .text [0x22] r
    | 'c' => if printer = .tool then .stop else kept
    | 'x' => code 2 1
    | 'u' => if printer = .plain then kept else code 4 4
    | 'U' => if printer = .plain then kept else code 8 8
    | '\x27' | '?' => if printer = .shell then .text [b] r else kept
    | 'E' => if printer = .shell then .text [27] r else kept
    | _ =>
      let (k, n) := digitsIn 8 3 s
      if k = 0 then kept else .text [UInt8.ofNat n] (s.drop k)

/-- A text with its escapes replaced; `true` when one of them ends all printing. -/
def unescape (printer : Printer) : Nat → Bytes → Bytes → Bytes × Bool
  | 0, acc, _ => (acc, false)
  | fuel + 1, acc, s =>
    match s with
    | [] => (acc, false)
    | 0x5C :: 0x63 :: _ => (acc, true)
    | 0x5C :: 0x30 :: r =>
      let (k, n) := digitsIn 8 3 r
      unescape printer fuel (acc ++ [UInt8.ofNat n]) (r.drop k)
    | 0x5C :: r =>
      match escape printer r with
      | .text out r => unescape printer fuel (acc ++ out) r
      | .stop => (acc, true)
      | .missingDigits => unescape printer fuel (acc ++ [0x5C]) r
    | b :: r => unescape printer fuel (acc ++ [b]) r

inductive NumberFault where
  | none
  | noNumber
  | notAll
  | tooGreat
  deriving DecidableEq, Repr

def signOf (s : Bytes) : Bool × Bytes :=
  match s with
  | 0x2D :: r => (true, r)
  | 0x2B :: r => (false, r)
  | r => (false, r)

def isHexMark (s : Bytes) : Bool :=
  match s with
  | 0x30 :: x :: _ => x == 0x78 || x == 0x58
  | _ => false

def number (s : Bytes) : Int × NumberFault :=
  match s.dropWhile (· == 0x20) with
  | [] => (0, if s.isEmpty then .none else .noNumber)
  | 0x27 :: c :: _ | 0x22 :: c :: _ => (c.toNat, .none)
  | t =>
    let (negative, r) := signOf t
    let (base, r) := if isHexMark r then (16, r.drop 2) else if r.head? = some 0x30 then (8, r) else (10, r)
    let (k, n) := digitsIn base r.length r
    (if negative then -(n : Int) else n,
      if k = 0 then .noNumber else if k = r.length then .none else .notAll)

/-- The nearest number that a machine word holds, whose sign counts unless the letter has none. -/
def fitting (signless : Bool) (n : Int) : Int × Bool :=
  let most : Int := if signless then twoTo 64 - 1 else twoTo 63 - 1
  let least : Int := if signless then -most else -most - 1
  if most < n then (most, false)
  else if n < least then (if signless then most else least, false)
  else (n, true)

def exponentOf (letter : UInt8) (s : Bytes) : Int × Bytes :=
  match s with
  | e :: r =>
    let (negative, t) := signOf r
    let ds := t.takeWhile Text.Field.isDigit
    if (e == letter || e + 0x20 == letter) && !ds.isEmpty then
      let n : Int := min 100000 (Text.Field.value ds)
      (if negative then -n else n, t.drop ds.length)
    else (0, s)
  | [] => (0, [])

def unsignedDecimal? (r : Bytes) : Option (Float × Bytes) :=
  let word := Text.lower (Bytes.lossy r)
  match ["infinity", "inf", "nan"].find? (Text.startsWith word) with
  | some w => some (if w = "nan" then 0.0 / 0.0 else 1.0 / 0.0, r.drop w.length)
  | none =>
    let hex := isHexMark r
    let r := if hex then r.drop 2 else r
    let base := if hex then 16 else 10
    let digits (s : Bytes) : Nat := (digitsIn base s.length s).1
    let whole := r.take (digits r)
    let r := r.drop whole.length
    let (places, r) := match r with
      | 0x2E :: t => (t.take (digits t), t.drop (digits t))
      | r => ([], r)
    let ds := whole ++ places
    if ds.isEmpty then none
    else
      let n := (digitsIn base ds.length ds).2
      let (e, r) := exponentOf (if hex then 0x70 else 0x65) r
      if hex then
        let e := e - 4 * (places.length : Int)
        let x := Float.ofScientific (n * twoTo e.toNat) true 0
        some (x / Float.ofScientific (twoTo (-e).toNat) true 0, r)
      else
        let e := e - (places.length : Int)
        some (Float.ofScientific n (e < 0) e.natAbs, r)

def decimal (s : Bytes) : Float × NumberFault :=
  match s.dropWhile (· == 0x20) with
  | [] => (0, if s.isEmpty then .none else .noNumber)
  | 0x27 :: c :: _ | 0x22 :: c :: _ => (Float.ofNat c.toNat, .none)
  | t =>
    let (negative, r) := signOf t
    match unsignedDecimal? r with
    | some (x, rest) => (if negative then -x else x, if rest.isEmpty then .none else .notAll)
    | none => (0, .noNumber)

def badNumber (printer : Printer) (fault : NumberFault) (s : Bytes) : String :=
  let shown := Bytes.lossy s
  match printer, fault with
  | .shell, .tooGreat => "warning: " ++ shown ++ ": Numerical result out of range"
  | .shell, _ => shown ++ ": invalid number"
  | _, .tooGreat => quoted s ++ ": Numerical result out of range"
  | _, .notAll => quoted s ++ ": value not completely converted"
  | _, _ => quoted s ++ ": expected a numeric value"

def backslashed (s : Bytes) : Bytes :=
  let plain (b : UInt8) : Bool :=
    let c := Char.ofNat b.toNat
    c.isAlphanum || "%+,-./:=@_".toList.contains c
  if s.isEmpty then bytes "''"
  else s.flatMap fun b => if plain b then [b] else [0x5C, b]

def convert (printer : Printer) (f : Text.Field) (letter : UInt8) (arg : Option Bytes)
    (p : Printed) : Printed :=
  let s := arg.getD []
  match Char.ofNat letter.toNat with
  | 's' => { p with out := p.out ++ f.text s }
  | 'q' =>
    match printer, arg with
    | .shell, _ => { p with out := p.out ++ f.text (backslashed s) }
    | _, none => p
    | _, some s => { p with out := p.out ++ f.text (bytes (shellWord s)) }
  | 'b' =>
    let (text, stopped) := unescape printer (s.length + 1) [] s
    { p with out := p.out ++ f.text text, stopped }
  | 'c' => { p with out := p.out ++ f.pad false (if s.isEmpty then [0] else s.take 1) }
  | 'f' | 'e' | 'g' | 'F' | 'E' | 'G' =>
    let (x, fault) := decimal s
    let low := if letter < 0x61 then letter + 0x20 else letter
    let f := { f with precision := f.precision.map (min 5000) }
    let shown := if x.isNaN then f.pad false (f.signed (s.head? = some 0x2D) (bytes "nan"))
      else f.float low x
    let shown := if low = letter then shown else bytes (Text.upper (Bytes.lossy shown))
    { p with
      out := p.out ++ shown
      faults := if fault = .none then p.faults else p.faults ++ [badNumber printer fault s] }
  | c =>
    let (n, fault) := number s
    let (n, fits) := fitting ("ouxX".toList.contains c) n
    let fault := if fits then fault else .tooGreat
    { p with
      out := p.out ++ f.integer letter n
      faults := if fault = .none then p.faults else p.faults ++ [badNumber printer fault s] }

def isLetter (b : UInt8) : Bool :=
  "sqbcdiouxXfegFEG".toList.contains (Char.ofNat b.toNat)

def badLetter (printer : Printer) (s : Bytes) : String :=
  match printer with
  | .shell => "`" ++ Bytes.lossy (s.drop (s.length - 1)) ++ "': invalid format character"
  | _ => "%" ++ Bytes.lossy s ++ ": invalid conversion specification"

def widthLimit : Nat := 11000000

def measure (printer : Printer) (what : String) (least : Int) (args : List Bytes) (p : Printed) :
    Int × Printed :=
  match args with
  | [] => (0, p)
  | a :: _ =>
    let (n, fault) := number a
    let (n, fits) := fitting false n
    let fault := if fits then fault else .tooGreat
    let p := { p with
      faults := if fault = .none then p.faults else p.faults ++ [badNumber printer fault a] }
    if n < least || twoTo 31 ≤ n then
      (0, { p with stopped := true, faults := p.faults ++ ["invalid " ++ what ++ ": " ++ quoted a] })
    else (n, p)

structure Measured where
  field : Text.Field
  args : List Bytes
  rest : Bytes
  printed : Printed

def fieldOf (printer : Printer) (s : Bytes) (args : List Bytes) (p : Printed) : Measured :=
  let (f, r) := Text.Field.read 9 s
  let m : Measured := match f.precision, r with
    | none, 0x2A :: t =>
      let (n, p) := measure printer "field width" (-twoTo 31) args p
      let f := { f with width := n.natAbs, left := f.left || n < 0 }
      let (g, t) := if t.head? = some 0x2E then Text.Field.read 9 t else ({}, t)
      ⟨{ f with precision := g.precision }, args.drop 1, t, p⟩
    | _, r => ⟨f, args, r, p⟩
  let m : Measured := match m.field.precision, m.rest with
    | some 0, 0x2A :: t =>
      let (n, p) := measure printer "precision" (-twoTo 63) m.args m.printed
      ⟨{ m.field with precision := if n < 0 then none else some n.toNat }, m.args.drop 1, t, p⟩
    | _, _ => m
  { m with field := { m.field with width := min widthLimit m.field.width } }

/-- Uses a format once. The arguments that are left stand beside the result. -/
def once (printer : Printer) : Nat → Bytes → List Bytes → Printed → Printed × List Bytes
  | 0, _, args, p => (p, args)
  | fuel + 1, s, args, p =>
    match s with
    | [] => (p, args)
    | 0x5C :: r =>
      match escape printer r with
      | .text out r => once printer fuel r args { p with out := p.out ++ out }
      | .stop => ({ p with stopped := true }, args)
      | .missingDigits =>
        ({ p with
          stopped := true
          faults := p.faults ++ ["missing hexadecimal number in escape"] }, args)
    | 0x25 :: 0x25 :: r => once printer fuel r args { p with out := p.out ++ [0x25] }
    | 0x25 :: r =>
      let m := fieldOf printer r args p
      let (f, args, rest, p) := (m.field, m.args, m.rest, m.printed)
      if p.stopped then (p, args) else
      match rest.dropWhile [0x68, 0x6C, 0x4C, 0x6A, 0x7A, 0x74].contains with
      | letter :: rest =>
        let bare := r.length = rest.length + 1
        if isLetter letter && (bare || letter != 0x71 || printer = .shell) then
          let p := convert printer f letter args.head? p
          if p.stopped then (p, args) else once printer fuel rest (args.drop 1) p
        else
          let shown := r.take (r.length - rest.length)
          ({ p with faults := p.faults ++ [badLetter printer shown], stopped := true }, args)
      | [] => ({ p with faults := p.faults ++ [badLetter printer r], stopped := true }, args)
    | b :: r => once printer fuel r args { p with out := p.out ++ [b] }

/-- Uses a format until the arguments are used up. A format that takes no argument is used once. -/
def printAll (printer : Printer) (format : Bytes) : Nat → List Bytes → Printed → Printed
  | 0, _, p => p
  | fuel + 1, args, p =>
    let (p, left) := once printer (format.length + 1) format args p
    if left.isEmpty || p.stopped then p
    else if left.length = args.length then
      match printer, left with
      | .tool, arg :: _ =>
        { p with faults := p.faults ++
            ["warning: ignoring excess arguments, starting with " ++ quoted arg] }
      | _, _ => p
    else printAll printer format fuel left p

def printed (printer : Printer) (format : Bytes) (args : List Bytes) : Printed :=
  printAll printer format (args.length + 1) args {}

def Printed.failed (p : Printed) : Bool := p.faults.any fun f => !Text.startsWith f "warning"

end ScriptHost.Program
