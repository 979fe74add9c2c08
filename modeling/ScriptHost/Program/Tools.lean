import ScriptHost.Program.Printing
import ScriptHost.Program.Words

/-!
Small programs that copy, print and wait. Their texts of help are left out.
-/
namespace ScriptHost.Program

/-- What a program has done: what it wrote, its code, and how many milliseconds it took, if it came
to an end at all. -/
structure Ran where
  out : Bytes := []
  err : Bytes := []
  code : Nat := 0
  ms : Option Nat := some 0

namespace Ran

def wrote (out : Bytes) : Ran := { out }

def failed (code : Nat) (message : String) : Ran := { err := bytes (message ++ "\n"), code }

def endless : Ran := { ms := none }

def complain (message : String) (r : Ran) : Ran :=
  { r with err := r.err ++ bytes (message ++ "\n"), code := 1 }

end Ran

/-- What a program reads; `none` when its input is closed. -/
abbrev Input := Option Bytes

def misused (tool fault : String) : Ran :=
  .failed 1 (tool ++ ": " ++ fault ++ "\nTry '" ++ tool ++ " --help' for more information.")

inductive Content where
  | found (b : Bytes)
  | zeros
  | missing (reason : String)

def unread (file : Bytes) (stdin : Input) : Input :=
  if file = [0x2D] || file = bytes "/dev/stdin" then stdin.map fun _ => [] else stdin

def isFolder (name : String) : Bool := ["/", "/tmp", ".", "..", "/bin", "/usr", "/etc"].contains name

def content (name : String) (stdin : Input) : Content :=
  if name = "-" || name = "/dev/stdin" then
    match stdin with
    | some b => .found b
    | none => .missing "Bad file descriptor"
  else if name = "/dev/null" then .found []
  else if name = "/dev/zero" then .zeros
  else if isFolder name then .missing "Is a directory"
  else .missing "No such file or directory"

/-! ## Copying -/

structure Look where
  numbers : Bool := false
  filledOnly : Bool := false
  ends : Bool := false
  squeezes : Bool := false
  tabs : Bool := false
  visible : Bool := false

def Look.ofLine (l : Line) : Look :=
  { numbers := l.has 'n' || l.has 'b', filledOnly := l.has 'b', squeezes := l.has 's'
    ends := l.has 'A' || l.has 'e' || l.has 'E', tabs := l.has 'A' || l.has 't' || l.has 'T'
    visible := l.has 'A' || l.has 'e' || l.has 't' || l.has 'v' }

def visibleByte (b : UInt8) : Bytes :=
  let low (b : UInt8) : Bytes :=
    if b == 0x7F then [0x5E, 0x3F] else if b < 0x20 then [0x5E, b + 0x40] else [b]
  if b < 0x80 then low b else 0x4D :: 0x2D :: low (b - 0x80)

def shownByte (k : Look) (b : UInt8) (rest : Bytes) : Bytes :=
  if b == 0x09 then (if k.tabs then [0x5E, 0x49] else [b])
  else if b == 0x0A then (if k.ends then [0x24, b] else [b])
  else if k.visible || (k.ends && b == 0x0D && rest.head? = some 0x0A) then visibleByte b
  else [b]

def lineNumber (n : Nat) : Bytes :=
  let digits := Bytes.ofNat n
  List.replicate (6 - digits.length) 0x20 ++ digits ++ [0x09]

/-- Shows bytes: `line` is the number of the last line, and `blank` says that it was empty, where
`start` says that another one begins. -/
def shownText (k : Look) (line : Nat) (start blank : Bool) : Bytes → Bytes
  | [] => []
  | b :: r =>
    if start && b == 0x0A then
      if k.squeezes && blank then shownText k line true true r
      else
        let numbered := k.numbers && !k.filledOnly
        (if numbered then lineNumber (line + 1) else []) ++ shownByte k b r
          ++ shownText k (if numbered then line + 1 else line) true true r
    else
      let numbered := start && k.numbers
      (if numbered then lineNumber (line + 1) else []) ++ shownByte k b r
        ++ shownText k (if numbered then line + 1 else line) (b == 0x0A) false r

def gather (tool : String) (stdin : Input) : List Bytes → Ran → Ran
  | [], r => r
  | file :: files, r =>
    match content (Bytes.lossy file) stdin with
    | .found b =>
      gather tool (unread file stdin) files { r with out := r.out ++ b }
    | .zeros => .endless
    | .missing reason =>
      gather tool stdin files (r.complain (tool ++ ": " ++ shellWord file ++ ": " ++ reason))

def catGrammar : Grammar where
  plain := "AbeEnstTuv"
  long := [("number-nonblank", 'b'), ("number", 'n'), ("squeeze-blank", 's'),
    ("show-nonprinting", 'v'), ("show-ends", 'E'), ("show-tabs", 'T'), ("show-all", 'A')]

def cat (args : List Bytes) (stdin : Input) : Ran :=
  let l := catGrammar.read args
  match l.fault with
  | some fault => misused "cat" fault
  | none =>
    if l.has helpLetter then {}
    else
      let files := if l.words.isEmpty then [[0x2D]] else l.words
      let r := gather "cat" stdin files {}
      let r := { r with out := shownText (Look.ofLine l) 0 true false r.out }
      if stdin.isNone && files.contains [0x2D] then
        { r with err := r.err ++ bytes "cat: closing standard input: Bad file descriptor\n" }
      else r

/-! ## Printing -/

def isEchoOption (arg : String) : Bool :=
  match arg.toList with
  | '-' :: c :: cs => (c :: cs).all fun c => "neE".toList.contains c
  | _ => false

def echo (printer : Printer) (args : List Bytes) : Ran :=
  let options := args.takeWhile fun a => isEchoOption (Bytes.lossy a)
  let letters := options.flatMap fun a => (Bytes.lossy a).toList
  let text := ((args.drop options.length).intersperse [0x20]).flatten
  let escapes := ((letters.filter fun c => c = 'e' || c = 'E').getLast?) = some 'e'
  let (text, stopped) := if escapes then unescape printer (text.length + 1) [] text
    else (text, false)
  .wrote (if letters.contains 'n' || stopped then text else text ++ [0x0A])

def printf (args : List Bytes) : Ran :=
  let args := if args.head? = some (bytes "--") then args.drop 1 else args
  match args with
  | [] => misused "printf" "missing operand"
  | format :: args =>
    let p := printed .tool format args
    { out := p.out, code := if p.failed then 1 else 0
      err := p.faults.flatMap fun f => bytes ("printf: " ++ f ++ "\n") }

/-! ## Waiting -/

def unitMs? : List Char → Option Nat
  | [] | ['s'] => some 1000
  | ['m'] => some 60000
  | ['h'] => some 3600000
  | ['d'] => some 86400000
  | _ => none

inductive Span where
  | ms (n : Nat)
  | endless

def span? (s : String) : Option Span :=
  let cs := if s.toList.head? = some '+' then s.toList.drop 1 else s.toList
  let digits (cs : List Char) : List Char := cs.takeWhile Char.isDigit
  let value (ds : List Char) : Nat := Text.Field.value (bytes (String.ofList ds))
  let whole := digits cs
  let r := cs.drop whole.length
  let (places, r) := match r with
    | '.' :: t => (digits t, t.drop (digits t).length)
    | r => ([], r)
  let power (down : Bool) (t : List Char) : (Bool × Nat) × List Char :=
    ((down, min 400 (value (digits t))), t.drop (digits t).length)
  let ((down, power), r) := match r with
    | 'e' :: '-' :: d :: t | 'E' :: '-' :: d :: t =>
      if d.isDigit then power true (d :: t) else ((false, 0), r)
    | 'e' :: '+' :: d :: t | 'E' :: '+' :: d :: t =>
      if d.isDigit then power false (d :: t) else ((false, 0), r)
    | 'e' :: d :: t | 'E' :: d :: t =>
      if d.isDigit then power false (d :: t) else ((false, 0), r)
    | r => ((false, 0), r)
  let all := bytes (String.ofList cs)
  if isHexMark all then
    match unsignedDecimal? all with
    | some (x, unit) => (unitMs? (Bytes.lossy unit).toList).map fun n =>
      .ms (x * Float.ofNat n).toUInt64.toNat
    | none => none
  else if (whole ++ places).isEmpty then
    match ["infinity", "inf"].findSome? fun w => Text.afterStart? (Text.lower (String.ofList cs)) w with
    | some unit => (unitMs? unit.toList).map fun _ => .endless
    | none => none
  else (unitMs? r).map fun unit =>
    let n := value (whole ++ places) * unit
    .ms (if down then n / tenTo (places.length + power) else n * tenTo power / tenTo places.length)

def sleep (args : List Bytes) : Ran :=
  let l := ({} : Grammar).read args
  match l.fault with
  | some fault => misused "sleep" fault
  | none =>
    if l.has helpLetter then {}
    else if args.isEmpty then misused "sleep" "missing operand"
    else
      match l.words.filter fun w => (span? (Bytes.lossy w)).isNone with
      | w :: ws =>
        let fault (w : Bytes) : String := "invalid time interval " ++ quoted w
        misused "sleep" (String.intercalate "\nsleep: " (fault w :: ws.map fault))
      | [] =>
        l.words.foldl (fun (r : Ran) w =>
          match span? (Bytes.lossy w) with
          | some (.ms n) => { r with ms := r.ms.map (· + n) }
          | _ => .endless) {}

end ScriptHost.Program
