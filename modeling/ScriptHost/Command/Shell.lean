import ScriptHost.Command.Tree
import ScriptHost.Command.Pattern
import ScriptHost.Program.Translate

/-!
What a shell knows while it runs: its variables and functions, where its streams lead, and what has
been written to them. Time passes when a program takes some.
-/
namespace ScriptHost.Command

open Program (Input)

inductive Sink where
  | out
  | err
  | pipe
  | nowhere
  | closed
  deriving DecidableEq, Repr

inductive Flow where
  | on
  | exit
  | killed
  | endless
  | leave
  | breakLoops (n : Nat)
  | continueLoops (n : Nat)
  deriving DecidableEq, Repr

structure Options where
  exitOnFailure : Bool := false
  refuseUnset : Bool := false
  pipeFails : Bool := false

structure Shell where
  name : Bytes
  vars : List (String × Bytes)
  exported : List String
  funcs : List (String × Com) := []
  args : List Bytes
  input : Input
  sinks : List (Nat × Sink) := [(1, .out), (2, .err)]
  out : List Bytes := []
  err : List Bytes := []
  piped : List Bytes := []
  status : Nat := 0
  ms : Nat := 0
  /-- How long commands in the background keep the streams open. -/
  held : Nat := 0
  flow : Flow := .on
  options : Options := {}
  hidden : List (String × Option Bytes) := []
  depth : Nat := 0
  loops : Nat := 0
  fixed : List String := []
  folder : String := "/"
  formerFolder : Option String := none
  atExit : Option Bytes := none

namespace Shell

def processId : Nat := 1000

def stopped (s : Shell) : Bool := s.flow != .on

def sink (s : Shell) (stream : Nat) : Sink :=
  ((s.sinks.find? fun (n, _) => n = stream).map (·.2)).getD .closed

def turn (stream : Nat) (goal : Sink) (s : Shell) : Shell :=
  { s with sinks := (stream, goal) :: s.sinks.filter fun (n, _) => n ≠ stream }

def emit (stream : Nat) (b : Bytes) (s : Shell) : Shell :=
  match s.sink stream with
  | .out => { s with out := b :: s.out }
  | .err => { s with err := b :: s.err }
  | .pipe => { s with piped := b :: s.piped }
  | .nowhere | .closed => s

def say (text : String) (s : Shell) : Shell := s.emit 2 (bytes (text ++ "\n"))

def complain (line : Nat) (text : String) (s : Shell) : Shell :=
  s.emit 2 (s.name ++ bytes (": line " ++ toString line ++ ": " ++ text ++ "\n"))

def failing (status : Nat) (s : Shell) : Shell := { s with status }

def fault (line status : Nat) (text : String) (s : Shell) : Shell :=
  (s.complain line text).failing status

def exits (status : Nat) (s : Shell) : Shell := { s with status := status % 256, flow := .exit }

/-! ## Variables -/

def find? (name : String) (s : Shell) : Option Bytes :=
  (s.vars.find? fun (k, _) => k = name).map (·.2)

def put (name : String) (v : Bytes) (s : Shell) : Shell :=
  { s with vars := (name, v) :: s.vars.filter fun (k, _) => k ≠ name }

def set? (name : String) (v : Bytes) (s : Shell) : Option Shell :=
  if s.fixed.contains name then none else some (s.put name v)

def unset (name : String) (s : Shell) : Shell :=
  { s with
    vars := s.vars.filter fun (k, _) => k ≠ name
    exported := s.exported.filter (· ≠ name) }

def giveOut (name : String) (s : Shell) : Shell :=
  { s with exported := if s.exported.contains name then s.exported else name :: s.exported }

def env (s : Shell) : List (String × String) :=
  s.exported.filterMap fun n => (s.find? n).map fun v => (n, Bytes.lossy v)

def param? (name : String) (s : Shell) : Option Bytes :=
  match name with
  | "?" => some (Bytes.ofNat s.status)
  | "$" => some (Bytes.ofNat processId)
  | "#" => some (Bytes.ofNat s.args.length)
  | "0" => some s.name
  | "-" => some (bytes "hBc")
  | "!" => none
  | "@" | "*" => if s.args.isEmpty then none else some ((s.args.intersperse [0x20]).flatten)
  | name =>
    if !name.isEmpty && name.all Char.isDigit then s.args[name.toNat?.getD 0 - 1]?
    else s.find? name

def separators (s : Shell) : Bytes := (s.find? "IFS").getD [0x20, 0x09, 0x0A]

/-! ## Subshells -/

/-- A shell of its own, which knows what the outer one knows. -/
def enter (s : Shell) : Shell := { s with atExit := none, loops := 0 }

/-- Back in the outer shell: what has been written and read stays. -/
def back (outer s : Shell) : Shell :=
  { outer with
    input := s.input, out := s.out, err := s.err, piped := s.piped
    status := s.status, ms := s.ms, held := s.held
    flow := match s.flow with
      | .killed => .killed
      | .endless => .endless
      | _ => outer.flow }

/-! ## Programs -/

def readsNothing (tool : String) : Bool :=
  ["true", "false", "echo", "printf", "sleep"].contains tool

def record (r : Program.Ran) (s : Shell) : Shell :=
  match r.ms with
  | some ms => { (s.emit 1 r.out).emit 2 r.err with status := r.code, ms := s.ms + ms }
  | none => { s with flow := .endless }

def recordStarted (word : String) (line : Nat) (r : Started) (s : Shell) : Shell :=
  match r with
  | .refused reason =>
    let known := ["No such file or directory", "Permission denied"].find? (Text.contains reason)
    match word.toList.contains '/', known with
    | true, some "Permission denied" => s.fault line 126 (word ++ ": Permission denied")
    | true, _ => s.fault line 127 (word ++ ": No such file or directory")
    | false, _ => s.fault line 127 (word ++ ": command not found")
  | .ended out err ending ms =>
    let code := match ending with
      | .exited n => n
      | .killed => 137
    { (s.emit 1 out).emit 2 err with status := code, ms := s.ms + ms }
  | .endless => { s with flow := .endless }

end Shell

/-! ## Tests -/

def int? (b : Bytes) : Option Int :=
  let (negative, ds) := match b with
    | 0x2D :: r => (true, r)
    | 0x2B :: r => (false, r)
    | r => (false, r)
  if ds.isEmpty || !ds.all Text.Field.isDigit then none
  else
    let n : Int := Text.Field.value ds
    some (if negative then -n else n)

def exists? (b : Bytes) : Bool :=
  ["/", "/tmp", "/dev/null", "/dev/zero", "/dev/stdin", ".", "/bin", "/usr/bin", "/etc"].contains
    (Bytes.lossy b)

def testOne (op : String) (a : Bytes) (s : Shell) : Option Bool :=
  match op with
  | "-n" => some (!a.isEmpty)
  | "-z" => some a.isEmpty
  | "-v" => some (s.find? (Bytes.lossy a)).isSome
  | "-e" | "-r" | "-w" | "-x" => some (exists? a)
  | "-d" => some (exists? a && !Text.startsWith (Bytes.lossy a) "/dev/")
  | "-f" | "-s" | "-L" | "-h" | "-p" | "-t" | "-S" | "-b" | "-g" | "-u" | "-k" => some false
  | "-c" => some (["/dev/null", "/dev/zero"].contains (Bytes.lossy a))
  | _ => none

def testTwo (a : Bytes) (op : String) (b : Bytes) : Except String (Option Bool) :=
  let numbers (f : Int → Int → Bool) : Except String (Option Bool) :=
    match int? a, int? b with
    | some m, some n => .ok (some (f m n))
    | none, _ => .error (Bytes.lossy a ++ ": integer expression expected")
    | _, none => .error (Bytes.lossy b ++ ": integer expression expected")
  match op with
  | "=" | "==" => .ok (some (a == b))
  | "!=" => .ok (some (a != b))
  | "<" => .ok (some (Bytes.less a b))
  | ">" => .ok (some (Bytes.less b a))
  | "-eq" => numbers fun m n => m = n
  | "-ne" => numbers fun m n => m ≠ n
  | "-lt" => numbers fun m n => m < n
  | "-le" => numbers fun m n => m ≤ n
  | "-gt" => numbers fun m n => n < m
  | "-ge" => numbers fun m n => n ≤ m
  | _ => .ok none

def testWords (s : Shell) : Nat → List Bytes → Except String Bool
  | 0, _ => .error "too many arguments"
  | fuel + 1, ws =>
    match ws with
    | [] => .ok false
    | [a] => .ok (!a.isEmpty)
    | [op, a] =>
      if op = bytes "!" then (testWords s fuel [a]).map (!·)
      else match testOne (Bytes.lossy op) a s with
        | some b => .ok b
        | none => .error (Bytes.lossy op ++ ": unary operator expected")
    | a :: op :: b :: rest =>
      match testTwo a (Bytes.lossy op) b with
      | .error e => .error e
      | .ok (some r) =>
        match rest with
        | [] => .ok r
        | o :: more =>
          if o = bytes "-a" then (testWords s fuel more).map (r && ·)
          else if o = bytes "-o" then (testWords s fuel more).map (r || ·)
          else .error "too many arguments"
      | .ok none =>
        if a = bytes "!" then (testWords s fuel (op :: b :: rest)).map (!·)
        else if op = bytes "-a" then
          (testWords s fuel (b :: rest)).map (!a.isEmpty && ·)
        else if op = bytes "-o" then
          (testWords s fuel (b :: rest)).map (!a.isEmpty || ·)
        else match testOne (Bytes.lossy a) op s with
          | some r =>
            if b = bytes "-a" then (testWords s fuel rest).map (r && ·)
            else if b = bytes "-o" then (testWords s fuel rest).map (r || ·)
            else .error "too many arguments"
          | none =>
            if rest.isEmpty then .error (Bytes.lossy op ++ ": binary operator expected")
            else .error "too many arguments"

/-! ## Signals -/

def signal? (word : String) : Option Bool :=
  let name := Text.upper word
  let name := (Text.afterStart? name "SIG").getD name
  if ["0", "CHLD", "17", "CONT", "18", "URG", "23", "WINCH", "28"].contains name then some false
  else if ["1", "HUP", "2", "INT", "3", "QUIT", "6", "ABRT", "9", "KILL", "10", "USR1", "11", "SEGV",
    "12", "USR2", "13", "PIPE", "14", "ALRM", "15", "TERM"].contains name then some true
  else none

def killWords : List String → Option (Bool × List String)
  | "-s" :: name :: ps | "-n" :: name :: ps => (signal? name).map fun b => (b, ps)
  | "--" :: ps => some (true, ps)
  | w :: ps =>
    match Text.afterStart? w "-" with
    | some name => (signal? name).map fun b => (b, ps)
    | none => some (true, w :: ps)
  | [] => none

def kill (line : Nat) (words : List String) (s : Shell) : Shell :=
  match killWords words with
  | none | some (_, []) =>
    (s.say "kill: usage: kill [-s sigspec | -n signum | -sigspec] pid | jobspec ... or kill -l [sigspec]").failing 2
  | some (ends, ps) =>
    if ps.contains (toString Shell.processId) then
      if ends then { s with flow := .killed } else s.failing 0
    else match ps.find? fun p => p.toInt?.isNone with
      | some p => s.fault line 1 ("kill: " ++ p ++ ": arguments must be process or job IDs")
      | none =>
        s.fault line 1 ("kill: (" ++ ps.headD "" ++ ") - No such process")

/-! ## Fields -/

/-- A byte of a word under expansion, or a mark between bytes. -/
inductive Mark where
  | lit (b : UInt8)
  | live (b : UInt8)
  | soft (b : UInt8)
  | quoted
  | cut
  deriving DecidableEq, Repr

/-- A byte between quotes is neither split nor has it a meaning of its own. -/
def Mark.harden : Mark → Mark
  | .live b | .soft b => .lit b
  | m => m

def split (separators : Bytes) : Option Bytes → List Mark → List Bytes
  | field, [] => (field.map List.reverse).toList
  | field, m :: ms =>
    match m with
    | .lit b | .live b => split separators (some (b :: field.getD [])) ms
    | .soft b =>
      if separators.contains b then
        match field with
        | some f => f.reverse :: split separators none ms
        | none => split separators none ms
      else split separators (some (b :: field.getD [])) ms
    | .quoted => split separators (some (field.getD [])) ms
    | .cut =>
      match field with
      | some f => f.reverse :: split separators none ms
      | none => split separators none ms

def joined (ms : List Mark) : Bytes :=
  ms.filterMap fun
    | .lit b | .live b | .soft b => some b
    | .cut => some 0x20
    | .quoted => none

def pattern (ms : List Mark) : Pattern :=
  ms.filterMap fun
    | .lit b => some ⟨b, false⟩
    | .live b | .soft b => some ⟨b, true⟩
    | _ => none

def marksOf (quoted : Bool) (b : Bytes) : List Mark :=
  if quoted then .quoted :: b.map Mark.lit else b.map Mark.soft

/-! ## Braces -/

def intText? (cs : List Char) : Option Int :=
  match cs with
  | '-' :: r => if !r.isEmpty && r.all Char.isDigit then (String.ofList cs).toInt? else none
  | r => if !r.isEmpty && r.all Char.isDigit then (String.ofList cs).toInt? else none

def range? (cs : List Char) : Option (List String) :=
  let start := cs.takeWhile (· ≠ '.')
  match cs.drop start.length with
  | '.' :: '.' :: last =>
    match intText? start, intText? last with
    | some a, some b =>
      let n := (b - a).natAbs
      if 100000 < n then none
      else some ((List.range (n + 1)).map fun (i : Nat) =>
        toString (if a ≤ b then a + (i : Int) else a - (i : Int)))
    | _, _ =>
      match start, last with
      | [a], [b] =>
        if a.isAlpha && b.isAlpha then
          let (m, n) := (a.toNat, b.toNat)
          some ((List.range ((m - n) + (n - m) + 1)).map fun i =>
            (Char.ofNat (if m ≤ n then m + i else m - i)).toString)
        else none
      | _, _ => none
  | _ => none

def choices? (b : Bytes) : Option (List Bytes) :=
  let cs := (Bytes.lossy b).toList
  let front := cs.takeWhile (· ≠ '\x7b')
  match cs.drop front.length with
  | _ :: r =>
    let inside := r.takeWhile fun c => c ≠ '\x7d' && c ≠ '\x7b'
    match r.drop inside.length with
    | '\x7d' :: behind =>
      let values := match range? inside with
        | some vs => some vs
        | none =>
          if inside.contains ',' then
            some ((Text.splitChars ',' inside).map String.ofList)
          else none
      values.map fun vs => vs.map fun v =>
        bytes (String.ofList front ++ v ++ String.ofList behind)
    | _ => none
  | [] => none

def braces : Nat → Word → List Word
  | 0, w => [w]
  | fuel + 1, w =>
    match w with
    | [.text b false] =>
      match choices? b with
      | some bs => bs.flatMap fun b => braces fuel [.text b false]
      | none => [w]
    | w => [w]

end ScriptHost.Command
