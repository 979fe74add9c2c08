import ScriptHost.Command.Shell
import ScriptHost.Command.Parser
import ScriptHost.Command.Arithmetic

/-!
Running commands. Each function has fuel for the calls below it; commands that need more than there
is go on for ever as far as anyone waits for them.
-/
namespace ScriptHost.Command

namespace Shell

def spent (s : Shell) : Shell := { s with flow := .endless }

def trimmedOutput (pieces : List Bytes) : Bytes :=
  let b := (pieces.reverse.flatten).filter (· ≠ 0)
  (b.reverse.dropWhile (· == 0x0A)).reverse

structure LinePlea where
  raw : Bool := false
  ending : UInt8 := 0x0A
  most : Option Nat := none
  names : List String := []

def LinePlea.ofWords (p : LinePlea) : List String → LinePlea
  | [] => p
  | w :: ws =>
    match w.toList with
    | '-' :: cs =>
      let p := { p with raw := p.raw || cs.contains 'r' }
      match cs.getLast?, ws with
      | some 'd', v :: ws => ofWords { p with ending := (bytes v).headD 0 } ws
      | some 'n', v :: ws | some 'N', v :: ws => ofWords { p with most := v.toNat? } ws
      | some 'p', _ :: ws | some 't', _ :: ws | some 'u', _ :: ws => ofWords p ws
      | _, ws => ofWords p ws
    | _ => { p with names := w :: ws }

/-- A line without its end, with backslashes taken out: whether it has an end, and what is behind
it. An escaped end joins two lines; `n` bytes have been read before. -/
def lineOf (p : LinePlea) (n : Nat) : Bytes → Bytes × Bool × Bytes
  | [] => ([], false, [])
  | b :: r =>
    let before (b : UInt8) (found : Bytes × Bool × Bytes) := (b :: found.1, found.2)
    if p.most = some n then ([], true, b :: r)
    else if b == p.ending then ([], true, r)
    else if !p.raw && b == 0x5C then
      match r with
      | [] => ([], false, [])
      | c :: t => if c == 0x0A then lineOf p n t else before c (lineOf p (n + 1) t)
    else before b (lineOf p (n + 1) r)

def giveWords (separators : Bytes) : List String → Bytes → Shell → Shell
  | [], _, s => s
  | [name], b, s =>
    let b := ((b.dropWhile separators.contains).reverse.dropWhile separators.contains).reverse
    s.put name b
  | name :: names, b, s =>
    let b := b.dropWhile separators.contains
    let word := b.takeWhile fun c => !separators.contains c
    giveWords separators names (b.drop (word.length + 1)) (s.put name word)

def readLine (line : Nat) (words : List String) (s : Shell) : Shell :=
  let p : LinePlea := LinePlea.ofWords {} words
  match s.input with
  | none => s.fault line 1 "read: read error: 0: Bad file descriptor"
  | some b =>
    let (text, ended, rest) := lineOf p 0 b
    let names := if p.names.isEmpty then ["REPLY"] else p.names
    match names.find? s.fixed.contains with
    | some name => { s with input := some rest }.fault line 1 (name ++ ": readonly variable")
    | none =>
      let s := giveWords s.separators names text { s with input := some rest }
      s.failing (if ended then 0 else 1)

def declare (given keeps : Bool) (line : Nat) (what : String) : List Bytes → Shell → Shell
  | [], s => s
  | w :: ws, s =>
    let name := Bytes.lossy (w.takeWhile (· ≠ 0x3D))
    let valid := (name.toList.head?.any Parse.isNameStart) && name.toList.all Parse.isNameChar
    let rest := w.drop (bytes name).length
    if Text.startsWith name "-" then
      declare (given || (name.toList.contains 'x')) (keeps || name.toList.contains 'r') line what ws s
    else if !valid then
      declare given keeps line what ws
        (s.fault line 1 (what ++ ": `" ++ Bytes.lossy w ++ "': not a valid identifier"))
    else if s.fixed.contains name && (!rest.isEmpty || what = "local") then
      let whom := if ["declare", "typeset", "local"].contains what then what ++ ": " else ""
      declare given keeps line what ws (s.fault line 1 (whom ++ name ++ ": readonly variable"))
    else
      let s := if what = "local" then { s with hidden := (name, s.find? name) :: s.hidden } else s
      let s := match rest with
        | _ :: v => s.put name v
        | [] => if what = "local" then s.put name [] else s
      let s := if keeps then { s with fixed := name :: s.fixed } else s
      declare given keeps line what ws (if given then s.giveOut name else s)

def setOptions : List String → Shell → Shell
  | [], s => s
  | "-o" :: name :: ws, s =>
    let o := s.options
    let o := match name with
      | "pipefail" => { o with pipeFails := true }
      | "errexit" => { o with exitOnFailure := true }
      | "nounset" => { o with refuseUnset := true }
      | _ => o
    setOptions ws { s with options := o }
  | "--" :: ws, s => { s with args := ws.map bytes }
  | w :: ws, s =>
    match w.toList with
    | '-' :: cs =>
      let o := s.options
      let o := { o with
        exitOnFailure := o.exitOnFailure || cs.contains 'e'
        refuseUnset := o.refuseUnset || cs.contains 'u' }
      setOptions ws { s with options := o }
    | '+' :: cs =>
      let o := s.options
      let o := { o with
        exitOnFailure := o.exitOnFailure && !cs.contains 'e'
        refuseUnset := o.refuseUnset && !cs.contains 'u' }
      setOptions ws { s with options := o }
    | _ => { s with args := (w :: ws).map bytes }

def exitWords (line : Nat) (words : List String) (s : Shell) : Shell :=
  match words with
  | [] => s.exits s.status
  | [w] =>
    match w.toInt? with
    | some n => s.exits (n % 256).toNat
    | none => (s.complain line ("exit: " ++ w ++ ": numeric argument required")).exits 2
  | w :: _ =>
    match w.toInt? with
    | some _ => s.fault line 1 "exit: too many arguments"
    | none => (s.complain line ("exit: " ++ w ++ ": numeric argument required")).exits 2

def printfWords (line : Nat) (args : List Bytes) (s : Shell) : Shell :=
  let usage := "printf: usage: printf [-v var] format [arguments]"
  let (name, args) := match args with
    | flag :: v :: rest => if flag = bytes "-v" then (some (Bytes.lossy v), rest) else (none, args)
    | _ => (none, args)
  let (dashes, args) := if args.head? = some (bytes "--") then (true, args.drop 1) else (false, args)
  match args with
  | [] => (s.say usage).failing 2
  | format :: rest =>
    if !dashes && format.head? = some 0x2D && 1 < format.length then
      ((s.complain line ("printf: " ++ Bytes.lossy (format.take 2) ++ ": invalid option")).say
        usage).failing 2
    else
      let p := Program.printed .shell format rest
      let s := p.faults.foldl (fun s f => s.complain line ("printf: " ++ f)) s
      match name with
      | some v => (s.put v p.out).failing (if p.failed then 1 else 0)
      | none =>
        if s.sink 1 = .closed && !p.out.isEmpty then
          s.fault line 1 "printf: write error: Bad file descriptor"
        else (s.emit 1 p.out).failing (if p.failed then 1 else 0)

def echoWords (line : Nat) (args : List Bytes) (s : Shell) : Shell :=
  let r := Program.echo .shell args
  if s.sink 1 = .closed && !r.out.isEmpty then
    s.fault line 1 "echo: write error: Bad file descriptor"
  else (s.emit 1 r.out).failing 0

def ownNames : List String :=
  [":", "true", "false", "echo", "printf", "read", "exit", "return", "break", "continue", "export",
    "readonly", "declare", "typeset", "local", "unset", "set", "shift", "kill", "wait", "cd", "pwd",
    "trap", "test", "[", ".", "source", "eval", "exec", "command", "builtin", "let", "type"]

def whereIs (name : String) (s : Shell) : Option String :=
  if (s.funcs.find? fun (k, _) => k = name).isSome || ownNames.contains name then some name
  else if (Program.tool? name [] none).isSome || name = "bash" then some ("/usr/bin/" ++ name)
  else none

def whichWords (args : List Bytes) (s : Shell) : Shell :=
  match (args.head?.map Bytes.lossy).bind s.whereIs with
  | some place => (s.emit 1 (bytes (place ++ "\n"))).failing 0
  | none => s.failing 1

def typeWords (line : Nat) (words : List String) (s : Shell) : Shell :=
  let name := (words.filter fun w => !Text.startsWith w "-").headD ""
  let short := words.contains "-t"
  let tell (kind whole : String) : Shell :=
    (s.emit 1 (bytes ((if short then kind else name ++ " is " ++ whole) ++ "\n"))).failing 0
  match s.whereIs name with
  | none => if short then s.failing 1 else s.fault line 1 ("type: " ++ name ++ ": not found")
  | some place =>
    if place ≠ name then tell "file" place
    else if ownNames.contains name then tell "builtin" "a shell builtin"
    else tell "function" "a function"

def loopWords (line : Nat) (name : String) (words : List String) (s : Shell) : Shell :=
  let flow (n : Nat) : Flow := if name = "break" then .breakLoops n else .continueLoops n
  if s.loops = 0 then
    (s.complain line (name ++ ": only meaningful in a `for', `while', or `until' loop")).failing 0
  else match words with
    | [] => { s with status := 0, flow := flow 1 }
    | w :: _ =>
      match w.toInt? with
      | none => (s.complain line (name ++ ": " ++ w ++ ": numeric argument required")).exits 128
      | some n =>
        if n ≤ 0 then
          { s.fault line 1 (name ++ ": " ++ w ++ ": loop count out of range") with
            flow := .breakLoops s.loops }
        else { s with status := 0, flow := flow (min n.toNat s.loops) }

def pathFrom (folder path : String) : String :=
  let parts := (Text.splitChars '/' (if Text.startsWith path "/" then path
    else folder ++ "/" ++ path).toList).foldl (fun done (part : List Char) =>
      if part = [] || part = ['.'] then done
      else if part = ['.', '.'] then done.dropLast
      else done ++ [String.ofList part]) []
  "/" ++ "/".intercalate parts

def changeFolder (line : Nat) (words : List String) (s : Shell) : Shell :=
  let enter (path : String) : Shell :=
    { s with
      status := 0, folder := path, formerFolder := some s.folder
      vars := (s.put "OLDPWD" (bytes s.folder) |>.put "PWD" (bytes path)).vars }
  match words.filter fun w => !(["-L", "-P", "--"].contains w) with
  | [] =>
    match s.find? "HOME" with
    | some home => enter (Bytes.lossy home)
    | none => s.fault line 1 "cd: HOME not set"
  | ["-"] =>
    match s.formerFolder with
    | some path => (enter path).emit 1 (bytes (path ++ "\n"))
    | none => s.fault line 1 "cd: OLDPWD not set"
  | [""] => s.failing 0
  | [path] =>
    let whole := pathFrom s.folder path
    if Program.isFolder whole then enter whole
    else
      s.fault line 1 ("cd: " ++ path ++ ": " ++
        (if exists? (bytes whole) then "Not a directory" else "No such file or directory"))
  | _ => s.fault line 1 "cd: too many arguments"

def builtin? (name : String) (args : List Bytes) (line : Nat) (s : Shell) : Option Shell :=
  let words := args.map Bytes.lossy
  match name with
  | ":" | "true" => some (s.failing 0)
  | "false" => some (s.failing 1)
  | "echo" => some (s.echoWords line args)
  | "printf" => some (s.printfWords line args)
  | "read" => some (s.readLine line words)
  | "exit" => some (s.exitWords line words)
  | "return" =>
    if s.depth = 0 then
      some (s.fault line 2 "return: can only `return' from a function or sourced script")
    else
      let code := (words.head?.bind String.toInt?).map fun n => (n % 256).toNat
      some { s with status := code.getD s.status, flow := .leave }
  | "break" | "continue" => some (s.loopWords line name words)
  | "export" => some ((s.failing 0).declare true false line "export" args)
  | "readonly" => some ((s.failing 0).declare false true line "readonly" args)
  | "declare" | "typeset" => some ((s.failing 0).declare false false line name args)
  | "local" =>
    if s.depth = 0 then some (s.fault line 1 "local: can only be used in a function")
    else some ((s.failing 0).declare false false line "local" args)
  | "unset" =>
    let names := words.filter fun w => !Text.startsWith w "-"
    let s := names.foldl (fun s n =>
      if s.fixed.contains n then
        s.fault line 1 ("unset: " ++ n ++ ": cannot unset: readonly variable")
      else s.unset n) (s.failing 0)
    some { s with funcs := s.funcs.filter fun (k, _) => !names.contains k }
  | "set" => some ((s.setOptions words).failing 0)
  | "shift" =>
    let n := (words.head?.bind String.toNat?).getD 1
    if s.args.length < n then some (s.failing 1)
    else some { s with args := s.args.drop n, status := 0 }
  | "kill" => some (kill line words s)
  | "wait" => some { s with ms := max s.ms s.held, status := 0 }
  | "cd" => some (s.changeFolder line words)
  | "umask" | "ulimit" | "shopt" | "alias" | "hash" => some (s.failing 0)
  | "pwd" => some ((s.emit 1 (bytes (s.folder ++ "\n"))).failing 0)
  | "trap" =>
    match args with
    | action :: names =>
      if names.any fun n => ["EXIT", "0"].contains (Bytes.lossy n) then
        some { s with
          status := 0
          atExit := if action = bytes "-" || action.isEmpty then none else some action }
      else some (s.failing 0)
    | [] => some (s.failing 0)
  | "test" | "[" =>
    let inner := if name = "[" then args.dropLast else args
    if name = "[" && args.getLast? ≠ some (bytes "]") then some (s.fault line 2 "[: missing `]'")
    else match testWords s (inner.length + 1) inner with
      | .ok b => some (s.failing (if b then 0 else 1))
      | .error e => some (s.fault line 2 (name ++ ": " ++ e))
  | _ => none

/-- Leaves a loop or goes on with it: whether another round follows. -/
def afterRound (s : Shell) : Bool × Shell :=
  match s.flow with
  | .breakLoops n => (false, { s with flow := if 1 < n then .breakLoops (n - 1) else .on })
  | .continueLoops n =>
    if 1 < n then (false, { s with flow := .continueLoops (n - 1) }) else (true, { s with flow := .on })
  | .on => (true, s)
  | _ => (false, s)

def redirectOne (stream : Nat) (turn : Turn) (word : Bytes) (s : Shell) : Except String Shell :=
  let name := Bytes.lossy word
  match turn with
  | .text => .ok { s with input := some word }
  | .read =>
    match Program.content name s.input with
    | .found b => .ok { s with input := some b }
    | .zeros => .ok { s with input := some (List.replicate 65536 0) }
    | .missing reason => .error (name ++ ": " ++ reason)
  | .copy =>
    if name = "-" then
      if stream = 0 then .ok { s with input := none } else .ok (s.turn stream .closed)
    else match name.toNat? with
      | some 0 => .ok s
      | some n =>
        if s.sink n = .closed then .error (name ++ ": Bad file descriptor")
        else .ok (s.turn stream (s.sink n))
      | none => .ok ((s.turn 1 .nowhere).turn 2 .nowhere)
  | .write | .append | .both =>
    let goal : Except String Sink := match name with
      | "/dev/null" => .ok .nowhere
      | "/dev/stdout" => .ok (s.sink 1)
      | "/dev/stderr" => .ok (s.sink 2)
      | "/" | "/tmp" | "." => .error (name ++ ": Is a directory")
      | "" => .error ": No such file or directory"
      | _ =>
        if Text.startsWith name "/nonexistent" then .error (name ++ ": No such file or directory")
        else .ok .nowhere
    match goal, turn with
    | .error e, _ => .error e
    | .ok k, .both => .ok ((s.turn 1 k).turn 2 k)
    | .ok k, _ => .ok (s.turn stream k)

end Shell

open Shell

def enterFunction (args : List Bytes) (s : Shell) : Shell :=
  { s with args, hidden := [], depth := s.depth + 1, loops := 0 }

def enterLoop (s : Shell) : Shell := { s with status := 0, loops := s.loops + 1 }

def leaveLoop (outer s : Shell) : Shell := { s with loops := outer.loops }

def leaveFunction (outer s : Shell) : Shell :=
  let s := s.hidden.foldl (fun s (k, v) =>
    match v with
    | some v => s.put k v
    | none => s.unset k) s
  { s with
    args := outer.args, hidden := outer.hidden, depth := outer.depth, loops := outer.loops
    flow := match s.flow with
      | .leave => .on
      | f => f }

def caseOf (upper : Bool) (b : Bytes) : Bytes :=
  b.map fun c =>
    if upper then (if 0x61 ≤ c && c ≤ 0x7A then c - 0x20 else c)
    else if 0x41 ≤ c && c ≤ 0x5A then c + 0x20
    else c

def asksOutput (w : Word) : Bool :=
  w.any fun
    | .output .. => true
    | _ => false

def trimBy (how : Trim) (p : Pattern) (b : Bytes) : Bytes :=
  match how with
  | .shortFront => b.drop ((Pattern.starts p b).head?.getD 0)
  | .longFront => b.drop ((Pattern.starts p b).getLast?.getD 0)
  | .shortBack => b.take (b.length - (Pattern.ends p b).head?.getD 0)
  | .longBack => b.take (b.length - (Pattern.ends p b).getLast?.getD 0)

section

variable (computer : Computer)

mutual

def sumValue (fuel : Nat) (asker : String) (e : List Char) (line : Nat) (s : Shell) :
    Option Int × Shell :=
  match fuel with
  | 0 => (none, s.spent)
  | fuel + 1 =>
    let text : Word := match Parse.pieces (fuelFor e) .doc [] { rest := e, line } with
      | .ok ps _ => ps
      | .error _ _ => [.text (bytes (String.ofList e)) true]
    let (ms, s) := expand fuel text line s
    if s.stopped then (none, s)
    else
      let shown := Bytes.lossy (joined ms)
      match Arithmetic.eval s.vars shown.toList with
      | .ok (n, vars) => (some n, { s with vars })
      | .error f => (none, s.fault line 1 (asker ++ f.message))

def capture (fuel : Nat) (body : List Item) (s : Shell) : Bytes × Shell :=
  match fuel with
  | 0 => ([], s.spent)
  | fuel + 1 =>
    let inner := (({ s with piped := [] }).turn 1 .pipe).enter
    let inner := runItems fuel body false inner
    (trimmedOutput inner.piped, { back s inner with piped := s.piped })

/-- The marks of a word. -/
def expand (fuel : Nat) (w : Word) (line : Nat) (s : Shell) : List Mark × Shell :=
  match fuel with
  | 0 => ([], s.spent)
  | fuel + 1 =>
    match w with
    | [] => ([], s)
    | p :: ps =>
      let (ms, s) := expandPiece fuel p line s
      if s.stopped then (ms, s)
      else
        let (more, s) := expand fuel ps line s
        (ms ++ more, s)

def expandPiece (fuel : Nat) (p : Piece) (line : Nat) (s : Shell) : List Mark × Shell :=
  match fuel with
  | 0 => ([], s.spent)
  | fuel + 1 =>
    match p with
    | .text b true => (.quoted :: b.map Mark.lit, s)
    | .text b false => (b.map Mark.live, s)
    | .output body quoted =>
      let (b, s) := capture fuel body s
      (marksOf quoted b, s)
    | .sum e quoted =>
      match sumValue fuel "" e line s with
      | (some n, s) => (marksOf quoted (bytes (toString n)), s)
      | (none, s) => ([], if s.stopped then s else s.exits 1)
    | .param _ (.senseless text) _ =>
      ([], (s.complain line (text ++ ": bad substitution")).exits 1)
    | .param "@" .plain true =>
      let each := s.args.map fun a => Mark.quoted :: a.map Mark.lit
      ((each.intersperse [.cut]).flatten, s)
    | .param "@" .plain false | .param "*" .plain false =>
      ((s.args.map fun a => a.map Mark.soft).intersperse [.cut] |>.flatten, s)
    | .param name form quoted =>
      let value := if name = "LINENO" then some (Bytes.ofNat line) else s.param? name
      match value, form with
      | none, .instead .. | some _, _ =>
        let (ms, s) := formed fuel (value.getD []) value.isSome name form line s
        (if quoted then .quoted :: ms.map Mark.harden else ms, s)
      | none, .length => (marksOf quoted (bytes "0"), s)
      | none, _ =>
        if s.options.refuseUnset && !(["@", "*"].contains name) then
          ([], (s.complain line (name ++ ": unbound variable")).exits 127)
        else (marksOf quoted [], s)

def formed (fuel : Nat) (b : Bytes) (isSet : Bool) (name : String) (form : Form) (line : Nat)
    (s : Shell) : List Mark × Shell :=
  match fuel with
  | 0 => ([], s.spent)
  | fuel + 1 =>
    let soft (b : Bytes) : List Mark := b.map Mark.soft
    match form with
    | .plain | .senseless _ => (soft b, s)
    | .length =>
      if name = "@" || name = "*" then (soft (Bytes.ofNat s.args.length), s)
      else (soft (Bytes.ofNat b.length), s)
    | .instead kind unlessEmpty word =>
      let has := isSet && !(unlessEmpty && b.isEmpty)
      if kind = '+' then if has then expand fuel word line s else ([], s)
      else if has then (soft b, s)
      else
        let (ms, s) := expand fuel word line s
        if kind = '=' then
          match s.set? name (joined ms) with
          | some s => (ms, s)
          | none => ([], (s.complain line (name ++ ": readonly variable")).exits 1)
        else if kind = '?' then
          let text := Bytes.lossy (joined ms)
          ([], (s.complain line (name ++ ": " ++
            (if !text.isEmpty then text
            else if unlessEmpty then "parameter null or not set"
            else "parameter not set"))).exits 127)
        else (ms, s)
    | .trim how p =>
      let (ms, s) := expand fuel p line s
      (soft (trimBy how (pattern ms) b), s)
    | .replace every p r =>
      let (ms, s) := expand fuel p line s
      let (rs, s) := expand fuel r line s
      (soft (Pattern.replace every (pattern ms) (joined rs) (b.length + 1) b), s)
    | .slice start length =>
      match sumValue fuel "" start line s with
      | (none, s) => ([], s)
      | (some i, s) =>
        let i := if i < 0 then ((b.length : Int) + i).toNat else i.toNat
        let b := b.drop i
        match length with
        | none => (soft b, s)
        | some l =>
          match sumValue fuel "" l line s with
          | (none, s) => ([], s)
          | (some n, s) =>
            let n := if n < 0 then ((b.length : Int) + n).toNat else n.toNat
            (soft (b.take n), s)
    | .casing upper every =>
      (soft (if every then caseOf upper b else caseOf upper (b.take 1) ++ b.drop 1), s)

/-- The fields of words. -/
def fields (fuel : Nat) (ws : List Word) (line : Nat) (s : Shell) : List Bytes × Shell :=
  match fuel with
  | 0 => ([], s.spent)
  | fuel + 1 =>
    match ws with
    | [] => ([], s)
    | w :: ws =>
      let (ms, s) := expand fuel w line s
      if s.stopped then ([], s)
      else
        let here := split s.separators none ms
        let (more, s) := fields fuel ws line s
        (here ++ more, s)

def textOf (fuel : Nat) (w : Word) (line : Nat) (s : Shell) : Bytes × Shell :=
  match fuel with
  | 0 => ([], s.spent)
  | fuel + 1 =>
    let (ms, s) := expand fuel w line s
    (joined ms, s)

def assign (fuel : Nat) (as : List (String × Word)) (line : Nat) (s : Shell) : Shell :=
  match fuel with
  | 0 => s.spent
  | fuel + 1 =>
    match as with
    | [] => s
    | (name, w) :: as =>
      let (b, s) := textOf fuel w line s
      if s.stopped then s
      else match s.set? name b with
        | some s => assign fuel as line s
        | none => (s.complain line (name ++ ": readonly variable")).exits 1

def redirect (fuel : Nat) (rs : List Redirect) (line : Nat) (s : Shell) : Bool × Shell :=
  match fuel with
  | 0 => (false, s.spent)
  | fuel + 1 =>
    match rs with
    | [] => (true, s)
    | .mk stream turn w :: rs =>
      let (b, s) := textOf fuel w line s
      if s.stopped then (false, s)
      else match redirectOne stream turn b s with
        | .ok s => redirect fuel rs line s
        | .error e => (false, s.fault line 1 e)

/-- Runs `k` with streams turned; afterwards they lead where they led. -/
def redirected (fuel : Nat) (rs : List Redirect) (c : Com) (guarded : Bool) (s : Shell) : Shell :=
  match fuel with
  | 0 => s.spent
  | fuel + 1 =>
    let (good, inner) := redirect fuel rs 1 s
    let inner := if good && !inner.stopped then runCom fuel c guarded inner else inner
    let turnsInput := rs.any fun | .mk stream _ _ => stream = 0
    { inner with sinks := s.sinks, input := if turnsInput then s.input else inner.input }

def runWords (fuel : Nat) (args : List Bytes) (line : Nat) (guarded : Bool) (s : Shell) : Shell :=
  match fuel with
  | 0 => s.spent
  | fuel + 1 =>
    match args with
    | [] => s
    | word :: args =>
      let name := Bytes.lossy word
      match s.funcs.find? fun (k, _) => k = name with
      | some (_, body) =>
        leaveFunction s (runCom fuel body guarded (enterFunction args s))
      | none =>
        match builtin? name args line s with
        | some s => s
        | none =>
          match name with
          | "eval" =>
            let text := Bytes.lossy ((args.intersperse [0x20]).flatten)
            runText fuel ⟨"eval: ", text.toList, line⟩ { rest := text.toList, line } (s.failing 0)
          | "." | "source" =>
            match args with
            | [] =>
              (s.complain line (name ++ ": filename argument required")).say
                (name ++ ": usage: " ++ name ++ " filename [arguments]") |>.failing 2
            | file :: _ =>
              let file := Bytes.lossy file
              match Program.content file s.input with
              | .found text =>
                let text := (Bytes.lossy text).toList
                let taken := if file = "/dev/stdin" then s.input.map fun _ => [] else s.input
                runText fuel ⟨"", text, 1⟩ { rest := text, line := 1 } { s with status := 0, input := taken }
              | .zeros => s.failing 0
              | .missing reason =>
                s.fault line 1 ((if reason = "Is a directory" then name ++ ": " else "")
                  ++ file ++ ": " ++ (if reason = "Is a directory" then "is a directory" else reason))
          | "command" | "builtin" =>
            if args.head? = some (bytes "-v") then whichWords (args.drop 1) s else
            let args := args.dropWhile fun a => a.head? = some 0x2D
            runWords fuel args line guarded { s with funcs := [] } |> fun r =>
              { r with funcs := s.funcs }
          | "exec" =>
            if args.isEmpty then s.failing 0
            else
              let r := runWords fuel args line guarded { s with funcs := [] }
              if r.stopped then r else r.exits r.status
          | "let" => lets fuel args line s
          | "type" => typeWords line (args.map Bytes.lossy) s
          | _ => runOutside name args line s

def lets (fuel : Nat) (args : List Bytes) (line : Nat) (s : Shell) : Shell :=
  match fuel with
  | 0 => s.spent
  | fuel + 1 =>
    match args with
    | [] => s.fault line 1 "let: expression expected"
    | a :: rest =>
      match sumValue fuel "let: " (Bytes.lossy a).toList line s with
      | (some n, s) =>
        if rest.isEmpty then s.failing (if n = 0 then 1 else 0) else lets fuel rest line s
      | (none, s) => s

def runOutside (name : String) (args : List Bytes) (line : Nat) (s : Shell) : Shell :=
  match Program.tool? name args s.input with
  | some r =>
    let s := if readsNothing name then s else { s with input := s.input.map fun _ => [] }
    if s.sink 1 = .closed && !r.out.isEmpty then
      (s.say (name ++ ": standard output: Bad file descriptor")).failing 1
    else s.record r
  | none =>
    s.recordStarted name line
      (computer ⟨name, args.map Bytes.lossy, s.env, s.input.getD []⟩)

def runSimple (fuel : Nat) (assigns : List (String × Word)) (words : List Word) (line : Nat)
    (guarded : Bool) (s : Shell) : Shell :=
  match fuel with
  | 0 => s.spent
  | fuel + 1 =>
    let (args, s) := fields fuel (words.flatMap (braces 8)) line s
    if s.stopped then s
    else if args.isEmpty then
      let s := assign fuel assigns line s
      if s.stopped || words.any asksOutput || assigns.any fun (_, w) => asksOutput w then s else s.failing 0
    else
      if assigns.isEmpty then runWords fuel args line guarded s
      else
        let inner := assign fuel assigns line s
        let inner := assigns.foldl (fun s (k, _) => s.giveOut k) inner
        if inner.stopped then inner
        else
          let r := runWords fuel args line guarded inner
          let r := assigns.foldl (fun r (k, _) => match s.find? k with
            | some v => r.put k v
            | none => r.unset k) r
          { r with exported := s.exported }

def runCom (fuel : Nat) (c : Com) (guarded : Bool) (s : Shell) : Shell :=
  match fuel with
  | 0 => s.spent
  | fuel + 1 =>
    match c with
    | .simple assigns words [] line => runSimple fuel assigns words line guarded s
    | .simple assigns words rs line =>
      let isExec := match words with
        | [w] => plain? w == some "exec"
        | _ => false
      if isExec then
        let (good, s) := redirect fuel rs line s
        if good then s.failing 0 else s
      else redirected fuel rs (.simple assigns words [] line) guarded s
    | .group body [] => runItems fuel body guarded s
    | .group body rs => redirected fuel rs (.group body []) guarded s
    | .subshell body [] => back s (runItems fuel body guarded s.enter)
    | .subshell body rs => redirected fuel rs (.subshell body []) guarded s
    | .cond arms otherwise [] => runArms fuel arms otherwise guarded s
    | .cond arms otherwise rs => redirected fuel rs (.cond arms otherwise []) guarded s
    | .loop inverted condition body [] =>
      leaveLoop s (runLoop fuel inverted condition body guarded (enterLoop s) 0)
    | .loop inverted condition body rs =>
      redirected fuel rs (.loop inverted condition body []) guarded s
    | .each name words body [] =>
      if !(name.toList.head?.any Parse.isNameStart && name.toList.all Parse.isNameChar) then
        s.fault 1 1 ("\x60" ++ name ++ "': not a valid identifier")
      else
      let (vs, s) := match words with
        | some ws => fields fuel (ws.flatMap (braces 8)) 1 s
        | none => (s.args, s)
      if s.stopped then s
      else leaveLoop s (runEach fuel name vs body guarded (enterLoop s))
    | .each name words body rs => redirected fuel rs (.each name words body []) guarded s
    | .count start test next body [] =>
      match sumValue fuel "((: " start 1 s with
      | (some _, s) => leaveLoop s (runCount fuel test next body guarded (enterLoop s))
      | (none, s) => s
    | .count start test next body rs =>
      redirected fuel rs (.count start test next body []) guarded s
    | .choose w cases [] =>
      let (b, s) := textOf fuel w 1 s
      if s.stopped then s else runCases fuel b cases guarded (s.failing 0)
    | .choose w cases rs => redirected fuel rs (.choose w cases []) guarded s
    | .func name body =>
      { s with status := 0, funcs := (name, body) :: s.funcs.filter fun (k, _) => k ≠ name }
    | .test ws [] =>
      match conditionValue fuel ws s with
      | (some b, s) => s.failing (if b then 0 else 1)
      | (none, s) => s
    | .test ws rs => redirected fuel rs (.test ws []) guarded s
    | .sum e [] =>
      match sumValue fuel "((: " e 1 s with
      | (some n, s) => s.failing (if n = 0 then 1 else 0)
      | (none, s) => s
    | .sum e rs => redirected fuel rs (.sum e []) guarded s

def conditionValue (fuel : Nat) (ws : List Word) (s : Shell) : Option Bool × Shell :=
  match fuel with
  | 0 => (none, s.spent)
  | fuel + 1 =>
    let isOp (t : String) (w : Word) : Bool := plain? w = some t
    let first := ws.takeWhile fun w => !isOp "&&" w && !isOp "||" w
    let rest := ws.drop first.length
    let (value, s) := conditionTerm fuel first s
    match value, rest with
    | some b, op :: more =>
      if isOp "&&" op then if b then conditionValue fuel more s else (some false, s)
      else if b then (some true, s) else conditionValue fuel more s
    | v, _ => (v, s)

def conditionTerm (fuel : Nat) (ws : List Word) (s : Shell) : Option Bool × Shell :=
  match fuel with
  | 0 => (none, s.spent)
  | fuel + 1 =>
    match ws with
    | [] => (some false, s)
    | [w] =>
      let (b, s) := textOf fuel w 1 s
      (some (!b.isEmpty), s)
    | w :: rest =>
      if plain? w = some "!" then
        let (v, s) := conditionTerm fuel rest s
        (v.map (!·), s)
      else if plain? w = some "(" then conditionTerm fuel rest.dropLast s
      else match ws with
        | [op, a] =>
          let (b, s) := textOf fuel a 1 s
          (testOne ((plain? op).getD "") b s, s)
        | [a, op, b] =>
          let (x, s) := textOf fuel a 1 s
          let (ms, s) := expand fuel b 1 s
          match (plain? op).getD "" with
          | "=" | "==" => (some (Pattern.covers (pattern ms) x), s)
          | "!=" => (some (!Pattern.covers (pattern ms) x), s)
          | o =>
            match testTwo x o (joined ms) with
            | .ok r => (r, s)
            | .error e => (none, s.fault 1 1 ("[[: " ++ e))
        | _ => (some false, s)

def runArms (fuel : Nat) (arms : List Arm) (otherwise : List Item) (guarded : Bool) (s : Shell) :
    Shell :=
  match fuel with
  | 0 => s.spent
  | fuel + 1 =>
    match arms with
    | [] => runItems fuel otherwise guarded (s.failing 0)
    | .mk c body :: arms =>
      let s := runItems fuel c true s
      if s.stopped then s
      else if s.status = 0 then runItems fuel body guarded s
      else runArms fuel arms otherwise guarded s

def runLoop (fuel : Nat) (inverted : Bool) (condition body : List Item) (guarded : Bool)
    (s : Shell) (last : Nat) : Shell :=
  match fuel with
  | 0 => s.spent
  | fuel + 1 =>
    let s := runItems fuel condition true s
    if s.stopped then (afterRound s).2
    else if (s.status = 0) == inverted then s.failing last
    else
      let (more, s) := afterRound (runItems fuel body guarded s)
      if more then runLoop fuel inverted condition body guarded s s.status else s

def runEach (fuel : Nat) (name : String) (vs : List Bytes) (body : List Item) (guarded : Bool)
    (s : Shell) : Shell :=
  match fuel with
  | 0 => s.spent
  | fuel + 1 =>
    match vs with
    | [] => s
    | v :: vs =>
      match s.set? name v with
      | none => s.fault 1 1 (name ++ ": readonly variable")
      | some s =>
        let (more, s) := afterRound (runItems fuel body guarded s)
        if more then runEach fuel name vs body guarded s else s

def runCount (fuel : Nat) (test next : List Char) (body : List Item) (guarded : Bool) (s : Shell) :
    Shell :=
  match fuel with
  | 0 => s.spent
  | fuel + 1 =>
    let (go, s) := if test.all (· = ' ') then (some 1, s) else sumValue fuel "((: " test 1 s
    match go with
    | none => s
    | some 0 => s.failing 0
    | some _ =>
      let (more, s) := afterRound (runItems fuel body guarded s)
      if !more then s
      else match sumValue fuel "((: " next 1 s with
        | (some _, s) => runCount fuel test next body guarded s
        | (none, s) => s

def runCases (fuel : Nat) (b : Bytes) (cases : List Case) (guarded : Bool) (s : Shell) : Shell :=
  match fuel with
  | 0 => s.spent
  | fuel + 1 =>
    match cases with
    | [] => s
    | .mk [] _ :: cases => runCases fuel b cases guarded s
    | .mk (p :: ps) body :: cases =>
      let (ms, s) := expand fuel p 1 s
      if s.stopped then s
      else if Pattern.covers (pattern ms) b then runItems fuel body guarded s
      else runCases fuel b (.mk ps body :: cases) guarded s

/-- The stages of a pipeline: each reads what the one before has written. -/
def runStages (fuel : Nat) (cs : List Com) (guarded : Bool) (outer s : Shell) : Shell :=
  match fuel with
  | 0 => s.spent
  | fuel + 1 =>
    match cs with
    | [] => s
    | [c] => runCom fuel c guarded s
    | c :: cs =>
      let start := s.ms
      let stage := runCom fuel c guarded (({ s with piped := [] }).turn 1 .pipe).enter
      let made := stage.piped.reverse.flatten
      let failed := stage.status
      let took := stage.ms
      let next := { back s stage with
        input := some made, piped := s.piped, ms := start, sinks := s.sinks, status := 0 }
      if next.stopped then next
      else
        let r := runStages fuel cs guarded outer next.enter
        { r with
          ms := max took r.ms
          status := if outer.options.pipeFails && r.status = 0 then failed else r.status }

def runPipeline (fuel : Nat) (p : Pipeline) (guarded : Bool) (s : Shell) : Shell :=
  match fuel with
  | 0 => s.spent
  | fuel + 1 =>
    match p with
    | .mk negated cs =>
      let r := match cs with
        | [] => s.failing 0
        | [c] => runCom fuel c (guarded || negated) s
        | cs => { back s (runStages fuel cs (guarded || negated) s s.enter) with input := s.input }
      if negated && !r.stopped then r.failing (if r.status = 0 then 1 else 0) else r

def runParts (fuel : Nat) (ps : List Part) (guarded : Bool) (s : Shell) : Shell :=
  match fuel with
  | 0 => s.spent
  | fuel + 1 =>
    match ps with
    | [] => s
    | .mk link p :: ps =>
      let runs := match link with
        | .always => true
        | .onSuccess => s.status = 0
        | .onFailure => s.status ≠ 0
      if !runs then runParts fuel ps guarded s
      else
        let s := runPipeline fuel p (guarded || !ps.isEmpty) s
        let negated := match p with
          | .mk negated _ => negated
        if s.stopped then s
        else if ps.isEmpty && !guarded && !negated && s.options.exitOnFailure && s.status ≠ 0 then
          { s with flow := .exit }
        else runParts fuel ps guarded s

def runItems (fuel : Nat) (is : List Item) (guarded : Bool) (s : Shell) : Shell :=
  match fuel with
  | 0 => s.spent
  | fuel + 1 =>
    match is with
    | [] => s
    | .mk ps background :: is =>
      let s :=
        if background then
          let inner := runParts fuel ps guarded { s.enter with input := some [] }
          let r := back s { inner with input := s.input }
          { r with ms := s.ms, held := max r.held inner.ms, status := 0 }
        else runParts fuel ps guarded s
      if s.stopped then s else runItems fuel is guarded s

def runText (fuel : Nat) (t : Script) (r : Reader) (s : Shell) : Shell :=
  match fuel with
  | 0 => s.spent
  | fuel + 1 =>
    if r.rest.isEmpty then s
    else match readLine r with
      | .error e =>
        let shown := e.message (Bytes.lossy s.name) t
        (s.emit 2 (bytes shown)).exits 2
      | .ok (is, r) =>
        let warnings := bytes (r.warnings (Bytes.lossy s.name))
        let s := runItems fuel is false (if warnings.isEmpty then s else s.emit 2 warnings)
        if s.stopped then s else runText fuel t { r with endless := [] } s

end

/-- Runs a whole script, and in the end what it has put off. -/
def runScript (t : Script) (s : Shell) : Shell :=
  let fuel := 6000
  let s := runText computer fuel t { rest := t.text, line := t.first } s
  match s.atExit, s.flow with
  | some action, .on | some action, .exit =>
    let t : Script := { place := "trap: ", text := (Bytes.lossy action).toList }
    let r := runText computer fuel t { rest := t.text, line := t.first }
      { s with flow := .on, atExit := none }
    if r.flow = .exit then r else { r with status := s.status }
  | _, _ => s

end

def Shell.started (s : Shell) : Started :=
  let out := s.out.reverse.flatten
  let err := s.err.reverse.flatten
  match s.flow with
  | .endless => .endless
  | .killed => .ended out err .killed (max s.ms s.held)
  | _ => .ended out err (.exited s.status) (max s.ms s.held)

end ScriptHost.Command
