import ScriptHost.Braced.Objects
import ScriptHost.Braced.Numbers
import ScriptHost.Text.Base64
import ScriptHost.Text.Percent

/-!
What a script has from the program that runs it: its two outputs, its input, timers, the modules that
it may ask for, and bytes.
-/
namespace ScriptHost.Braced

open Snippet

/-! ## Lines -/

def shownValue (v : Value) : Work String := do
  match v with
  | .str s => return s
  | v => inspect v

def wholeText (v : Value) : Work String := do
  match v with
  | .float x => return match wholePart? x with
      | some n => toString n
      | none => "NaN"
  | .int n => return toString n ++ "n"
  | .ref _ => return "NaN"
  | v =>
    if isSymbol v then return "NaN"
    return numberText (leadingInteger (← textOf v) 10)

def placed (letter : Char) (v : Value) : Work String := do
  match letter with
  | 's' =>
    match v with
    | .str s => return s
    | .int n => return toString n ++ "n"
    | .float x => return match Decimal.kind x with
        | .finite true _ => if x == 0 then "-0" else numberText x
        | _ => numberText x
    | .ref id =>
      match (← Work.thing id).shape with
      | .error => textOf v
      | .func | .classOf => inspect v
      | _ => if (dateOf? (← Work.thing id)).isSome then textOf v else inspect v
    | v => if isSymbol v then inspect v else textOf v
  | 'd' =>
    match v with
    | .int n => return toString n ++ "n"
    | .ref _ => return "NaN"
    | v => if isSymbol v then return "NaN" else return numberText (← toNumber v)
  | 'i' => wholeText v
  | 'f' => if isSymbol v then return "NaN" else return numberText (leadingNumber (← textOf v))
  | 'j' => return (← JsonText.write {} JsonText.depth 0 [] "" v).getD "undefined"
  | 'c' => return ""
  | _ => inspect v

def filledIn : Nat → List Char → List Value → Work (String × List Value)
  | 0, _, vs => return ("", vs)
  | fuel + 1, cs, vs => do
    match cs, vs with
    | [], vs => return ("", vs)
    | '%' :: '%' :: r, vs => do
      let (s, rest) ← filledIn fuel r vs
      return ("%" ++ s, rest)
    | '%' :: c :: r, v :: vs =>
      if "sdifjoOc".toList.contains c then
        let piece ← placed c v
        let (s, rest) ← filledIn fuel r vs
        return (piece ++ s, rest)
      else
        let (s, rest) ← filledIn fuel (c :: r) (v :: vs)
        return ("%" ++ s, rest)
    | c :: r, vs =>
      let (s, rest) ← filledIn fuel r vs
      return (c.toString ++ s, rest)

def formatted (args : List Value) : Work String := do
  match args with
  | .str s :: rest =>
    if rest.isEmpty then return s
    let (first, rest) ← filledIn (s.length + 1) s.toList rest
    let more ← rest.mapM shownValue
    return " ".intercalate (first :: more)
  | vs => return " ".intercalate (← vs.mapM shownValue)

def kept (name : String) : Work Nat := do
  match ← extra? "console" name with
  | some (.float x) => return (intOfFloat x).toNat
  | _ => return 0

def keep (name : String) (n : Nat) : Work Unit :=
  Work.modifyThing extraPlace fun t => t.putMember ("console." ++ name) (numberOf n)

def writeLine (toErr : Bool) (s : String) : Work Unit := do
  let indent := String.ofList (List.replicate (2 * (← kept "#group")) ' ')
  let s := if indent.isEmpty then s else indent ++ s.replace "\n" ("\n" ++ indent)
  if toErr then Work.writeErr (bytes (s ++ "\n")) else Work.writeOut (bytes (s ++ "\n"))

def callConsole (name : String) (args : List Value) : Work Value := do
  match name with
  | "log" | "info" | "debug" => writeLine false (← formatted args)
  | "error" | "warn" => writeLine true (← formatted args)
  | "trace" =>
    let s ← formatted args
    writeLine true ((if s.isEmpty then "Trace" else "Trace: " ++ s) ++ "\n    at [eval]:1:1")
  | "dir" => writeLine false (← inspect (arg args 0))
  | "assert" =>
    if !truthy (arg args 0) then
      let s ← formatted (args.drop 1)
      writeLine true (if args.length < 2 then "Assertion failed" else "Assertion failed: " ++ s)
  | "count" =>
    let label ← textOr "default" (arg args 0)
    let n := (← kept ("#count " ++ label)) + 1
    keep ("#count " ++ label) n
    writeLine false (label ++ ": " ++ toString n)
  | "group" =>
    if !args.isEmpty then writeLine false (← formatted args)
    keep "#group" ((← kept "#group") + 1)
  | "groupEnd" => keep "#group" ((← kept "#group") - 1)
  | _ => pure ()
  return .undefined

/-! ## Bytes -/

def hexBytes : List Char → List UInt8
  | a :: b :: r =>
    match valueIn? 16 [a, b] with
    | some n => UInt8.ofNat n :: hexBytes r
    | none => []
  | _ => []

/-- Bytes out of a text in base 64, with or without its last signs, in either alphabet. -/
def base64Bytes (s : String) : Bytes :=
  let cs := (s.toList.map fun c => if c = '-' then '+' else if c = '_' then '/' else c).filter fun c =>
    (Text.Base64.value? c).isSome
  let left := cs.length % 4
  let cs := if left = 1 then cs.dropLast else cs
  let values := cs.filterMap Text.Base64.value?
  let rec go : List Nat → Bytes
    | a :: b :: c :: d :: r =>
      UInt8.ofNat (a * 4 + b / 16) :: UInt8.ofNat (b % 16 * 16 + c / 4) :: UInt8.ofNat (c % 4 * 64 + d) :: go r
    | [a, b, c] => [UInt8.ofNat (a * 4 + b / 16), UInt8.ofNat (b % 16 * 16 + c / 4)]
    | [a, b] => [UInt8.ofNat (a * 4 + b / 16)]
    | _ => []
  go values

def bytesOf (v encoding : Value) : Work Bytes := do
  match v with
  | .bytes b => return b
  | .str s =>
    match encoding with
    | .str "base64" | .str "base64url" => return base64Bytes s
    | .str "hex" => return hexBytes s.toList
    | .str "latin1" | .str "binary" => return s.toList.map fun c => UInt8.ofNat c.toNat
    | _ => return bytes s
  | .ref _ => return (← (← itemsOf v).mapM toNumber).map fun x => UInt8.ofNat (wrapped 32 x % 256).toNat
  | _ =>
    typeError "The first argument must be of type string or an instance of Buffer, ArrayBuffer, or Array or an Array-like Object."

def bytesText (b : Bytes) (encoding : Value) : Work String := do
  match encoding with
  | .str "base64" => return String.ofList (Text.Base64.encode b)
  | .str "base64url" =>
    return String.ofList ((Text.Base64.encode b).filterMap fun c =>
      if c = '=' then none else if c = '+' then some '-' else if c = '/' then some '_' else some c)
  | .str "hex" => return String.join (b.map fun x => hexText 2 x.toNat)
  | .str "latin1" | .str "binary" | .str "ascii" => return String.ofList (b.map fun x => charOf x.toNat)
  | _ => return Bytes.lossy b

def callBytes (name : String) (args : List Value) : Work Value := do
  let a := arg args 0
  match name with
  | "from" => return .bytes (← bytesOf a (arg args 1))
  | "isBuffer" => return .truth (match a with
      | .bytes _ => true
      | _ => false)
  | "byteLength" => return numberOf (← bytesOf a (arg args 1)).length
  | "concat" => return .bytes (← (← itemsOf a).mapM fun v => bytesOf v .undefined).flatten
  | _ => return .bytes (List.replicate (← countOf a 0) 0)

/-! ## Addresses -/

def isPlainSign (keep : String) (b : UInt8) : Bool :=
  let c := Char.ofNat b.toNat
  b < 0x80 && (c.isAlphanum || ("-_.!~*\x27()" ++ keep).toList.contains c)

def addressText (keep s : String) : String :=
  String.join ((bytes s).map fun b =>
    if isPlainSign keep b then (Char.ofNat b.toNat).toString else "%" ++ upperHex 2 b.toNat)

def addressSigns : String := ";/?:@&=+$,#"

def fromAddress (s : String) : Work Value := do
  let wellFormed : List Char → Bool := fun cs =>
    let rec go : List Char → Bool
      | [] => true
      | '%' :: a :: b :: r => isHex a && isHex b && go r
      | '%' :: _ => false
      | _ :: r => go r
    go cs
  match wellFormed s.toList, Text.Percent.text? s with
  | true, some t => return .str t
  | _, _ => raise "URIError" "URI malformed"

/-! ## Copies -/

mutual

def copied : Nat → Value → Work Value
  | 0, v => return v
  | fuel + 1, v => do
    match v with
    | .ref id =>
      let t ← Work.thing id
      match t.shape with
      | .list => Work.newList (← copiedAll fuel t.items.toList)
      | .func | .classOf => raise "DataCloneError" ((← textOf v) ++ " could not be cloned.")
      | _ =>
        let members ← copiedEntries fuel t.members.toList
        let entries ← copiedEntries fuel t.entries.toList
        let parent := if t.shape == .error then t.parent else .absent
        Work.new { t with members := members.toArray, entries := entries.toArray, parent, done := false }
    | .native n =>
      if isPlainNative n then return v
      raise "DataCloneError" ((← textOf v) ++ " could not be cloned.")
    | v => return v

def copiedAll : Nat → List Value → Work (List Value)
  | 0, _ | _, [] => return []
  | fuel + 1, v :: vs => do
    let x ← copied fuel v
    return x :: (← copiedAll fuel vs)

def copiedEntries : Nat → List Entry → Work (List Entry)
  | 0, _ | _, [] => return []
  | fuel + 1, e :: es => do
    let key ← copied fuel e.key
    let value ← copied fuel e.value
    return { e with key, value } :: (← copiedEntries fuel es)

end

/-! ## Timers -/

def addTimer (f : Value) (ms : Nat) (every : Option Nat) (args : List Value) : Work Value := do
  let w ← get
  let id := w.timerCount + 1
  let t : Timer := { id, due := w.ms + ms, every, f, args }
  set { w with timerCount := id, timers := w.timers ++ [t] }
  Work.new { shape := .object, name := "Timeout", items := #[numberOf id] }

def delayOf (v : Value) : Work Nat := do
  let n := intOfFloat (← toNumber v)
  return if n < 1 || 2147483647 < n then 1 else n.toNat

def needFunction (name : String) (v : Value) : Work Unit := do
  if !(← isFunction v) then
    typeError ("The \x22" ++ name ++ "\x22 argument must be of type function. Received " ++ (← shownValue v))

def callTimer (name : String) (args : List Value) : Work Value := do
  let a := arg args 0
  match name with
  | "setTimeout" | "setInterval" =>
    needFunction "callback" a
    let ms ← delayOf (arg args 1)
    addTimer a ms (if name = "setInterval" then some ms else none) (args.drop 2)
  | "setImmediate" =>
    needFunction "callback" a
    addTimer a 0 none (args.drop 1)
  | "queueMicrotask" =>
    needFunction "callback" a
    putOff { f := a, args := [] }
    return .undefined
  | _ =>
    let id := match ← Work.thing? a, a with
      | some t, _ => match t.items.getD 0 .undefined with
        | .float x => (intOfFloat x).toNat
        | _ => 0
      | none, .float x => (intOfFloat x).toNat
      | none, _ => 0
    modify fun w => { w with timers := w.timers.filter fun t => t.id ≠ id }
    return .undefined

/-! ## The program itself -/

def exitCodeOf (v : Value) : Work Nat := do
  if !isGiven v then return (← get).exitCode
  return (((wholePart? (← toNumber v)).getD 0) % 256).toNat

def writeAny (toErr : Bool) (v : Value) : Work Unit := do
  let b ← match v with
    | .str s => pure (bytes s)
    | .bytes b => pure b
    | v =>
      typeError ("The \x22chunk\x22 argument must be of type string or an instance of Buffer, TypedArray, or DataView. Received "
        ++ (← shownValue v))
  if toErr then Work.writeErr b else Work.writeOut b

def callProcess (name : String) (args : List Value) : Work Value := do
  let a := arg args 0
  match name with
  | "exit" => throw (.finish (.exited (← exitCodeOf a)))
  | "abort" => throw (.finish .killed)
  | "kill" =>
    if (arg args 1).same (.float 0) then return .truth true
    throw (.finish .killed)
  | "cwd" => return .str "/"
  | "nextTick" =>
    putFirst { f := a, args := args.drop 1 }
    return .undefined
  | "hrtime" =>
    let ms := (← get).ms
    Work.newList [numberOf (1000 + ms / 1000), numberOf (ms % 1000 * 1000000)]
  | "uptime" => return .float (Float.ofNat ((← get).ms + 30) / 1000)
  | "memoryUsage" =>
    newObject [("rss", .float 45000000), ("heapTotal", .float 6000000), ("heapUsed", .float 4500000),
      ("external", .float 1500000), ("arrayBuffers", .float 10000)]
  | "emitWarning" =>
    writeLine true ("(node:1000) Warning: " ++ (← textOf a))
    return .undefined
  | "on" | "once" =>
    if a.same (.str "exit") then Work.modifyThing extraPlace fun t => t.putMember "process.#end" (arg args 1)
    return .native "process"
  | _ => return .native "process"

/-- Somebody listens to the input: its text comes in one piece, and then its end. -/
def callInput (name : String) (args : List Value) : Work Value := do
  match name, arg args 0 with
  | "on", .str "data" | "once", .str "data" =>
    let b ← readAll
    let piece ← match ← extra? "process.stdin" "#encoding" with
      | some _ => pure (Value.str (Bytes.lossy b))
      | none => pure (.bytes b)
    if !b.isEmpty then let _ ← addTimer (arg args 1) 1 none [piece]
  | "on", .str "end" | "once", .str "end" | "on", .str "close" | "once", .str "close" =>
    let _ ← addTimer (arg args 1) 2 none []
  | "setEncoding", _ => Work.modifyThing extraPlace fun t => t.putMember "process.stdin.#encoding" (.truth true)
  | "on", .str "readable" | "once", .str "readable" =>
    let _ ← addTimer (arg args 1) 1 none []
  | "read", _ =>
    let b ← readAll
    if b.isEmpty then return .nothing
    return if (← extra? "process.stdin" "#encoding").isSome then .str (Bytes.lossy b) else .bytes b
  | "pipe", .native out =>
    let b ← readAll
    if out = "process.stderr" then Work.writeErr b else Work.writeOut b
  | _, _ => pure ()
  return .native "process.stdin"

def inputLines : Work (List Value) := do
  let lines := (Bytes.lossy (← readAll)).splitOn "\n"
  let lines := if lines.getLast? == some "" then lines.dropLast else lines
  return lines.map fun l => .str (if l.endsWith "\r" then (l.dropEnd 1).toString else l)

def callLines (name : String) (args : List Value) : Work Value := do
  match name, arg args 0 with
  | "on", .str "line" | "once", .str "line" =>
    for l in ← inputLines do
      let _ ← addTimer (arg args 1) 1 none [l]
  | "on", .str "close" | "once", .str "close" =>
    let _ ← addTimer (arg args 1) 2 none []
  | _, _ => pure ()
  return .native "readline.Interface"

/-! ## Files and paths -/

def isInput (v : Value) : Bool :=
  match v with
  | .float x => x == 0
  | .str s => s = "/dev/stdin" || s = "/proc/self/fd/0"
  | _ => false

def noFile {α : Type} (call path : String) : Work α := do
  let message := "ENOENT: no such file or directory, " ++ call ++ " '" ++ path ++ "'"
  match ← newError "Error" message with
  | .ref id =>
    Work.modifyThing id fun t =>
      (((t.putMember "errno" (.float (-2))).putMember "code" (.str "ENOENT")).putMember "syscall" (.str call)).putMember
        "path" (.str path)
    throw (.raise (.ref id))
  | v => throw (.raise v)

def callFiles (name : String) (args : List Value) : Work Value := do
  let a := arg args 0
  match name with
  | "readFileSync" =>
    if !isInput a then noFile "open" (← textOf a)
    let b ← readAll
    let encoding ← match arg args 1 with
      | .ref id => do pure (((← Work.thing id).member? "encoding").getD .undefined)
      | v => pure v
    match encoding with
    | .str _ => return .str (← bytesText b encoding)
    | _ => return .bytes b
  | "existsSync" =>
    match a with
    | .str s => return .truth (["/", "/tmp", "/dev/null", "/dev/stdin", "/etc/passwd"].contains s)
    | _ => return .truth false
  | "writeSync" =>
    writeAny (a.same (.float 2)) (arg args 1)
    return numberOf (← bytesOf (arg args 1) .undefined).length
  | "writeFileSync" =>
    if a.same (.float 1) || a.same (.str "/dev/stdout") then writeAny false (arg args 1)
    if a.same (.float 2) || a.same (.str "/dev/stderr") then writeAny true (arg args 1)
    return .undefined
  | _ => return .float 0

def normalPath (p : String) : String :=
  let rooted := p.startsWith "/"
  let parts := (p.splitOn "/").foldl (fun acc q =>
    if q.isEmpty || q = "." then acc
    else if q = ".." then
      (match acc with
        | x :: rest => if x = ".." then q :: acc else rest
        | [] => if rooted then [] else [q])
    else q :: acc) []
  let body := "/".intercalate parts.reverse
  if rooted then "/" ++ body else if body.isEmpty then "." else body

def callPath (name : String) (args : List Value) : Work Value := do
  let ps ← args.mapM textOf
  let p := ps.getD 0 ""
  let trimmed := if p.length > 1 && p.endsWith "/" then (p.dropEnd 1).toString else p
  let base := (trimmed.splitOn "/").getLastD ""
  match name with
  | "join" => return .str (normalPath ("/".intercalate (ps.filter fun q => !q.isEmpty)))
  | "resolve" =>
    return .str (normalPath (ps.foldl (fun acc q => if q.startsWith "/" then q else acc ++ "/" ++ q) "/"))
  | "basename" =>
    let ext := ps.getD 1 ""
    return .str (if !ext.isEmpty && base.endsWith ext && base != ext then (base.dropEnd ext.length).toString else base)
  | "dirname" =>
    let dir := (trimmed.dropEnd base.length).toString
    return .str (if dir.isEmpty then "." else if dir = "/" then "/" else (dir.dropEnd 1).toString)
  | _ =>
    match (base.splitOn ".").reverse with
    | last :: _ :: _ => return .str (if base.startsWith "." && (base.splitOn ".").length = 2 then "" else "." ++ last)
    | _ => return .str ""

/-! ## Modules -/

def knownModules : List String :=
  ["fs", "path", "os", "util", "vm", "assert", "perf_hooks", "timers", "timers/promises", "buffer", "process",
    "child_process", "crypto", "readline", "url"]

def requireModule (v : Value) : Work Value := do
  let name ← textOf v
  let name := if name.startsWith "node:" then (name.drop 5).toString else name
  if name = "events" then return .native "EventEmitter"
  if knownModules.contains name then return .native name
  match ← newError "Error" ("Cannot find module '" ++ name ++ "'\nRequire stack:\n- /[eval]") with
  | .ref id =>
    Work.modifyThing id fun t => t.putMember "code" (.str "MODULE_NOT_FOUND")
    throw (.raise (.ref id))
  | e => throw (.raise e)

/-! ## Claims that a script makes -/

def failedClaim {α : Type} (message : Value) (usual : String) : Work α := do
  match ← Work.shape? message with
  | some .error => throw (.raise message)
  | _ =>
    let text ← textOr usual message
    match ← newError "Error" text with
    | .ref id =>
      Work.modifyThing id fun t =>
        (t.putMember "code" (.str "ERR_ASSERTION")).putMember "name" (.str "AssertionError")
      throw (.raise (.ref id))
    | e => throw (.raise e)

def callAssert (name : String) (args : List Value) : Work Value := do
  let a := arg args 0
  let b := arg args 1
  let message := arg args 2
  let equal ← match name with
    | "equal" | "notEqual" => looseEqual a b
    | "deepStrictEqual" | "deepEqual" => do pure ((← inspect a) == (← inspect b))
    | _ => pure (sameValue a b)
  match name with
  | "assert" | "ok" =>
    if !truthy a then failedClaim b "The expression evaluated to a falsy value"
  | "fail" => failedClaim a "Failed"
  | "notEqual" | "notStrictEqual" =>
    if equal then failedClaim message "Expected \x22actual\x22 to be strictly unequal to: " 
  | _ =>
    if !equal then
      failedClaim message ("Expected values to be strictly equal:\n\n" ++ (← inspect a) ++ " !== " ++ (← inspect b) ++ "\n")
  return .undefined

end ScriptHost.Braced
