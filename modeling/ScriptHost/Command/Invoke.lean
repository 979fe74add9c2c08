import ScriptHost.Command.Run

/-!
A shell as a program: its options say where the commands come from and whether they are run.
-/
namespace ScriptHost.Command

structure Plea where
  fromArgument : Bool := false
  onlyCheck : Bool := false
  options : Options := {}
  words : List String := []
  fault : Option String := none

def readOptions (o : Plea) : List String → Plea
  | [] => o
  | "--" :: ws | "-" :: ws => { o with words := ws }
  | w :: ws =>
    match w.toList with
    | '-' :: '-' :: _ => { o with fault := some (w ++ ": invalid option") }
    | '-' :: cs =>
      match cs.find? fun c => !"abcefhikmnprstuvxBCEHPT".toList.contains c with
      | some c => { o with fault := some ("-" ++ c.toString ++ ": invalid option") }
      | none =>
        readOptions { o with
          fromArgument := o.fromArgument || cs.contains 'c'
          onlyCheck := o.onlyCheck || cs.contains 'n'
          options := { o.options with
            exitOnFailure := o.options.exitOnFailure || cs.contains 'e'
            refuseUnset := o.options.refuseUnset || cs.contains 'u' } } ws
    | _ => { o with words := w :: ws }

def ended (code : Nat) (err : String) : Started := .ended [] (bytes err) (.exited code) 0

def newShell (i : Invocation) (name : String) (args : List String) (input : Program.Input)
    (options : Options) : Shell :=
  { name := bytes name, vars := i.env.map fun (k, v) => (k, bytes v)
    exported := i.env.map (·.1), args := args.map bytes, input, options }

/-- Runs a text, or only says whether it is well formed. -/
def runOrCheck (computer : Computer) (onlyCheck : Bool) (place source : String) (s : Shell) :
    Started :=
  let t : Script := { place, text := source.toList.filter (· ≠ '\x00') }
  if onlyCheck then
    let name := Bytes.lossy s.name
    match malformed? t.text with
    | (none, r) => ended 0 (r.warnings name)
    | (some e, r) => ended 2 (r.warnings name ++ e.message name t)
  else (runScript computer t s).started

def invoke (computer : Computer) (i : Invocation) : Started :=
  let o := readOptions {} i.args
  let me := i.program
  match o.fault, o.fromArgument, o.words with
  | some fault, _, _ => ended 2 (me ++ ": " ++ fault ++ "\n")
  | none, true, [] => ended 2 (me ++ ": -c: option requires an argument\n")
  | none, true, source :: rest =>
    runOrCheck computer o.onlyCheck "-c: " source
      (newShell i (rest.headD me) (rest.drop 1) (some i.stdin) o.options)
  | none, false, file :: rest =>
    if file = "/dev/stdin" then
      runOrCheck computer o.onlyCheck "" (Bytes.lossy i.stdin)
        (newShell i file rest (some []) o.options)
    else if file = "/dev/null" then ended 0 ""
    else ended 127 (me ++ ": " ++ file ++ ": No such file or directory\n")
  | none, false, [] =>
    runOrCheck computer o.onlyCheck "" (Bytes.lossy i.stdin) (newShell i me [] (some []) o.options)

end ScriptHost.Command
