import ScriptHost.Indented.Dialect
import ScriptHost.Child.Basic

/-!
The program that runs scripts whose blocks are indented: its options, what it says of a script that
it cannot read, and a run from the first step to the last.
-/
namespace ScriptHost.Indented

open Snippet

/-! ## Words that stand where they cannot -/

structure Around where
  inFunction : Bool := false
  inAsync : Bool := false
  inLoop : Bool := false

def misplacedHere (a : Around) (k : Kind) : Option String :=
  match k with
  | .leave => if a.inFunction then none else some "'return' outside function"
  | .breakLoop => if a.inLoop then none else some "'break' outside loop"
  | .continueLoop => if a.inLoop then none else some "'continue' not properly in loop"
  | .produce | .produceAll => if a.inFunction then none else some "'yield' outside function"
  | .wait =>
    if a.inAsync then none
    else if a.inFunction then some "'await' outside async function"
    else some "'await' outside function"
  | _ => none

def Around.within (a : Around) (k : Kind) (ps : List Node) : Around :=
  match k with
  | .func => ⟨true, ((ps.getD 2 .absent).text.splitOn " ").contains "async", false⟩
  | .classOf => {}
  | .loop | .each => { a with inLoop := true }
  | .gather => { a with inFunction := true }
  | _ => a

mutual

def misplaced (a : Around) : Node → Option (Nat × String)
  | .mk k _ l ps =>
    match misplacedHere a k with
    | some message => some (l, message)
    | none => (misplacedAmong (a.within k ps) ps).map fun (n, m) => (if n = 0 then l else n, m)

def misplacedAmong (a : Around) : List Node → Option (Nat × String)
  | [] => none
  | n :: ns => (misplaced a n).orElse fun _ => misplacedAmong a ns

end

/-! ## Sources that cannot be read -/

def misreadKind (message : String) : String :=
  if message.startsWith "unexpected indent" || message.startsWith "unindent does not match"
    || message.startsWith "expected an indented block" then "IndentationError"
  else if message.startsWith "inconsistent use of tabs" then "TabError"
  else "SyntaxError"

def lineOf (source : String) (line : Nat) : String :=
  (((source.splitOn "\n").getD (line - 1) "").trimAscii).toString

def misreadText (file source : String) (line : Nat) (message : String) : String :=
  let shown := lineOf source line
  "  File \x22" ++ file ++ "\x22, line " ++ toString line ++ "\n"
    ++ (if shown.isEmpty then "" else "    " ++ shown ++ "\n")
    ++ misreadKind message ++ ": " ++ message ++ "\n"

/-! ## Running -/

/-- How many steps a script may take before it counts as one without an end. -/
def stepLimit : Nat := 20000000

def startMs : Nat := 12

def started (s : State) : Started :=
  let out := s.world.out.reverse.flatten
  let err := s.world.err.reverse.flatten
  match s.halted? with
  | some (.exited code) => .ended out err (.exited (code % 256)) (s.world.ms + startMs)
  | some .killed => .ended out err .killed (s.world.ms + startMs)
  | _ => .endless

def beginning (n : Node) (world : World) : State := { control := .eval n 0, world }

def runSource (file source : String) (stdin : Bytes) (env : List (String × String)) (args : List String) :
    Started :=
  let refuse (shown : String) (line : Nat) (message : String) : Started :=
    .ended [] (bytes (misreadText file shown line message)) (.exited 1) startMs
  match parse source with
  | .error (line, message) => refuse source line message
  | .ok n =>
    match misplaced {} n with
    | some (line, message) => refuse "" line message
    | none => started (State.steps dialect stepLimit (beginning n (newWorld stdin env args)))

/-! ## Options -/

def usage (program : String) : String :=
  "usage: " ++ program ++ " [option] ... [-c cmd | -m mod | file | -] [arg] ...\n"
    ++ "Try \x60python -h' for more information.\n"

def quit (code : Nat) (err : String) : Started := .ended [] (bytes err) (.exited code) startMs

def invokeWith (i : Invocation) : List String → Started
  | [] | ["-"] => runSource "<stdin>" (Bytes.lossy i.stdin) [] i.env [""]
  | w :: ws =>
    match w.toList with
    | ['-', 'c'] =>
      match ws with
      | [] => quit 2 ("Argument expected for the -c option\n" ++ usage i.program)
      | source :: rest => runSource "<string>" source i.stdin i.env ("-c" :: rest)
    | ['-', 'V'] => .ended (bytes "Python 3.11.2\n") [] (.exited 0) startMs
    | '-' :: 'c' :: source => runSource "<string>" (String.ofList source) i.stdin i.env ("-c" :: ws)
    | '-' :: '-' :: _ =>
      if w = "--version" then .ended (bytes "Python 3.11.2\n") [] (.exited 0) startMs
      else quit 2 ("unknown option " ++ w ++ "\n" ++ usage i.program)
    | ['-', o] =>
      if "BdEiIOPqsSuvxb".toList.contains o then invokeWith i ws
      else quit 2 ("Unknown option: -" ++ o.toString ++ "\n" ++ usage i.program)
    | '-' :: o :: _ => quit 2 ("Unknown option: -" ++ o.toString ++ "\n" ++ usage i.program)
    | _ =>
      if w = "/dev/stdin" then runSource "/dev/stdin" (Bytes.lossy i.stdin) [] i.env (w :: ws)
      else quit 2 (i.program ++ ": can't open file '" ++ w ++ "': [Errno 2] No such file or directory\n")

def invoke (i : Invocation) : Started := invokeWith i i.args

end ScriptHost.Indented
