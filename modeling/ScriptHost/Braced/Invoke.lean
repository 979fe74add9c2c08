import ScriptHost.Braced.Dialect
import ScriptHost.Child.Basic

/-!
The program that runs scripts whose blocks stand in braces: its options, what it says of a script that
it cannot read, and a run from the first step to the last.
-/
namespace ScriptHost.Braced

open Snippet

/-- How many steps a script may take before it counts as one without an end. -/
def stepLimit : Nat := 20000000

def startMs : Nat := 40

def misreadText (file source : String) (line : Nat) (message : String) : String :=
  file ++ ":" ++ toString line ++ "\n" ++ (source.splitOn "\n").getD (line - 1) "" ++ "\n^\n\nSyntaxError: "
    ++ message ++ "\n\nNode.js " ++ version ++ "\n"

def started (s : State) : Started :=
  let out := s.world.out.reverse.flatten
  let err := s.world.err.reverse.flatten
  match s.halted? with
  | some (.exited code) => .ended out err (.exited (code % 256)) (s.world.ms + startMs)
  | some .killed => .ended out err .killed (s.world.ms + startMs)
  | _ => .endless

def runSource (file source : String) (stdin : Bytes) (env : List (String × String)) (args : List String) :
    Started :=
  match parse source with
  | .error (line, message) => .ended [] (bytes (misreadText file source line message)) (.exited 1) startMs
  | .ok n =>
    started (State.steps (dialect source) stepLimit
      { control := .eval n 0, world := newWorld n stdin env ("/usr/bin/node" :: args) })

def quit (code : Nat) (err : String) : Started := .ended [] (bytes err) (.exited code) startMs

def noScript (program path : String) : Started :=
  let _ := program
  quit 1 ("node:internal/modules/cjs/loader:1386\n  throw err;\n  ^\n\nError: Cannot find module '/" ++ path
    ++ "'\n    at node:internal/main/run_main_module:36:49 \x7b\n  code: 'MODULE_NOT_FOUND',\n  requireStack: []\n\x7d\n\nNode.js "
    ++ version ++ "\n")

/-- Starts the program: a script stands behind `-e`, or it is the input. -/
def invokeWith (i : Invocation) : List String → Started
  | [] | ["-"] => runSource "[stdin]" (Bytes.lossy i.stdin) [] i.env []
  | w :: ws =>
    match w with
    | "-e" | "--eval" =>
      match ws with
      | [] => quit 9 (i.program ++ ": " ++ w ++ " requires an argument\n")
      | source :: rest => runSource "[eval]" source i.stdin i.env rest
    | "-p" | "--print" | "-pe" =>
      match ws with
      | [] => runSource "[stdin]" (Bytes.lossy i.stdin) [] i.env []
      | source :: rest => runSource "[eval]" ("console.log(" ++ source ++ "\n)") i.stdin i.env rest
    | "-v" | "--version" => .ended (bytes (version ++ "\n")) [] (.exited 0) startMs
    | "-c" | "--check" =>
      match ws with
      | [] | ["-"] =>
        match parse (Bytes.lossy i.stdin) with
        | .ok _ => .ended [] [] (.exited 0) startMs
        | .error (line, message) =>
          quit 1 (misreadText "[stdin]" (Bytes.lossy i.stdin) line message)
      | path :: _ => noScript i.program path
    | _ =>
      if w.startsWith "--input-type=" || ["-i", "--no-warnings", "--trace-uncaught", "--"].contains w then
        invokeWith i ws
      else if w.startsWith "-" then quit 9 (i.program ++ ": bad option: " ++ w ++ "\n")
      else if w = "/dev/stdin" then runSource w (Bytes.lossy i.stdin) [] i.env (w :: ws)
      else noScript i.program w

def invoke (i : Invocation) : Started := invokeWith i i.args

end ScriptHost.Braced
