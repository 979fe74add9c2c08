import ScriptHost.Braced.Invoke
import ScriptHost.Command.Invoke
import ScriptHost.Indented.Invoke

/-!
The programs of a computer by name. Programs that start others find the same ones.
-/
namespace ScriptHost.Program

def names : List String :=
  ["cat", "echo", "printf", "true", "false", "sleep", "head", "wc", "tr", "bash", "python3", "node"]

def folders : List String := ["/bin/", "/usr/bin/"]

def others : List String :=
  ["/", ".", "..", "/tmp", "/bin", "/usr", "/usr/bin", "/etc", "/dev", "/etc/passwd", "/dev/null"]

def missing : String := "No such file or directory (os error 2)"

def locate (word : String) : Except String String :=
  if word.toList.contains '/' then
    match folders.findSome? fun f => (Text.afterStart? word f).filter names.contains with
    | some name => .ok name
    | none => .error (if others.contains word then "Permission denied (os error 13)" else missing)
  else if names.contains word then .ok word
  else .error missing

def Ran.started (r : Ran) : Started :=
  match r.ms with
  | some ms => .ended r.out r.err (.exited r.code) (ms + 1)
  | none => .endless

/-- A computer on which programs start others up to some depth. -/
def computerTo : Nat → Computer
  | 0, _ => .endless
  | depth + 1, i =>
    match locate i.program with
    | .error reason => .refused reason
    | .ok name =>
      match tool? name (i.args.map bytes) (some i.stdin) with
      | some r => r.started
      | none =>
        match name with
        | "python3" => Indented.invoke i
        | "node" => Braced.invoke i
        | _ => Command.invoke (computerTo depth) i

def computer : Computer := computerTo 16

end ScriptHost.Program
