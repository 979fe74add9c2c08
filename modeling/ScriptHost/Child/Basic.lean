import ScriptHost.Text.Blank
import ScriptHost.Text.Utf8
import ScriptHost.Json.Reader
import ScriptHost.Json.Printer
import ScriptHost.Engine.Basic

/-!
Running programs outside the host. A computer says what becomes of a program that is started; the
host keeps the beginning of what the program writes and waits no longer than it is told to. For a
script that is a program, the input comes as JSON, the value goes out as JSON or as plain text, and
what is written beside it are the lines of the log.
-/
namespace ScriptHost

structure Invocation where
  program : String
  args : List String
  env : List (String × String)
  stdin : Bytes

inductive Ending where
  | exited (code : Nat)
  | killed
  deriving DecidableEq, Repr

def Ending.code : Ending → Int
  | .exited n => n
  | .killed => -1

/-- What becomes of a program that is started. -/
inductive Started where
  | refused (reason : String)
  | ended (stdout stderr : Bytes) (ending : Ending) (ms : Nat)
  | endless

abbrev Computer := Invocation → Started

namespace Child

def streamLimit : Nat := 10485760

structure Report where
  stdout : String
  stderr : String
  exitCode : Int
  deriving DecidableEq, Repr

/-- The text of a stream; what exceeds the limit is dropped. -/
def streamText (b : Bytes) : String := Bytes.lossy (b.take streamLimit)

namespace Report

def success (r : Report) : Bool := r.exitCode = 0

def diagnostic (r : Report) : String :=
  let said := Text.trim r.stderr
  if said.isEmpty then "exited with code " ++ toString r.exitCode else said

end Report

def hasNul (s : String) : Bool := s.toList.contains '\x00'

def Invocation.hasNul (i : Invocation) : Bool :=
  Child.hasNul i.program || i.args.any Child.hasNul
    || i.env.any fun (k, v) => Child.hasNul k || Child.hasNul v

/-- Starts a program and waits for its end and that of its streams. -/
def run (computer : Computer) (i : Invocation) (timeoutMs : Nat) : Except EngineError Report :=
  if Invocation.hasNul i then .error (.io "nul byte found in provided data")
  else match computer i with
    | .refused reason => .error (.io reason)
    | .endless => .error (.timeout timeoutMs)
    | .ended stdout stderr ending ms =>
      if timeoutMs ≤ ms then .error (.timeout timeoutMs)
      else .ok ⟨streamText stdout, streamText stderr, ending.code⟩

/-! ### Scripts as programs -/

def checkTimeoutMs : Nat := 10000

/-- The value that a program has written: JSON when it is such, else text without the white space
around it; nothing at all is `null`. -/
def outputValue (stdout : String) : Json :=
  let trimmed := Text.trim stdout
  if trimmed.isEmpty then .null
  else match Json.parseText trimmed with
    | .ok v => v
    | .error _ => .str trimmed

def logLines (stderr : String) : List String :=
  ((Text.lines stderr).map Text.trimRight).filter fun line => !line.isEmpty

def Report.output (r : Report) : Output := ⟨outputValue r.stdout, logLines r.stderr⟩

def scriptEnv (context : RunContext) : List (String × String) :=
  [("SCRIPT_NAME", context.script), ("SCRIPT_VERSION", toString context.version)]

/-- Runs a script. -/
def evaluate (computer : Computer) (program : String) (args : List String)
    (env : List (String × String)) (context : RunContext) : Except EngineError Output := do
  let r ← run computer ⟨program, args, env ++ scriptEnv context, bytes context.input.render⟩
    context.timeoutMs
  if r.success then return r.output
  throw (.eval r.diagnostic)

def check (computer : Computer) (program : String) (args : List String) (source : String) :
    Except EngineError Unit := do
  let r ← run computer ⟨program, args, [], bytes source⟩ checkTimeoutMs
  if !r.success then throw (.compile r.diagnostic)

end Child

end ScriptHost
