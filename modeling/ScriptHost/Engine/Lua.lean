import ScriptHost.Chunk.Run
import ScriptHost.Chunk.Exchange
import ScriptHost.Engine.Basic

/-!
The engine that runs Lua scripts inside the host. A script finds its input in the variable `input`
and its own name and version beside it; what it logs is kept only when it succeeds.
-/
namespace ScriptHost.Lua

def checkedName : Bytes := bytes "script"

def check (source : String) : Outcome Unit :=
  match Chunk.load checkedName (bytes source) with
  | .ok _ => .done ()
  | .error .tooDeep => .failed (.compile "runtime error: C stack overflow")
  | .error (.syntaxError message) => .failed (.compile ("syntax error: " ++ Bytes.lossy message))

def prepare (context : RunContext) : Chunk.Heap :=
  let (input, h) := Chunk.Value.ofJson Chunk.Library.start context.input
  let globals := (((h.table Chunk.Heap.globals).set (.text "input") input).set
    (.text "script_name") (.text context.script)).set (.text "script_version")
    (.int context.version)
  h.setTable Chunk.Heap.globals globals

def failureText (v : Chunk.Value) : String :=
  "runtime error: " ++ Bytes.lossy (Bytes.untilNul (Chunk.Library.display v))

def verdict (e : Chunk.Ended) : Option (Except EngineError Output) :=
  e.result.map fun
    | .error v => .error (.eval (failureText v))
    | .ok vs =>
      match (Chunk.first vs).toJson e.heap with
      | .ok value => .ok ⟨value, e.logs⟩
      | .error fault => .error (.eval fault.message)

def nameFault? (name : Bytes) : Option String :=
  (name.findIdx? (· = 0)).map fun i =>
    "runtime error: invalid name: nul byte found in provided data at position: " ++ toString i

/-- Runs a script. Once the time is over, every failure is that of the deadline. -/
def run (source : String) (context : RunContext) : Outcome Output :=
  let failing (late : Bool) (e : EngineError) : Outcome Output :=
    .failed (if late || context.timeoutMs = 0 then .timeout context.timeoutMs else e)
  let name := bytes context.script
  match nameFault? name with
  | some text => failing false (.eval text)
  | none =>
    match Chunk.loadAny name (bytes source) with
    | .error .tooDeep => failing false (.eval "runtime error: C stack overflow")
    | .error (.syntaxError message) => failing false (.compile (Bytes.lossy message))
    | .ok f =>
      let ended := Chunk.run (Chunk.shownName name) f (prepare context) context.timeoutMs
      match verdict ended with
      | none => .never
      | some (.ok o) => .done o
      | some (.error e) => failing ended.late e

def engine : Engine := ⟨.lua, check, run⟩

end ScriptHost.Lua
