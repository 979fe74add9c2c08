import ScriptHost.Catalog.Basic
import ScriptHost.Feed.Hub

/-!
Running the edition of a script that is shown at the moment. Later changes of the catalog do not
reach a run that has begun.
-/
namespace ScriptHost

open Time (Instant)

structure Evaluation where
  name : String
  version : Int
  value : Json
  logs : List String

namespace Evaluation

def verdict (name : String) (timeoutMs : Nat) : Outcome Output → Except Failure Output
  | .done o => .ok o
  | .failed e => .error (.ofEngine name e)
  | .never => .error (.evalTimeout name timeoutMs)

/-- Runs an edition. Beside the answer stand the lines for its log: every line of a run that
succeeded, or the message of one that failed. -/
def run (engines : EngineSet) (e : Edition) (input : Json) (timeoutMs : Nat) :
    Except Failure Evaluation × List (Level × String) :=
  let s := e.script
  if !s.active then (.error (.inactive s.name), [])
  else match engines.get? s.language with
  | none => (.error (.noEngine s.language), [])
  | some engine =>
    match verdict s.name timeoutMs (engine.run e.source ⟨s.name, s.version, input, timeoutMs⟩) with
    | .ok o => (.ok ⟨s.name, s.version, o.value, o.logs⟩, o.logs.map fun line => (.info, line))
    | .error f => (.error f, [(.error, f.message)])

def runLogged (engines : EngineSet) (e : Edition) (input : Json) (timeoutMs : Nat)
    (now : Instant) (h : Hub) : Except Failure Evaluation × Hub :=
  let (r, lines) := run engines e input timeoutMs
  (r, lines.foldl (fun h (level, message) =>
    h.publish ⟨e.script.name, e.script.version, level, message, now⟩) h)

def runNamed (c : Catalog) (name : String) (input : Json) (timeoutMs : Nat)
    (now : Instant) (h : Hub) : Except Failure Evaluation × Hub :=
  match c.get? name with
  | none => (.error (.notFound name), h)
  | some e => runLogged c.engines e input timeoutMs now h

end Evaluation

end ScriptHost
