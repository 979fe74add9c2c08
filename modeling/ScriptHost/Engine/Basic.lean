import ScriptHost.Json.Value
import ScriptHost.Script.Language

/-!
Engines: what checks and runs the source of one language. An engine may also never answer; then only
a deadline ends the wait for it.
-/
namespace ScriptHost

inductive EngineError where
  | compile (text : String)
  | eval (text : String)
  | timeout (ms : Nat)
  | io (text : String)
  deriving DecidableEq, Repr

def EngineError.message : EngineError → String
  | .compile text => text
  | .eval text => text
  | .timeout ms => "Script timed out after " ++ toString ms ++ "ms"
  | .io text => "I/O error: " ++ text

inductive Outcome (α : Type) where
  | done (a : α)
  | failed (e : EngineError)
  | never
  deriving Repr

structure RunContext where
  script : String
  version : Int
  input : Json
  timeoutMs : Nat

structure Output where
  value : Json
  logs : List String

structure Engine where
  language : Language
  check : String → Outcome Unit
  run : String → RunContext → Outcome Output

/-- The engines of a host; of two for one language the later one counts. -/
structure EngineSet where
  engines : List Engine

namespace EngineSet

def empty : EngineSet := ⟨[]⟩

def get? (set : EngineSet) (language : Language) : Option Engine :=
  set.engines.findRev? (·.language = language)

def supports (set : EngineSet) (language : Language) : Bool := (set.get? language).isSome

def languages (set : EngineSet) : List Language := Language.all.filter set.supports

end EngineSet

end ScriptHost
