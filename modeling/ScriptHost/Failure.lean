import ScriptHost.Archive.Basic
import ScriptHost.Engine.Basic
import ScriptHost.Script.Admission

/-!
Why an operation of the host failed. Failures that a request causes are kept apart from failures of
the host itself.
-/
namespace ScriptHost

inductive Failure where
  | refused (r : Refusal)
  | alreadyExists (name : String)
  | notFound (name : String)
  | inactive (name : String)
  | versionConflict (name : String) (expected actual : Int)
  | compile (text : String)
  | unchecked (ms : Nat)
  | eval (text : String)
  | evalTimeout (name : String) (ms : Nat)
  | archive (e : ArchiveError)
  | internal (text : String)
  deriving DecidableEq, Repr

namespace Failure

def message : Failure → String
  | .refused r => r.message
  | .alreadyExists name => "Script '" ++ name ++ "' already exists"
  | .notFound name => "Script '" ++ name ++ "' not found"
  | .inactive name => "Script '" ++ name ++ "' is not active"
  | .versionConflict name expected actual =>
    "Script '" ++ name ++ "' is at version " ++ toString actual ++ ", not " ++ toString expected
  | .compile text => text
  | .unchecked ms => "Compilation timed out after " ++ toString ms ++ "ms"
  | .eval text => text
  | .evalTimeout name ms => "Script '" ++ name ++ "' timed out after " ++ toString ms ++ "ms"
  | .archive e => "Store error: " ++ e.message
  | .internal text => "Internal error: " ++ text

def ofEngine (name : String) : EngineError → Failure
  | .compile text => .compile text
  | .eval text => .eval text
  | .timeout ms => .evalTimeout name ms
  | .io text => .internal ("engine I/O failure: " ++ text)

def isInternal : Failure → Bool
  | .archive _ | .internal _ => true
  | _ => false

def noEngine (language : Language) : Failure :=
  .internal ("no engine registered for '" ++ language.tag ++ "'")

end Failure

end ScriptHost
