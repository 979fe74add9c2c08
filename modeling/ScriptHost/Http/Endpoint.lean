import ScriptHost.Http.Target

/-!
The endpoints of the host and the methods that each of them understands.
-/
namespace ScriptHost.Http

inductive Method where
  | get
  | head
  | post
  | put
  | delete
  | options
  | other (name : String)
  deriving DecidableEq, Repr

namespace Method

def named : String → Method
  | "GET" => .get
  | "HEAD" => .head
  | "POST" => .post
  | "PUT" => .put
  | "DELETE" => .delete
  | "OPTIONS" => .options
  | name => .other name

def name : Method → String
  | .get => "GET"
  | .head => "HEAD"
  | .post => "POST"
  | .put => "PUT"
  | .delete => "DELETE"
  | .options => "OPTIONS"
  | .other name => name

end Method

/-- Names of scripts stand here as they stand in the path. -/
inductive Endpoint where
  | health
  | scripts
  | script (name : String)
  | activate (name : String)
  | deactivate (name : String)
  | run (name : String)
  | logs (name : String)
  deriving DecidableEq, Repr

namespace Endpoint

/-- The endpoint of a path. The name of a script may be empty only where something follows it. -/
def ofPath (path : String) : Option Endpoint :=
  match Text.splitOn path '/' with
  | ["", "health"] => some .health
  | "" :: "api" :: "v1" :: "admin" :: "plugins" :: rest =>
    match rest with
    | [] => some .scripts
    | [name] => if name.isEmpty then none else some (.script name)
    | [name, "activate"] => some (.activate name)
    | [name, "deactivate"] => some (.deactivate name)
    | [name, "run"] => some (.run name)
    | [name, "logs"] => some (.logs name)
    | _ => none
  | _ => none

def methods : Endpoint → List Method
  | .health | .logs _ => [.get, .head]
  | .scripts => [.get, .head, .post]
  | .script _ => [.get, .head, .put, .delete]
  | .activate _ | .deactivate _ => [.put]
  | .run _ => [.post]

def allow (e : Endpoint) : String := String.intercalate "," (e.methods.map Method.name)

end Endpoint

end ScriptHost.Http
