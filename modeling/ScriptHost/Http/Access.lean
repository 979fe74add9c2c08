import ScriptHost.Http.Message
import ScriptHost.Settings

/-!
Access from pages of other origins: the origins that are allowed are told by headers, and a question
for what is allowed is answered before the request reaches an endpoint.
-/
namespace ScriptHost.Http.Access

def originHeader (origins : List String) (headers : List (String × String)) :
    List (String × String) :=
  match header? "origin" headers with
  | some origin => if origin ∈ origins then [("access-control-allow-origin", origin)] else []
  | none => []

def vary : String × String :=
  ("vary", "origin, access-control-request-method, access-control-request-headers")

def preflight (origins : List String) (headers : List (String × String)) : Response :=
  ⟨200, originHeader origins headers ++ [vary,
    ("access-control-allow-methods", "GET,POST,PUT,DELETE"),
    ("access-control-allow-headers", "content-type"),
    ("access-control-max-age", "3600")], .empty⟩

def mark (origins : List String) (headers : List (String × String)) (r : Response) : Response :=
  { r with headers := r.headers ++ originHeader origins headers ++ [vary] }

/-- The origins that are allowed: the configured ones that can stand in a header. The wildcard is
none of them, and a list that has it brings the building of the host down. -/
def allowList? (origins : List String) : Option (List String) :=
  let read := origins.filter fun origin => origin.toList.all Settings.headerChar
  if "*" ∈ read then none else some read

/-- What stands around the endpoints of a host: the origins that are allowed, and how long a request
may take. -/
structure Front where
  origins : List String
  requestTimeoutSecs : Nat
  deriving DecidableEq, Repr

def front? (s : Settings) : Option Front :=
  (allowList? s.corsOrigins).map fun origins => ⟨origins, s.requestTimeoutSecs⟩

end ScriptHost.Http.Access
