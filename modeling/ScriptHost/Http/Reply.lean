import ScriptHost.Failure

/-!
How failures are told over HTTP: a status, a code, and a message. What went wrong inside the host is
not told.
-/
namespace ScriptHost.Http

inductive RequestError where
  | failed (f : Failure)
  | badRequest (text : String)
  | internal (text : String)
  deriving DecidableEq, Repr

namespace RequestError

def message : RequestError → String
  | .failed f => f.message
  | .badRequest text => "Bad request: " ++ text
  | .internal text => "Internal error: " ++ text

def hidden : String := "An internal error occurred"

def reply : RequestError → Nat × String × String
  | .failed f =>
    match f with
    | .notFound _ => (404, "NOT_FOUND", f.message)
    | .refused _ => (400, "VALIDATION_ERROR", f.message)
    | .alreadyExists _ => (400, "ALREADY_EXISTS", f.message)
    | .compile _ | .unchecked _ => (400, "COMPILE_ERROR", f.message)
    | .eval _ => (400, "EVAL_ERROR", f.message)
    | .inactive _ => (409, "INACTIVE", f.message)
    | .versionConflict .. => (409, "VERSION_CONFLICT", f.message)
    | .evalTimeout .. => (408, "EVAL_TIMEOUT", f.message)
    | .archive _ | .internal _ => (500, "INTERNAL_ERROR", hidden)
  | .badRequest text => (400, "BAD_REQUEST", text)
  | .internal _ => (500, "INTERNAL_ERROR", hidden)

def status (e : RequestError) : Nat := e.reply.1

def body (e : RequestError) : Json :=
  Json.object [("error", .str e.reply.2.2), ("code", .str e.reply.2.1)]

end RequestError

end ScriptHost.Http
