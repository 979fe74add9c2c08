import ScriptHost.Http.Reply
import ScriptHost.Http.Endpoint
import ScriptHost.Feed.Hub
import ScriptHost.Json.Shape

/-!
Requests and responses. Header names are written in lower case. The body of a request to run a
script has two fields, and both of them may be left out.
-/
namespace ScriptHost.Http

structure Request where
  method : Method
  target : Target
  headers : List (String × String)
  body : List UInt8

inductive Body where
  | empty
  | text (s : String)
  | json (j : Json)
  | events (s : Subscription)

structure Response where
  status : Nat
  headers : List (String × String)
  body : Body

def header? (name : String) (headers : List (String × String)) : Option String :=
  (headers.find? fun h => h.1 = name).map (·.2)

namespace Response

def bare (status : Nat) : Response := ⟨status, [], .empty⟩

def ofText (status : Nat) (s : String) : Response :=
  ⟨status, [("content-type", "text/plain; charset=utf-8")], .text s⟩

def ofJson (status : Nat) (j : Json) : Response :=
  ⟨status, [("content-type", "application/json")], .json j⟩

def ofData (status : Nat) (j : Json) : Response := ofJson status (.obj [("data", j)])

def ofEvents (s : Subscription) : Response :=
  ⟨200, [("content-type", "text/event-stream"), ("cache-control", "no-cache")], .events s⟩

def ofError (e : RequestError) : Response := ofJson e.status e.body

def withHeader (name value : String) (r : Response) : Response :=
  { r with headers := r.headers ++ [(name, value)] }

end Response

structure RunRequest where
  input : Json := .obj []
  timeoutMs : Option Nat := none

namespace RunRequest

/-- The fields read so far; a time limit that was given may be `null`. -/
structure Partial where
  input : Option Json
  timeoutMs : Option (Option Int)

def fitsTimeout (n : Int) : Bool := 0 ≤ n && n < twoTo 64

def shape : Json.Record Partial where
  name := "RunScriptRequest"
  fields := ["input", "timeout_ms"]
  empty := ⟨none, none⟩
  has i p := if i = 0 then p.input.isSome else p.timeoutMs.isSome
  read i p s :=
    if i = 0 then
      match Json.readValue (Json.depthLimit - 1) s with
      | .ok (j, r) => .ok ({ p with input := some j }, r)
      | .error e => .error e
    else
      match Json.readOptional (Json.readIntValue "u64" fitsTimeout) s with
      | .ok (n, r) => .ok ({ p with timeoutMs := some n }, r)
      | .error e => .error e
  optional _ := true
  omissible i := i == 0

def Partial.complete (p : Partial) : RunRequest :=
  ⟨p.input.getD (.obj []), (p.timeoutMs.getD none).map Int.toNat⟩

def parse (body : List UInt8) : Except Json.ReadError RunRequest :=
  (Json.readAll shape.readRecord body).map Partial.complete

end RunRequest

end ScriptHost.Http
