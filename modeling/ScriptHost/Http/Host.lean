import ScriptHost.Http.Access
import ScriptHost.Http.QueryText
import ScriptHost.Http.Message
import ScriptHost.Archive.Faulty
import ScriptHost.Catalog.Operations
import ScriptHost.Evaluation
import ScriptHost.Script.Document
import ScriptHost.Settings
import ScriptHost.Table.Connection

/-!
The host as its clients see it: a catalog and its archive, the feed of log events, and the answer to
each request. Requests are answered one after another.
-/
namespace ScriptHost.Http

open Time (Instant)

class Backing (σ : Type) extends Archive σ where
  label : String
  reach : σ → Bool × σ

instance : Backing FaultyArchive where
  label := "memory"
  reach a := (true, a)

instance : Backing Table.Connection where
  label := "postgres"
  reach c :=
    match c.isHealthy with
    | (.ok (), c) => (true, c)
    | (.error _, c) => (false, c)

/-- What the world tells while a request is answered: the time, how long a run took, and a fresh
number for the request. -/
structure Moment where
  now : Instant
  elapsedMs : Nat
  requestId : String

structure Host (σ : Type) where
  front : Access.Front
  runs : RunSettings
  catalog : Catalog
  archive : σ
  hub : Hub

inductive Rejection where
  | failed (e : RequestError)
  | badSegment
  | badQuery (e : QueryText.QueryError)
  | bodyTooLong
  /-- The answer was not there in time. -/
  | overdue

namespace Rejection

def response : Rejection → Response
  | .failed e => .ofError e
  | .badSegment => .ofText 400 "Invalid URL: Invalid UTF-8 in `name`"
  | .badQuery e => .ofText 400 e.message
  | .bodyTooLong => .ofText 413 "Failed to buffer the request body: length limit exceeded"
  | .overdue => .bare 408

end Rejection

def hostVersion : String := "0.1.0"

def bodyLimit : Nat := 2 * 1024 * 1024

/-- White space between requests and their bodies; a vertical tab does not belong to it. -/
def isPadding (b : UInt8) : Bool := b = 0x20 || b = 0x09 || b = 0x0A || b = 0x0C || b = 0x0D

namespace Request

def bounded (r : Request) : Except Rejection (List UInt8) :=
  if bodyLimit < r.body.length then .error .bodyTooLong else .ok r.body

def json? (r : Request) : Except Rejection (Option Json) := do
  let body ← r.bounded
  if body.all isPadding then return none
  match Json.parse body with
  | .ok j => return some j
  | .error e => throw (.failed (.badRequest ("Invalid JSON body: " ++ e.message)))

def run? (r : Request) : Except Rejection RunRequest := do
  let body ← r.bounded
  if body.all isPadding then return {}
  match RunRequest.parse body with
  | .ok run => return run
  | .error e => throw (.failed (.badRequest ("Invalid run request: " ++ e.message)))

end Request

def nameOf (segment : String) : Except Rejection String :=
  match Text.Percent.text? segment with
  | some name => .ok name
  | none => .error .badSegment

def statusJson (s : Status) : Json :=
  Json.object [("message", .str s.message), ("document", s.script.json)]

def evaluationJson (elapsedMs : Nat) (e : Evaluation) : Json :=
  Json.object [("name", .str e.name), ("version", .int e.version), ("value", e.value),
    ("logs", .arr (e.logs.map .str)), ("duration_ms", .int elapsedMs)]

namespace Host

variable {σ : Type}

def requestLimitMs (h : Host σ) : Nat := h.front.requestTimeoutSecs * 1000

/-- A failure as the client sees it. A request that would take longer than it may is cut off. -/
def rejection (h : Host σ) : Failure → Rejection
  | .unchecked ms => if h.requestLimitMs ≤ ms then .overdue else .failed (.failed (.unchecked ms))
  | f => .failed (.failed f)

variable [Backing σ]

/-- Builds the host around a catalog that was opened; without a front there is none. -/
def build? (settings : Settings) (catalog : Catalog) (archive : σ) : Option (Host σ) :=
  (Access.front? settings).map fun front =>
    ⟨front, settings.runs, catalog, archive, Hub.ofCapacity Hub.defaultCapacity⟩

def «open» (settings : Settings) (engines : EngineSet) (archive : σ) :
    Except Failure (Option (Host σ)) × σ :=
  let policy : Policy := ⟨settings.runs.defaultActive, settings.runs.compileTimeoutMs⟩
  match Catalog.open engines policy archive with
  | (.ok catalog, archive) => (.ok (build? settings catalog archive), archive)
  | (.error f, archive) => (.error f, archive)

abbrev Answer (σ : Type) := Except Rejection Response × Host σ

def changed {α : Type} (h : Host σ) (write : α → Except Rejection Response)
    (r : Except Failure α × Catalog × σ) : Answer σ :=
  let (result, catalog, archive) := r
  let after := { h with catalog, archive }
  match result with
  | .ok a => (write a, after)
  | .error f => (.error (h.rejection f), after)

def health (h : Host σ) : Answer σ :=
  let (reached, archive) := Backing.reach h.archive
  (.ok (.ofJson 200 (Json.object [
      ("status", .str (if reached then "ok" else "degraded")),
      ("version", .str hostVersion),
      ("store", .str (Backing.label σ)),
      ("db_healthy", .bool reached),
      ("languages", .arr (h.catalog.engines.languages.map fun l => .str l.tag))])),
    { h with archive })

def create (m : Moment) (r : Request) (h : Host σ) : Answer σ :=
  match r.json? with
  | .error e => (.error e, h)
  | .ok body =>
    h.changed (fun s => .ok (.ofData 201 (statusJson s)))
      (Catalog.create body m.now h.catalog h.archive)

def list (r : Request) (h : Host σ) : Answer σ :=
  match QueryText.listing r.target.query with
  | .error e => (.error (.badQuery e), h)
  | .ok params =>
    match params.listing with
    | .error e => (.error (.failed e), h)
    | .ok listing =>
      let (result, archive) := Catalog.list listing h.catalog h.archive
      let after := { h with archive }
      match result with
      | .ok editions => (.ok (.ofData 200 (.arr (editions.map (·.script.json)))), after)
      | .error f => (.error (h.rejection f), after)

def read (name : String) (h : Host σ) : Answer σ :=
  match h.catalog.get? name with
  | some e => (.ok (.ofData 200 e.script.json), h)
  | none => (.error (h.rejection (.notFound name)), h)

def update (m : Moment) (name : String) (r : Request) (h : Host σ) : Answer σ :=
  match r.json? with
  | .error e => (.error e, h)
  | .ok patch =>
    h.changed (fun s => .ok (.ofData 200 (statusJson s)))
      (Catalog.update name patch m.now h.catalog h.archive)

def activate (m : Moment) (name : String) (active : Bool) (h : Host σ) : Answer σ :=
  let told (changed : Bool) : Except Rejection Response :=
    .ok (.ofData 200 (Json.object [("name", .str name), ("active", .bool active),
      ("changed", .bool changed)]))
  h.changed (fun
      | .changed => told true
      | .unchanged => told false
      | .notFound => .error (h.rejection (.notFound name)))
    (Catalog.activate name active m.now h.catalog h.archive)

def delete (name : String) (r : Request) (h : Host σ) : Answer σ :=
  match QueryText.force r.target.query with
  | .error e => (.error (.badQuery e), h)
  | .ok force =>
    h.changed (fun deleted =>
        if deleted then
          .ok (.ofData 200 (Json.object [("name", .str name), ("force", .bool force)]))
        else .error (h.rejection (.notFound name)))
      (if force then Catalog.forceDelete name h.catalog h.archive
        else Catalog.delete name h.catalog h.archive)

def run (m : Moment) (name : String) (r : Request) (h : Host σ) : Answer σ :=
  match r.run? with
  | .error e => (.error e, h)
  | .ok request =>
    let timeoutMs := h.runs.runTimeout request.timeoutMs
    let (result, hub) := Evaluation.runNamed h.catalog name request.input timeoutMs m.now h.hub
    let after := { h with hub }
    match result with
    | .ok e => (.ok (.ofData 200 (evaluationJson m.elapsedMs e)), after)
    | .error f => (.error (h.rejection f), after)

def logs (name : String) (h : Host σ) : Answer σ :=
  match h.catalog.get? name with
  | none => (.error (h.rejection (.notFound name)), h)
  | some _ =>
    let (s, hub) := h.hub.subscribe name
    (.ok (.ofEvents s), { h with hub })

def withName (segment : String) (h : Host σ) (f : String → Host σ → Answer σ) : Answer σ :=
  match nameOf segment with
  | .ok name => f name h
  | .error e => (.error e, h)

def dispatch (m : Moment) (e : Endpoint) (r : Request) (h : Host σ) : Answer σ :=
  match e with
  | .health => h.health
  | .scripts => if r.method = .post then h.create m r else h.list r
  | .script segment => h.withName segment fun name h =>
    match r.method with
    | .put => h.update m name r
    | .delete => h.delete name r
    | _ => h.read name
  | .activate segment => h.withName segment fun name h => h.activate m name true
  | .deactivate segment => h.withName segment fun name h => h.activate m name false
  | .run segment => h.withName segment fun name h => h.run m name r
  | .logs segment => h.withName segment fun name h => h.logs name

def discard (b : Body) (h : Host σ) : Host σ :=
  match b with
  | .events s => { h with hub := h.hub.unsubscribe s }
  | _ => h

def answer (m : Moment) (r : Request) (h : Host σ) : Response × Host σ :=
  match Endpoint.ofPath r.target.path with
  | none => (.bare 404, h)
  | some e =>
    if r.method ∈ e.methods then
      let (result, h) := h.dispatch m e r
      let response := match result with
        | .ok response => response
        | .error rejection => rejection.response
      if r.method = .head then ({ response with body := .empty }, h.discard response.body)
      else (response, h)
    else ((Response.bare 405).withHeader "allow" e.allow, h)

def allowHeader (path : String) : List (String × String) :=
  match Endpoint.ofPath path with
  | some e => [("allow", e.allow)]
  | none => []

/-- Answers a request. A request keeps the number it came with. -/
def handle (m : Moment) (r : Request) (h : Host σ) : Response × Host σ :=
  let origins := h.front.origins
  if r.method = .options then
    let told := Access.preflight origins r.headers
    ({ told with headers := told.headers ++ allowHeader r.target.path }, h)
  else
    let id := (header? "x-request-id" r.headers).getD m.requestId
    let (response, h) := h.answer m r
    (Access.mark origins r.headers (response.withHeader "x-request-id" id), h)

def close (s : Subscription) (h : Host σ) : Host σ := { h with hub := h.hub.unsubscribe s }

end Host

end ScriptHost.Http
