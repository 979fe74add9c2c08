import ScriptHost.Archive.Given
import ScriptHost.Catalog.Operations
import ScriptHost.Http.Host

/-!
Requests that a host answers one after another. What its engines say may differ from one request to
the next.
-/
namespace ScriptHost.Http

structure Visit where
  moment : Moment
  request : Request
  engines : EngineSet

def Visit.endpoint? (v : Visit) : Option Endpoint := Endpoint.ofPath v.request.target.path

/-- Whether an archive can be reached is told apart from what fails in it. -/
instance {σ : Type} [Backing σ] : Backing (Watched σ) where
  label := Backing.label σ
  reach w :=
    let (reached, archive) := Backing.reach w.archive
    (reached, { w with archive })

namespace Host

variable {σ : Type}

def facing (engines : EngineSet) (h : Host σ) : Host σ :=
  { h with catalog := { h.catalog with engines := engines } }

def question? (e : Endpoint) (r : Request) (h : Host σ) : Option Question :=
  match e with
  | .scripts =>
    if r.method = .post then do
      let body ← r.json?.toOption
      h.catalog.createQuestion? body
    else none
  | .script segment =>
    if r.method = .put then do
      let name ← (nameOf segment).toOption
      let patch ← r.json?.toOption
      h.catalog.updateQuestion? name patch
    else none
  | .run segment => do
    let name ← (nameOf segment).toOption
    let request ← r.run?.toOption
    h.catalog.runQuestion? name request.input (h.runs.runTimeout request.timeoutMs)
  | _ => none

def asked? (r : Request) (h : Host σ) : Option Question :=
  match Endpoint.ofPath r.target.path with
  | some e => if r.method ∈ e.methods then h.question? e r else none
  | none => none

def watched (h : Host σ) : Host (Watched σ) :=
  ⟨h.front, h.runs, h.catalog, ⟨h.archive, 0⟩, h.hub⟩

variable [Backing σ]

def visit (v : Visit) (h : Host σ) : Response × Host σ :=
  (h.facing v.engines).handle v.moment v.request

def serve : List Visit → Host σ → List Response × Host σ
  | [], h => ([], h)
  | v :: rest, h =>
    let (response, h) := h.visit v
    let (responses, h) := serve rest h
    (response :: responses, h)

/-- In a visit the archive fails, or an engine that is asked fails in its input and output. -/
def Meets (h : Host σ) (v : Visit) : Prop :=
  (h.watched.visit v).2.archive.failures ≠ 0 ∨
    ∃ q, (h.facing v.engines).asked? v.request = some q ∧ v.engines.Breaks q

end Host

end ScriptHost.Http
