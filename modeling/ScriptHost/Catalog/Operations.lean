import ScriptHost.Catalog.Basic

/-!
The operations of the catalog, each as one whole. An operation that fails leaves the catalog as it
was; one that succeeds shows only what the archive has taken first. What an operation has an engine
do is a question to it.
-/
namespace ScriptHost.Catalog

open Time (Instant)

variable {σ : Type} [Archive σ]

def newScript (policy : Policy) (d : Admitted) (now : Instant) : Script :=
  ⟨d.name, d.code, d.language, d.encoding, d.active.getD policy.defaultActive, 0, now, now⟩

def revised (current : Script) (d : Admitted) (now : Instant) : Script :=
  { current with
    code := d.code, language := d.language, encoding := d.encoding,
    version := nextVersion current.version, updatedAt := now }

def createdMessage (s : Script) : String := "Script '" ++ s.name ++ "' created"

def updatedMessage (s : Script) : String :=
  "Script '" ++ s.name ++ "' updated to version " ++ toString s.version

/-- Hands a script to the archive and, once it is taken, shows it. -/
def keep (e : Edition) (c : Catalog) (a : σ) : Except Failure Unit × Catalog × σ :=
  match Archive.put e.script a with
  | (.ok (), a) => (.ok (), c.publish e.script.name (.live e), a)
  | (.error f, a) => (.error (.archive f), c, a)

def create (body : Option Json) (now : Instant) (c : Catalog) (a : σ) :
    Except Failure Status × Catalog × σ :=
  match Admission.review c.engines.supports body with
  | .error r => (.error (.refused r), c, a)
  | .ok d =>
    if c.isTaken d.name then (.error (.alreadyExists d.name), c, a)
    else match c.compile d with
    | .error f => (.error f, c, a)
    | .ok () =>
      let s := newScript c.policy d now
      match keep ⟨s, d.source⟩ c a with
      | (.ok (), c, a) => (.ok ⟨createdMessage s, s⟩, c, a)
      | (.error f, c, a) => (.error f, c, a)

def expectedVersion (patch : Option Json) : Option Int :=
  patch.bind fun p => (p.get? "version").bind Json.int64?

def merge (supports : Language → Bool) (current : Script) (patch : Option Json) :
    Except Failure Admitted :=
  match Admission.overlay current patch with
  | .error r => .error (.refused r)
  | .ok merged =>
    match Admission.review supports (some merged) with
    | .error r => .error (.refused r)
    | .ok d => if d.name = current.name then .ok d else .error (.refused .nameChanged)

def checkVersion (name : String) (current : Script) (patch : Option Json) :
    Except Failure Unit :=
  match expectedVersion patch with
  | some v =>
    if v = current.version then .ok () else .error (.versionConflict name v current.version)
  | none => .ok ()

def update (name : String) (patch : Option Json) (now : Instant) (c : Catalog) (a : σ) :
    Except Failure Status × Catalog × σ :=
  match c.get? name with
  | none => (.error (.notFound name), c, a)
  | some current =>
    let prepared : Except Failure Admitted := do
      checkVersion name current.script patch
      let d ← merge c.engines.supports current.script patch
      c.compile d
      return d
    match prepared with
    | .error f => (.error f, c, a)
    | .ok d =>
      let s := revised current.script d now
      match keep ⟨s, d.source⟩ c a with
      | (.ok (), c, a) => (.ok ⟨updatedMessage s, s⟩, c, a)
      | (.error f, c, a) => (.error f, c, a)

/-- Switches a live script on or off; only a change is written. -/
def activate (name : String) (active : Bool) (now : Instant) (c : Catalog) (a : σ) :
    Except Failure Activation × Catalog × σ :=
  match c.get? name with
  | none => (.ok .notFound, c, a)
  | some current =>
    if current.script.active = active then (.ok .unchanged, c, a)
    else
      let s := { current.script with active := active, updatedAt := now }
      match keep ⟨s, current.source⟩ c a with
      | (.ok (), c, a) => (.ok .changed, c, a)
      | (.error f, c, a) => (.error f, c, a)

/-- Hides a live script; its name stays reserved. Tells whether there was one. -/
def delete (name : String) (c : Catalog) (a : σ) : Except Failure Bool × Catalog × σ :=
  match c.get? name with
  | none => (.ok false, c, a)
  | some current =>
    match Archive.softDelete name a with
    | (.ok _, a) => (.ok true, c.publish name (.deleted current), a)
    | (.error e, a) => (.error (.archive e), c, a)

def forceDelete (name : String) (c : Catalog) (a : σ) : Except Failure Bool × Catalog × σ :=
  match Archive.hardDelete name a with
  | (.ok removed, a) => (.ok (c.isTaken name || removed), c.publish name .vacant, a)
  | (.error e, a) => (.error (.archive e), c, a)

/-- The editions of a page of the archive, as far as they are live and pass the filters. -/
def list (q : Listing) (c : Catalog) (a : σ) : Except Failure (List Edition) × σ :=
  match Archive.page q a with
  | (.ok scripts, a) =>
    (.ok ((scripts.filterMap fun s => c.get? s.name).filter fun e => q.accepts e.script), a)
  | (.error e, a) => (.error (.archive e), a)

end ScriptHost.Catalog

namespace ScriptHost

inductive Question where
  | check (language : Language) (source : String)
  | run (language : Language) (source : String) (context : RunContext)

def Question.language : Question → Language
  | .check language _ | .run language _ _ => language

namespace EngineSet

def Breaks (E : EngineSet) : Question → Prop
  | .check language source => ∃ engine text, E.get? language = some engine ∧
    engine.check source = .failed (.io text)
  | .run language source context => ∃ engine text, E.get? language = some engine ∧
    engine.run source context = .failed (.io text)

def Lacks (E : EngineSet) (q : Question) : Prop := E.get? q.language = none

end EngineSet

namespace Catalog

def createQuestion? (body : Option Json) (c : Catalog) : Option Question :=
  match Admission.review c.engines.supports body with
  | .ok d => if c.isTaken d.name then none else some (.check d.language d.source)
  | .error _ => none

def updateQuestion? (name : String) (patch : Option Json) (c : Catalog) : Option Question :=
  match c.get? name with
  | none => none
  | some current =>
    match checkVersion name current.script patch, merge c.engines.supports current.script patch with
    | .ok (), .ok d => some (.check d.language d.source)
    | _, _ => none

def runQuestion? (name : String) (input : Json) (timeoutMs : Nat) (c : Catalog) :
    Option Question :=
  match c.get? name with
  | none => none
  | some e =>
    if e.script.active then
      some (.run e.script.language e.source ⟨e.script.name, e.script.version, input, timeoutMs⟩)
    else none

end Catalog

end ScriptHost
