import Mathlib.Logic.Function.Basic
import ScriptHost.Catalog.Calls
import ScriptHost.Feed.Hub

/-!
Calls of one catalog that run at the same time, in small steps that may alternate in any order. A
name has a cell with a gate; a change of the name is made inside the gate. The cell of a name that
stands for nothing is taken away again, while other calls may still wait at its gate.
-/
namespace ScriptHost

open Function (update)

/-- What a name stands for, and the call that is inside the gate. -/
structure Cell where
  slot : Slot
  holder : Option Nat

inductive Job where
  | create (d : Admitted)
  | update (name : String) (patch : Option Json)
  | activate (name : String) (active : Bool)
  | delete (name : String)
  | forceDelete (name : String)

def Job.name : Job → String
  | .create d => d.name
  | .update name _ | .activate name _ | .delete name | .forceDelete name => name

/-- The one change of the archive that a call asks for. -/
inductive Change where
  | keep (e : Edition) (reply : Reply)
  | hide (e : Edition)
  | remove (taken : Bool)

namespace Change

def store (name : String) : Change → MemoryArchive → Bool × MemoryArchive
  | .keep e _, a => (true, a.put e.script)
  | .hide _, a => a.softDelete name
  | .remove _, a => a.hardDelete name

def slot : Change → Slot
  | .keep e _ => .live e
  | .hide e => .deleted e
  | .remove _ => .vacant

/-- What the caller gets, when the archive has answered with `found`. -/
def reply (found : Bool) : Change → Reply
  | .keep _ r => r
  | .hide _ => .removed true
  | .remove taken => .removed (taken || found)

end Change

inductive Phase where
  | entered
  /-- The cell was taken away while the call waited. -/
  | stale
  | reading
  | comparing (e : Edition) (patch : Option Json)
  | merging (e : Edition) (patch : Option Json)
  | compiling (e : Edition) (d : Admitted)
  | storing (w : Change)
  | publishing (w : Change) (found : Bool)
  | leaving (r : Answer)
  | retiring (r : Answer)
  | releasing (r : Answer)

inductive Stage where
  | idle
  | begun
  | admitted (d : Admitted)
  | unclaimed (d : Admitted)
  | seeking (job : Job)
  | absent (job : Job)
  | waiting (job : Job) (cell : Nat)
  | inside (job : Job) (cell : Nat) (phase : Phase)
  | running (e : Edition)
  | telling (e : Edition) (lines : List (Level × String)) (r : Answer)
  | done (r : Answer)

/-- A catalog and its archive with the calls under way. -/
structure Traffic where
  engines : EngineSet
  policy : Policy
  index : String → Option Nat
  cells : Nat → Cell
  /-- No cell with this number or a later one has been made. -/
  fresh : Nat
  archive : MemoryArchive
  hub : Hub
  stages : Nat → Stage
  /-- How often each call has asked the archive for a change. -/
  attempts : Nat → Nat

inductive Effect where
  | none
  | place (name : String)
  | enter (cell : Nat)
  | leave (cell : Nat)
  | fail
  | store (name : String) (w : Change)
  | show (cell : Nat) (s : Slot)
  | retire (name : String)
  | tell (event : LogEvent)

namespace Traffic

def slot (m : Traffic) (name : String) : Slot :=
  match m.index name with
  | some k => (m.cells k).slot
  | none => .vacant

def setHolder (k : Nat) (holder : Option Nat) (m : Traffic) : Traffic :=
  { m with cells := update m.cells k { m.cells k with holder := holder } }

def setStage (i : Nat) (s : Stage) (m : Traffic) : Traffic :=
  { m with stages := update m.stages i s }

end Traffic

/-- An effect of a step of call `i`. -/
def Effect.apply (i : Nat) (m : Traffic) : Effect → Traffic
  | .none => m
  | .place name =>
    { m with
      index := update m.index name (some m.fresh)
      cells := update m.cells m.fresh ⟨.vacant, Option.none⟩
      fresh := m.fresh + 1 }
  | .enter k => m.setHolder k (some i)
  | .leave k => m.setHolder k Option.none
  | .fail => { m with attempts := update m.attempts i (m.attempts i + 1) }
  | .store name w =>
    { m with
      archive := (w.store name m.archive).2
      attempts := update m.attempts i (m.attempts i + 1) }
  | .show k s => { m with cells := update m.cells k { m.cells k with slot := s } }
  | .retire name => { m with index := update m.index name Option.none }
  | .tell event => { m with hub := m.hub.publish event }

namespace Job

def decide (policy : Policy) (g : Given) : Job → Slot → Phase
  | .create d, s =>
    if s.isVacant then
      let script := Catalog.newScript policy d g.now
      .storing (.keep ⟨script, d.source⟩ (.status ⟨Catalog.createdMessage script, script⟩))
    else .leaving (.error (.alreadyExists d.name))
  | .update name patch, s =>
    match s.live? with
    | none => .leaving (.error (.notFound name))
    | some e => .comparing e patch
  | .activate _ active, s =>
    match s.live? with
    | none => .leaving (.ok (.activation .notFound))
    | some e =>
      if e.script.active = active then .leaving (.ok (.activation .unchanged))
      else
        .storing (.keep ⟨{ e.script with active := active, updatedAt := g.now }, e.source⟩
          (.activation .changed))
  | .delete _, s =>
    match s.live? with
    | none => .leaving (.ok (.removed false))
    | some e => .storing (.hide e)
  | .forceDelete _, s => .storing (.remove (!s.isVacant))

end Job

namespace Phase

def revision (e : Edition) (d : Admitted) (g : Given) : Change :=
  let script := Catalog.revised e.script d g.now
  .keep ⟨script, d.source⟩ (.status ⟨Catalog.updatedMessage script, script⟩)

def compare (name : String) (e : Edition) (patch : Option Json) : Phase :=
  match Catalog.checkVersion name e.script patch with
  | .error f => .leaving (.error f)
  | .ok () => .merging e patch

def merge (engines : EngineSet) (e : Edition) (patch : Option Json) : Phase :=
  match Catalog.merge engines.supports e.script patch with
  | .error f => .leaving (.error f)
  | .ok d => .compiling e d

def compile (engines : EngineSet) (policy : Policy) (g : Given) (e : Edition) (d : Admitted) :
    Phase :=
  match g.compile engines policy d with
  | .error f => .leaving (.error f)
  | .ok () => .storing (revision e d g)

end Phase

namespace Traffic

/-- The next step of a call inside a gate. -/
def inner (m : Traffic) (g : Given) (job : Job) (k : Nat) : Phase → Effect × Stage
  | .entered =>
    (.none, .inside job k (if m.index job.name = some k then .reading else .stale))
  | .stale => (.leave k, .seeking job)
  | .reading => (.none, .inside job k (job.decide m.policy g (m.cells k).slot))
  | .comparing e patch => (.none, .inside job k (.compare job.name e patch))
  | .merging e patch => (.none, .inside job k (.merge m.engines e patch))
  | .compiling e d => (.none, .inside job k (.compile m.engines m.policy g e d))
  | .storing w =>
    match g.fault with
    | some f => (.fail, .inside job k (.leaving (.error (.archive f))))
    | none =>
      (.store job.name w, .inside job k (.publishing w (w.store job.name m.archive).1))
  | .publishing w found => (.show k w.slot, .inside job k (.leaving (.ok (w.reply found))))
  | .leaving r =>
    (.none, .inside job k (if (m.cells k).slot.isVacant then .retiring r else .releasing r))
  | .retiring r =>
    (if m.index job.name = some k then .retire job.name else .none, .inside job k (.releasing r))
  | .releasing r => (.leave k, .done r)

def enter (m : Traffic) (call : Call) : Stage :=
  match call.request with
  | .create body =>
    match Admission.review m.engines.supports body with
    | .error r => .done (.error (.refused r))
    | .ok d => .admitted d
  | .update name patch => .seeking (.update name patch)
  | .activate name active => .seeking (.activate name active)
  | .delete name => .seeking (.delete name)
  | .forceDelete name => .seeking (.forceDelete name)
  | .get name => .done (.ok (.edition (m.slot name).live?))
  | .evaluate name _ _ =>
    match (m.slot name).live? with
    | none => .done (.error (.notFound name))
    | some e => .running e

def launch (m : Traffic) (call : Call) (e : Edition) : Stage :=
  match call.request with
  | .evaluate _ input timeoutMs =>
    .telling e (Evaluation.run m.engines e input timeoutMs).2
      (Evaluation.answer m.engines e input timeoutMs)
  | _ => .running e

/-- The next step of a call: what it does and where the call is then. A call at a gate that is
taken, and one that is done, have none. -/
def next (call : Call) (m : Traffic) : Stage → Option (Effect × Stage)
  | .idle => some (.none, .begun)
  | .begun => some (.none, m.enter call)
  | .admitted d =>
    some (.none, if (m.slot d.name).isVacant then .unclaimed d
      else .done (.error (.alreadyExists d.name)))
  | .unclaimed d =>
    match call.given.compile m.engines m.policy d with
    | .error f => some (.none, .done (.error f))
    | .ok () => some (.none, .seeking (.create d))
  | .seeking job =>
    match m.index job.name with
    | some k => some (.none, .waiting job k)
    | none => some (.none, .absent job)
  | .absent job =>
    match m.index job.name with
    | some k => some (.none, .waiting job k)
    | none => some (.place job.name, .waiting job m.fresh)
  | .waiting job k =>
    match (m.cells k).holder with
    | some _ => none
    | none => some (.enter k, .inside job k .entered)
  | .inside job k phase => some (m.inner call.given job k phase)
  | .running e => some (.none, m.launch call e)
  | .telling e ((level, message) :: lines) r =>
    some (.tell ⟨e.script.name, e.script.version, level, message, call.given.now⟩,
      .telling e lines r)
  | .telling _ [] r => some (.none, .done r)
  | .done _ => none

variable (calls : Nat → Call)

def step (m : Traffic) (i : Nat) : Traffic :=
  match m.next (calls i) (m.stages i) with
  | some (effect, stage) => (effect.apply i m).setStage i stage
  | none => m

def run (m : Traffic) (schedule : List Nat) : Traffic := schedule.foldl (step calls) m

def place (name : String) (slots : List (String × Slot)) : Option Nat :=
  slots.findIdx? (·.1 = name)

/-- A catalog before the first call: each of its names has a cell. -/
def ofCatalog (c : Catalog) (a : MemoryArchive) (hub : Hub) : Traffic where
  engines := c.engines
  policy := c.policy
  index name := place name c.slots
  cells k := ⟨(c.slots[k]?.map Prod.snd).getD .vacant, none⟩
  fresh := c.slots.length
  archive := a
  hub := hub
  stages _ := .idle
  attempts _ := 0

def opened (engines : EngineSet) (policy : Policy) (records : List Record) (hub : Hub) : Traffic :=
  let a := MemoryArchive.ofRecords records
  ofCatalog (Catalog.ofRecords engines policy a.all) a hub

end Traffic

end ScriptHost
