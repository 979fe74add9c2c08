import ScriptHost.Catalog.Calls

/-!
All that is done with a catalog in its life: calls, listings, and opening its archive again, perhaps
for other engines. A catalog that cannot be opened again stays in use. Calls and listings are also
done over any archive, which then answers for itself.
-/
namespace ScriptHost

inductive Act where
  | call (call : Call)
  | list (q : Listing) (fault : Option ArchiveError)
  | reopen (engines : EngineSet) (policy : Policy) (fault : Option ArchiveError)

inductive Report where
  | answer (r : Answer)
  | listing (r : Except Failure (List Edition))
  | opening (r : Except Failure Unit)

namespace Act

def perform (act : Act) (c : Catalog) (a : MemoryArchive) : Report × Catalog × MemoryArchive :=
  match act with
  | .call made =>
    let (r, c, a) := made.alone c a
    (.answer r, c, a)
  | .list q fault =>
    let (r, a) := Catalog.list q c (⟨fault, a⟩ : FragileArchive)
    (.listing r, c, a.memory)
  | .reopen engines policy fault =>
    match Catalog.open engines policy (⟨fault, a⟩ : FragileArchive) with
    | (.ok c, a) => (.opening (.ok ()), c, a.memory)
    | (.error f, a) => (.opening (.error f), c, a.memory)

def inTurn : List Act → Catalog → MemoryArchive → List Report × Catalog × MemoryArchive
  | [], c, a => ([], c, a)
  | act :: rest, c, a =>
    let (r, c, a) := act.perform c a
    let (rs, c, a) := inTurn rest c a
    (r :: rs, c, a)

end Act

variable {σ : Type} [Archive σ]

def Given.over {α : Type} (g : Given) (reply : α → Reply)
    (operation : Catalog → σ → Except Failure α × Catalog × σ) (c : Catalog) (a : σ) :
    Answer × Catalog × σ :=
  let (r, c', a') := operation { c with engines := c.engines.checkedBy g.check } a
  (r.map reply, { c' with engines := c.engines }, a')

def Call.over (call : Call) (c : Catalog) (a : σ) : Answer × Catalog × σ :=
  let g := call.given
  match call.request with
  | .create body => g.over .status (Catalog.create body g.now) c a
  | .update name patch => g.over .status (Catalog.update name patch g.now) c a
  | .activate name active => g.over .activation (Catalog.activate name active g.now) c a
  | .delete name => g.over .removed (Catalog.delete name) c a
  | .forceDelete name => g.over .removed (Catalog.forceDelete name) c a
  | .get name => (.ok (.edition (c.get? name)), c, a)
  | .evaluate name input timeoutMs =>
    match c.get? name with
    | none => (.error (.notFound name), c, a)
    | some e => (Evaluation.answer c.engines e input timeoutMs, c, a)

inductive Task where
  | call (call : Call)
  | list (q : Listing)

namespace Task

def perform (task : Task) (c : Catalog) (a : σ) : Report × Catalog × σ :=
  match task with
  | .call made =>
    let (r, c, a) := made.over c a
    (.answer r, c, a)
  | .list q =>
    let (r, a) := Catalog.list q c a
    (.listing r, c, a)

def inTurn : List Task → Catalog → σ → List Report × Catalog × σ
  | [], c, a => ([], c, a)
  | task :: rest, c, a =>
    let (r, c, a) := task.perform c a
    let (rs, c, a) := inTurn rest c a
    (r :: rs, c, a)

end Task

end ScriptHost
