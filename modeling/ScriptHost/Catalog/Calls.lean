import ScriptHost.Archive.Given
import ScriptHost.Catalog.Operations
import ScriptHost.Evaluation

/-!
Calls of a catalog as values: what is asked for, and what is decided outside the catalog while a
call runs. A call that runs alone is an operation of the catalog.
-/
namespace ScriptHost

open Time (Instant)

inductive Request where
  | create (body : Option Json)
  | update (name : String) (patch : Option Json)
  | activate (name : String) (active : Bool)
  | delete (name : String)
  | forceDelete (name : String)
  | get (name : String)
  | evaluate (name : String) (input : Json) (timeoutMs : Nat)

/-- What a call is given from outside: the time, what the engines say of a source that they are
asked to check, and whether the archive fails. -/
structure Given where
  now : Instant
  check : Language → String → Outcome Unit
  fault : Option ArchiveError

structure Call where
  request : Request
  given : Given

inductive Reply where
  | status (s : Status)
  | activation (a : Activation)
  | removed (b : Bool)
  | edition (e : Option Edition)
  | evaluation (e : Evaluation)

abbrev Answer := Except Failure Reply

def EngineSet.checkedBy (check : Language → String → Outcome Unit) (set : EngineSet) : EngineSet :=
  ⟨set.engines.map fun e => { e with check := check e.language }⟩

namespace Given

def compile (g : Given) (engines : EngineSet) (policy : Policy) (d : Admitted) :
    Except Failure Unit :=
  Catalog.compile ⟨engines.checkedBy g.check, policy, []⟩ d

def perform {α : Type} (g : Given) (reply : α → Reply)
    (operation : Catalog → GivenArchive → Except Failure α × Catalog × GivenArchive)
    (c : Catalog) (a : MemoryArchive) : Answer × Catalog × MemoryArchive :=
  let (r, c', a') := operation { c with engines := c.engines.checkedBy g.check } ⟨g.fault, 0, a⟩
  (r.map reply, { c' with engines := c.engines }, a'.memory)

end Given

namespace Evaluation

def answer (engines : EngineSet) (e : Edition) (input : Json) (timeoutMs : Nat) : Answer :=
  (run engines e input timeoutMs).1.map .evaluation

end Evaluation

namespace Call

def alone (call : Call) (c : Catalog) (a : MemoryArchive) : Answer × Catalog × MemoryArchive :=
  let g := call.given
  match call.request with
  | .create body => g.perform .status (Catalog.create body g.now) c a
  | .update name patch => g.perform .status (Catalog.update name patch g.now) c a
  | .activate name active => g.perform .activation (Catalog.activate name active g.now) c a
  | .delete name => g.perform .removed (Catalog.delete name) c a
  | .forceDelete name => g.perform .removed (Catalog.forceDelete name) c a
  | .get name => (.ok (.edition (c.get? name)), c, a)
  | .evaluate name input timeoutMs =>
    match c.get? name with
    | none => (.error (.notFound name), c, a)
    | some e => (Evaluation.answer c.engines e input timeoutMs, c, a)

def inTurn : List Call → Catalog → MemoryArchive → List Answer × Catalog × MemoryArchive
  | [], c, a => ([], c, a)
  | call :: rest, c, a =>
    let (r, c, a) := call.alone c a
    let (rs, c, a) := inTurn rest c a
    (r :: rs, c, a)

end Call

end ScriptHost
