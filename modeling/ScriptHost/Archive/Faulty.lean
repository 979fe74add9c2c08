import ScriptHost.Archive.Memory

/-!
An archive in memory that can be told to fail. A failing operation has no effect; every attempt to
change something is counted.
-/
namespace ScriptHost

inductive FaultMode where
  | none
  | changes
  | all
  /-- Changes fail because a record is damaged. -/
  | damaged
  deriving DecidableEq, Repr

structure FaultyArchive where
  mode : FaultMode
  attempts : Nat
  memory : MemoryArchive
  deriving Repr

namespace FaultyArchive

def refused : ArchiveError := .backend "connection refused"

def changeFault? (mode : FaultMode) (name : String) : Option ArchiveError :=
  match mode with
  | .none => Option.none
  | .changes | .all => some refused
  | .damaged => some (.corrupt name "bad row")

def readFault? (mode : FaultMode) : Option ArchiveError :=
  if mode = .all then some refused else Option.none

def change {α : Type} (name : String) (f : MemoryArchive → α × MemoryArchive)
    (a : FaultyArchive) : Except ArchiveError α × FaultyArchive :=
  match changeFault? a.mode name with
  | some e => (.error e, { a with attempts := a.attempts + 1 })
  | none =>
    let (r, m) := f a.memory
    (.ok r, { a with attempts := a.attempts + 1, memory := m })

def consult {α : Type} (f : MemoryArchive → α) (a : FaultyArchive) :
    Except ArchiveError α × FaultyArchive :=
  match readFault? a.mode with
  | some e => (.error e, a)
  | none => (.ok (f a.memory), a)

instance : Archive FaultyArchive where
  put s := change s.name fun m => ((), m.put s)
  get name := consult fun m => m.get? name
  page q := consult fun m => q.page m.live
  softDelete name := change name fun m => m.softDelete name
  hardDelete name := change name fun m => m.hardDelete name
  loadAll := consult MemoryArchive.all

end FaultyArchive

end ScriptHost
