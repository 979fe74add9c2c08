import ScriptHost.Archive.Memory

/-!
Archives in memory for one operation of the host, with a given error or none. With an error either
the changes fail, every attempt being counted, or everything fails. What fails has no effect. Any
archive can be watched: it does what it did, and the operations that fail are counted.
-/
namespace ScriptHost

structure GivenArchive where
  fault : Option ArchiveError
  attempts : Nat
  memory : MemoryArchive
  deriving Repr

namespace GivenArchive

def change {α : Type} (f : MemoryArchive → α × MemoryArchive) (a : GivenArchive) :
    Except ArchiveError α × GivenArchive :=
  match a.fault with
  | some e => (.error e, { a with attempts := a.attempts + 1 })
  | none =>
    let (r, m) := f a.memory
    (.ok r, { a with attempts := a.attempts + 1, memory := m })

instance : Archive GivenArchive where
  put s := change fun m => ((), m.put s)
  get name a := (.ok (a.memory.get? name), a)
  page q a := (.ok (q.page a.memory.live), a)
  softDelete name := change fun m => m.softDelete name
  hardDelete name := change fun m => m.hardDelete name
  loadAll a := (.ok a.memory.all, a)

end GivenArchive

/-- An archive in memory that works, or fails whatever it is asked with a given error and without an
effect. -/
structure FragileArchive where
  fault : Option ArchiveError
  memory : MemoryArchive
  deriving Repr

namespace FragileArchive

def attempt {α : Type} (f : MemoryArchive → Except ArchiveError α × MemoryArchive)
    (a : FragileArchive) : Except ArchiveError α × FragileArchive :=
  match a.fault with
  | some e => (.error e, a)
  | none =>
    let (r, m) := f a.memory
    (r, { a with memory := m })

instance : Archive FragileArchive where
  put s := attempt (Archive.put s)
  get name := attempt (Archive.get name)
  page q := attempt (Archive.page q)
  softDelete name := attempt (Archive.softDelete name)
  hardDelete name := attempt (Archive.hardDelete name)
  loadAll := attempt Archive.loadAll

end FragileArchive

structure Watched (σ : Type) where
  archive : σ
  failures : Nat

namespace Watched

variable {σ α : Type}

def count (failures : Nat) : Except ArchiveError α × σ → Except ArchiveError α × Watched σ
  | (.ok a, archive) => (.ok a, ⟨archive, failures⟩)
  | (.error e, archive) => (.error e, ⟨archive, failures + 1⟩)

theorem result_count (failures : Nat) (x : Except ArchiveError α × σ) :
    (count failures x).1 = x.1 := by
  obtain ⟨_ | _, _⟩ := x <;> rfl

theorem archive_count (failures : Nat) (x : Except ArchiveError α × σ) :
    (count failures x).2.archive = x.2 := by
  obtain ⟨_ | _, _⟩ := x <;> rfl

variable [Archive σ]

instance : Archive (Watched σ) where
  put s w := count w.failures (Archive.put s w.archive)
  get name w := count w.failures (Archive.get name w.archive)
  page q w := count w.failures (Archive.page q w.archive)
  softDelete name w := count w.failures (Archive.softDelete name w.archive)
  hardDelete name w := count w.failures (Archive.hardDelete name w.archive)
  loadAll w := count w.failures (Archive.loadAll w.archive)

end Watched

end ScriptHost
