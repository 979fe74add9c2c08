import ScriptHost.Named
import ScriptHost.Archive.Basic

/-!
An archive in memory. It never fails.
-/
namespace ScriptHost

structure MemoryArchive where
  records : List (String × Record)
  deriving Repr

namespace MemoryArchive

def empty : MemoryArchive := ⟨[]⟩

/-- Of several records with one name the last one is kept. -/
def ofRecords (records : List Record) : MemoryArchive :=
  ⟨Named.ofList (records.map fun r => (r.script.name, r))⟩

def find? (name : String) (a : MemoryArchive) : Option Record := Named.find? name a.records

def put (s : Script) (a : MemoryArchive) : MemoryArchive :=
  ⟨Named.insert s.name ⟨s, false⟩ a.records⟩

def get? (name : String) (a : MemoryArchive) : Option Script :=
  match a.find? name with
  | some ⟨s, false⟩ => some s
  | _ => none

def live (a : MemoryArchive) : List Script :=
  a.records.filterMap fun (_, r) => if r.deleted then none else some r.script

def softDelete (name : String) (a : MemoryArchive) : Bool × MemoryArchive :=
  match a.find? name with
  | some ⟨s, false⟩ => (true, ⟨Named.insert name ⟨s, true⟩ a.records⟩)
  | _ => (false, a)

def hardDelete (name : String) (a : MemoryArchive) : Bool × MemoryArchive :=
  match a.find? name with
  | some _ => (true, ⟨Named.erase name a.records⟩)
  | none => (false, a)

def all (a : MemoryArchive) : List Record := a.records.map (·.2)

instance : Archive MemoryArchive where
  put s a := (.ok (), a.put s)
  get name a := (.ok (a.get? name), a)
  page q a := (.ok (q.page a.live), a)
  softDelete name a := let (b, a) := a.softDelete name; (.ok b, a)
  hardDelete name a := let (b, a) := a.hardDelete name; (.ok b, a)
  loadAll a := (.ok a.all, a)

theorem find?_put_of_ne {s : Script} {name : String} (h : name ≠ s.name) (a : MemoryArchive) :
    (a.put s).find? name = a.find? name := by
  simp [put, find?, Named.find?_insert_of_ne h]

end MemoryArchive

end ScriptHost
