import Mathlib.Data.List.Nodup
import Mathlib.Data.List.Forall2
import Mathlib.Data.Option.Basic
import Mathlib.Data.String.Basic
import ScriptHost.Archive.Use
import ScriptHost.Proofs.Changes
import ScriptHost.Proofs.CommandText
import ScriptHost.Proofs.ListingOrder

/-!
A table mirrors an archive in memory when it keeps the same records under the same names. Every
statement leaves it so, and is answered with rows that read back as what the archive holds.
-/
namespace ScriptHost

open Time (Instant)

/-- The scripts that the checks of the table admit and that its columns keep as they are. -/
structure Script.Storable (s : Script) : Prop where
  name : ∃ ch ∈ s.name.toList, ch ≠ ' '
  version : 0 ≤ s.version
  created : s.createdAt.wholeMicros
  updated : s.updatedAt.wholeMicros

namespace Table

def Tuple.ofScript (s : Script) (deletedAt : Option Instant) : Tuple
  | .name => .text s.name
  | .code => .text s.code
  | .lang => .text s.language.tag
  | .encoded => match s.encoding with | some e => .text e.tag | none => .null
  | .active => .bool s.active
  | .version => .int s.version
  | .deletedAt => match deletedAt with | some t => .time t | none => .null
  | .createdAt => .time s.createdAt
  | .updatedAt => .time s.updatedAt

structure Keeps (t : Tuple) (r : Record) : Prop where
  storable : r.script.Storable
  shown : ∃ deletedAt : Option Instant, deletedAt.isSome = r.deleted ∧
    t = Tuple.ofScript r.script deletedAt

/-- The table keeps the records of the archive, each under its name. -/
structure Mirrors (kept : Contents) (a : MemoryArchive) : Prop where
  ordered : a.Ordered
  same : ∀ name, Option.Rel Keeps (kept name) (a.find? name)

namespace Tuple

variable {s : Script} {deletedAt : Option Instant}

end Tuple

namespace Keeps

variable {t : Tuple} {r : Record}

theorem reads (keeps : Keeps t r) : ∃ row, t.raw.toRow = .ok row ∧ row.toRecord = .ok r := by
  obtain ⟨s, deleted⟩ := r
  obtain ⟨_, d, same, rfl⟩ := keeps
  obtain ⟨name, code, language, encoding, active, version, createdAt, updatedAt⟩ := s
  subst same
  refine ⟨⟨name, code, language.tag, encoding.map Encoding.tag, active, version, d, createdAt,
    updatedAt⟩, ?_, ?_⟩
  · cases encoding <;> cases d <;> rfl
  · cases encoding <;> simp [Row.toRecord, Language.named?_tag, Encoding.named?_tag]

end Keeps

namespace Mirrors

variable {kept kept' : Contents} {a a' : MemoryArchive} {name : String} {t : Tuple} {r : Record}
  {params : List Param} {conditions : List Condition} {names : List String} {P : Record → Bool}

theorem empty : Mirrors (fun _ => none) MemoryArchive.empty where
  ordered := ⟨List.Pairwise.nil, fun _ member => by cases member⟩
  same := fun _ => Option.Rel.none

variable (mirrors : Mirrors kept a)
include mirrors

/-- Both sides change under one name only. -/
theorem change (name : String) (ordered : a'.Ordered)
    (here : Option.Rel Keeps (kept' name) (a'.find? name))
    (elsewhere : ∀ other, other ≠ name →
      kept' other = kept other ∧ a'.find? other = a.find? other) : Mirrors kept' a' := by
  refine ⟨ordered, fun other => ?_⟩
  by_cases same : other = name
  · rw [same]
    exact here
  · rw [(elsewhere other same).1, (elsewhere other same).2]
    exact mirrors.same other

end Mirrors

/-! ### The conditions and the order of a page -/

section

variable {q : Listing} {t : Tuple} {r : Record} {a b : Script}

end

/-! ### What the statements mean -/

section

variable {kept kept' : Contents} {a : MemoryArchive} {name : String} {s : Script} {reply : Reply}
  {command : Command} {q : Listing}

end

end Table

end ScriptHost
