import ScriptHost.Proofs.SortedNames
import ScriptHost.Catalog.Traffic

/-!
What a change does to the records of an archive in memory: the record of its own name follows from
the record before, and every other record stays.
-/
namespace ScriptHost

open Named (Sorted)

theorem Slot.live?_eq_some {s : Slot} {e : Edition} : s.live? = some e ↔ s = .live e := by
  constructor
  · intro shown
    cases s <;> cases shown
    rfl
  · intro same
    rw [same]
    rfl

structure MemoryArchive.Ordered (a : MemoryArchive) : Prop where
  sorted : Sorted a.records
  titled : ∀ p ∈ a.records, p.2.script.name = p.1

namespace MemoryArchive

theorem ordered_insert {a : MemoryArchive} (h : a.Ordered) {name : String} {r : Record}
    (title : r.script.name = name) : Ordered ⟨Named.insert name r a.records⟩ := by
  refine ⟨Named.sorted_insert h.sorted name r, fun p member => ?_⟩
  rcases Named.mem_insert member with new | old
  · rw [new]; exact title
  · exact h.titled p old

theorem ordered_erase {a : MemoryArchive} (h : a.Ordered) (name : String) :
    Ordered ⟨Named.erase name a.records⟩ :=
  ⟨Named.sorted_erase h.sorted name, fun p member => h.titled p (Named.mem_erase member)⟩

theorem ordered_ofRecords (records : List Record) : (ofRecords records).Ordered := by
  refine ⟨Named.sorted_ofList _, fun p member => ?_⟩
  obtain ⟨r, _, same⟩ := List.mem_map.mp (Named.mem_ofList member)
  rw [← same]

theorem title_of_find? {a : MemoryArchive} (h : a.Ordered) {name : String} {r : Record}
    (found : a.find? name = some r) : r.script.name = name :=
  h.titled _ (Named.mem_of_find? found)

theorem eq_of_find? {a b : MemoryArchive} (ha : a.Ordered) (hb : b.Ordered)
    (same : ∀ name, a.find? name = b.find? name) : a = b :=
  congrArg MemoryArchive.mk (Named.eq_of_find? ha.sorted hb.sorted same)

section

variable {a : MemoryArchive} (ordered : a.Ordered)
include ordered

theorem names_all : a.all.map (·.script.name) = a.records.map Prod.fst := by
  rw [all, List.map_map]
  exact List.map_congr_left fun p member => ordered.titled p member

theorem nodup_names_all : (a.all.map (·.script.name)).Nodup := by
  rw [names_all ordered]
  exact Named.nodup_names ordered.sorted

theorem mem_all {r : Record} : r ∈ a.all ↔ a.find? r.script.name = some r := by
  constructor
  · intro member
    obtain ⟨p, there, rfl⟩ := List.mem_map.mp member
    rw [ordered.titled p there]
    exact Named.find?_of_mem ordered.sorted there
  · intro found
    exact List.mem_map.mpr ⟨_, Named.mem_of_find? found, rfl⟩

omit ordered in
theorem map_live (a : MemoryArchive) :
    a.live.map (⟨·, false⟩) = a.all.filter (!·.deleted) := by
  unfold MemoryArchive.all MemoryArchive.live
  induction a.records with
  | nil => rfl
  | cons p records ih =>
    obtain ⟨name, s, deleted⟩ := p
    cases deleted with
    | true => exact ih
    | false => exact congrArg (⟨s, false⟩ :: ·) ih

omit ordered in
theorem mem_live_iff (a : MemoryArchive) {s : Script} : s ∈ a.live ↔ ⟨s, false⟩ ∈ a.all := by
  have listed : s ∈ a.live ↔ (⟨s, false⟩ : Record) ∈ a.all.filter (!·.deleted) := by
    rw [← map_live]
    constructor
    · exact List.mem_map_of_mem
    · intro member
      obtain ⟨t, there, same⟩ := List.mem_map.mp member
      cases same
      exact there
  rw [listed, List.mem_filter]
  exact and_iff_left rfl

omit ordered in
theorem names_live_sublist (a : MemoryArchive) :
    (a.live.map Script.name).Sublist (a.all.map (·.script.name)) := by
  have names : a.live.map Script.name = (a.all.filter (!·.deleted)).map (·.script.name) := by
    rw [← map_live, List.map_map]
    rfl
  rw [names]
  exact List.filter_sublist.map _

theorem nodup_names_live : (a.live.map Script.name).Nodup :=
  (nodup_names_all ordered).sublist (names_live_sublist a)

theorem mem_live {s : Script} : s ∈ a.live ↔ a.find? s.name = some ⟨s, false⟩ := by
  rw [mem_live_iff, mem_all ordered]

end

end MemoryArchive

namespace Change

def Names (name : String) : Change → Prop
  | .keep e _ => e.script.name = name
  | .hide _ | .remove _ => True

def record : Change → Option Record → Option Record
  | .keep e _, _ => some ⟨e.script, false⟩
  | .hide _, before => before.map fun r => ⟨r.script, true⟩
  | .remove _, _ => none

def found : Change → Option Record → Bool
  | .keep _ _, _ => true
  | .hide _, before => before.any fun r => !r.deleted
  | .remove _, before => before.isSome

variable {name : String} {w : Change} {a : MemoryArchive}

theorem store_found (w : Change) (name : String) (a : MemoryArchive) :
    (w.store name a).1 = w.found (a.find? name) := by
  cases w with
  | keep e r => rfl
  | hide e =>
    simp only [store, found, MemoryArchive.softDelete]
    cases a.find? name with
    | none => rfl
    | some r => obtain ⟨s, deleted⟩ := r; cases deleted <;> rfl
  | remove taken =>
    simp only [store, found, MemoryArchive.hardDelete]
    cases a.find? name <;> rfl

theorem find?_store_self (names : w.Names name) (h : a.Ordered) :
    (w.store name a).2.find? name = w.record (a.find? name) := by
  cases w with
  | keep e r =>
    have title : e.script.name = name := names
    simp only [store, MemoryArchive.put, MemoryArchive.find?, title, record]
    exact Named.find?_insert_self name _ _
  | hide e =>
    simp only [store, record, MemoryArchive.softDelete]
    cases before : a.find? name with
    | none => exact before
    | some r =>
      obtain ⟨s, deleted⟩ := r
      cases deleted with
      | false => exact Named.find?_insert_self name _ _
      | true => exact before
  | remove taken =>
    simp only [store, record, MemoryArchive.hardDelete]
    cases before : a.find? name with
    | none => exact before
    | some r => exact Named.find?_erase_self h.sorted name

theorem find?_store_other (names : w.Names name) {other : String} (ne : other ≠ name) :
    (w.store name a).2.find? other = a.find? other := by
  cases w with
  | keep e r =>
    have title : e.script.name = name := names
    exact MemoryArchive.find?_put_of_ne (by rwa [title]) a
  | hide e =>
    simp only [store, MemoryArchive.softDelete]
    split
    · exact Named.find?_insert_of_ne ne _ _
    · rfl
  | remove taken =>
    simp only [store, MemoryArchive.hardDelete]
    split
    · exact Named.find?_erase_of_ne ne _
    · rfl

theorem ordered_store (h : a.Ordered) : (w.store name a).2.Ordered := by
  cases w with
  | keep e r => exact MemoryArchive.ordered_insert h rfl
  | hide e =>
    simp only [store, MemoryArchive.softDelete]
    split
    · rename_i s live
      have title : s.name = name := MemoryArchive.title_of_find? h live
      exact MemoryArchive.ordered_insert h title
    · exact h
  | remove taken =>
    simp only [store, MemoryArchive.hardDelete]
    split
    · exact MemoryArchive.ordered_erase h name
    · exact h

end Change

namespace Catalog

theorem slot_publish_live (c : Catalog) (name : String) (e : Edition) :
    (c.publish name (.live e)).slot name = .live e := by
  simp [publish, slot, Slot.isVacant, Named.find?_insert_self]

theorem slot_publish_self {c : Catalog} (h : Sorted c.slots) (name : String) (s : Slot) :
    (c.publish name s).slot name = s := by
  cases s with
  | vacant =>
    have erased := Named.find?_erase_self h name
    simp [publish, slot, Slot.isVacant, erased]
  | live e => exact slot_publish_live c name e
  | deleted e => simp [publish, slot, Slot.isVacant, Named.find?_insert_self]

theorem slot_publish_other (c : Catalog) {name other : String} (ne : other ≠ name) (s : Slot) :
    (c.publish name s).slot other = c.slot other := by
  cases s with
  | vacant => simp [publish, slot, Slot.isVacant, Named.find?_erase_of_ne ne]
  | live e => simp [publish, slot, Slot.isVacant, Named.find?_insert_of_ne ne]
  | deleted e => simp [publish, slot, Slot.isVacant, Named.find?_insert_of_ne ne]

theorem sorted_publish {c : Catalog} (h : Sorted c.slots) (name : String) (s : Slot) :
    Sorted (c.publish name s).slots := by
  unfold publish
  split
  · exact Named.sorted_erase h name
  · exact Named.sorted_insert h name s

end Catalog

end ScriptHost
