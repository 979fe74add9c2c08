import ScriptHost.Proofs.Outcomes

/-!
Invariants of the live editions. What holds of every record that a catalog is opened with, and is
kept by every change that a call can make, holds of every edition that a name ever shows.
-/
namespace ScriptHost

variable {engines : EngineSet} {policy : Policy} {P : String → Edition → Prop}

def Call.Preserves (engines : EngineSet) (policy : Policy) (P : String → Edition → Prop) : Prop :=
  ∀ {call : Call} {name : String} {s : Slot} {w : Change} {next : Edition},
    call.Makes engines policy s w → call.request.target? = some name →
    (∀ e, s = .live e → e.script.name = name ∧ P name e) → w.slot = .live next → P name next

namespace Catalog

/-- Every live edition has the property. -/
def Shows (P : String → Edition → Prop) (c : Catalog) : Prop :=
  ∀ name e, c.slot name = .live e → P name e

variable {c : Catalog} {a : MemoryArchive}

theorem shows_alone (h : Coherent engines policy c a) (preserves : Call.Preserves engines policy P)
    (shows : c.Shows P) (call : Call) : (call.alone c a).2.1.Shows P := by
  intro name e live
  by_cases about : call.request.target? = some name
  · rcases h.alone_told about with ⟨same, _, _⟩ | ⟨w, makes, _, stands, _⟩
    · exact shows name e (same.symm.trans live)
    · refine preserves makes about (fun old before => ⟨?_, shows name old before⟩)
        (stands.symm.trans live)
      exact h.titled name old (Slot.live?_eq_some.mpr before)
  · exact shows name e ((h.alone_other about).1.symm.trans live)

theorem shows_inTurn (h : Coherent engines policy c a) (preserves : Call.Preserves engines policy P)
    (shows : c.Shows P) (calls : List Call) : (Call.inTurn calls c a).2.1.Shows P := by
  induction calls generalizing c a with
  | nil => exact shows
  | cons call rest ih => exact ih (h.alone call) (shows_alone h preserves shows call)

theorem shows_ofRecords (records : List Record) (read : ∀ r ∈ records, ∀ e,
      Slot.ofRecord engines r = .live e → P r.script.name e) :
    (ofRecords engines policy (MemoryArchive.ofRecords records).all).Shows P := by
  intro name e live
  have coherent := coherent_ofRecords engines policy (MemoryArchive.ordered_ofRecords records)
  obtain ⟨found, opened⟩ := coherent.record_of_live live
  have title : e.script.name = name :=
    MemoryArchive.title_of_find? (MemoryArchive.ordered_ofRecords records) found
  obtain ⟨r, member, same⟩ := List.mem_map.mp (Named.mem_ofList (Named.mem_of_find? found))
  have kept : r = ⟨e.script, false⟩ := congrArg Prod.snd same
  subst kept
  rw [← title]
  exact read _ member e opened

end Catalog

/-- An invariant of the records and of all changes holds of every edition that is ever live. -/
theorem Traffic.shows_opened (calls : Nat → Call) (records : List Record) (hub : Hub)
    (schedule : List Nat) (preserves : Call.Preserves engines policy P)
    (read : ∀ r ∈ records, ∀ e, Slot.ofRecord engines r = .live e → P r.script.name e)
    {name : String} {e : Edition}
    (live : ((opened engines policy records hub).run calls schedule).slot name = .live e) :
    P name e := by
  obtain ⟨answers, c, a, made, last, _⟩ := inTurn_turns
    (matches_opened engines policy records hub)
    (sound_opened calls engines policy records hub []) schedule
  have shows := Catalog.shows_inTurn (Catalog.coherent_ofRecords engines policy
    (MemoryArchive.ordered_ofRecords records)) preserves
    (Catalog.shows_ofRecords records read)
    (((opened engines policy records hub).turns calls schedule).map calls)
  rw [made] at shows
  exact shows name e ((last.slots name).symm.trans live)

end ScriptHost
