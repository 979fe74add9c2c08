import ScriptHost.Proofs.Linearization
import ScriptHost.Proofs.Reviews

/-!
A catalog and its archive tell the same: what a name stands for is what its record is opened as. So
opening the archive again, after any calls, makes the catalog that was left.
-/
namespace ScriptHost

open Named (Sorted)

variable {engines : EngineSet} {policy : Policy} {c : Catalog} {a : MemoryArchive} {call : Call}

def Slot.ofFound (engines : EngineSet) : Option Record → Slot
  | none => .vacant
  | some r => .ofRecord engines r

theorem Slot.ofRecord_eq_live {r : Record} {e : Edition} :
    Slot.ofRecord engines r = .live e ↔
      r.deleted = false ∧ r.script = e.script ∧ engines.supports e.script.language = true ∧
        Encoding.source? e.script.encoding e.script.code = some e.source := by
  obtain ⟨script, deleted⟩ := r
  obtain ⟨shown, source⟩ := e
  simp only [ofRecord]
  constructor
  · intro live
    split at live
    · cases live
    · rename_i usable
      cases live
      cases decoded : Encoding.source? script.encoding script.code with
      | none => simp [decoded] at usable
      | some text =>
        simp only [decoded, Option.isNone_some, Bool.or_false, Bool.not_eq_true,
          Bool.or_eq_false_iff, Bool.not_eq_false'] at usable
        exact ⟨usable.1, rfl, usable.2, rfl⟩
  · rintro ⟨notDeleted, same, supported, decoded⟩
    subst same
    simp [notDeleted, supported, decoded]

theorem Slot.ofRecord_deleted {s : Script} {e : Edition}
    (live : Slot.ofRecord engines ⟨s, false⟩ = .live e) :
    Slot.ofRecord engines ⟨s, true⟩ = .deleted e := by
  obtain ⟨_, same, _, decoded⟩ := Slot.ofRecord_eq_live.mp live
  simp only at same
  subst same
  simp [ofRecord, decoded]

namespace Catalog

theorem occupied_publish (occupied : c.Occupied) (name : String) (s : Slot) :
    (c.publish name s).Occupied := by
  intro p member
  unfold publish at member
  split at member
  · exact occupied p (Named.mem_erase member)
  · rename_i kept
    rcases Named.mem_insert member with new | old
    · intro vacant
      have stands : s = .vacant := by rw [new] at vacant; exact vacant
      exact kept (by rw [stands]; rfl)
    · exact occupied p old

theorem slots_eq {c' : Catalog} (sorted : Sorted c.slots) (sorted' : Sorted c'.slots)
    (occupied : c.Occupied) (occupied' : c'.Occupied)
    (same : ∀ name, c.slot name = c'.slot name) : c.slots = c'.slots := by
  have kept : ∀ {c : Catalog} {name s}, c.Occupied → Named.find? name c.slots = some s →
      s ≠ .vacant := fun occupied found => occupied _ (Named.mem_of_find? found)
  refine Named.eq_of_find? sorted sorted' fun name => ?_
  have eq := same name
  unfold slot at eq
  cases found : Named.find? name c.slots with
  | none =>
    cases found' : Named.find? name c'.slots with
    | none => rfl
    | some s =>
      rw [found, found'] at eq
      exact absurd eq.symm (kept occupied' found')
  | some s =>
    cases found' : Named.find? name c'.slots with
    | none =>
      rw [found, found'] at eq
      exact absurd eq (kept occupied found)
    | some s' =>
      rw [found, found'] at eq
      exact congrArg some eq

theorem slot_ofRecords (ordered : a.Ordered) (name : String) :
    (ofRecords engines policy a.all).slot name = .ofFound engines (a.find? name) := by
  have pairs : (a.all.map fun r => (r.script.name, Slot.ofRecord engines r)) =
      Named.mapValues (fun _ => Slot.ofRecord engines) a.records := by
    rw [MemoryArchive.all, List.map_map]
    exact List.map_congr_left fun p member => by
      rw [Function.comp, ordered.titled p member]
  have slots : (ofRecords engines policy a.all).slots =
      Named.mapValues (fun _ => Slot.ofRecord engines) a.records := by
    rw [ofRecords, pairs]
    exact Named.ofList_sorted (Named.sorted_mapValues _ ordered.sorted)
  rw [slot, slots, Named.find?_mapValues]
  unfold MemoryArchive.find?
  cases Named.find? name a.records <;> rfl

/-- A catalog stands for what its archive keeps. -/
structure Coherent (engines : EngineSet) (policy : Policy) (c : Catalog) (a : MemoryArchive) :
    Prop where
  sameEngines : c.engines = engines
  samePolicy : c.policy = policy
  sorted : Sorted c.slots
  occupied : c.Occupied
  ordered : a.Ordered
  slots : ∀ name, c.slot name = .ofFound engines (a.find? name)

theorem coherent_ofRecords (engines : EngineSet) (policy : Policy) (ordered : a.Ordered) :
    Coherent engines policy (ofRecords engines policy a.all) a :=
  ⟨rfl, rfl, sorted_ofRecords engines policy a.all, occupied_ofRecords engines policy a.all,
    ordered, slot_ofRecords ordered⟩

namespace Coherent

variable (h : Coherent engines policy c a)
include h

theorem open_eq : Catalog.open engines policy a = (.ok c, a) := by
  have slots : (ofRecords engines policy a.all).slots = c.slots :=
    slots_eq (sorted_ofRecords engines policy a.all) h.sorted
      (occupied_ofRecords engines policy a.all) h.occupied
      fun name => (slot_ofRecords h.ordered name).trans (h.slots name).symm
  have same : ofRecords engines policy a.all = c := by
    obtain ⟨engines', policy', slots'⟩ := c
    cases h.sameEngines
    cases h.samePolicy
    exact congrArg (Catalog.mk _ _) slots
  change (Except.ok (ofRecords engines policy a.all), a) = _
  rw [same]

theorem record_of_live {name : String} {e : Edition} (live : c.slot name = .live e) :
    a.find? name = some ⟨e.script, false⟩ ∧ Slot.ofRecord engines ⟨e.script, false⟩ = .live e := by
  rw [h.slots name] at live
  cases found : a.find? name with
  | none => rw [found] at live; cases live
  | some r =>
    rw [found] at live
    have opened : Slot.ofRecord engines r = .live e := live
    obtain ⟨notDeleted, same, _⟩ := Slot.ofRecord_eq_live.mp opened
    obtain ⟨script, deleted⟩ := r
    simp only at notDeleted same
    subst notDeleted same
    exact ⟨rfl, opened⟩

theorem titled : c.Titled := by
  intro name e shown
  have live := Slot.live?_eq_some.mp shown
  obtain ⟨found, _⟩ := h.record_of_live live
  exact MemoryArchive.title_of_find? h.ordered found

theorem opened_admitted {s : Script} {d : Admitted} {body : Option Json}
    (admitted : Admission.review c.engines.supports body = .ok d) (code : s.code = d.code)
    (language : s.language = d.language) (encoding : s.encoding = d.encoding) :
    Slot.ofRecord engines ⟨s, false⟩ = .live ⟨s, d.source⟩ := by
  obtain ⟨_, _, reads⟩ := Admission.reads_of_review admitted
  have supported := reads.supported
  rw [h.sameEngines] at supported
  refine Slot.ofRecord_eq_live.mpr ⟨rfl, rfl, ?_, ?_⟩
  · rw [language]
    exact supported
  · rw [code, encoding]
    exact reads.source

theorem opened_change {job : Job} {w : Change}
    (takes : call.Takes c.engines c.policy job)
    (decided : job.decision? c.engines c.policy call.given (c.slot job.name) =
      some (.change w)) :
    Slot.ofFound engines (w.record (a.find? job.name)) = w.slot := by
  cases job with
  | create d =>
    obtain ⟨⟨body, _, admitted⟩, _⟩ := takes
    simp only [Job.decision?, Job.decide] at decided
    split at decided <;> cases Option.some.inj decided
    exact h.opened_admitted admitted rfl rfl rfl
  | update name patch =>
    simp only [Job.decision?, Job.decide] at decided
    split at decided
    · cases Option.some.inj decided
    · rename_i e live
      obtain ⟨d, _, merged, _, rfl⟩ := Decision.ofUpdate_change (Option.some.inj decided)
      obtain ⟨body, _, admitted, _⟩ := merge_eq_ok merged
      exact h.opened_admitted admitted rfl rfl rfl
  | activate name active =>
    simp only [Job.decision?, Job.decide] at decided
    split at decided
    · cases Option.some.inj decided
    · rename_i e live
      split at decided <;> cases Option.some.inj decided
      obtain ⟨_, opened⟩ := h.record_of_live (Slot.live?_eq_some.mp live)
      obtain ⟨_, _, supported, decoded⟩ := Slot.ofRecord_eq_live.mp opened
      exact Slot.ofRecord_eq_live.mpr ⟨rfl, rfl, supported, decoded⟩
  | delete name =>
    simp only [Job.decision?, Job.decide] at decided
    split at decided
    · cases Option.some.inj decided
    · rename_i e live
      cases Option.some.inj decided
      obtain ⟨found, opened⟩ := h.record_of_live (Slot.live?_eq_some.mp live)
      have shown : a.find? name = some ⟨e.script, false⟩ := found
      change Slot.ofFound engines ((a.find? name).map fun r => ⟨r.script, true⟩) = .deleted e
      rw [shown]
      exact Slot.ofRecord_deleted opened
  | forceDelete name =>
    cases Option.some.inj decided
    rfl

/-- A call keeps the catalog and the archive together. -/
theorem alone (call : Call) :
    Coherent engines policy (call.alone c a).2.1 (call.alone c a).2.2 := by
  rcases Call.alone_cases call a h.titled with ⟨r, same⟩ |
    ⟨job, w, takes, decided, made⟩
  · rw [same]
    exact h
  · rw [made]
    have names : w.Names job.name := Job.names_of_decision? (h.titled job.name) decided
    refine ⟨h.sameEngines, h.samePolicy, sorted_publish h.sorted _ _,
      occupied_publish h.occupied _ _, Change.ordered_store h.ordered, fun name => ?_⟩
    by_cases same : name = job.name
    · rw [same, slot_publish_self h.sorted, Change.find?_store_self names h.ordered]
      exact (h.opened_change takes decided).symm
    · rw [slot_publish_other c same, Change.find?_store_other names same]
      exact h.slots name

omit h in
theorem inTurn (h : Coherent engines policy c a) (calls : List Call) :
    Coherent engines policy (Call.inTurn calls c a).2.1 (Call.inTurn calls c a).2.2 := by
  induction calls generalizing c a with
  | nil => exact h
  | cons call rest ih => exact ih (h.alone call)

end Coherent

/-- Opening an archive again after any calls, some of which it may have failed, makes the catalog
that the calls have left. -/
theorem reopen_inTurn (engines : EngineSet) (policy : Policy) (records : List Record)
    (calls : List Call) :
    ∃ c, Catalog.open engines policy (MemoryArchive.ofRecords records) =
        (.ok c, MemoryArchive.ofRecords records) ∧
      let (_, c', a') := Call.inTurn calls c (MemoryArchive.ofRecords records)
      Catalog.open engines policy a' = (.ok c', a') := by
  have first := coherent_ofRecords engines policy (MemoryArchive.ordered_ofRecords records)
  exact ⟨_, first.open_eq, (first.inTurn calls).open_eq⟩

end Catalog

/-- Behind every state that calls can reach stand a catalog and an archive that tell the same. -/
theorem Traffic.matches_coherent (calls : Nat → Call) (engines : EngineSet) (policy : Policy)
    (records : List Record) (hub : Hub) (schedule : List Nat) :
    ∃ c a, ((opened engines policy records hub).run calls schedule).Matches c a ∧
      Catalog.Coherent engines policy c a := by
  have first := matches_opened engines policy records hub
  obtain ⟨answers, c, a, made, last, _⟩ := inTurn_turns first
    (sound_opened calls engines policy records hub []) schedule
  have kept := (Catalog.coherent_ofRecords engines policy
    (MemoryArchive.ordered_ofRecords records)).inTurn
      (((opened engines policy records hub).turns calls schedule).map calls)
  rw [made] at kept
  exact ⟨c, a, last, kept⟩

theorem Traffic.fits_opened (calls : Nat → Call) (engines : EngineSet) (policy : Policy)
    (records : List Record) (hub : Hub) (schedule : List Nat) {name : String} {e : Edition}
    (live : (((opened engines policy records hub).run calls schedule).slot name).live? = some e) :
    e.script.name = name ∧ engines.supports e.script.language = true := by
  obtain ⟨c, a, behind, coherent⟩ := matches_coherent calls engines policy records hub schedule
  have stands := Slot.live?_eq_some.mp live
  rw [behind.slots name] at stands
  obtain ⟨_, opened⟩ := coherent.record_of_live stands
  obtain ⟨_, _, supported, _⟩ := Slot.ofRecord_eq_live.mp opened
  exact ⟨coherent.titled name e (Slot.live?_eq_some.mpr stands), supported⟩

end ScriptHost
