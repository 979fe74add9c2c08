import ScriptHost.Proofs.Gates

/-!
What holds in every state that calls can reach, in whatever order they take their steps: every call
fits its stage, a gate is held by the call inside it, and a cell that stands for nothing is still
looked after by some call.
-/
namespace ScriptHost

open Function (update_self update_of_ne)

def Stage.cell? : Stage → Option Nat
  | .inside _ k _ => some k
  | _ => none

def Phase.Attends : Phase → Prop
  | .stale | .releasing _ => False
  | _ => True

def Stage.Attends (name : String) (k : Nat) : Stage → Prop
  | .waiting job c => job.name = name ∧ c = k
  | .inside job c p => (job.name = name ∧ c = k) ∧ p.Attends
  | _ => False

def Effect.Moves (before after : Option Nat) : Effect → Prop
  | .enter k => before = Option.none ∧ after = some k
  | .leave _ => True
  | _ => after = before

theorem Slot.isVacant_ofRecord (engines : EngineSet) (r : Record) :
    (Slot.ofRecord engines r).isVacant = false := by
  simp only [ofRecord]
  split <;> rfl

namespace Catalog

def Occupied (c : Catalog) : Prop := ∀ p ∈ c.slots, p.2 ≠ .vacant

theorem mem_ofRecords {engines : EngineSet} {policy : Policy} {records : List Record}
    {p : String × Slot} (h : p ∈ (ofRecords engines policy records).slots) :
    ∃ r ∈ records, p = (r.script.name, Slot.ofRecord engines r) := by
  obtain ⟨r, member, same⟩ := List.mem_map.mp (Named.mem_ofList h)
  exact ⟨r, member, same.symm⟩

theorem occupied_ofRecords (engines : EngineSet) (policy : Policy) (records : List Record) :
    (ofRecords engines policy records).Occupied := by
  intro p member
  obtain ⟨r, _, rfl⟩ := mem_ofRecords member
  intro vacant
  have occupied := Slot.isVacant_ofRecord engines r
  rw [show Slot.ofRecord engines r = .vacant from vacant] at occupied
  cases occupied

theorem titled_ofRecords (engines : EngineSet) (policy : Policy) (records : List Record) :
    (ofRecords engines policy records).Titled := by
  intro name e shown
  have stands : (Named.find? name (ofRecords engines policy records).slots).getD .vacant =
      .live e := Slot.live?_eq_some.mp shown
  cases found : Named.find? name (ofRecords engines policy records).slots with
  | none => rw [found] at stands; cases stands
  | some s =>
    rw [found] at stands
    obtain ⟨r, _, same⟩ := mem_ofRecords (Named.mem_of_find? found)
    obtain ⟨title, value⟩ := Prod.mk.inj same
    have live : Slot.ofRecord engines r = .live e := value.symm.trans stands
    simp only [Slot.ofRecord] at live
    split at live <;> cases live
    exact title.symm

theorem sorted_ofRecords (engines : EngineSet) (policy : Policy) (records : List Record) :
    Named.Sorted (ofRecords engines policy records).slots := Named.sorted_ofList _

end Catalog

namespace Traffic

structure Sound (calls : Nat → Call) (m : Traffic) : Prop where
  indexed : m.Indexed
  fits : ∀ i, m.Fits (calls i) i (m.stages i)
  manned : ∀ {k i}, (m.cells k).holder = some i → (m.stages i).cell? = some k
  attended : ∀ {name k}, m.index name = some k → (m.cells k).slot = .vacant →
    ∃ i, (m.stages i).Attends name k
  ordered : m.archive.Ordered

variable {calls : Nat → Call} {m : Traffic} {call : Call} {i : Nat} {f : Effect} {s s' : Stage}

theorem next_cell (eq : m.next call s = some (f, s')) : f.Moves s.cell? s'.cell? := by
  cases s with
  | idle => cases eq; rfl
  | admitted d =>
    cases eq
    change Stage.cell? (if _ then _ else _) = none
    split <;> rfl
  | begun =>
    cases eq
    change (m.enter call).cell? = none
    unfold enter
    (repeat' split) <;> rfl
  | running e =>
    cases eq
    change (m.launch call e).cell? = none
    unfold launch
    split <;> rfl
  | unclaimed d =>
    simp only [next] at eq
    split at eq <;> cases eq <;> rfl
  | seeking job =>
    simp only [next] at eq
    split at eq <;> cases eq <;> rfl
  | absent job =>
    simp only [next] at eq
    split at eq <;> cases eq <;> rfl
  | waiting job k =>
    simp only [next] at eq
    split at eq <;> cases eq
    exact ⟨rfl, rfl⟩
  | inside job k p =>
    cases p with
    | storing w =>
      simp only [next, inner] at eq
      split at eq <;> cases eq <;> rfl
    | retiring r =>
      simp only [next, inner] at eq
      split at eq <;> cases eq <;> rfl
    | stale | releasing _ => cases eq; trivial
    | _ => cases eq; rfl
  | telling e lines r => cases lines <;> cases eq <;> rfl
  | done r => cases eq

theorem manned_step (h : m.Sound calls) (eq : m.next (calls i) (m.stages i) = some (f, s'))
    {k j : Nat} (held : ((f.apply i m).cells k).holder = some j) :
    (((f.apply i m).setStage i s').stages j).cell? = some k := by
  have cells := next_cell eq
  have allowed := next_allowed (h.fits i) eq
  -- Who held the gate before has not moved, unless it was the call itself.
  have before : (m.cells k).holder = some j → (j = i → s'.cell? = (m.stages i).cell?) →
      (((f.apply i m).setStage i s').stages j).cell? = some k := by
    intro old same
    have manned := h.manned old
    by_cases mine : j = i
    · rw [mine] at manned ⊢
      rw [stages_setStage_self, same mine]
      exact manned
    · rw [stages_setStage_other mine, Effect.stages_apply]
      exact manned
  cases f with
  | place name =>
    by_cases new : k = m.fresh
    · simp [Effect.apply, new] at held
    · exact before (by simpa [Effect.apply, new] using held) fun _ => cells
  | enter c =>
    by_cases here : k = c
    · subst here
      have mine : i = j := by simpa [Effect.apply, setHolder] using held
      rw [← mine, stages_setStage_self]
      exact cells.2
    · have old : (m.cells k).holder = some j := by
        simpa [Effect.apply, setHolder, here] using held
      refine before old fun mine => ?_
      have manned := h.manned old
      rw [mine, cells.1] at manned
      cases manned
  | leave c =>
    by_cases here : k = c
    · simp [Effect.apply, setHolder, here] at held
    · have old : (m.cells k).holder = some j := by
        simpa [Effect.apply, setHolder, here] using held
      refine before old fun mine => ?_
      have there := h.manned old
      have atC := h.manned allowed
      rw [mine, atC] at there
      exact absurd (Option.some.inj there).symm here
  | «show» c slot =>
    refine before ?_ fun _ => cells
    by_cases here : k = c
    · simpa [Effect.apply, here] using held
    · simpa [Effect.apply, here] using held
  | _ => exact before held fun _ => cells

theorem inner_attends {job : Job} {c : Nat} {p : Phase} (h : m.Inside call i job c p)
    (eq : m.inner call.given job c p = (f, s')) {name : String} {k : Nat}
    (found : (f.apply i m).index name = some k)
    (vacant : ((f.apply i m).cells k).slot = .vacant) :
    s'.Attends name k ∨ m.index name = some k ∧ (m.cells k).slot = .vacant ∧
      ¬ (Stage.inside job c p).Attends name k := by
  have elsewhere : m.index name = some k → (m.cells k).slot = .vacant →
      ¬ (job.name = name ∧ c = k) → s'.Attends name k ∨ m.index name = some k ∧
        (m.cells k).slot = .vacant ∧ ¬ (Stage.inside job c p).Attends name k :=
    fun old slot other => Or.inr ⟨old, slot, fun attends => other attends.1⟩
  by_cases mine : job.name = name ∧ c = k
  · obtain ⟨same, here⟩ := mine
    subst same here
    cases p with
    | entered =>
      -- The cell is still the one of the name, so the call does not turn away from it.
      cases eq
      have shown : m.index job.name = some c := found
      rw [if_pos shown]
      exact Or.inl ⟨⟨rfl, rfl⟩, trivial⟩
    | stale | releasing _ =>
      cases eq
      have slot := (slot_setHolder c c none).symm.trans vacant
      exact Or.inr ⟨found, slot, fun attends => attends.2⟩
    | reading =>
      cases eq
      refine Or.inl ⟨⟨rfl, rfl⟩, ?_⟩
      cases job <;> simp only [Job.decide] <;> (repeat' split) <;> trivial
    | comparing e patch =>
      cases eq
      refine Or.inl ⟨⟨rfl, rfl⟩, ?_⟩
      simp only [Phase.compare]
      split <;> trivial
    | merging e patch =>
      cases eq
      refine Or.inl ⟨⟨rfl, rfl⟩, ?_⟩
      simp only [Phase.merge]
      split <;> trivial
    | compiling e d =>
      cases eq
      refine Or.inl ⟨⟨rfl, rfl⟩, ?_⟩
      simp only [Phase.compile]
      split <;> trivial
    | storing w =>
      simp only [inner] at eq
      split at eq <;> cases eq <;> exact Or.inl ⟨⟨rfl, rfl⟩, trivial⟩
    | publishing w answer =>
      cases eq
      exact Or.inl ⟨⟨rfl, rfl⟩, trivial⟩
    | leaving r =>
      cases eq
      have slot : (m.cells c).slot = .vacant := vacant
      simp only [slot]
      exact Or.inl ⟨⟨rfl, rfl⟩, trivial⟩
    | retiring r =>
      cases eq
      simp only [h.current trivial, if_true, Effect.apply, update_self] at found
      cases found
  · cases p with
    | stale | releasing _ =>
      cases eq
      exact elsewhere found ((slot_setHolder c k none).symm.trans vacant) mine
    | storing w =>
      simp only [inner] at eq
      split at eq <;> cases eq <;> exact elsewhere found vacant mine
    | publishing w answer =>
      cases eq
      have ne : k ≠ c := fun here =>
        mine ⟨(h.owner name (by rw [← here]; exact found)).symm, here.symm⟩
      exact elsewhere found (by simpa [Effect.apply, ne] using vacant) mine
    | retiring r =>
      cases eq
      simp only [h.current trivial, if_true] at found vacant
      have ne : name ≠ job.name := by
        intro same
        simp [Effect.apply, same] at found
      exact elsewhere (by simpa [Effect.apply, ne] using found) vacant mine
    | entered | reading | comparing _ _ | merging _ _ | compiling _ _ | leaving _ =>
      cases eq
      exact elsewhere found vacant mine

/-- When a call stops looking after a cell, or never did, the cell is as it was. -/
theorem next_attends (indexed : m.Indexed) (h : m.Fits call i s)
    (eq : m.next call s = some (f, s')) {name : String} {k : Nat}
    (found : (f.apply i m).index name = some k)
    (vacant : ((f.apply i m).cells k).slot = .vacant) :
    s'.Attends name k ∨
      m.index name = some k ∧ (m.cells k).slot = .vacant ∧ ¬ s.Attends name k := by
  cases s with
  | idle | begun | admitted _ | running _ =>
    cases eq
    exact Or.inr ⟨found, vacant, id⟩
  | unclaimed d =>
    simp only [next] at eq
    split at eq <;> cases eq <;> exact Or.inr ⟨found, vacant, id⟩
  | seeking job =>
    simp only [next] at eq
    split at eq <;> cases eq <;> exact Or.inr ⟨found, vacant, id⟩
  | absent job =>
    simp only [next] at eq
    split at eq <;> cases eq
    · exact Or.inr ⟨found, vacant, id⟩
    · by_cases same : name = job.name
      · have new : m.fresh = k := by simpa [Effect.apply, same] using found
        exact Or.inl ⟨same.symm, new⟩
      · have old : m.index name = some k := by simpa [Effect.apply, same] using found
        have ne : k ≠ m.fresh := by have := indexed.made old; omega
        have slot : (m.cells k).slot = .vacant := by simpa [Effect.apply, ne] using vacant
        exact Or.inr ⟨old, slot, id⟩
  | waiting job c =>
    simp only [next] at eq
    split at eq <;> cases eq
    have slot := (slot_setHolder c k (some i)).symm.trans vacant
    by_cases mine : job.name = name ∧ c = k
    · exact Or.inl ⟨mine, trivial⟩
    · exact Or.inr ⟨found, slot, mine⟩
  | inside job c p => exact inner_attends h (Option.some.inj eq) found vacant
  | telling e lines r => cases lines <;> cases eq <;> exact Or.inr ⟨found, vacant, id⟩
  | done r => cases eq

theorem attended_step (h : m.Sound calls) (eq : m.next (calls i) (m.stages i) = some (f, s'))
    {name : String} {k : Nat} (found : (f.apply i m).index name = some k)
    (vacant : ((f.apply i m).cells k).slot = .vacant) :
    ∃ j, (((f.apply i m).setStage i s').stages j).Attends name k := by
  rcases next_attends h.indexed (h.fits i) eq found vacant with mover | ⟨old, slot, notMine⟩
  · exact ⟨i, by rw [stages_setStage_self]; exact mover⟩
  · obtain ⟨j, attends⟩ := h.attended old slot
    have other : j ≠ i := by
      intro same
      rw [same] at attends
      exact notMine attends
    exact ⟨j, by rw [stages_setStage_other other, Effect.stages_apply]; exact attends⟩

theorem fits_setStage {j : Nat} {t : Stage} (h : m.Fits call j s) :
    (m.setStage i t).Fits call j s := by
  cases s with
  | inside job k p =>
    exact h.transfer rfl rfl (Nat.le_refl _) rfl (fun _ => id) fun found _ => found
  | _ => exact h

theorem sound_step (h : m.Sound calls) (i : Nat) : (m.step calls i).Sound calls := by
  unfold step
  cases eq : m.next (calls i) (m.stages i) with
  | none => exact h
  | some move =>
    obtain ⟨f, s'⟩ := move
    have allowed := next_allowed (h.fits i) eq
    have indexed := Effect.indexed_apply h.indexed allowed
    refine ⟨⟨indexed.made, indexed.once⟩, fun j => ?_, manned_step h eq, attended_step h eq, ?_⟩
    · apply fits_setStage
      by_cases mine : j = i
      · subst mine
        rw [stages_setStage_self]
        exact next_fits h.indexed (h.fits j) eq
      · rw [stages_setStage_other mine, Effect.stages_apply]
        exact Effect.fits_apply mine allowed (h.fits j)
    · cases f with
      | store name w => exact Change.ordered_store h.ordered
      | _ => exact h.ordered

theorem sound_run (h : m.Sound calls) (schedule : List Nat) :
    (m.run calls schedule).Sound calls := by
  induction schedule generalizing m with
  | nil => exact h
  | cons i rest ih => exact ih (sound_step h i)

theorem name_of_place {name : String} {slots : List (String × Slot)} {k : Nat}
    (found : place name slots = some k) : ∃ s, slots[k]? = some (name, s) := by
  obtain ⟨bound, here, _⟩ := List.findIdx?_eq_some_iff_getElem.mp found
  have same : slots[k].1 = name := by simpa using here
  exact ⟨slots[k].2, by rw [List.getElem?_eq_getElem bound, ← same]⟩

theorem bind_place (name : String) (slots : List (String × Slot)) :
    ((place name slots).bind fun k => slots[k]?.map Prod.snd) = Named.find? name slots := by
  induction slots with
  | nil => rfl
  | cons p slots ih =>
    by_cases same : p.1 = name
    · simp [place, List.findIdx?_cons, Named.find?, same]
    · have later : place name (p :: slots) = (place name slots).map (· + 1) := by
        simp [place, List.findIdx?_cons, same]
      rw [later, Named.find?, if_neg same, ← ih]
      cases place name slots <;> rfl

theorem slot_ofCatalog (c : Catalog) (a : MemoryArchive) (hub : Hub) (name : String) :
    (ofCatalog c a hub).slot name = c.slot name := by
  rw [Catalog.slot, ← bind_place]
  cases found : place name c.slots with
  | none => simp only [slot, ofCatalog, found, Option.bind_none, Option.getD_none]
  | some k => simp only [slot, ofCatalog, found, Option.bind_some]

theorem sound_ofCatalog {c : Catalog} {a : MemoryArchive} (occupied : c.Occupied)
    (ordered : a.Ordered) (hub : Hub) : (ofCatalog c a hub).Sound calls where
  indexed := by
    refine ⟨fun {name k} found => ?_, fun {name other k} found again => ?_⟩
    · obtain ⟨s, here⟩ := name_of_place found
      exact (List.getElem?_eq_some_iff.mp here).1
    · obtain ⟨s, here⟩ := name_of_place found
      obtain ⟨t, there⟩ := name_of_place again
      rw [here] at there
      exact congrArg Prod.fst (Option.some.inj there)
  fits i := trivial
  manned held := by cases held
  attended {name k} found vacant := by
    obtain ⟨s, here⟩ := name_of_place found
    have slot : s = .vacant := by simpa [ofCatalog, here] using vacant
    exact absurd slot (occupied _ (List.mem_of_getElem? here))
  ordered := ordered

/-- Every state that calls can reach is sound. -/
theorem sound_opened (calls : Nat → Call) (engines : EngineSet) (policy : Policy)
    (records : List Record) (hub : Hub) (schedule : List Nat) :
    ((opened engines policy records hub).run calls schedule).Sound calls :=
  sound_run (sound_ofCatalog (Catalog.occupied_ofRecords engines policy _)
    (MemoryArchive.ordered_ofRecords records) hub) schedule

end Traffic

end ScriptHost
