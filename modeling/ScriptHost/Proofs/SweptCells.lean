import ScriptHost.Proofs.AllOrNothing
import ScriptHost.Proofs.Completion
import ScriptHost.Proofs.LockRounds
import ScriptHost.Proofs.Reopening

/-!
Cells that stand for nothing do not pile up. A call that comes to a name without a script makes a
cell for it, whatever becomes of the call; and whoever drops the lock of a name takes away the cell
if the name still stands for nothing. So there is such a cell only while some call is on its way to
the lock of the name or has it, and there is none when the calls have run to their ends.
-/
namespace ScriptHost

def Stage.underWay : Stage → Bool
  | .idle | .done _ => false
  | _ => true

theorem Stage.underWay_eq_false {s : Stage} :
    s.underWay = false ↔ s = .idle ∨ ∃ r, s = .done r := by
  cases s with
  | idle => exact iff_of_true rfl (.inl rfl)
  | done r => exact iff_of_true rfl (.inr ⟨r, rfl⟩)
  | _ =>
    refine iff_of_false (fun returned => by cases returned) ?_
    rintro (idle | ⟨r, done⟩)
    · cases idle
    · cases done

namespace Traffic

/-- Call `i` is locking a name with cell `k`, or holds its lock: it waits at the gate, has just come
inside, or has found the cell current. -/
def Tends (m : Traffic) (i : Nat) (name : String) (k : Nat) : Prop :=
  m.WaitsAt i name k ∨ m.Checks i name k ∨ m.Locks i name k

/-- No cell is left that the name does not need. -/
structure Swept (engines : EngineSet) (m : Traffic) (name : String) : Prop where
  /-- The name has a cell exactly if it is live or deleted. -/
  taken : m.index name ≠ none ↔ ∃ e, m.slot name = .live e ∨ m.slot name = .deleted e
  /-- It has one exactly if the archive keeps a record of it, deleted or not; and the cell stands
  for what this record is opened as. -/
  kept : m.cell? name = (m.archive.find? name).map (Slot.ofRecord engines)

variable {calls : Nat → Call} {m : Traffic} {i k : Nat} {name : String} {engines : EngineSet}

theorem tends_of_attends (attends : (m.stages i).Attends name k) : m.Tends i name k := by
  unfold Tends WaitsAt Checks Locks
  cases here : m.stages i with
  | waiting job c =>
    rw [here] at attends
    obtain ⟨rfl, rfl⟩ := attends
    exact .inl rfl
  | inside job c p =>
    rw [here] at attends
    obtain ⟨⟨rfl, rfl⟩, attending⟩ := attends
    cases p with
    | entered => exact .inr (.inl rfl)
    | stale | releasing _ => cases attending
    | _ => exact .inr (.inr rfl)
  | _ =>
    rw [here] at attends
    cases attends

theorem Tends.underWay (tends : m.Tends i name k) : (m.stages i).underWay = true := by
  rcases tends with waits | checks | locks
  · obtain ⟨job, here, -⟩ := Stage.gate?_eq_some.mp waits
    rw [here]
    rfl
  · obtain ⟨job, here, -⟩ := Stage.entered?_eq_some.mp checks
    rw [here]
    rfl
  · obtain ⟨job, p, here, -, -⟩ := Stage.lock?_eq_some.mp locks
    rw [here]
    rfl

theorem Tends.changes (tends : m.Tends i name k) (sound : m.Sound calls) :
    (calls i).request.changes? = some name := by
  rcases tends with waits | checks | locks
  · exact waits.changes sound
  · exact checks.changes sound
  · exact locks.changes sound

theorem resting_iff : m.Resting ↔ ∀ i, (m.stages i).underWay = false :=
  forall_congr' fun _ => Stage.underWay_eq_false.symm

theorem mem_of_underWay (resting : m.Resting) {schedule : List Nat}
    (underWay : ((m.run calls schedule).stages i).underWay = true) : i ∈ schedule := by
  by_contra absent
  rw [stages_run_other absent, resting_iff.mp resting i] at underWay
  cases underWay

theorem resting_run_iff (resting : m.Resting) {schedule : List Nat} :
    (m.run calls schedule).Resting ↔
      ∀ i ∈ schedule, ((m.run calls schedule).stages i).underWay = false := by
  rw [resting_iff]
  refine ⟨fun all i _ => all i, fun returned i => ?_⟩
  by_contra still
  have underWay := Bool.eq_true_of_not_eq_false still
  exact still (returned i (mem_of_underWay resting underWay))

/-! ### Cells that stand for nothing -/

theorem exists_tends (sound : m.Sound calls) (shown : m.index name = some k)
    (vacant : (m.cells k).slot = .vacant) : ∃ i, m.Tends i name k := by
  -- Every step keeps this: a call that turns away from such a cell leaves it to another one, or it
  -- has taken it away.
  obtain ⟨i, attends⟩ := sound.attended shown vacant
  exact ⟨i, tends_of_attends attends⟩

/-- A cell is taken away by the call that has the lock of the name, and only if the name stands for
nothing. -/
theorem vacant_of_gone (sound : m.Sound calls) (shown : m.index name = some k)
    (gone : (m.step calls i).index name ≠ some k) :
    m.Locks i name k ∧ (m.cells k).slot = .vacant := by
  obtain ⟨locks, ended, -⟩ := retires_of_gone sound shown gone
  obtain ⟨-, -, ⟨-, kept⟩ | ⟨vacant, -⟩⟩ := locks.ends sound ended
  · rw [kept] at gone
    exact absurd shown gone
  · exact ⟨locks, vacant⟩

theorem cell?_eq_vacant : m.cell? name = some .vacant ↔
    ∃ k, m.index name = some k ∧ (m.cells k).slot = .vacant := Option.map_eq_some_iff

/-- A call tends one name only, so there are no more cells for nothing than calls under way. -/
theorem card_vacant_le (sound : m.Sound calls) {made : Finset Nat}
    (only : ∀ i, (m.stages i).underWay = true → i ∈ made) {names : Finset String}
    (vacant : ∀ name ∈ names, m.cell? name = some .vacant) :
    names.card ≤ (made.filter fun i => (m.stages i).underWay).card := by
  have covers : Set.SurjOn (fun i => (calls i).request.changes?)
      (made.filter fun i => (m.stages i).underWay) (names.map .some) := by
    intro change member
    obtain ⟨name, among, rfl⟩ := Finset.mem_map.mp member
    obtain ⟨k, shown, stands⟩ := cell?_eq_vacant.mp (vacant name among)
    obtain ⟨i, tends⟩ := exists_tends sound shown stands
    exact ⟨i, Finset.mem_filter.mpr ⟨only i tends.underWay, tends.underWay⟩, tends.changes sound⟩
  calc names.card = (names.map .some).card := (Finset.card_map _).symm
    _ ≤ _ := Finset.card_le_card_of_surjOn _ covers

theorem tends_of_publishes (publishes : (m.stages i).Publishes name) : ∃ k, m.Tends i name k := by
  cases here : m.stages i with
  | inside job k p =>
    rw [here] at publishes
    cases p with
    | publishing w found =>
      cases publishes
      exact ⟨k, .inr (.inr (by rw [Locks, here]; rfl))⟩
    | _ => cases publishes
  | _ =>
    rw [here] at publishes
    cases publishes

variable {policy : Policy} {c : Catalog} {a : MemoryArchive}

theorem swept_of_untended (sound : m.Sound calls) (behind : m.Matches c a)
    (coherent : Catalog.Coherent engines policy c a) (untended : ∀ i k, ¬ m.Tends i name k) :
    m.Swept engines name := by
  have cell := cell?_unattended sound fun i k attends => untended i k (tends_of_attends attends)
  have archive : m.archive.find? name = a.find? name := by
    refine behind.kept name fun i publishes => ?_
    obtain ⟨k, tends⟩ := tends_of_publishes publishes
    exact untended i k tends
  have stands : m.slot name = .ofFound engines (m.archive.find? name) := by
    rw [behind.slots, coherent.slots, archive]
  constructor
  · have shown : m.index name ≠ none ↔ m.cell? name ≠ none := by simp [cell?]
    rw [shown, cell]
    cases m.slot name with
    | vacant => simp [Slot.isVacant]
    | live e => simp [Slot.isVacant]
    | deleted e => simp [Slot.isVacant]
  · rw [cell, stands]
    cases m.archive.find? name with
    | none => rfl
    | some r => simp [Slot.ofFound, Slot.isVacant_ofRecord]

/-- However the calls take their steps, a cell that stands for nothing is one that a call under way
is locking its name with, or has locked it with. So there are no more such cells than calls under
way. Only the call with the lock takes a cell away, and only one that stands for nothing. When
nobody is under way, exactly the live and the deleted names have a cell; and the calls can always go
on until then. -/
theorem swept_opened (calls : Nat → Call) (engines : EngineSet) (policy : Policy)
    (records : List Record) (hub : Hub) (schedule : List Nat) :
    let m := (opened engines policy records hub).run calls schedule
    (∀ name k, m.index name = some k → (m.cells k).slot = .vacant →
      ∃ i ∈ schedule, (m.stages i).underWay = true ∧ m.Tends i name k) ∧
    (∀ names : Finset String, (∀ name ∈ names, m.cell? name = some .vacant) →
      names.card ≤ (schedule.toFinset.filter fun i => (m.stages i).underWay).card) ∧
    (∀ i name k, m.index name = some k → (m.step calls i).index name ≠ some k →
      m.Locks i name k ∧ (m.cells k).slot = .vacant) ∧
    (m.Resting → ∀ name, m.Swept engines name) ∧
    ∃ more, (∀ i ∈ more, i ∈ schedule) ∧ (m.run calls more).Resting := by
  intro m
  have sound : m.Sound calls := sound_opened calls engines policy records hub schedule
  have first : (opened engines policy records hub).Resting := fun _ => .inl rfl
  have made (i : Nat) (underWay : (m.stages i).underWay = true) : i ∈ schedule :=
    mem_of_underWay first underWay
  refine ⟨fun name k shown vacant => ?_, fun names vacant => ?_,
    fun i name k shown gone => vacant_of_gone sound shown gone, fun resting name => ?_,
    exists_completion sound fun i absent => ?_⟩
  · obtain ⟨i, tends⟩ := exists_tends sound shown vacant
    exact ⟨i, made i tends.underWay, tends.underWay, tends⟩
  · exact card_vacant_le sound (fun i underWay => List.mem_toFinset.mpr (made i underWay)) vacant
  · obtain ⟨c, a, behind, coherent⟩ := matches_coherent calls engines policy records hub schedule
    refine swept_of_untended sound behind coherent fun i k tends => ?_
    have returned := resting_iff.mp resting i
    rw [tends.underWay] at returned
    cases returned
  · rw [stages_run_other absent]
    exact first i

def shelf : List Record :=
  let script (name : String) : Script := ⟨name, "return 1", .lua, none, true, 0, .epoch, .epoch⟩
  [⟨script "b", false⟩, ⟨script "c", true⟩, ⟨script "d", false⟩]

def strangers (i : Nat) : Call :=
  let body : Json := .obj [("code", .str "return 1"), ("lang", .str "lua"), ("name", .str "a")]
  let given : Given := ⟨.epoch, fun _ _ => .done (), none⟩
  match i with
  | 0 => ⟨.create (some body), { given with fault := some (.backend "gone") }⟩
  | 1 => ⟨.update "a" none, given⟩
  | 2 => ⟨.activate "a" true, given⟩
  | 3 => ⟨.delete "a", given⟩
  | 4 => ⟨.forceDelete "a", given⟩
  | _ => ⟨.forceDelete "d", given⟩

def crowded : List Nat :=
  List.replicate 6 0 ++ List.replicate 3 1 ++ List.replicate 3 2 ++ List.replicate 9 5

def cleared : List Nat :=
  crowded ++ List.replicate 8 0 ++ List.replicate 16 1 ++ List.replicate 16 2 ++
    List.replicate 16 3 ++ List.replicate 16 4 ++ List.replicate 8 5

theorem swept_opened_strangers :
    let engines : EngineSet :=
      ⟨[⟨.lua, fun _ => .done (), fun source _ => .done ⟨.str source, []⟩⟩]⟩
    let before := (opened engines ⟨true, 5000⟩ shelf ⟨256, [], 0⟩).run strangers crowded
    let after := (opened engines ⟨true, 5000⟩ shelf ⟨256, [], 0⟩).run strangers cleared
    (before.index "a" = some 3 ∧ (before.cells 3).slot = .vacant ∧
      ∃ i ∈ crowded, (before.stages i).underWay = true ∧ before.Tends i "a" 3) ∧
    ((∀ name ∈ ({"a", "d"} : Finset String), before.cell? name = some .vacant) ∧
      2 ≤ (crowded.toFinset.filter fun i => (before.stages i).underWay).card) ∧
    (before.index "d" = some 2 ∧ (before.step strangers 5).index "d" ≠ some 2 ∧
      before.Locks 5 "d" 2 ∧ (before.cells 2).slot = .vacant) ∧
    (after.Resting ∧ ["a", "b", "c", "d"].map after.index = [none, some 0, some 1, none] ∧
      ∀ name, after.Swept engines name) := by
  intro engines before after
  obtain ⟨manned, few, mine, -⟩ :=
    swept_opened strangers engines ⟨true, 5000⟩ shelf ⟨256, [], 0⟩ crowded
  obtain ⟨-, -, -, swept, -⟩ :=
    swept_opened strangers engines ⟨true, 5000⟩ shelf ⟨256, [], 0⟩ cleared
  have shown : before.index "a" = some 3 := by decide +kernel
  have stands : (before.cells 3).slot = .vacant := by decide +kernel
  have vacant : ∀ name ∈ ({"a", "d"} : Finset String), before.cell? name = some .vacant := by
    decide +kernel
  have removed : before.index "d" = some 2 := by decide +kernel
  have gone : (before.step strangers 5).index "d" ≠ some 2 := by decide +kernel
  have resting : after.Resting := (resting_run_iff fun _ => .inl rfl).mpr (by decide +kernel)
  exact ⟨⟨shown, stands, manned "a" 3 shown stands⟩, ⟨vacant, few {"a", "d"} vacant⟩,
    ⟨removed, gone, mine 5 "d" 2 removed gone⟩, resting, by decide +kernel, swept resting⟩

end Traffic

end ScriptHost
