import ScriptHost.Proofs.Attempts
import ScriptHost.Proofs.Progress

/-!
No step of a call that returns a failure changes what a name stands for or what the archive keeps. A
call that is made while no other one is under way returns, and then the cells are as before too.
-/
namespace ScriptHost

namespace Traffic

variable {calls : Nat → Call} {m : Traffic} {i : Nat}

def cell? (m : Traffic) (name : String) : Option Slot :=
  (m.index name).map fun k => (m.cells k).slot

theorem cell?_unattended (sound : m.Sound calls) {name : String}
    (unattended : ∀ i k, ¬ (m.stages i).Attends name k) :
    m.cell? name = if (m.slot name).isVacant then none else some (m.slot name) := by
  unfold cell? slot
  cases found : m.index name with
  | none => rfl
  | some k =>
    cases stands : (m.cells k).slot with
    | vacant =>
      obtain ⟨i, attends⟩ := sound.attended found stands
      exact absurd attends (unattended i k)
    | live e => simp [stands, Slot.isVacant]
    | deleted e => simp [stands, Slot.isVacant]

theorem cell?_resting (sound : m.Sound calls) (resting : m.Resting) (name : String) :
    m.cell? name = if (m.slot name).isVacant then none else some (m.slot name) := by
  refine cell?_unattended sound fun i k attends => ?_
  rcases resting i with idle | ⟨r, done⟩
  · rw [idle] at attends
    exact attends
  · rw [done] at attends
    exact attends

theorem publishing_run {job : Job} {k : Nat} {w : Change} {found : Bool}
    (stage : m.stages i = .inside job k (.publishing w found)) (schedule : List Nat) :
    (m.run calls schedule).stages i = .inside job k (.publishing w found) ∨
      (m.run calls schedule).answer? calls i = some (.ok (w.reply found)) := by
  induction schedule generalizing m with
  | nil => exact Or.inl stage
  | cons j rest ih =>
    by_cases mine : i = j
    · subst mine
      refine Or.inr (answer?_run ?_ rest)
      have eq : m.next (calls i) (m.stages i) =
          some (.show k w.slot, .inside job k (.leaving (.ok (w.reply found)))) := by
        rw [stage]
        rfl
      rw [step_of_next eq, answer?, stages_setStage_self]
      rfl
    · exact ih ((stages_step_other mine).trans stage)

/-- The next step of a call leaves what every name stands for, and the archive, as they were. -/
def Harmless (calls : Nat → Call) (m : Traffic) (i : Nat) : Prop :=
  (∀ name, (m.step calls i).slot name = m.slot name) ∧ (m.step calls i).archive = m.archive

theorem harmless_of_settled (sound : m.Sound calls) {after : List Nat} {x : Failure}
    (settled : ((m.step calls i).run calls after).answer? calls i = some (.error x)) :
    m.Harmless calls i := by
  cases eq : m.next (calls i) (m.stages i) with
  | none => simp only [Harmless, step, eq, implies_true, and_self]
  | some move =>
    obtain ⟨f, s'⟩ := move
    have after_publishing : ∀ {job k w found},
        (m.step calls i).stages i = .inside job k (.publishing w found) → False := by
      intro job k w found stage
      rcases publishing_run stage after with still | success
      · rw [answer?, still] at settled
        cases settled
      · rw [settled] at success
        cases success
    rcases next_cases eq with ⟨job, k, w, _, _, rfl⟩ | ⟨job, k, w, found, _, rfl, rfl⟩ |
      ⟨quiet, _, _⟩
    · exact (after_publishing (by rw [step_of_next eq, stages_setStage_self])).elim
    · have success : (m.step calls i).answer? calls i = some (.ok (w.reply found)) := by
        rw [step_of_next eq, answer?, stages_setStage_self]
        rfl
      rw [answer?_run success after] at settled
      cases settled
    · unfold Harmless
      rw [step_of_next eq]
      exact ⟨slot_quiet sound.indexed (next_allowed (sound.fits i) eq) quiet, archive_quiet quiet⟩

theorem harmless_of_failure (sound : m.Sound calls) {after : List Nat} {x : Failure}
    (failed : ((m.step calls i).run calls after).stages i = .done (.error x)) :
    m.Harmless calls i := harmless_of_settled sound (answer?_done failed)

theorem unchanged_of_failure (sound : m.Sound calls) {steps : Nat} {x : Failure}
    (failed : (m.run calls (List.replicate steps i)).stages i = .done (.error x)) :
    (∀ name, (m.run calls (List.replicate steps i)).slot name = m.slot name) ∧
      (m.run calls (List.replicate steps i)).archive = m.archive := by
  induction steps generalizing m with
  | zero => exact ⟨fun _ => rfl, rfl⟩
  | succ steps ih =>
    have first := harmless_of_failure sound failed
    obtain ⟨slots, archive⟩ := ih (sound_step sound i) failed
    exact ⟨fun name => (slots name).trans (first.1 name), archive.trans first.2⟩

def failure? (m : Traffic) (i : Nat) : Option Failure := (m.stages i).failure?

theorem stages_of_failure? {x : Failure} (told : m.failure? i = some x) :
    m.stages i = .done (.error x) :=
  Stage.failure?_eq_some.mp told

/-- What a call that is made while nobody else is under way comes to. -/
structure Alone (calls : Nat → Call) (m : Traffic) (i steps : Nat) (r : Answer) : Prop where
  returns : (m.run calls (List.replicate steps i)).stages i = .done r
  /-- It asks the archive for a change as often as its answer tells. -/
  asks : (m.run calls (List.replicate steps i)).attempts i = (calls i).changes r
  /-- A failure leaves every name and its cell as they were. -/
  cells : ∀ x, r = .error x → ∀ name,
    (m.run calls (List.replicate steps i)).cell? name = m.cell? name
  /-- A failure leaves the archive as it was. -/
  archive : ∀ x, r = .error x → (m.run calls (List.replicate steps i)).archive = m.archive

theorem Alone.answer {steps n : Nat} {r r' : Answer} (alone : Alone calls m i steps r)
    (done : (m.run calls (List.replicate n i)).stages i = .done r') : r = r' := by
  have later {k l : Nat} {s : Answer} (le : k ≤ l)
      (done : (m.run calls (List.replicate k i)).stages i = .done s) :
      (m.run calls (List.replicate l i)).answer? calls i = some s := by
    obtain ⟨more, rfl⟩ := Nat.exists_eq_add_of_le le
    rw [← List.replicate_append_replicate, run_append]
    exact answer?_run (answer?_done done) _
  rcases Nat.le_total steps n with le | le
  · exact Option.some.inj ((later le alone.returns).symm.trans (answer?_done done))
  · exact Option.some.inj ((answer?_done alone.returns).symm.trans (later le done))

theorem alone_of_resting (sound : m.Sound calls) (counted : m.Counted calls)
    (resting : m.Resting) (idle : m.stages i = .idle) : ∃ steps r, Alone calls m i steps r := by
  obtain ⟨r, m', returns⟩ := exists_returns sound resting idle
  have later := returns.sound sound
  have restingLater := returns.resting resting
  obtain ⟨⟨steps, rfl⟩, done⟩ := returns
  have asks := counted_run sound counted (List.replicate steps i) i
  rw [done] at asks
  refine ⟨steps, r, done, asks, ?_, ?_⟩
  · rintro x rfl name
    rw [cell?_resting later restingLater, cell?_resting sound resting,
      (unchanged_of_failure sound done).1 name]
  · rintro x rfl
    exact (unchanged_of_failure sound done).2

/-- A call that has returned has asked the archive as often as its answer tells, and no step of a
call that has failed has changed what a name stands for or what the archive keeps. A call that is
made when all earlier ones have returned returns itself, and its failure leaves no trace at all. -/
theorem all_or_nothing (calls : Nat → Call) (engines : EngineSet) (policy : Policy)
    (records : List Record) (hub : Hub) (schedule : List Nat) (i : Nat) :
    let m := opened engines policy records hub
    let last := m.run calls schedule
    (∀ r, last.stages i = .done r → last.attempts i = (calls i).changes r) ∧
    (∀ x before after, schedule = before ++ i :: after → last.stages i = .done (.error x) →
      (m.run calls before).Harmless calls i) ∧
    (last.Resting → last.stages i = .idle → ∃ steps r, Alone calls last i steps r) := by
  intro m last
  have first : m.Sound calls := sound_opened calls engines policy records hub []
  have counted : last.Counted calls := counted_run first (fun _ => rfl) schedule
  refine ⟨fun r done => ?_, ?_, alone_of_resting (sound_run first schedule) counted⟩
  · have asks := counted i
    rw [done] at asks
    exact asks
  · rintro x before after rfl failed
    have parts : last = ((m.run calls before).step calls i).run calls after :=
      run_append before (i :: after)
    rw [parts] at failed
    exact harmless_of_failure (sound_run first before) failed

theorem all_or_nothing_failing_delete :
    let engines : EngineSet :=
      ⟨[⟨.lua, fun _ => .done (), fun source _ => .done ⟨.str source, []⟩⟩]⟩
    let script : Script := ⟨"a", "return 1", .lua, none, true, 4, .epoch, .epoch⟩
    let call : Call := ⟨.forceDelete "a", ⟨.epoch, fun _ _ => .done (), some (.backend "gone")⟩⟩
    let gone : Failure := .archive (.backend "gone")
    let m := opened engines ⟨true, 5000⟩ [⟨script, false⟩] ⟨256, [], 0⟩
    m.slot "a" = .live ⟨script, "return 1"⟩ ∧
      (m.run (fun _ => call) (List.replicate 16 0)).failure? 0 = some gone ∧
      (∀ before after, List.replicate 16 0 = before ++ 0 :: after →
        (m.run (fun _ => call) before).Harmless (fun _ => call) 0) ∧
      call.changes (.error gone) = 1 ∧ ∃ steps, Alone (fun _ => call) m 0 steps (.error gone) := by
  intro engines script call gone m
  have failed : (m.run (fun _ => call) (List.replicate 16 0)).failure? 0 = some gone := by
    decide +kernel
  obtain ⟨-, harmless, -⟩ := all_or_nothing (fun _ => call) engines ⟨true, 5000⟩
    [⟨script, false⟩] ⟨256, [], 0⟩ (List.replicate 16 0) 0
  obtain ⟨steps, r, alone⟩ : ∃ steps r, Alone (fun _ => call) m 0 steps r :=
    (all_or_nothing (fun _ => call) engines ⟨true, 5000⟩ [⟨script, false⟩] ⟨256, [], 0⟩ [] 0).2.2
      (fun _ => Or.inl rfl) rfl
  cases alone.answer (stages_of_failure? failed)
  exact ⟨by decide, failed, fun before after parts =>
    harmless gone before after parts (stages_of_failure? failed), by decide, steps, alone⟩

end Traffic

end ScriptHost
