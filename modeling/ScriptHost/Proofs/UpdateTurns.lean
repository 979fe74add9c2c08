import ScriptHost.Proofs.AllOrNothing
import ScriptHost.Proofs.Revisions

/-!
The turn of an update whose name is live: the step in which its answer is settled. The edition that
the name shows then decides the answer, whatever other calls are under way.
-/
namespace ScriptHost

namespace Catalog

variable {name : String} {s : Script} {patch : Option Json} {x : Int}

theorem checkVersion_of_ne (expects : expectedVersion patch = some x) (other : x ≠ s.version) :
    checkVersion name s patch = .error (.versionConflict name x s.version) := by
  simp only [checkVersion, expects, if_neg other]

theorem checkVersion_of_silent (silent : expectedVersion patch = none) :
    checkVersion name s patch = .ok () := by
  simp only [checkVersion, silent]

end Catalog

theorem Call.alone_update_eq {call : Call} {c : Catalog} {a : MemoryArchive} {name : String}
    {patch : Option Json} {e : Edition} (titled : c.Titled)
    (asked : call.request = .update name patch) (live : c.slot name = .live e) :
    call.alone c a = (Decision.ofUpdate c.engines c.policy call.given name e patch).result
      call.given name c a := by
  have shown : c.get? name = some e := Slot.live?_eq_some.mpr live
  simp only [alone, asked]
  exact update_of_live patch call.given shown (titled name e shown)

namespace Traffic

variable {calls : Nat → Call} {m : Traffic} {i : Nat} {name : String} {patch : Option Json}
  {e : Edition} {r : Answer} {c : Catalog} {a : MemoryArchive} {x : Failure}

/-- A name comes to stand for something else only when a call publishes its change of the name. -/
theorem publishing_of_slot_ne (sound : m.Sound calls)
    (changed : (m.step calls i).slot name ≠ m.slot name) :
    ∃ job k w found, m.stages i = .inside job k (.publishing w found) ∧ job.name = name := by
  cases eq : m.next (calls i) (m.stages i) with
  | none => exact absurd (by simp only [step, eq]) changed
  | some move =>
    obtain ⟨f, s'⟩ := move
    rw [step_of_next eq] at changed
    rcases next_cases eq with ⟨_, _, _, _, rfl, rfl⟩ | ⟨job, k, w, found, stage, rfl, rfl⟩ |
      ⟨quiet, _, _⟩
    · exact absurd rfl changed
    · refine ⟨job, k, w, found, stage, ?_⟩
      by_contra other
      have inside := sound.fits i
      rw [stage] at inside
      change ((Effect.show k w.slot).apply i m).slot name ≠ m.slot name at changed
      rw [slot_show_other sound.indexed (inside.current trivial) fun same => other same.symm]
        at changed
      exact changed rfl
    · exact absurd (slot_quiet sound.indexed (next_allowed (sound.fits i) eq) quiet name) changed

theorem kept_of_shown (h : m.Matches c a) (sound : m.Sound calls)
    (changed : (m.step calls i).slot name ≠ m.slot name) {next : Edition}
    (shown : (m.step calls i).slot name = .live next) :
    (m.step calls i).archive.find? name = some ⟨next.script, false⟩ := by
  obtain ⟨job, k, w, found, stage, rfl⟩ := publishing_of_slot_ne sound changed
  have inside := sound.fits i
  rw [stage] at inside
  have eq : m.next (calls i) (m.stages i) =
      some (.show k w.slot, .inside job k (.leaving (.ok (w.reply found)))) := by
    rw [stage]
    rfl
  rw [step_of_next eq] at shown ⊢
  have stands : w.slot = .live next :=
    (slot_show_self (i := i) (inside.current trivial)).symm.trans shown
  refine (h.stored stage).1.trans ?_
  cases w with
  | keep kept reply =>
    cases stands
    rfl
  | hide _ | remove _ => cases stands

/-- Call `i` is an update of a name that shows `e`, and its answer is settled in its next step. -/
structure UpdateTurn (calls : Nat → Call) (m : Traffic) (i : Nat) (name : String)
    (patch : Option Json) (e : Edition) (r : Answer) : Prop where
  asked : (calls i).request = .update name patch
  live : m.slot name = .live e
  still : m.answer? calls i = none
  settled : (m.step calls i).answer? calls i = some r

def updateDecision (calls : Nat → Call) (m : Traffic) (i : Nat) (name : String)
    (patch : Option Json) (e : Edition) : Decision :=
  .ofUpdate m.engines m.policy (calls i).given name e patch

namespace UpdateTurn

variable (turn : UpdateTurn calls m i name patch e r) (h : m.Matches c a) (sound : m.Sound calls)
include turn h sound

theorem result : ∃ c' a',
    (m.updateDecision calls i name patch e).result (calls i).given name c a = (r, c', a') ∧
      (m.step calls i).Matches c' a' := by
  obtain ⟨c', a', alone, next⟩ := takes_turn h sound turn.still turn.settled
  have live : c.slot name = .live e := (h.slots name).symm.trans turn.live
  rw [Call.alone_update_eq h.titled turn.asked live, h.engines, h.policy] at alone
  exact ⟨c', a', alone, next⟩

theorem failed_iff (own : ∀ y, x ≠ .archive y) :
    r = .error x ↔ m.updateDecision calls i name patch e = .answer (.error x) := by
  obtain ⟨c', a', result, _⟩ := turn.result h sound
  cases decided : m.updateDecision calls i name patch e with
  | answer r' =>
    rw [decided] at result
    have same : r' = r := congrArg Prod.fst result
    rw [same]
    constructor
    · intro failed
      rw [failed]
    · intro failed
      exact Decision.answer.inj failed
  | change w =>
    rw [decided] at result
    refine ⟨fun failed => ?_, fun failed => by cases failed⟩
    cases fault : (calls i).given.fault with
    | some y =>
      simp only [Decision.result, fault] at result
      have same : Except.error (.archive y) = r := congrArg Prod.fst result
      rw [failed] at same
      cases same
      exact absurd rfl (own y)
    | none =>
      simp only [Decision.result, fault] at result
      have same : Except.ok _ = r := congrArg Prod.fst result
      rw [failed] at same
      cases same

theorem change_of_ok {reply : Reply} (succeeds : r = .ok reply) :
    ∃ w, m.updateDecision calls i name patch e = .change w := by
  obtain ⟨c', a', result, _⟩ := turn.result h sound
  cases decided : m.updateDecision calls i name patch e with
  | change w => exact ⟨w, rfl⟩
  | answer r' =>
    rw [decided] at result
    obtain ⟨x, failed, _⟩ := Decision.ofUpdate_answer decided
    have same : r' = r := congrArg Prod.fst result
    rw [failed, succeeds] at same
    cases same

end UpdateTurn

/-- An update that returns, but for one that finds nothing, has had its turn when its name was
live. -/
theorem exists_updateTurn (h : m.Matches c a) (sound : m.Sound calls)
    (idle : m.stages i = .idle) {schedule : List Nat}
    (asked : (calls i).request = .update name patch)
    (done : (m.run calls schedule).stages i = .done r) :
    r = .error (.notFound name) ∨ ∃ before after e, schedule = before ++ i :: after ∧
      UpdateTurn calls (m.run calls before) i name patch e r := by
  have member : i ∈ m.turns calls schedule := by
    refine mem_turns.mpr ⟨answer?_idle idle, ?_⟩
    rw [answer?_done done]
    exact Option.some_ne_none _
  obtain ⟨before, after, rfl, still, turn⟩ := exists_turn member
  obtain ⟨r', settled⟩ := Option.ne_none_iff_exists'.mp turn
  have told : some r' = some r := by
    have stays := answer?_run settled after
    rw [run_append] at done
    exact stays.symm.trans (answer?_done done)
  cases told
  obtain ⟨_, c', a', _, matching, _⟩ := inTurn_turns h sound before
  obtain ⟨_, _, alone, _⟩ := takes_turn matching (sound_run sound before) still settled
  cases live : ((m.run calls before).slot name).live? with
  | some e =>
    exact Or.inr ⟨before, after, e, rfl, asked, Slot.live?_eq_some.mp live, still, settled⟩
  | none =>
    have absent : ((calls i).given.catalog c').get? name = none := by
      rw [matching.slots name] at live
      exact live
    simp only [Call.alone, asked] at alone
    rw [Given.perform_unchanged (r := .error (.notFound name))
      (by simp only [Catalog.update, absent])] at alone
    exact Or.inl (congrArg Prod.fst alone).symm

/-- A call fails with `x` in a run, without a trace. -/
structure Rejected (calls : Nat → Call) (m : Traffic) (schedule : List Nat) (i : Nat)
    (x : Failure) : Prop where
  fails : ∀ {r}, (m.run calls schedule).stages i = .done r → r = .error x
  /-- It has not asked the archive for a change. -/
  asks : (m.run calls schedule).attempts i = 0
  harmless : ∀ {before after}, schedule = before ++ i :: after →
    (m.run calls before).Harmless calls i

theorem rejected_of_settled (sound : m.Sound calls) (counted : m.Counted calls)
    {schedule : List Nat}
    (settled : (m.run calls schedule).answer? calls i = some (.error x))
    (silent : (calls i).changes (.error x) = 0) : Rejected calls m schedule i x where
  fails done := by
    rw [answer?_done done] at settled
    exact Option.some.inj settled
  asks := by
    rw [counted_run sound counted schedule i]
    exact Stage.changes_of_settled settled silent
  harmless := by
    rintro before after rfl
    rw [run_append] at settled
    exact harmless_of_settled (sound_run sound before) settled

end Traffic

end ScriptHost
