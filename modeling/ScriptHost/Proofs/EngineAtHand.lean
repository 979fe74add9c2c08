import Mathlib.Data.List.Induction
import ScriptHost.Proofs.Isolation
import ScriptHost.Proofs.UpdateTurns

/-!
The engine of a language is there whenever a call asks for it. A body is admitted only in a language
that has an engine, and a name shows only scripts in such a language, so that no call ever fails for
want of an engine.
-/
namespace ScriptHost

def Failure.OfEngine : Failure → Prop
  | .internal text => ∃ cause, text = "engine I/O failure: " ++ cause
  | _ => True

def Answer.Served (r : Answer) : Prop := ∀ f, r = .error f → f.OfEngine

def Phase.Equipped (engines : EngineSet) : Phase → Prop
  | .compiling _ d => engines.supports d.language = true
  | .leaving r | .retiring r | .releasing r => Answer.Served r
  | _ => True

/-- What a call still asks an engine for is a language that has one. -/
def Stage.Equipped (engines : EngineSet) : Stage → Prop
  | .admitted d | .unclaimed d => engines.supports d.language = true
  | .inside _ _ p => p.Equipped engines
  | .running e => engines.supports e.script.language = true
  | .telling _ _ r | .done r => Answer.Served r
  | _ => True

namespace Failure

theorem not_ofEngine_missing (rest : String) :
    ¬ OfEngine (.internal ("no engine registered" ++ rest)) := by
  rintro ⟨cause, same⟩
  have chars := congrArg String.toList same
  simp at chars

theorem ofEngine_ofEngine (name : String) (x : EngineError) : (ofEngine name x).OfEngine := by
  cases x with
  | io text => exact ⟨text, rfl⟩
  | compile _ | eval _ | timeout _ => trivial

end Failure

namespace Answer

theorem served_ok (reply : Reply) : Served (.ok reply) := fun _ same => by cases same

theorem served_error {f : Failure} (own : f.OfEngine) : Served (.error f) := by
  intro _ same
  cases same
  exact own

end Answer

variable {engines : EngineSet} {policy : Policy} {g : Given}

theorem Given.compile_served {d : Admitted} (supported : engines.supports d.language = true)
    {f : Failure} (failed : g.compile engines policy d = .error f) : f.OfEngine := by
  obtain ⟨engine, speaks⟩ := Option.isSome_iff_exists.mp supported
  simp only [Given.compile, Catalog.compile, EngineSet.get?_checkedBy, speaks,
    Option.map_some] at failed
  unfold Catalog.compileVerdict at failed
  split at failed <;> cases failed
  · trivial
  · exact Failure.ofEngine_ofEngine d.name _
  · trivial

theorem Evaluation.answer_served {e : Edition} {input : Json} {timeoutMs : Nat}
    (supported : engines.supports e.script.language = true) :
    Answer.Served (answer engines e input timeoutMs) := by
  obtain ⟨engine, speaks⟩ := Option.isSome_iff_exists.mp supported
  cases active : e.script.active with
  | false =>
    rw [answer_inactive active]
    exact Answer.served_error trivial
  | true =>
    rw [answer_active active speaks]
    unfold verdict
    split
    · exact Answer.served_ok _
    · exact Answer.served_error (Failure.ofEngine_ofEngine e.script.name _)
    · exact Answer.served_error trivial

namespace Phase

theorem equipped_compare (name : String) (e : Edition) (patch : Option Json) :
    (compare name e patch).Equipped engines := by
  unfold compare
  split
  · rename_i f checked
    unfold Catalog.checkVersion at checked
    repeat' split at checked
    all_goals cases checked
    exact Answer.served_error trivial
  · trivial

theorem equipped_merge (e : Edition) (patch : Option Json) :
    (merge engines e patch).Equipped engines := by
  unfold merge
  split
  · rename_i f refused
    unfold Catalog.merge at refused
    repeat' split at refused
    all_goals
      cases refused
      try exact Answer.served_error trivial
  · rename_i d merged
    obtain ⟨_, _, admitted, _⟩ := Catalog.merge_eq_ok merged
    obtain ⟨_, _, reads⟩ := Admission.reads_of_review admitted
    exact reads.supported

theorem equipped_compile {e : Edition} {d : Admitted}
    (supported : engines.supports d.language = true) :
    (compile engines policy g e d).Equipped engines := by
  unfold compile
  split
  · rename_i failed
    exact Answer.served_error (Given.compile_served supported failed)
  · trivial

theorem equipped_decide (job : Job) (s : Slot) : (job.decide policy g s).Equipped engines := by
  cases job <;> simp only [Job.decide] <;> (repeat' split)
  all_goals first
    | trivial
    | exact Answer.served_ok _
    | exact Answer.served_error trivial

end Phase

namespace Traffic

variable {m : Traffic} {call : Call} {calls : Nat → Call} {f : Effect} {s s' : Stage}

theorem inner_equipped {job : Job} {k : Nat} {p : Phase} (h : p.Equipped m.engines)
    (eq : m.inner g job k p = (f, s')) : s'.Equipped m.engines := by
  cases p with
  | entered =>
    cases eq
    change Phase.Equipped _ (if _ then _ else _)
    split <;> trivial
  | stale => cases eq; trivial
  | reading => cases eq; exact Phase.equipped_decide job _
  | comparing e patch => cases eq; exact Phase.equipped_compare job.name e patch
  | merging e patch => cases eq; exact Phase.equipped_merge e patch
  | compiling e d => cases eq; exact Phase.equipped_compile h
  | storing w =>
    simp only [inner] at eq
    split at eq
    · cases eq
      exact Answer.served_error trivial
    · cases eq
      trivial
  | publishing w found => cases eq; exact Answer.served_ok _
  | leaving r =>
    cases eq
    change Phase.Equipped _ (if _ then _ else _)
    split <;> exact h
  | retiring r => cases eq; exact h
  | releasing r => cases eq; exact h

/-- A step keeps what a call asks for within the languages that have an engine, when the names show
no others. -/
theorem next_equipped (shows : ∀ name e, (m.slot name).live? = some e →
      m.engines.supports e.script.language = true)
    (h : s.Equipped m.engines) (eq : m.next call s = some (f, s')) : s'.Equipped m.engines := by
  cases s with
  | idle => cases eq; trivial
  | begun =>
    cases eq
    unfold enter
    split
    · split
      · exact Answer.served_error trivial
      · rename_i d admitted
        obtain ⟨_, _, reads⟩ := Admission.reads_of_review admitted
        exact reads.supported
    · trivial
    · trivial
    · trivial
    · trivial
    · exact Answer.served_ok _
    · split
      · exact Answer.served_error trivial
      · rename_i e live
        exact shows _ e live
  | admitted d =>
    cases eq
    split
    · exact h
    · exact Answer.served_error trivial
  | unclaimed d =>
    simp only [next] at eq
    split at eq <;> cases eq
    · rename_i failed
      exact Answer.served_error (Given.compile_served h failed)
    · trivial
  | seeking job | absent job =>
    simp only [next] at eq
    split at eq <;> cases eq <;> trivial
  | waiting job k =>
    simp only [next] at eq
    split at eq <;> cases eq
    trivial
  | inside job k p => exact inner_equipped h (Option.some.inj eq)
  | running e =>
    cases eq
    unfold launch
    split
    · exact Evaluation.answer_served h
    · exact h
  | telling e lines r =>
    cases lines <;> cases eq <;> exact h
  | done r => cases eq

theorem equipped_step (shows : ∀ name e, (m.slot name).live? = some e →
      m.engines.supports e.script.language = true)
    (h : ∀ j, (m.stages j).Equipped m.engines) (i j : Nat) :
    ((m.step calls i).stages j).Equipped m.engines := by
  by_cases mine : j = i
  · subst mine
    cases eq : m.next (calls j) (m.stages j) with
    | none =>
      rw [step, eq]
      exact h j
    | some move =>
      rw [step_of_next eq, stages_setStage_self]
      exact next_equipped shows (h j) eq
  · rw [stages_step_other mine]
    exact h j

theorem equipped_opened (calls : Nat → Call) (engines : EngineSet) (policy : Policy)
    (records : List Record) (hub : Hub) (schedule : List Nat) (i : Nat) :
    (((opened engines policy records hub).run calls schedule).stages i).Equipped engines := by
  -- From the end: before the last step, too, the names show only languages with an engine.
  induction schedule using List.reverseRecOn generalizing i with
  | nil => trivial
  | append_singleton before j ih =>
    have same : ((opened engines policy records hub).run calls before).engines = engines :=
      engines_run before
    have step : ((((opened engines policy records hub).run calls before).step calls j).stages
        i).Equipped ((opened engines policy records hub).run calls before).engines := by
      refine equipped_step (fun name e live => ?_) (fun k => ?_) j i
      · rw [same]
        exact (fits_opened calls engines policy records hub before live).2
      · rw [same]
        exact ih k
    rw [same] at step
    rw [run_append]
    exact step

/-- Whatever the records, the engines and the calls are, and however the calls alternate their
steps: where a call is about to check a source or to run an edition, its language has an engine, and
no call ever returns the failure that an engine is missing; an internal failure is always that of an
engine that was there. -/
theorem engine_at_hand_opened (calls : Nat → Call) (engines : EngineSet) (policy : Policy)
    (records : List Record) (hub : Hub) (schedule : List Nat) (i : Nat) :
    let m := (opened engines policy records hub).run calls schedule
    (∀ d, m.stages i = .unclaimed d → ∃ engine, engines.get? d.language = some engine) ∧
    (∀ job k e d, m.stages i = .inside job k (.compiling e d) →
      ∃ engine, engines.get? d.language = some engine) ∧
    (∀ e, m.stages i = .running e → ∃ engine, engines.get? e.script.language = some engine) ∧
    ∀ text, m.stages i = .done (.error (.internal text)) →
      (∃ cause, text = "engine I/O failure: " ++ cause) ∧
        ∀ rest, text ≠ "no engine registered" ++ rest := by
  intro m
  have equipped : (m.stages i).Equipped engines :=
    equipped_opened calls engines policy records hub schedule i
  refine ⟨fun d stage => ?_, fun job k e d stage => ?_, fun e stage => ?_, fun text stage => ?_⟩
  · rw [stage] at equipped
    exact Option.isSome_iff_exists.mp equipped
  · rw [stage] at equipped
    exact Option.isSome_iff_exists.mp equipped
  · rw [stage] at equipped
    exact Option.isSome_iff_exists.mp equipped
  · rw [stage] at equipped
    have own := equipped _ rfl
    refine ⟨own, ?_⟩
    rintro rest rfl
    exact Failure.not_ofEngine_missing rest own

theorem engine_at_hand_opened_lost_engine :
    let engines : EngineSet :=
      ⟨[⟨.lua, fun _ => .done (), fun _ _ => .failed (.io "gone")⟩]⟩
    let given : Given := ⟨.epoch, fun _ _ => .done (), none⟩
    let script (name : String) (l : Language) : Script :=
      ⟨name, "return 1", l, none, true, 0, .epoch, .epoch⟩
    let calls : Nat → Call := fun i =>
      if i = 0 then ⟨.update "a" (some (.obj [("lang", .str "python")])), given⟩
      else if i = 1 then ⟨.evaluate "p" .null 1000, given⟩
      else ⟨.evaluate "a" .null 1000, given⟩
    let records : List Record := [⟨script "a" .lua, false⟩, ⟨script "p" .python, false⟩]
    let m := (opened engines ⟨true, 5000⟩ records ⟨256, [], 0⟩).run calls
      (List.replicate 12 0 ++ [1, 1, 2, 2, 2, 2, 2])
    m.stages 0 = .done (.error (.refused (.unsupportedLanguage "python"))) ∧
    m.stages 1 = .done (.error (.notFound "p")) ∧
    m.stages 2 = .done (.error (.internal "engine I/O failure: gone")) ∧
    ∀ rest, "engine I/O failure: gone" ≠ "no engine registered" ++ rest := by
  intro engines given script calls records m
  have failed : m.stages 2 = .done (.error (.internal "engine I/O failure: gone")) :=
    Stage.failure?_eq_some.mp (by decide +kernel)
  refine ⟨Stage.failure?_eq_some.mp (by decide +kernel), Stage.failure?_eq_some.mp (by decide +kernel),
    failed, ?_⟩
  exact ((engine_at_hand_opened calls engines ⟨true, 5000⟩ records ⟨256, [], 0⟩ _ 2).2.2.2 _
    failed).2

end Traffic

end ScriptHost
