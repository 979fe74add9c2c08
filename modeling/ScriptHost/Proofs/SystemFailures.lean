import ScriptHost.Archive.Given
import ScriptHost.Catalog.Operations
import ScriptHost.Evaluation

/-!
The host itself is to blame for a failed operation exactly if its archive failed, or if an engine
that was asked failed in its input and output or was not there.
-/
namespace ScriptHost

open Time (Instant)

def HostFailed {α : Type} : Except Failure α → Prop
  | .ok _ => False
  | .error f => f.isInternal = true

def EngineSet.Fails (E : EngineSet) (asked : Option Question) : Prop :=
  ∃ q, asked = some q ∧ (E.Breaks q ∨ E.Lacks q)

theorem EngineSet.not_fails_none (E : EngineSet) : ¬ E.Fails none := by
  rintro ⟨q, asked, _⟩
  cases asked

theorem EngineSet.fails_some (E : EngineSet) (q : Question) :
    E.Fails (some q) ↔ E.Breaks q ∨ E.Lacks q := by
  constructor
  · rintro ⟨q', same, fails⟩
    cases same
    exact fails
  · exact fun fails => ⟨q, rfl, fails⟩

namespace Watched

variable {σ α : Type}

/-- The archive has failed since, or `P` holds. -/
def FailedOr (w : Watched σ) (P : Prop) (after : Watched σ) : Prop :=
  after.failures ≠ w.failures ∨ P

theorem failedOr_self {P : Prop} {w : Watched σ} : w.FailedOr P w ↔ P := by
  unfold FailedOr
  rw [Ne, eq_self, not_true_eq_false, false_or]

/-- What an operation returns tells whether it was counted as a failure. -/
structure Tallied (w : Watched σ) (x : Except ArchiveError α × Watched σ) : Prop where
  failed : ∀ e, x.1 = .error e → x.2.failures ≠ w.failures
  done : ∀ a, x.1 = .ok a → x.2.failures = w.failures

theorem tallied_count (w : Watched σ) (x : Except ArchiveError α × σ) :
    Tallied w (count w.failures x) := by
  obtain ⟨_ | _, archive⟩ := x
  · exact ⟨fun _ _ => Nat.succ_ne_self w.failures, nofun⟩
  · exact ⟨nofun, fun _ _ => rfl⟩

variable [Archive σ]

theorem tallied_put (s : Script) (w : Watched σ) : Tallied w (Archive.put s w) :=
  tallied_count w (Archive.put s w.archive)

theorem tallied_page (q : Listing) (w : Watched σ) : Tallied w (Archive.page q w) :=
  tallied_count w (Archive.page q w.archive)

theorem tallied_softDelete (name : String) (w : Watched σ) :
    Tallied w (Archive.softDelete name w) :=
  tallied_count w (Archive.softDelete name w.archive)

theorem tallied_hardDelete (name : String) (w : Watched σ) :
    Tallied w (Archive.hardDelete name w) :=
  tallied_count w (Archive.hardDelete name w.archive)

end Watched

namespace Catalog

variable {σ α : Type} {c : Catalog}

theorem compileVerdict_failed (policy : Policy) (name : String) (o : Outcome Unit) :
    HostFailed (compileVerdict policy name o) ↔ ∃ text, o = .failed (.io text) := by
  constructor
  · intro failed
    rcases o with _ | (_ | _ | _ | text) | _ <;> cases failed
    exact ⟨text, rfl⟩
  · rintro ⟨text, rfl⟩
    rfl

theorem compile_failed (c : Catalog) (d : Admitted) :
    HostFailed (c.compile d) ↔ c.engines.Fails (some (.check d.language d.source)) := by
  rw [EngineSet.fails_some]
  unfold EngineSet.Breaks EngineSet.Lacks Question.language compile
  dsimp only
  generalize c.engines.get? d.language = found
  cases found with
  | none => exact ⟨fun _ => Or.inr rfl, fun _ => rfl⟩
  | some engine =>
    dsimp only
    rw [compileVerdict_failed]
    constructor
    · rintro ⟨text, told⟩
      exact Or.inl ⟨engine, text, rfl, told⟩
    · rintro (⟨_, text, ⟨⟩, told⟩ | ⟨⟨⟩⟩)
      exact ⟨text, told⟩

def Blames (Q : σ → Prop) (x : Except Failure α × Catalog × σ) : Prop :=
  HostFailed x.1 ↔ Q x.2.2

theorem Blames.andThen {β : Type} {Q : σ → Prop} {x : Except Failure Unit × Catalog × σ} :
    Blames Q x → ∀ b : β, Blames Q
      (match x with
        | (.ok (), c, a) => (.ok b, c, a)
        | (.error f, c, a) => (.error f, c, a)) := by
  intro blames b
  obtain ⟨_ | _, _, _⟩ := x <;> exact blames

variable {w : Watched σ} {P : Prop}

theorem blames_untouched {r : Except Failure α} (failed : HostFailed r ↔ P) :
    Blames (w.FailedOr P) (r, c, w) := by
  unfold Blames
  rw [failed, Watched.failedOr_self]

theorem Blames.of_not {x : Except Failure α × Catalog × Watched σ}
    (blames : Blames (w.FailedOr False) x) (never : ¬ P) : Blames (w.FailedOr P) x := by
  rw [eq_false never]
  exact blames

theorem blames_failed {β : Type} {e : ArchiveError} {after : Watched σ}
    (tallied : w.Tallied ((.error e : Except ArchiveError β), after)) :
    Blames (w.FailedOr False) ((.error (.archive e) : Except Failure α), c, after) :=
  ⟨fun _ => Or.inl (tallied.failed e rfl), fun _ => rfl⟩

theorem blames_done {β : Type} {b : β} {after : Watched σ}
    (tallied : w.Tallied ((.ok b : Except ArchiveError β), after)) (a : α) :
    Blames (w.FailedOr False) ((.ok a : Except Failure α), c, after) := by
  refine ⟨nofun, ?_⟩
  rintro (grown | never)
  · exact absurd (tallied.done b rfl) grown
  · exact never

variable [Archive σ]

theorem keep_blames (e : Edition) (c : Catalog) (w : Watched σ) :
    Blames (w.FailedOr False) (keep e c w) := by
  have tallied := Watched.tallied_put e.script w
  unfold keep
  generalize Archive.put e.script w = x at tallied ⊢
  obtain ⟨f | _, a⟩ := x
  · exact blames_failed tallied
  · exact blames_done tallied ()

theorem create_blames (body : Option Json) (now : Instant) (c : Catalog) (w : Watched σ) :
    Blames (w.FailedOr (c.engines.Fails (c.createQuestion? body))) (create body now c w) := by
  unfold create createQuestion?
  have quiet := c.engines.not_fails_none
  cases Admission.review c.engines.supports body with
  | error r => exact blames_untouched ⟨nofun, fun fails => absurd fails quiet⟩
  | ok d =>
    dsimp only
    split
    · exact blames_untouched ⟨nofun, fun fails => absurd fails quiet⟩
    · -- The engine is asked first; the archive only if the engine finds the source well formed.
      have compiled := compile_failed c d
      cases told : c.compile d with
      | error f =>
        rw [told] at compiled
        exact blames_untouched compiled
      | ok _ =>
        rw [told] at compiled
        dsimp only
        exact ((keep_blames _ c w).of_not compiled.mpr).andThen _

theorem checkVersion_plain {name : String} {current : Script} {patch : Option Json} {f : Failure}
    (checked : checkVersion name current patch = .error f) : ¬ f.isInternal = true := by
  unfold checkVersion at checked
  split at checked
  · split at checked <;> cases checked
    exact nofun
  · cases checked

theorem merge_plain {supports : Language → Bool} {current : Script} {patch : Option Json}
    {f : Failure} (merged : merge supports current patch = .error f) :
    ¬ f.isInternal = true := by
  unfold merge at merged
  split at merged
  · cases merged
    exact nofun
  · split at merged
    · cases merged
      exact nofun
    · split at merged <;> cases merged
      exact nofun

theorem update_blames (name : String) (patch : Option Json) (now : Instant) (c : Catalog)
    (w : Watched σ) :
    Blames (w.FailedOr (c.engines.Fails (c.updateQuestion? name patch)))
      (update name patch now c w) := by
  unfold update updateQuestion?
  have quiet := c.engines.not_fails_none
  cases c.get? name with
  | none => exact blames_untouched ⟨nofun, fun fails => absurd fails quiet⟩
  | some current =>
    dsimp only
    cases checked : checkVersion name current.script patch with
    | error f =>
      refine blames_untouched ⟨fun failed => ?_, fun fails => absurd fails quiet⟩
      exact absurd failed (checkVersion_plain checked)
    | ok _ =>
      cases merged : merge c.engines.supports current.script patch with
      | error f =>
        refine blames_untouched ⟨fun failed => ?_, fun fails => absurd fails quiet⟩
        exact absurd failed (merge_plain merged)
      | ok d =>
        have compiled := compile_failed c d
        simp only [bind, Except.bind, pure, Except.pure]
        cases told : c.compile d with
        | error f =>
          rw [told] at compiled
          exact blames_untouched compiled
        | ok _ =>
          rw [told] at compiled
          exact ((keep_blames _ c w).of_not compiled.mpr).andThen _

theorem activate_blames (name : String) (active : Bool) (now : Instant) (c : Catalog)
    (w : Watched σ) : Blames (w.FailedOr False) (activate name active now c w) := by
  unfold activate
  cases c.get? name with
  | none => exact blames_untouched Iff.rfl
  | some current =>
    dsimp only
    split
    · exact blames_untouched Iff.rfl
    · exact (keep_blames _ c w).andThen _

theorem delete_blames (name : String) (c : Catalog) (w : Watched σ) :
    Blames (w.FailedOr False) (delete name c w) := by
  unfold delete
  cases c.get? name with
  | none => exact blames_untouched Iff.rfl
  | some current =>
    have tallied := Watched.tallied_softDelete name w
    dsimp only
    generalize Archive.softDelete name w = x at tallied ⊢
    obtain ⟨e | _, a⟩ := x
    · exact blames_failed tallied
    · exact blames_done tallied true

theorem forceDelete_blames (name : String) (c : Catalog) (w : Watched σ) :
    Blames (w.FailedOr False) (forceDelete name c w) := by
  have tallied := Watched.tallied_hardDelete name w
  unfold forceDelete
  generalize Archive.hardDelete name w = x at tallied ⊢
  obtain ⟨e | removed, a⟩ := x
  · exact blames_failed tallied
  · exact blames_done tallied (c.isTaken name || removed)

theorem list_failed (q : Listing) (c : Catalog) (w : Watched σ) :
    HostFailed (list q c w).1 ↔ (list q c w).2.failures ≠ w.failures := by
  have tallied := Watched.tallied_page q w
  unfold list
  generalize Archive.page q w = x at tallied ⊢
  obtain ⟨e | _, a⟩ := x
  · exact ⟨fun _ => tallied.failed e rfl, fun _ => rfl⟩
  · exact ⟨nofun, fun grown => absurd (tallied.done _ rfl) grown⟩

end Catalog

namespace Evaluation

theorem verdict_failed (name : String) (timeoutMs : Nat) (o : Outcome Output) :
    HostFailed (verdict name timeoutMs o) ↔ ∃ text, o = .failed (.io text) := by
  constructor
  · intro failed
    rcases o with _ | (_ | _ | _ | text) | _ <;> cases failed
    exact ⟨text, rfl⟩
  · rintro ⟨text, rfl⟩
    rfl

theorem run_failed (E : EngineSet) (e : Edition) (input : Json) (timeoutMs : Nat)
    (active : e.script.active = true) :
    HostFailed (run E e input timeoutMs).1 ↔ E.Fails (some (.run e.script.language e.source
      ⟨e.script.name, e.script.version, input, timeoutMs⟩)) := by
  rw [EngineSet.fails_some]
  unfold EngineSet.Breaks EngineSet.Lacks Question.language run
  dsimp only
  rw [active]
  generalize E.get? e.script.language = found,
    (⟨e.script.name, e.script.version, input, timeoutMs⟩ : RunContext) = context
  cases found with
  | none => exact ⟨fun _ => Or.inr rfl, fun _ => rfl⟩
  | some engine =>
    -- Any other failure of the engine, and a run without an end, the verdict puts on the script.
    have judged := verdict_failed e.script.name timeoutMs (engine.run e.source context)
    dsimp only
    generalize verdict e.script.name timeoutMs (engine.run e.source context) = v at judged ⊢
    have same : HostFailed v ↔ ∃ engine' text, some engine = some engine' ∧
        engine'.run e.source context = .failed (.io text) := by
      rw [judged]
      constructor
      · rintro ⟨text, told⟩
        exact ⟨engine, text, rfl, told⟩
      · rintro ⟨_, text, ⟨⟩, told⟩
        exact ⟨text, told⟩
    rw [← same, or_iff_left nofun]
    cases v <;> exact Iff.rfl

theorem runNamed_failed (c : Catalog) (name : String) (input : Json) (timeoutMs : Nat)
    (now : Instant) (h : Hub) :
    HostFailed (runNamed c name input timeoutMs now h).1 ↔
      c.engines.Fails (c.runQuestion? name input timeoutMs) := by
  unfold runNamed Catalog.runQuestion?
  have quiet := c.engines.not_fails_none
  cases c.get? name with
  | none => exact ⟨nofun, fun fails => absurd fails quiet⟩
  | some e =>
    change HostFailed (run c.engines e input timeoutMs).1 ↔ _
    dsimp only
    split
    · rename_i active
      exact run_failed c.engines e input timeoutMs active
    · rename_i inactive
      rw [run, Bool.eq_false_iff.mpr inactive]
      exact ⟨nofun, fun fails => absurd fails quiet⟩

end Evaluation

end ScriptHost
