import ScriptHost.Proofs.TurnOrder

/-!
How often a call asks the archive for a change is told by its answer: once if it has changed
something or the archive has failed it, and never otherwise.
-/
namespace ScriptHost

open Function (update_self update_of_ne)

def Call.changes (call : Call) (r : Answer) : Nat :=
  match call.request, r with
  | .get _, _ | .evaluate _ _ _, _ => 0
  | _, .error (.archive _) => 1
  | _, .error _ => 0
  | .forceDelete _, .ok _ => 1
  | _, .ok (.status _) | _, .ok (.activation .changed) | _, .ok (.removed true) => 1
  | _, .ok _ => 0

def Stage.changes (call : Call) : Stage → Nat
  | .inside _ _ (.publishing _ _) => 1
  | .inside _ _ (.leaving r) | .inside _ _ (.retiring r) | .inside _ _ (.releasing r)
  | .telling _ _ r | .done r => call.changes r
  | _ => 0

theorem Stage.changes_of_settled {engines : EngineSet} {policy : Policy} {call : Call} {s : Stage}
    {r : Answer} (settled : s.settled? engines policy call = some r)
    (silent : call.changes r = 0) : s.changes call = 0 := by
  cases s with
  | inside job k p =>
    cases p with
    | leaving _ | retiring _ | releasing _ =>
      cases settled
      exact silent
    | publishing _ _ => cases settled
    | _ => rfl
  | telling _ _ _ | done _ =>
    cases settled
    exact silent
  | _ => rfl

def Effect.asks : Effect → Nat
  | .fail | .store _ _ => 1
  | _ => 0

variable {engines : EngineSet} {policy : Policy} {call : Call} {job : Job} {s : Slot}

theorem Job.changes_answer {r : Answer} (takes : call.Takes engines policy job)
    (decided : job.decision? engines policy call.given s = some (.answer r)) :
    call.changes r = 0 := by
  cases job with
  | create d =>
    obtain ⟨⟨body, asked, _⟩, _⟩ := takes
    simp only [decision?, decide] at decided
    split at decided <;> cases Option.some.inj decided
    simp only [Call.changes, asked]
  | update name patch =>
    have asked : call.request = .update name patch := takes
    simp only [decision?, decide] at decided
    split at decided
    · cases Option.some.inj decided
      simp only [Call.changes, asked]
    · obtain ⟨f, rfl, other⟩ := Decision.ofUpdate_answer (Option.some.inj decided)
      cases f with
      | archive x => exact absurd rfl (other x)
      | _ => simp only [Call.changes, asked]
  | activate name active =>
    have asked : call.request = .activate name active := takes
    simp only [decision?, decide] at decided
    split at decided
    · cases Option.some.inj decided
      simp only [Call.changes, asked]
    · split at decided <;> cases Option.some.inj decided
      simp only [Call.changes, asked]
  | delete name =>
    have asked : call.request = .delete name := takes
    simp only [decision?, decide] at decided
    split at decided <;> cases Option.some.inj decided
    simp only [Call.changes, asked]
  | forceDelete name => cases Option.some.inj decided

theorem Job.changes_change {w : Change} (takes : call.Takes engines policy job)
    (decided : job.decision? engines policy call.given s = some (.change w)) (found : Bool) :
    call.changes (.ok (w.reply found)) = 1 := by
  cases job with
  | create d =>
    obtain ⟨⟨body, asked, _⟩, _⟩ := takes
    simp only [decision?, decide] at decided
    split at decided <;> cases Option.some.inj decided
    simp only [Call.changes, Change.reply, asked]
  | update name patch =>
    have asked : call.request = .update name patch := takes
    simp only [decision?, decide] at decided
    split at decided
    · cases Option.some.inj decided
    · obtain ⟨d, _, _, _, rfl⟩ := Decision.ofUpdate_change (Option.some.inj decided)
      simp only [Call.changes, Change.reply, Phase.revision, asked]
  | activate name active =>
    have asked : call.request = .activate name active := takes
    simp only [decision?, decide] at decided
    split at decided
    · cases Option.some.inj decided
    · split at decided <;> cases Option.some.inj decided
      simp only [Call.changes, Change.reply, asked]
  | delete name =>
    have asked : call.request = .delete name := takes
    simp only [decision?, decide] at decided
    split at decided <;> cases Option.some.inj decided
    simp only [Call.changes, Change.reply, asked]
  | forceDelete name =>
    have asked : call.request = .forceDelete name := takes
    simp only [Call.changes, asked]

theorem Job.changes_archive (takes : call.Takes engines policy job) (e : ArchiveError) :
    call.changes (.error (.archive e)) = 1 := by
  cases job with
  | create d =>
    obtain ⟨⟨body, asked, _⟩, _⟩ := takes
    simp only [Call.changes, asked]
  | _ =>
    have asked := takes
    simp only [Call.Takes] at asked
    simp only [Call.changes, asked]

namespace Traffic

variable {calls : Nat → Call} {m : Traffic} {i : Nat} {f : Effect} {t t' : Stage}

theorem changes_decided {k : Nat} {p : Phase} {D : Decision} {g : Given} {name : String}
    (decided : p.decision? engines policy g name = some D)
    (answer : ∀ r, D = .answer r → call.changes r = 0)
    (other : ∀ name, ¬ (Stage.inside job k p).Publishes name) :
    (Stage.inside job k p).changes call = 0 := by
  cases p with
  | leaving r => exact answer r (Option.some.inj decided).symm
  | retiring _ | releasing _ => cases decided
  | publishing w found => exact absurd rfl (other job.name)
  | _ => rfl

theorem inner_changes {k : Nat} {p : Phase} (inside : m.Inside call i job k p)
    (eq : m.inner call.given job k p = (f, t')) :
    t'.changes call = (Stage.inside job k p).changes call + f.asks := by
  have answers : ∀ r, job.decision? m.engines m.policy call.given (m.cells k).slot =
      some (.answer r) → call.changes r = 0 := fun r => Job.changes_answer inside.takes
  have fromDecision : ∀ {p' D}, f.Quiet → m.inner call.given job k p = (f, .inside job k p') →
      p'.decision? m.engines m.policy call.given job.name = some D →
      job.decision? m.engines m.policy call.given (m.cells k).slot = some D →
      (Stage.inside job k p').changes call = 0 := by
    intro p' D quiet eq decided same
    refine changes_decided decided (fun r answer => ?_) (inner_publishes eq quiet)
    rw [answer] at same
    exact answers r same
  cases p with
  | entered =>
    cases eq
    by_cases shown : m.index job.name = some k
    · simp only [if_pos shown]
      rfl
    · simp only [if_neg shown]
      rfl
  | stale => cases eq; rfl
  | reading =>
    obtain ⟨D, decided⟩ := job.decided m.engines m.policy call.given (m.cells k).slot
    cases eq
    exact fromDecision trivial rfl decided decided
  | comparing e patch =>
    cases eq
    exact fromDecision trivial rfl (Phase.decision?_compare job.name e patch)
      (inside.decided trivial).symm
  | merging e patch =>
    cases eq
    exact fromDecision trivial rfl (Phase.decision?_merge job.name e patch)
      (inside.decided trivial).symm
  | compiling e d =>
    cases eq
    exact fromDecision trivial rfl (Phase.decision?_compile job.name e d)
      (inside.decided trivial).symm
  | storing w =>
    cases fault : call.given.fault with
    | some x =>
      simp only [inner, fault] at eq
      cases eq
      exact Job.changes_archive inside.takes x
    | none =>
      simp only [inner, fault] at eq
      cases eq
      rfl
  | publishing w found =>
    cases eq
    exact Job.changes_change inside.takes (inside.decided trivial).symm found
  | leaving r =>
    cases eq
    split <;> rfl
  | retiring r =>
    cases eq
    split <;> rfl
  | releasing r => cases eq; rfl

theorem next_changes (fits : m.Fits call i t) (eq : m.next call t = some (f, t')) :
    t'.changes call = t.changes call + f.asks := by
  cases t with
  | idle => cases eq; rfl
  | begun =>
    cases eq
    change (m.enter call).changes call = 0
    unfold enter
    split
    · rename_i body asked
      split
      · simp only [Stage.changes, Call.changes, asked]
      · rfl
    · rfl
    · rfl
    · rfl
    · rfl
    · rename_i name asked
      simp only [Stage.changes, Call.changes, asked]
    · rename_i name input timeoutMs asked
      split
      · simp only [Stage.changes, Call.changes, asked]
      · rfl
  | admitted d =>
    obtain ⟨body, asked, _⟩ := fits
    cases eq
    by_cases vacant : (m.slot d.name).isVacant = true
    · rw [if_pos vacant]
      rfl
    · rw [if_neg vacant]
      simp only [Stage.changes, Call.changes, asked]
      rfl
  | unclaimed d =>
    obtain ⟨body, asked, _⟩ := fits
    simp only [next] at eq
    split at eq
    · rename_i x failed
      cases eq
      have other := Given.compile_ne_archive failed
      cases x with
      | archive y => exact absurd rfl (other y)
      | _ => simp only [Stage.changes, Call.changes, asked]; rfl
    · cases eq
      rfl
  | seeking job =>
    simp only [next] at eq
    split at eq <;> cases eq <;> rfl
  | absent job =>
    simp only [next] at eq
    split at eq <;> cases eq <;> rfl
  | waiting job k =>
    simp only [next] at eq
    split at eq <;> cases eq
    rfl
  | inside job k p => exact inner_changes fits (Option.some.inj eq)
  | running e =>
    obtain ⟨name, input, timeoutMs, asked⟩ := fits
    cases eq
    simp only [launch, Stage.changes, Call.changes, asked]
    rfl
  | telling e lines r => cases lines <;> cases eq <;> rfl
  | done r => cases eq

theorem attempts_apply_self : (f.apply i m).attempts i = m.attempts i + f.asks := by
  cases f <;> simp [Effect.apply, Effect.asks, setHolder]

theorem attempts_apply_other {j : Nat} (other : j ≠ i) :
    (f.apply i m).attempts j = m.attempts j := by
  cases f <;> simp [Effect.apply, setHolder, other]

/-- Every call has asked the archive as often as its stage tells. -/
def Counted (calls : Nat → Call) (m : Traffic) : Prop :=
  ∀ i, m.attempts i = (m.stages i).changes (calls i)

theorem counted_step (sound : m.Sound calls) (h : m.Counted calls) (i : Nat) :
    (m.step calls i).Counted calls := by
  intro j
  cases eq : m.next (calls i) (m.stages i) with
  | none => simpa only [step, eq] using h j
  | some move =>
    obtain ⟨f, t'⟩ := move
    rw [step_of_next eq]
    by_cases mine : j = i
    · subst mine
      rw [stages_setStage_self, next_changes (sound.fits j) eq, ← h j]
      exact attempts_apply_self
    · rw [stages_setStage_other mine, Effect.stages_apply, ← h j]
      exact attempts_apply_other mine

theorem counted_run (sound : m.Sound calls) (h : m.Counted calls) (schedule : List Nat) :
    (m.run calls schedule).Counted calls := by
  induction schedule generalizing m with
  | nil => exact h
  | cons i rest ih => exact ih (sound_step sound i) (counted_step sound h i)

end Traffic

end ScriptHost
