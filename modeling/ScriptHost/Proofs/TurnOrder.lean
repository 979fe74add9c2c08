import ScriptHost.Proofs.Reachable

/-!
Calls that run at the same time answer as if each had been made alone, one after another. A call
takes its turn in the step that settles its answer; from there to its return it changes nothing that
a name stands for.
-/
namespace ScriptHost

open Function (update_self update_of_ne)
open Named (Sorted)

/-- The answer that a call is going to give, as soon as nothing can change it any more. -/
def Stage.settled? (engines : EngineSet) (policy : Policy) (call : Call) : Stage → Option Answer
  | .unclaimed d =>
    match call.given.compile engines policy d with
    | .error f => some (.error f)
    | .ok () => none
  | .inside _ _ (.leaving r) | .inside _ _ (.retiring r) | .inside _ _ (.releasing r) => some r
  | .running e =>
    match call.request with
    | .evaluate _ input timeoutMs => some (Evaluation.answer engines e input timeoutMs)
    | _ => none
  | .telling _ _ r | .done r => some r
  | _ => none

def Stage.Publishes (name : String) : Stage → Prop
  | .inside job _ (.publishing _ _) => job.name = name
  | _ => False

def Effect.Quiet : Effect → Prop
  | .store _ _ | .show _ _ => False
  | _ => True

namespace Stage

variable {s : Stage} {st : Status} {f : Failure}

def status? : Stage → Option Status
  | .done (.ok (.status st)) => some st
  | _ => none

def failure? : Stage → Option Failure
  | .done (.error f) => some f
  | _ => none

theorem status?_eq_some : s.status? = some st ↔ s = .done (.ok (.status st)) := by
  unfold status?
  split <;> simp_all

theorem failure?_eq_some : s.failure? = some f ↔ s = .done (.error f) := by
  unfold failure?
  split <;> simp_all

end Stage

namespace Traffic

variable {calls : Nat → Call} {m : Traffic} {call : Call} {i j : Nat} {f : Effect}
  {s s' : Stage} {c : Catalog} {a : MemoryArchive} {r : Answer}

def answer? (calls : Nat → Call) (m : Traffic) (i : Nat) : Option Answer :=
  (m.stages i).settled? m.engines m.policy (calls i)

/-- The calls in the order in which their answers are settled. -/
def turns (calls : Nat → Call) : Traffic → List Nat → List Nat
  | _, [] => []
  | m, i :: rest =>
    if m.answer? calls i = none ∧ (m.step calls i).answer? calls i ≠ none then
      i :: turns calls (m.step calls i) rest
    else turns calls (m.step calls i) rest

theorem step_of_next (eq : m.next (calls i) (m.stages i) = some (f, s')) :
    m.step calls i = (f.apply i m).setStage i s' := by
  simp only [step, eq]

theorem engines_step : (m.step calls i).engines = m.engines := by
  unfold step
  split
  · exact Effect.engines_apply
  · rfl

theorem policy_step : (m.step calls i).policy = m.policy := by
  unfold step
  split
  · exact Effect.policy_apply
  · rfl

theorem stages_step_other (other : j ≠ i) : (m.step calls i).stages j = m.stages j := by
  unfold step
  split
  · rw [stages_setStage_other other, Effect.stages_apply]
  · rfl

theorem settled_next (eq : m.next call s = some (f, s'))
    (settled : s.settled? m.engines m.policy call = some r) :
    s'.settled? m.engines m.policy call = some r := by
  cases s with
  | unclaimed d =>
    simp only [next] at eq
    simp only [Stage.settled?] at settled
    cases compiled : call.given.compile m.engines m.policy d with
    | error e =>
      rw [compiled] at eq settled
      cases eq
      exact settled
    | ok _ =>
      rw [compiled] at settled
      cases settled
  | inside job k p =>
    cases p with
    | leaving answer =>
      cases eq
      split <;> exact settled
    | retiring answer | releasing answer => cases eq; exact settled
    | _ => cases settled
  | running e =>
    cases eq
    simp only [Stage.settled?] at settled
    split at settled
    · rename_i name input timeoutMs asked
      simp only [launch, asked]
      exact settled
    · cases settled
  | telling e lines answer => cases lines <;> cases eq <;> exact settled
  | idle | begun | admitted _ | seeking _ | absent _ | waiting _ _ => cases settled
  | done answer => cases eq

theorem answer?_step (settled : m.answer? calls j = some r) :
    (m.step calls i).answer? calls j = some r := by
  unfold answer? at settled ⊢
  rw [engines_step, policy_step]
  by_cases mine : j = i
  · subst mine
    cases eq : m.next (calls j) (m.stages j) with
    | none => simpa only [step, eq] using settled
    | some move =>
      simp only [step, eq, stages_setStage_self]
      exact settled_next eq settled
  · rw [stages_step_other mine]
    exact settled

theorem slot_quiet (indexed : m.Indexed) (allowed : f.Allowed i m) (quiet : f.Quiet)
    (name : String) : (f.apply i m).slot name = m.slot name := by
  cases f with
  | place new =>
    have free : m.index new = none := allowed
    by_cases same : name = new
    · simp [slot, Effect.apply, same, free]
    · cases found : m.index name with
      | none => simp [slot, Effect.apply, same, found]
      | some k =>
        have ne : k ≠ m.fresh := by have := indexed.made found; omega
        simp [slot, Effect.apply, same, found, ne]
  | enter c | leave c =>
    cases found : m.index name with
    | none => simp [slot, Effect.apply, setHolder, found]
    | some k => simpa [slot, Effect.apply, setHolder, found] using slot_setHolder c k _
  | retire old =>
    obtain ⟨k, found, _, vacant⟩ := allowed
    by_cases same : name = old
    · simp [slot, Effect.apply, same, found, vacant]
    · simp [slot, Effect.apply, same]
  | store _ _ | «show» _ _ => exact quiet.elim
  | none | fail | tell _ => rfl

theorem archive_quiet (quiet : f.Quiet) : (f.apply i m).archive = m.archive := by
  cases f with
  | store _ _ | «show» _ _ => exact quiet.elim
  | _ => rfl

theorem slot_show_self {name : String} {k : Nat} {t : Slot} (found : m.index name = some k) :
    ((Effect.show k t).apply i m).slot name = t := by
  simp [slot, Effect.apply, found]

theorem slot_show_other (indexed : m.Indexed) {name other : String} {k : Nat} {t : Slot}
    (found : m.index name = some k) (ne : other ≠ name) :
    ((Effect.show k t).apply i m).slot other = m.slot other := by
  cases shown : m.index other with
  | none => simp [slot, Effect.apply, shown]
  | some c =>
    have elsewhere : c ≠ k := fun same => ne (indexed.once (by rw [← same]; exact shown) found)
    simp [slot, Effect.apply, shown, elsewhere]

/-- A state of the calls under way and the catalog and archive of the calls that had their turn. -/
structure Matches (m : Traffic) (c : Catalog) (a : MemoryArchive) : Prop where
  engines : c.engines = m.engines
  policy : c.policy = m.policy
  slots : ∀ name, m.slot name = c.slot name
  sorted : Sorted c.slots
  titled : c.Titled
  ordered : a.Ordered
  /-- Between the change of the archive and its publication the call has not had its turn. -/
  stored : ∀ {i job k w found}, m.stages i = .inside job k (.publishing w found) →
    m.archive.find? job.name = w.record (a.find? job.name) ∧ found = w.found (a.find? job.name)
  kept : ∀ name, (∀ i, ¬ (m.stages i).Publishes name) → m.archive.find? name = a.find? name

/-- Two calls are not between the change of the archive and its publication for one name. -/
theorem publishes_once (sound : m.Sound calls) {job other : Job} {k c : Nat} {p q : Phase}
    (here : m.stages i = .inside job k p) (there : m.stages j = .inside other c q)
    (current : p.Current) (now : q.Current) (same : job.name = other.name) : i = j := by
  have first := sound.fits i
  have second := sound.fits j
  rw [here] at first
  rw [there] at second
  have cell := first.current current
  rw [same, second.current now] at cell
  have holds := first.holds
  rw [← Option.some.inj cell, second.holds] at holds
  exact (Option.some.inj holds).symm

theorem matches_quiet (h : m.Matches c a) (sound : m.Sound calls)
    (eq : m.next (calls i) (m.stages i) = some (f, s')) (quiet : f.Quiet)
    (before : ∀ name, ¬ (m.stages i).Publishes name) (after : ∀ name, ¬ s'.Publishes name) :
    ((f.apply i m).setStage i s').Matches c a where
  engines := by rw [h.engines]; exact Effect.engines_apply.symm
  policy := by rw [h.policy]; exact Effect.policy_apply.symm
  slots name := by
    rw [← h.slots name]
    exact slot_quiet sound.indexed (next_allowed (sound.fits i) eq) quiet name
  sorted := h.sorted
  titled := h.titled
  ordered := h.ordered
  stored {j job k w found} stage := by
    by_cases mine : j = i
    · rw [mine, stages_setStage_self] at stage
      rw [stage] at after
      exact absurd rfl (after job.name)
    · rw [stages_setStage_other mine, Effect.stages_apply] at stage
      change (f.apply i m).archive.find? job.name = _ ∧ _
      rw [archive_quiet quiet]
      exact h.stored stage
  kept name free := by
    change (f.apply i m).archive.find? name = _
    rw [archive_quiet quiet]
    refine h.kept name fun j publishes => ?_
    by_cases mine : j = i
    · rw [mine] at publishes
      exact before name publishes
    · apply free j
      rw [stages_setStage_other mine, Effect.stages_apply]
      exact publishes

theorem Inside.slot_eq {job : Job} {k : Nat} {p : Phase} (h : m.Inside call i job k p)
    (current : p.Current) : m.slot job.name = (m.cells k).slot := by
  simp only [slot, h.current current]

/-- What a call decides inside the gate is what it would decide in its turn. -/
theorem Inside.decision_eq {job : Job} {k : Nat} {p : Phase} (inside : m.Inside call i job k p)
    (h : m.Matches c a) (current : p.Current) :
    job.decision? m.engines m.policy call.given (m.cells k).slot =
      job.decision? c.engines c.policy call.given (c.slot job.name) := by
  rw [h.engines, h.policy, ← h.slots, inside.slot_eq current]

theorem Inside.names {job : Job} {k : Nat} {p : Phase} {w : Change}
    (inside : m.Inside call i job k p) (h : m.Matches c a) (current : p.Current)
    (decided : p.Decided)
    (change : p.decision? m.engines m.policy call.given job.name = some (.change w)) :
    w.Names job.name := by
  have same := inside.decided decided
  rw [inside.decision_eq h current, change] at same
  exact Job.names_of_decision? (h.titled job.name) same.symm

theorem matches_store (h : m.Matches c a) (sound : m.Sound calls) {job : Job} {k : Nat}
    {w : Change} (stage : m.stages i = .inside job k (.storing w)) :
    (((Effect.store job.name w).apply i m).setStage i
      (.inside job k (.publishing w (w.store job.name m.archive).1))).Matches c a := by
  have inside := sound.fits i
  rw [stage] at inside
  have names : w.Names job.name := inside.names h trivial trivial rfl
  -- The gate keeps every other call of this name away from the archive.
  have alone : ∀ j, ¬ (m.stages j).Publishes job.name := by
    intro j publishes
    cases there : m.stages j with
    | inside other k' p =>
      cases p with
      | publishing w' found =>
        rw [there] at publishes
        have same := publishes_once sound stage there trivial trivial publishes.symm
        rw [same, there] at stage
        cases stage
      | _ => rw [there] at publishes; exact publishes
    | _ => rw [there] at publishes; exact publishes
  have before := h.kept job.name alone
  refine ⟨h.engines, h.policy, h.slots, h.sorted, h.titled, h.ordered, ?_, ?_⟩
  · intro j other k' w' found there
    by_cases mine : j = i
    · rw [mine, stages_setStage_self] at there
      cases there
      refine ⟨?_, ?_⟩
      · rw [← before]
        exact Change.find?_store_self names sound.ordered
      · rw [Change.store_found, before]
    · rw [stages_setStage_other mine, Effect.stages_apply] at there
      have ne : other.name ≠ job.name := fun same => alone j (by rw [there]; exact same)
      have old := h.stored there
      refine ⟨?_, old.2⟩
      rw [← old.1]
      exact Change.find?_store_other names ne
  · intro name free
    have ne : name ≠ job.name := fun same => free i (by rw [stages_setStage_self]; exact same.symm)
    have rest : ∀ j, ¬ (m.stages j).Publishes name := by
      intro j publishes
      by_cases mine : j = i
      · rw [mine, stage] at publishes
        exact publishes
      · apply free j
        rw [stages_setStage_other mine, Effect.stages_apply]
        exact publishes
    rw [← h.kept name rest]
    exact Change.find?_store_other names ne

theorem matches_publish (h : m.Matches c a) (sound : m.Sound calls) {job : Job} {k : Nat}
    {w : Change} {found : Bool} (stage : m.stages i = .inside job k (.publishing w found)) :
    (((Effect.show k w.slot).apply i m).setStage i
      (.inside job k (.leaving (.ok (w.reply found))))).Matches
        (c.publish job.name w.slot) (w.store job.name a).2 := by
  have inside := sound.fits i
  rw [stage] at inside
  have names : w.Names job.name := inside.names h trivial trivial rfl
  have shown := inside.current trivial
  obtain ⟨own, _⟩ := h.stored stage
  refine ⟨h.engines, h.policy, ?_, Catalog.sorted_publish h.sorted _ _, ?_,
    Change.ordered_store h.ordered, ?_, ?_⟩
  · intro name
    change ((Effect.show k w.slot).apply i m).slot name = _
    by_cases same : name = job.name
    · rw [same, slot_show_self shown, Catalog.slot_publish_self h.sorted]
    · rw [slot_show_other sound.indexed shown same, Catalog.slot_publish_other c same]
      exact h.slots name
  · intro name e live
    by_cases same : name = job.name
    · rw [Catalog.get?, same, Catalog.slot_publish_self h.sorted] at live
      cases w with
      | keep kept reply =>
        cases live
        rw [same]
        exact names
      | hide _ | remove _ => cases live
    · rw [Catalog.get?, Catalog.slot_publish_other c same] at live
      exact h.titled name e live
  · intro j other k' w' found' there
    by_cases mine : j = i
    · rw [mine, stages_setStage_self] at there
      cases there
    · rw [stages_setStage_other mine, Effect.stages_apply] at there
      have ne : other.name ≠ job.name := fun same =>
        mine (publishes_once sound there stage trivial trivial same)
      rw [Change.find?_store_other names ne]
      exact h.stored there
  · intro name free
    by_cases same : name = job.name
    · rw [same, Change.find?_store_self names h.ordered]
      exact own
    · rw [Change.find?_store_other names same]
      refine h.kept name fun j publishes => ?_
      by_cases mine : j = i
      · rw [mine, stage] at publishes
        exact same publishes.symm
      · apply free j
        rw [stages_setStage_other mine, Effect.stages_apply]
        exact publishes

theorem answer_of_settled {job : Job} {k : Nat} {p : Phase} {D : Decision} {engines : EngineSet}
    {policy : Policy} {name : String}
    (settled : (Stage.inside job k p).settled? engines policy call = some r)
    (decided : p.decision? engines policy call.given name = some D) : D = .answer r := by
  cases p with
  | leaving answer =>
    cases settled
    exact (Option.some.inj decided).symm
  | retiring _ | releasing _ => cases decided
  | _ => cases settled

theorem Inside.alone_answer {job : Job} {k : Nat} {p : Phase} (inside : m.Inside call i job k p)
    (h : m.Matches c a) (current : p.Current)
    (decided : job.decision? m.engines m.policy call.given (m.cells k).slot =
      some (.answer r)) : call.alone c a = (r, c, a) := by
  have takes := inside.takes
  rw [← h.engines, ← h.policy] at takes
  rw [inside.decision_eq h current] at decided
  exact Call.alone_eq_result h.titled takes decided

theorem settles_inside {job : Job} {k : Nat} {p : Phase} (inside : m.Inside call i job k p)
    (h : m.Matches c a) (eq : m.inner call.given job k p = (f, s')) (quiet : f.Quiet)
    (still : (Stage.inside job k p).settled? m.engines m.policy call = none)
    (settled : s'.settled? m.engines m.policy call = some r) : call.alone c a = (r, c, a) := by
  cases p with
  | entered =>
    cases eq
    by_cases shown : m.index job.name = some k
    · simp only [if_pos shown] at settled
      cases settled
    · simp only [if_neg shown] at settled
      cases settled
  | stale => cases eq; cases settled
  | reading =>
    cases eq
    obtain ⟨D, decided⟩ := Job.decided m.engines m.policy call.given job (m.cells k).slot
    rw [answer_of_settled settled decided] at decided
    exact inside.alone_answer h trivial decided
  | comparing e patch =>
    cases eq
    have decided := inside.decided trivial
    have same := answer_of_settled settled (Phase.decision?_compare job.name e patch)
    refine inside.alone_answer h trivial (decided.symm.trans ?_)
    exact congrArg some same
  | merging e patch =>
    cases eq
    have decided := inside.decided trivial
    have same := answer_of_settled settled (Phase.decision?_merge job.name e patch)
    refine inside.alone_answer h trivial (decided.symm.trans ?_)
    exact congrArg some same
  | compiling e d =>
    cases eq
    have decided := inside.decided trivial
    have same := answer_of_settled settled (Phase.decision?_compile job.name e d)
    refine inside.alone_answer h trivial (decided.symm.trans ?_)
    exact congrArg some same
  | storing w =>
    cases fault : call.given.fault with
    | none =>
      simp only [inner, fault] at eq
      cases eq
      exact quiet.elim
    | some e =>
      simp only [inner, fault] at eq
      cases eq
      cases settled
      have takes := inside.takes
      rw [← h.engines, ← h.policy] at takes
      have decided := inside.decided trivial
      rw [inside.decision_eq h trivial] at decided
      rw [Call.alone_eq_result h.titled takes decided.symm]
      simp only [Decision.result, fault]
  | publishing w found => cases eq; exact quiet.elim
  | leaving _ | retiring _ | releasing _ => cases still

theorem settles_quiet (h : m.Matches c a) (fits : m.Fits call i s)
    (eq : m.next call s = some (f, s')) (quiet : f.Quiet)
    (still : s.settled? m.engines m.policy call = none)
    (settled : s'.settled? m.engines m.policy call = some r) : call.alone c a = (r, c, a) := by
  cases s with
  | begun =>
    cases eq
    unfold enter at settled
    split at settled
    · rename_i body asked
      split at settled
      · rename_i refusal refused
        cases settled
        rw [← h.engines] at refused
        exact Call.alone_refused asked refused
      · cases settled
    · cases settled
    · cases settled
    · cases settled
    · cases settled
    · rename_i name asked
      cases settled
      simp only [Call.alone, asked, h.slots name]
      rfl
    · rename_i name input timeoutMs asked
      have same : c.get? name = (m.slot name).live? := by rw [h.slots name]; rfl
      split at settled
      · rename_i absent
        cases settled
        rw [absent] at same
        simp only [Call.alone, asked, same]
      · rename_i e live
        simp only [Stage.settled?, asked] at settled
        cases settled
        rw [live] at same
        simp only [Call.alone, asked, same, h.engines]
  | admitted d =>
    obtain ⟨body, asked, admitted⟩ := fits
    cases eq
    rw [← h.engines] at admitted
    by_cases vacant : (m.slot d.name).isVacant = true
    · rw [if_pos vacant] at settled
      simp only [Stage.settled?] at settled
      split at settled
      · rename_i e failed
        cases settled
        rw [← h.engines, ← h.policy] at failed
        rw [h.slots] at vacant
        exact Call.alone_unchecked asked admitted vacant failed
      · cases settled
    · rw [if_neg vacant] at settled
      cases settled
      rw [h.slots] at vacant
      exact Call.alone_taken asked admitted (Bool.eq_false_iff.mpr vacant)
  | unclaimed d =>
    simp only [next] at eq
    simp only [Stage.settled?] at still
    split at eq
    · rename_i e failed
      rw [failed] at still
      cases still
    · cases eq
      cases settled
  | inside job k p => exact settles_inside fits h (Option.some.inj eq) quiet still settled
  | running e =>
    obtain ⟨name, input, timeoutMs, asked⟩ := fits
    simp only [Stage.settled?, asked] at still
    cases still
  | idle => cases eq; cases settled
  | seeking job =>
    simp only [next] at eq
    split at eq <;> cases eq <;> cases settled
  | absent job =>
    simp only [next] at eq
    split at eq <;> cases eq <;> cases settled
  | waiting job k =>
    simp only [next] at eq
    split at eq <;> cases eq
    cases settled
  | telling _ _ _ | done _ => cases still

theorem inner_publishes {g : Given} {job : Job} {k : Nat} {p : Phase}
    (eq : m.inner g job k p = (f, s')) (quiet : f.Quiet) (name : String) :
    ¬ s'.Publishes name := by
  cases p with
  | entered => cases eq; split <;> exact id
  | reading =>
    cases eq
    cases job <;> simp only [Job.decide] <;> (repeat' split) <;> exact id
  | comparing e patch =>
    cases eq
    unfold Phase.compare
    split <;> exact id
  | merging e patch =>
    cases eq
    unfold Phase.merge
    split <;> exact id
  | compiling e d =>
    cases eq
    unfold Phase.compile
    split <;> exact id
  | storing w =>
    simp only [inner] at eq
    split at eq
    · cases eq; exact id
    · cases eq; exact quiet.elim
  | leaving r => cases eq; split <;> exact id
  | publishing w found => cases eq; exact id
  | stale | retiring _ | releasing _ => cases eq; exact id

theorem next_cases (eq : m.next call s = some (f, s')) :
    (∃ job k w, s = .inside job k (.storing w) ∧ f = .store job.name w ∧
      s' = .inside job k (.publishing w (w.store job.name m.archive).1)) ∨
    (∃ job k w found, s = .inside job k (.publishing w found) ∧ f = .show k w.slot ∧
      s' = .inside job k (.leaving (.ok (w.reply found)))) ∨
    (f.Quiet ∧ (∀ name, ¬ s.Publishes name) ∧ ∀ name, ¬ s'.Publishes name) := by
  cases s with
  | inside job k p =>
    have same : m.inner call.given job k p = (f, s') := Option.some.inj eq
    cases p with
    | storing w =>
      cases fault : call.given.fault with
      | none =>
        simp only [inner, fault] at same
        cases same
        exact Or.inl ⟨job, k, w, rfl, rfl, rfl⟩
      | some e =>
        simp only [inner, fault] at same
        cases same
        exact Or.inr (Or.inr ⟨trivial, fun _ => id, fun _ => id⟩)
    | publishing w found =>
      cases same
      exact Or.inr (Or.inl ⟨job, k, w, found, rfl, rfl, rfl⟩)
    | retiring r =>
      have quiet : f.Quiet := by
        simp only [inner] at same
        split at same <;> cases same <;> trivial
      exact Or.inr (Or.inr ⟨quiet, fun _ => id, inner_publishes same quiet⟩)
    | _ =>
      have quiet : f.Quiet := by cases same; trivial
      exact Or.inr (Or.inr ⟨quiet, fun _ => id, inner_publishes same quiet⟩)
  | begun =>
    cases eq
    refine Or.inr (Or.inr ⟨trivial, fun _ => id, fun name => ?_⟩)
    unfold enter
    (repeat' split) <;> exact id
  | admitted d =>
    cases eq
    refine Or.inr (Or.inr ⟨trivial, fun _ => id, fun name => ?_⟩)
    split <;> exact id
  | running e =>
    cases eq
    refine Or.inr (Or.inr ⟨trivial, fun _ => id, fun name => ?_⟩)
    unfold launch
    split <;> exact id
  | idle =>
    cases eq
    exact Or.inr (Or.inr ⟨trivial, fun _ => id, fun _ => id⟩)
  | unclaimed d =>
    simp only [next] at eq
    split at eq <;> cases eq <;> exact Or.inr (Or.inr ⟨trivial, fun _ => id, fun _ => id⟩)
  | seeking job =>
    simp only [next] at eq
    split at eq <;> cases eq <;> exact Or.inr (Or.inr ⟨trivial, fun _ => id, fun _ => id⟩)
  | absent job =>
    simp only [next] at eq
    split at eq <;> cases eq <;> exact Or.inr (Or.inr ⟨trivial, fun _ => id, fun _ => id⟩)
  | waiting job k =>
    simp only [next] at eq
    split at eq <;> cases eq
    exact Or.inr (Or.inr ⟨trivial, fun _ => id, fun _ => id⟩)
  | telling e lines r =>
    cases lines <;> cases eq <;> exact Or.inr (Or.inr ⟨trivial, fun _ => id, fun _ => id⟩)
  | done r => cases eq

/-- A step in which no answer is settled leaves the calls that had their turn as they were. -/
theorem matches_step (h : m.Matches c a) (sound : m.Sound calls)
    (same : m.answer? calls i ≠ none ∨ (m.step calls i).answer? calls i = none) :
    (m.step calls i).Matches c a := by
  cases eq : m.next (calls i) (m.stages i) with
  | none => simpa only [step, eq] using h
  | some move =>
    obtain ⟨f, s'⟩ := move
    rw [step_of_next eq] at same ⊢
    rcases next_cases eq with ⟨job, k, w, stage, rfl, rfl⟩ |
      ⟨job, k, w, found, stage, rfl, rfl⟩ | ⟨quiet, before, after⟩
    · exact matches_store h sound stage
    · rcases same with settled | still
      · simp only [answer?, stage, Stage.settled?] at settled
        exact absurd rfl settled
      · simp only [answer?, stages_setStage_self, Stage.settled?] at still
        cases still
    · exact matches_quiet h sound eq quiet before after

/-- A call whose answer is settled in a step answers so when it is made after the calls that had
their turn before, and has the same effect. -/
theorem takes_turn (h : m.Matches c a) (sound : m.Sound calls) (still : m.answer? calls i = none)
    (settled : (m.step calls i).answer? calls i = some r) :
    ∃ c' a', (calls i).alone c a = (r, c', a') ∧ (m.step calls i).Matches c' a' := by
  have fits := sound.fits i
  cases eq : m.next (calls i) (m.stages i) with
  | none =>
    simp only [step, eq] at settled
    rw [still] at settled
    cases settled
  | some move =>
    obtain ⟨f, s'⟩ := move
    rw [step_of_next eq] at settled ⊢
    simp only [answer?, stages_setStage_self] at settled
    rcases next_cases eq with ⟨job, k, w, stage, rfl, rfl⟩ |
      ⟨job, k, w, found, stage, rfl, rfl⟩ | ⟨quiet, before, after⟩
    · cases settled
    · cases settled
      rw [stage] at fits
      have inside : m.Inside (calls i) i job k (.publishing w found) := fits
      have takes := inside.takes
      rw [← h.engines, ← h.policy] at takes
      have decided := inside.decided trivial
      rw [inside.decision_eq h trivial] at decided
      have obeyed : (calls i).given.fault = none := inside.knows
      refine ⟨_, _, ?_, matches_publish h sound stage⟩
      rw [Call.alone_eq_result h.titled takes decided.symm]
      simp only [Decision.result, obeyed, Change.store_found, (h.stored stage).2]
    · refine ⟨c, a, settles_quiet h fits eq quiet still ?_, ?_⟩
      · change s'.settled? (f.apply i m).engines (f.apply i m).policy (calls i) = some r at settled
        rwa [Effect.engines_apply, Effect.policy_apply] at settled
      · exact matches_quiet h sound eq quiet before after

end Traffic
end ScriptHost
