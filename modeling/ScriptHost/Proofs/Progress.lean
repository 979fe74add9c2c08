import ScriptHost.Proofs.Linearization

/-!
How a call fares that takes its steps while nobody else takes any. It returns, unless somebody is
inside the gate that it is on its way to: then it comes to this gate and stays there.
-/
namespace ScriptHost

open Function (update_self update_of_ne)

def Stage.Straight (m : Traffic) : Stage → Prop
  | .waiting job k | .inside job k .entered => m.index job.name = some k
  | .inside _ _ .stale => False
  | _ => True

def Phase.rank : Phase → Nat
  | .entered => 13
  | .reading => 12
  | .comparing _ _ => 11
  | .merging _ _ => 10
  | .compiling _ _ => 9
  | .storing _ => 8
  | .publishing _ _ => 7
  | .leaving _ => 6
  | .retiring _ => 5
  | .releasing _ => 4
  | .stale => 0

namespace Traffic

variable {calls : Nat → Call} {m m' : Traffic} {call : Call} {i j k : Nat} {f : Effect}
  {s s' : Stage} {r : Answer} {c : Catalog} {a : MemoryArchive}

def lines (m : Traffic) (call : Call) (e : Edition) : Nat :=
  match call.request with
  | .evaluate _ input timeoutMs => (Evaluation.run m.engines e input timeoutMs).2.length
  | _ => 0

def linesAhead (m : Traffic) (call : Call) : Nat :=
  match call.request with
  | .evaluate name _ _ => ((m.slot name).live?.map (m.lines call)).getD 0
  | _ => 0

/-- A bound on the steps that a call still takes when it is alone. -/
def rank (m : Traffic) (call : Call) : Stage → Nat
  | .idle => m.linesAhead call + 20
  | .begun => m.linesAhead call + 19
  | .admitted _ => 18
  | .unclaimed _ => 17
  | .seeking _ => 16
  | .absent _ => 15
  | .waiting _ _ => 14
  | .inside _ _ p => p.rank
  | .running e => m.lines call e + 2
  | .telling _ lines _ => lines.length + 1
  | .done _ => 0

theorem inner_rank {job : Job} {k : Nat} {p : Phase} (straight : (Stage.inside job k p).Straight m)
    (eq : m.inner call.given job k p = (f, s')) :
    (f.apply i m).rank call s' < p.rank ∧ s'.Straight (f.apply i m) := by
  cases p with
  | entered =>
    have shown : m.index job.name = some k := straight
    cases eq
    rw [if_pos shown]
    exact ⟨by simp [rank, Phase.rank], trivial⟩
  | stale => exact straight.elim
  | reading =>
    cases eq
    cases job <;> simp only [Job.decide] <;> (repeat' split) <;>
      exact ⟨by simp [rank, Phase.rank], trivial⟩
  | comparing e patch =>
    cases eq
    unfold Phase.compare
    split <;> exact ⟨by simp [rank, Phase.rank], trivial⟩
  | merging e patch =>
    cases eq
    unfold Phase.merge
    split <;> exact ⟨by simp [rank, Phase.rank], trivial⟩
  | compiling e d =>
    cases eq
    unfold Phase.compile
    split <;> exact ⟨by simp [rank, Phase.rank], trivial⟩
  | storing w =>
    simp only [inner] at eq
    split at eq <;> cases eq <;> exact ⟨by simp [rank, Phase.rank], trivial⟩
  | leaving r =>
    cases eq
    split <;> exact ⟨by simp [rank, Phase.rank], trivial⟩
  | publishing _ _ | retiring _ | releasing _ =>
    cases eq
    exact ⟨by simp [rank, Phase.rank], trivial⟩

theorem next_rank (fits : m.Fits call i s) (straight : s.Straight m)
    (eq : m.next call s = some (f, s')) :
    (f.apply i m).rank call s' < m.rank call s ∧ s'.Straight (f.apply i m) := by
  cases s with
  | idle =>
    cases eq
    exact ⟨Nat.lt_succ_self _, trivial⟩
  | begun =>
    cases eq
    change m.rank call (m.enter call) < _ ∧ (m.enter call).Straight m
    unfold enter
    split
    · split
      · exact ⟨by simp [rank], trivial⟩
      · exact ⟨by simp only [rank]; omega, trivial⟩
    · exact ⟨by simp only [rank]; omega, trivial⟩
    · exact ⟨by simp only [rank]; omega, trivial⟩
    · exact ⟨by simp only [rank]; omega, trivial⟩
    · exact ⟨by simp only [rank]; omega, trivial⟩
    · exact ⟨by simp [rank], trivial⟩
    · rename_i name input timeoutMs asked
      cases live : (m.slot name).live? with
      | none => exact ⟨by simp [rank], trivial⟩
      | some e =>
        have ahead : m.linesAhead call = m.lines call e := by
          simp only [linesAhead, asked, live, Option.map_some, Option.getD_some]
        refine ⟨?_, trivial⟩
        simp only [rank, ahead]
        omega
  | admitted d =>
    cases eq
    split <;> exact ⟨by simp [rank], trivial⟩
  | unclaimed d =>
    simp only [next] at eq
    split at eq <;> cases eq <;> exact ⟨by simp [rank], trivial⟩
  | seeking job =>
    simp only [next] at eq
    split at eq <;> cases eq
    · rename_i found
      exact ⟨by simp [rank], found⟩
    · exact ⟨by simp [rank], trivial⟩
  | absent job =>
    simp only [next] at eq
    split at eq <;> cases eq
    · rename_i found
      exact ⟨by simp [rank], found⟩
    · exact ⟨by simp [rank], update_self ..⟩
  | waiting job k =>
    simp only [next] at eq
    split at eq <;> cases eq
    exact ⟨by simp [rank, Phase.rank], straight⟩
  | inside job k p => exact inner_rank straight (Option.some.inj eq)
  | running e =>
    obtain ⟨name, input, timeoutMs, asked⟩ := fits
    cases eq
    refine ⟨?_, ?_⟩
    · simp only [launch, rank, lines, asked]
      omega
    · simp only [launch, asked]
      trivial
  | telling e rest r =>
    cases rest with
    | nil => cases eq; exact ⟨by simp [rank], trivial⟩
    | cons line rest => cases eq; exact ⟨Nat.lt_succ_self _, trivial⟩
  | done r => cases eq

def holder? (m : Traffic) (name : String) : Option Nat :=
  (m.index name).bind fun k => (m.cells k).holder

def creation? (m : Traffic) (call : Call) (d : Admitted) : Option Job :=
  match call.given.compile m.engines m.policy d with
  | .error _ => none
  | .ok () => some (.create d)

def claim? (m : Traffic) (call : Call) (d : Admitted) : Option Job :=
  if (m.slot d.name).isVacant then m.creation? call d else none

def errand? (m : Traffic) (call : Call) : Option Job :=
  match call.request with
  | .create body =>
    match Admission.review m.engines.supports body with
    | .error _ => none
    | .ok d => m.claim? call d
  | .update name patch => some (.update name patch)
  | .activate name active => some (.activate name active)
  | .delete name => some (.delete name)
  | .forceDelete name => some (.forceDelete name)
  | .get _ | .evaluate _ _ _ => none

theorem takes_of_errand {job : Job} (errand : m.errand? call = some job) :
    call.Takes m.engines m.policy job := by
  unfold errand? at errand
  cases asked : call.request with
  | create body =>
    simp only [asked] at errand
    cases admitted : Admission.review m.engines.supports body with
    | error f =>
      rw [admitted] at errand
      cases errand
    | ok d =>
      simp only [admitted, claim?, creation?] at errand
      split at errand
      · split at errand <;> cases errand
        rename_i compiled
        exact ⟨⟨body, asked, admitted⟩, compiled⟩
      · cases errand
  | get _ | evaluate _ _ _ =>
    simp only [asked] at errand
    cases errand
  | _ =>
    simp only [asked] at errand
    cases errand
    exact asked

/-- The job with which a call is on its way to a gate, while nothing but the call itself moves. -/
def seeks? (m : Traffic) (call : Call) : Stage → Option Job
  | .idle | .begun => m.errand? call
  | .admitted d => m.claim? call d
  | .unclaimed d => m.creation? call d
  | .seeking job | .absent job | .waiting job _ => some job
  | _ => none

def Barred (m : Traffic) (call : Call) (s : Stage) : Prop :=
  ∃ job i, m.seeks? call s = some job ∧ m.holder? job.name = some i

theorem not_barred (free : m.seeks? call s = none) : ¬ m.Barred call s := by
  rintro ⟨job, i, seeks, _⟩
  rw [free] at seeks
  cases seeks

theorem barred_of_seeks (same : m.seeks? call s' = m.seeks? call s) :
    m.Barred call s' ↔ m.Barred call s := by
  simp only [Barred, same]

theorem seeks?_enter : m.seeks? call (m.enter call) = m.errand? call := by
  unfold enter errand?
  cases call.request with
  | create body =>
    simp only
    cases Admission.review m.engines.supports body <;> rfl
  | evaluate name input timeoutMs =>
    simp only
    cases (m.slot name).live? <;> rfl
  | _ => rfl

theorem inner_seeks {job : Job} {k : Nat} {p : Phase}
    (straight : (Stage.inside job k p).Straight m) (eq : m.inner call.given job k p = (f, s')) :
    (f.apply i m).seeks? call s' = none := by
  cases p with
  | stale => exact straight.elim
  | storing w =>
    simp only [inner] at eq
    split at eq <;> cases eq <;> rfl
  | _ =>
    cases eq
    rfl

theorem barred_next (straight : s.Straight m) (eq : m.next call s = some (f, s')) :
    (f.apply i m).Barred call s' ↔ m.Barred call s := by
  cases s with
  | idle =>
    cases eq
    exact Iff.rfl
  | begun =>
    cases eq
    exact barred_of_seeks seeks?_enter
  | admitted d =>
    cases eq
    refine barred_of_seeks ?_
    change _ = m.claim? call d
    unfold claim?
    split <;> rfl
  | unclaimed d =>
    simp only [next] at eq
    split at eq <;> cases eq
    all_goals
      rename_i compiled
      exact barred_of_seeks (by simp only [seeks?, creation?, Effect.apply, compiled])
  | seeking job =>
    simp only [next] at eq
    split at eq <;> cases eq <;> exact Iff.rfl
  | absent job =>
    simp only [next] at eq
    split at eq <;> cases eq
    · exact Iff.rfl
    · -- Nobody is inside the gate of a name without a cell, nor inside that of a new one.
      rename_i free
      have before : m.holder? job.name = none := by simp only [holder?, free, Option.bind_none]
      have after : (Effect.apply i m (.place job.name)).holder? job.name = none := by
        simp only [holder?, Effect.apply, update_self, Option.bind_some]
      simp only [Barred, seeks?, Option.some.injEq, exists_and_left, exists_eq_left', before,
        after]
  | waiting job k =>
    simp only [next] at eq
    split at eq <;> cases eq
    rename_i free
    have shown : m.index job.name = some k := straight
    have nobody : m.holder? job.name = none := by
      simp only [holder?, shown, Option.bind_some, free]
    refine iff_of_false (not_barred rfl) ?_
    rintro ⟨other, j, seeks, held⟩
    cases seeks
    rw [nobody] at held
    cases held
  | inside job k p =>
    exact iff_of_false (not_barred (inner_seeks straight (Option.some.inj eq))) (not_barred rfl)
  | running e =>
    cases eq
    refine iff_of_false (not_barred ?_) (not_barred rfl)
    simp only [Effect.apply, launch]
    split <;> rfl
  | telling e lines r =>
    cases lines <;> cases eq <;> exact iff_of_false (not_barred rfl) (not_barred rfl)
  | done r => cases eq

theorem next_of_free (straight : s.Straight m) (free : ¬ m.Barred call s)
    (under : ∀ r, s ≠ .done r) : ∃ move, m.next call s = some move := by
  cases s with
  | waiting job k =>
    cases held : (m.cells k).holder with
    | none => exact ⟨_, by simp only [next, held]; rfl⟩
    | some j =>
      have shown : m.index job.name = some k := straight
      have inside : m.holder? job.name = some j := by
        simp only [holder?, shown, Option.bind_some, held]
      exact absurd ⟨job, j, rfl, inside⟩ free
  | done r => exact absurd rfl (under r)
  | unclaimed d =>
    simp only [next]
    split <;> exact ⟨_, rfl⟩
  | seeking job =>
    simp only [next]
    split <;> exact ⟨_, rfl⟩
  | absent job =>
    simp only [next]
    split <;> exact ⟨_, rfl⟩
  | telling e lines r => cases lines <;> exact ⟨_, rfl⟩
  | idle | begun | admitted _ | inside _ _ _ | running _ => exact ⟨_, rfl⟩

theorem straight_step (sound : m.Sound calls) (straight : (m.stages i).Straight m) :
    ((m.step calls i).stages i).Straight (m.step calls i) := by
  cases eq : m.next (calls i) (m.stages i) with
  | none =>
    simp only [step, eq]
    exact straight
  | some move =>
    rw [step_of_next eq, stages_setStage_self]
    exact (next_rank (sound.fits i) straight eq).2

theorem barred_step (straight : (m.stages i).Straight m) :
    (m.step calls i).Barred (calls i) ((m.step calls i).stages i) ↔
      m.Barred (calls i) (m.stages i) := by
  cases eq : m.next (calls i) (m.stages i) with
  | none => simp only [step, eq]
  | some move =>
    rw [step_of_next eq, stages_setStage_self]
    exact barred_next straight eq

theorem barred_run (sound : m.Sound calls) (straight : (m.stages i).Straight m) (n : Nat) :
    (m.run calls (List.replicate n i)).Barred (calls i)
        ((m.run calls (List.replicate n i)).stages i) ↔
      m.Barred (calls i) (m.stages i) := by
  induction n generalizing m with
  | zero => exact Iff.rfl
  | succ n ih =>
    exact (ih (sound_step sound i) (straight_step sound straight)).trans (barred_step straight)

/-- A call whose way is not barred returns. -/
theorem returns_alone (sound : m.Sound calls) (straight : (m.stages i).Straight m)
    (free : ¬ m.Barred (calls i) (m.stages i)) :
    ∃ steps r, (m.run calls (List.replicate steps i)).stages i = .done r := by
  -- Every step lowers the rank, and there is a step until the call has returned.
  induction left : m.rank (calls i) (m.stages i) using Nat.strongRecOn generalizing m with
  | ind n ih =>
    by_cases done : ∃ r, m.stages i = .done r
    · obtain ⟨r, done⟩ := done
      exact ⟨0, r, done⟩
    · obtain ⟨⟨f, s'⟩, eq⟩ := next_of_free straight free fun r same => done ⟨r, same⟩
      have lower := (next_rank (sound.fits i) straight eq).1
      have stage : (m.step calls i).stages i = s' := by
        rw [step_of_next eq, stages_setStage_self]
      have same : (m.step calls i).rank (calls i) s' = (f.apply i m).rank (calls i) s' := by
        rw [step_of_next eq]
        rfl
      have below : (m.step calls i).rank (calls i) ((m.step calls i).stages i) < n := by
        rw [stage, same, ← left]
        exact lower
      have free' := free ∘ (barred_step straight).mp
      obtain ⟨steps, r, final⟩ :=
        ih _ below (sound_step sound i) (straight_step sound straight) free' rfl
      exact ⟨steps + 1, r, final⟩

structure Returns (calls : Nat → Call) (m : Traffic) (i : Nat) (r : Answer) (m' : Traffic) :
    Prop where
  steps : ∃ n, m' = m.run calls (List.replicate n i)
  done : m'.stages i = .done r

theorem turns_replicate {n : Nat} (idle : m.stages i = .idle)
    (done : (m.run calls (List.replicate n i)).stages i = .done r) :
    m.turns calls (List.replicate n i) = [i] := by
  have mine : i ∈ m.turns calls (List.replicate n i) := by
    refine mem_turns.mpr ⟨answer?_idle idle, ?_⟩
    rw [answer?_done done]
    exact Option.some_ne_none r
  have only : ∀ k ∈ m.turns calls (List.replicate n i), k = i :=
    fun k member => List.eq_of_mem_replicate (mem_schedule member)
  have once : (m.turns calls (List.replicate n i)).Nodup := nodup_turns _
  cases turns : m.turns calls (List.replicate n i) with
  | nil =>
    rw [turns] at mine
    cases mine
  | cons k rest =>
    rw [turns] at only once
    have first : k = i := only k List.mem_cons_self
    have alone : rest = [] := by
      refine List.eq_nil_iff_forall_not_mem.mpr fun l member => ?_
      have again : l = k := (only l (List.mem_cons_of_mem k member)).trans first.symm
      rw [again] at member
      exact (List.nodup_cons.mp once).1 member
    rw [first, alone]

namespace Returns

variable (h : Returns calls m i r m')
include h

theorem stages_other (other : k ≠ i) : m'.stages k = m.stages k := by
  obtain ⟨n, rfl⟩ := h.steps
  exact stages_run_other fun member => other (List.eq_of_mem_replicate member)

theorem engines : m'.engines = m.engines := by
  obtain ⟨n, rfl⟩ := h.steps
  exact engines_run _

theorem policy : m'.policy = m.policy := by
  obtain ⟨n, rfl⟩ := h.steps
  exact policy_run _

theorem sound (sound : m.Sound calls) : m'.Sound calls := by
  obtain ⟨n, rfl⟩ := h.steps
  exact sound_run sound _

theorem resting (resting : m.Resting) : m'.Resting := by
  intro k
  by_cases mine : k = i
  · rw [mine]
    exact Or.inr ⟨r, h.done⟩
  · rw [h.stages_other mine]
    exact resting k

theorem alone (agrees : m.Matches c a) (sound : m.Sound calls) (idle : m.stages i = .idle) :
    r = ((calls i).alone c a).1 ∧
      m'.Matches ((calls i).alone c a).2.1 ((calls i).alone c a).2.2 := by
  obtain ⟨n, rfl⟩ := h.steps
  obtain ⟨answers, c', a', made, last, same⟩ := inTurn_turns agrees sound (List.replicate n i)
  rw [turns_replicate idle h.done, List.map_singleton] at made
  rw [turns_replicate idle h.done, List.map_singleton, answer?_done h.done] at same
  have alone : Call.inTurn [calls i] c a =
    ([((calls i).alone c a).1], ((calls i).alone c a).2) := rfl
  rw [alone] at made
  obtain ⟨rfl, left⟩ := Prod.mk.inj made
  rw [left]
  cases same
  exact ⟨rfl, last⟩

end Returns

theorem exists_returns_iff (sound : m.Sound calls) (idle : m.stages i = .idle) :
    (∃ r m', Returns calls m i r m') ↔ ¬ m.Barred (calls i) .idle := by
  have straight : (m.stages i).Straight m := by
    rw [idle]
    trivial
  rw [← idle]
  constructor
  · rintro ⟨r, m', ⟨n, rfl⟩, done⟩ barred
    have still := (barred_run sound straight n).mpr barred
    rw [done] at still
    exact not_barred rfl still
  · intro free
    obtain ⟨n, r, done⟩ := returns_alone sound straight free
    exact ⟨r, _, ⟨n, rfl⟩, done⟩

def Clear (m : Traffic) : Prop := ∀ i, (m.stages i).cell? = none

theorem Clear.not_barred (clear : m.Clear) (sound : m.Sound calls) : ¬ m.Barred call s := by
  rintro ⟨job, j, _, held⟩
  obtain ⟨k, found, holds⟩ := Option.bind_eq_some_iff.mp held
  have manned := sound.manned holds
  rw [clear j] at manned
  cases manned

theorem cell?_of_rest (rest : s = .idle ∨ ∃ r, s = .done r) : s.cell? = none := by
  rcases rest with rfl | ⟨r, rfl⟩
  · rfl
  · rfl

theorem Resting.clear (resting : m.Resting) : m.Clear := fun i => cell?_of_rest (resting i)

theorem exists_returns (sound : m.Sound calls) (resting : m.Resting) (idle : m.stages i = .idle) :
    ∃ r m', Returns calls m i r m' :=
  (exists_returns_iff sound idle).mpr (resting.clear.not_barred sound)

end Traffic

end ScriptHost
