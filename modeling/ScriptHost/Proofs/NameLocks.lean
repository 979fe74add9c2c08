import ScriptHost.Proofs.TurnOrder

/-!
The lock of a name. A call has it from the moment that it has found the cell current inside the gate
until it has kept the cell or taken it away. Calls that wait at the gate of a cell that was taken
away are not at the same gate as calls that come to a later cell of the name; still there is no more
than one lock of the name.
-/
namespace ScriptHost

open Function (update_self update_of_ne)

def Stage.Early : Stage → Prop
  | .idle | .begun | .admitted _ | .unclaimed _ => True
  | _ => False

def Stage.Apart : Stage → Prop
  | .seeking _ | .absent _ | .waiting _ _ | .inside _ _ _ => False
  | _ => True

def Effect.Steady : Effect → Prop
  | .place _ | .retire _ => False
  | _ => True

def Stage.lock? : Stage → Option (String × Nat)
  | .inside _ _ .entered | .inside _ _ .stale | .inside _ _ (.releasing _) => none
  | .inside job k _ => some (job.name, k)
  | _ => none

def Stage.gate? : Stage → Option (String × Nat)
  | .waiting job k => some (job.name, k)
  | _ => none

theorem Stage.gate?_eq_some {s : Stage} {name : String} {k : Nat} :
    s.gate? = some (name, k) ↔ ∃ job, s = .waiting job k ∧ job.name = name := by
  constructor
  · intro waits
    cases s with
    | waiting job c =>
      cases waits
      exact ⟨job, rfl, rfl⟩
    | _ => cases waits
  · rintro ⟨job, rfl, rfl⟩
    rfl

theorem Stage.lock?_eq_some {s : Stage} {name : String} {k : Nat} :
    s.lock? = some (name, k) ↔ ∃ job p, s = .inside job k p ∧ job.name = name ∧ p.Current := by
  constructor
  · intro locks
    cases s with
    | inside job c p =>
      cases p with
      | entered | stale | releasing _ => cases locks
      | _ =>
        cases locks
        exact ⟨job, _, rfl, rfl, trivial⟩
    | _ => cases locks
  · rintro ⟨job, p, rfl, rfl, current⟩
    cases p with
    | entered | stale | releasing _ => cases current
    | _ => rfl

namespace Traffic

def Locks (m : Traffic) (i : Nat) (name : String) (k : Nat) : Prop :=
  (m.stages i).lock? = some (name, k)

def WaitsAt (m : Traffic) (i : Nat) (name : String) (k : Nat) : Prop :=
  (m.stages i).gate? = some (name, k)

instance (m : Traffic) (i : Nat) (name : String) (k : Nat) : Decidable (m.Locks i name k) :=
  inferInstanceAs (Decidable (_ = _))

instance (m : Traffic) (i : Nat) (name : String) (k : Nat) : Decidable (m.WaitsAt i name k) :=
  inferInstanceAs (Decidable (_ = _))

/-- The steps of a call on its way to a lock, with the lock, and from it. -/
inductive Lap (m : Traffic) : Stage → Effect → Stage → Prop where
  | apart {s s' : Stage} {f : Effect} (before : s.Apart) (after : s'.Apart)
      (late : s'.Early → s.Early) (steady : f.Steady) : Lap m s f s'
  | begin {s : Stage} (job : Job) (early : s.Early) : Lap m s .none (.seeking job)
  | find {job : Job} {k : Nat} (found : m.index job.name = some k) :
      Lap m (.seeking job) .none (.waiting job k)
  | miss {job : Job} (free : m.index job.name = none) : Lap m (.seeking job) .none (.absent job)
  | findLate {job : Job} {k : Nat} (found : m.index job.name = some k) :
      Lap m (.absent job) .none (.waiting job k)
  | place {job : Job} (free : m.index job.name = none) :
      Lap m (.absent job) (.place job.name) (.waiting job m.fresh)
  | enter (job : Job) (k : Nat) : Lap m (.waiting job k) (.enter k) (.inside job k .entered)
  | lock {job : Job} {k : Nat} (found : m.index job.name = some k) :
      Lap m (.inside job k .entered) .none (.inside job k .reading)
  | miscarry {job : Job} {k : Nat} (gone : m.index job.name ≠ some k) :
      Lap m (.inside job k .entered) .none (.inside job k .stale)
  | again (job : Job) (k : Nat) : Lap m (.inside job k .stale) (.leave k) (.seeking job)
  | hold {job : Job} {k : Nat} {p q : Phase} {f : Effect} (before : p.Current) (after : q.Current)
      (steady : f.Steady) : Lap m (.inside job k p) f (.inside job k q)
  | keep {job : Job} {k : Nat} (r : Answer) (occupied : (m.cells k).slot ≠ .vacant) :
      Lap m (.inside job k (.leaving r)) .none (.inside job k (.releasing r))
  | retire {job : Job} {k : Nat} (r : Answer) (vacant : (m.cells k).slot = .vacant) :
      Lap m (.inside job k (.retiring r)) (.retire job.name) (.inside job k (.releasing r))
  | leave (job : Job) (k : Nat) (r : Answer) :
      Lap m (.inside job k (.releasing r)) (.leave k) (.done r)

variable {calls : Nat → Call} {m : Traffic} {call : Call} {i j k c : Nat} {name : String}
  {f : Effect} {s s' : Stage}

theorem lap_inner {job : Job} {p : Phase} (inside : m.Inside call i job k p)
    (eq : m.inner call.given job k p = (f, s')) : m.Lap (.inside job k p) f s' := by
  cases p with
  | entered =>
    cases eq
    by_cases shown : m.index job.name = some k
    · simp only [if_pos shown]
      exact .lock shown
    · simp only [if_neg shown]
      exact .miscarry shown
  | stale =>
    cases eq
    exact .again job k
  | reading =>
    cases eq
    refine .hold trivial ?_ trivial
    cases job <;> simp only [Job.decide] <;> (repeat' split) <;> trivial
  | comparing e patch =>
    cases eq
    refine .hold trivial ?_ trivial
    unfold Phase.compare
    split <;> trivial
  | merging e patch =>
    cases eq
    refine .hold trivial ?_ trivial
    unfold Phase.merge
    split <;> trivial
  | compiling e d =>
    cases eq
    refine .hold trivial ?_ trivial
    unfold Phase.compile
    split <;> trivial
  | storing w =>
    simp only [inner] at eq
    split at eq <;> cases eq <;> exact .hold trivial trivial trivial
  | publishing w found =>
    cases eq
    exact .hold trivial trivial trivial
  | leaving r =>
    cases eq
    cases slot : (m.cells k).slot with
    | vacant => exact .hold trivial trivial trivial
    | live e | deleted e =>
      exact .keep r fun vacant => by
        rw [slot] at vacant
        cases vacant
  | retiring r =>
    -- Nobody else can have taken the cell away, so the call does.
    simp only [inner, if_pos (inside.current trivial)] at eq
    cases eq
    exact .retire r inside.knows
  | releasing r =>
    cases eq
    exact .leave job k r

theorem lap_enter (call : Call) : m.Lap .begun .none (m.enter call) := by
  have early : Stage.begun.Early := trivial
  unfold enter
  split
  · split
    · exact .apart trivial trivial (fun _ => early) trivial
    · exact .apart trivial trivial (fun _ => early) trivial
  · exact .begin _ early
  · exact .begin _ early
  · exact .begin _ early
  · exact .begin _ early
  · exact .apart trivial trivial (fun _ => early) trivial
  · split <;> exact .apart trivial trivial (fun _ => early) trivial

/-- Every step of a call is one of these. -/
theorem lap_next (fits : m.Fits call i s) (eq : m.next call s = some (f, s')) : m.Lap s f s' := by
  cases s with
  | idle =>
    cases eq
    exact .apart trivial trivial (fun _ => trivial) trivial
  | begun =>
    cases eq
    exact lap_enter call
  | admitted d =>
    cases eq
    split <;> exact .apart trivial trivial (fun _ => trivial) trivial
  | unclaimed d =>
    simp only [next] at eq
    split at eq <;> cases eq
    · exact .apart trivial trivial (fun _ => trivial) trivial
    · exact .begin _ trivial
  | seeking job =>
    simp only [next] at eq
    split at eq <;> cases eq
    · exact .find ‹_›
    · exact .miss ‹_›
  | absent job =>
    simp only [next] at eq
    split at eq <;> cases eq
    · exact .findLate ‹_›
    · exact .place ‹_›
  | waiting job k =>
    simp only [next] at eq
    split at eq <;> cases eq
    exact .enter job k
  | inside job k p => exact lap_inner fits (Option.some.inj eq)
  | running e =>
    cases eq
    unfold launch
    split <;> exact .apart trivial trivial id trivial
  | telling e lines r =>
    cases lines <;> cases eq <;> exact .apart trivial trivial id trivial
  | done r => cases eq

theorem step_cases (sound : m.Sound calls) (i : Nat) :
    m.step calls i = m ∨ ∃ s f s', m.stages i = s ∧ m.Lap s f s' ∧
      m.step calls i = (f.apply i m).setStage i s' := by
  cases eq : m.next (calls i) (m.stages i) with
  | none => exact .inl (by simp only [step, eq])
  | some move =>
    exact .inr ⟨_, move.1, move.2, rfl, lap_next (sound.fits i) eq, step_of_next eq⟩

theorem index_steady (steady : f.Steady) : (f.apply i m).index = m.index := by
  cases f with
  | place _ | retire _ => cases steady
  | _ => rfl

/-! ### The lock of a name -/

theorem Locks.shown (locks : m.Locks i name k) (sound : m.Sound calls) :
    m.index name = some k := by
  obtain ⟨job, p, here, rfl, current⟩ := Stage.lock?_eq_some.mp locks
  have inside := sound.fits i
  rw [here] at inside
  exact inside.current current

theorem Locks.holds (locks : m.Locks i name k) (sound : m.Sound calls) :
    (m.cells k).holder = some i := by
  obtain ⟨job, p, here, -, -⟩ := Stage.lock?_eq_some.mp locks
  have inside := sound.fits i
  rw [here] at inside
  exact inside.holds

theorem Locks.alone (locks : m.Locks i name k) (sound : m.Sound calls) (other : m.Locks j name c) :
    i = j ∧ k = c := by
  obtain rfl : k = c := Option.some.inj ((locks.shown sound).symm.trans (other.shown sound))
  exact ⟨Option.some.inj ((locks.holds sound).symm.trans (other.holds sound)), rfl⟩

theorem locks_step_other (other : i ≠ j) :
    (m.step calls j).Locks i name k ↔ m.Locks i name k := by
  rw [Locks, stages_step_other other, Locks]

/-- A lock ends in a step of its own call, which has nothing left to do but to leave the gate. Then
the name stands for something and keeps the cell, or the cell has been taken away. -/
theorem Locks.ends (locks : m.Locks i name k) (sound : m.Sound calls)
    (ended : ¬ (m.step calls j).Locks i name k) :
    j = i ∧ (∃ job r, (m.step calls j).stages i = .inside job k (.releasing r)) ∧
      ((m.cells k).slot ≠ .vacant ∧ (m.step calls j).index = m.index ∨
        (m.cells k).slot = .vacant ∧ (m.step calls j).index name = none) := by
  obtain rfl : i = j := by
    by_contra other
    exact ended ((locks_step_other other).mpr locks)
  refine ⟨rfl, ?_⟩
  obtain same | ⟨s, f, s', there, lap, step⟩ := step_cases sound i
  · rw [same] at ended
    exact absurd locks ended
  · obtain ⟨job, p, here, rfl, current⟩ := Stage.lock?_eq_some.mp locks
    cases there.symm.trans here
    rw [step] at ended ⊢
    cases lap with
    | apart outside => cases outside
    | begin _ early => cases early
    | lock _ | miscarry _ | again _ _ | leave _ _ _ => cases current
    | hold _ after =>
      exact absurd (Stage.lock?_eq_some.mpr ⟨job, _, stages_setStage_self, rfl, after⟩) ended
    | keep r occupied => exact ⟨⟨job, r, stages_setStage_self⟩, .inl ⟨occupied, rfl⟩⟩
    | retire r vacant => exact ⟨⟨job, r, stages_setStage_self⟩, .inr ⟨vacant, update_self ..⟩⟩

def removals (_ : Nat) : Call := ⟨.forceDelete "a", ⟨.epoch, fun _ _ => .done (), none⟩⟩

def handover : List Nat :=
  List.replicate 4 0 ++ List.replicate 3 1 ++ List.replicate 7 0 ++ List.replicate 6 2

/-- In whatever order the calls take their steps, there is no more than one lock of a name, and its
cell is the one that the name has. This is so also while a call is at the gate of a cell that was
taken away and another one has the lock with a later cell. -/
theorem one_lock_opened :
    (∀ (calls : Nat → Call) (engines : EngineSet) (policy : Policy) (records : List Record)
      (hub : Hub) (schedule : List Nat),
      let m := (opened engines policy records hub).run calls schedule
      ∀ name i k, m.Locks i name k →
        m.index name = some k ∧ ∀ j c, m.Locks j name c → i = j ∧ k = c) ∧
    ∃ calls engines policy records hub schedule,
      let m := (opened engines policy records hub).run calls schedule
      ∃ name i j k c, m.WaitsAt i name k ∧ m.Locks j name c ∧ k ≠ c := by
  refine ⟨fun calls engines policy records hub schedule => ?_, ?_⟩
  · intro m name i k locks
    have sound := sound_opened calls engines policy records hub schedule
    exact ⟨locks.shown sound, fun j c other => locks.alone sound other⟩
  · refine ⟨removals, .empty, ⟨true, 5000⟩, [], ⟨256, [], 0⟩, handover, "a", 1, 2, 0, 1, ?_⟩
    decide +kernel

theorem one_lock_opened_handover :
    let m := (opened .empty ⟨true, 5000⟩ [] ⟨256, [], 0⟩).run removals handover
    m.Locks 2 "a" 1 ∧ m.WaitsAt 1 "a" 0 ∧
      (m.index "a" = some 1 ∧ ∀ j c, m.Locks j "a" c → 2 = j ∧ 1 = c) := by
  intro m
  have locks : m.Locks 2 "a" 1 := by decide +kernel
  exact ⟨locks, by decide +kernel,
    one_lock_opened.1 removals .empty ⟨true, 5000⟩ [] ⟨256, [], 0⟩ handover "a" 2 1 locks⟩

end Traffic

end ScriptHost
