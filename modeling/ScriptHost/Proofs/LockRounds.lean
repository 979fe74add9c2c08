import Mathlib.Data.Finset.Card
import ScriptHost.Proofs.Linearization
import ScriptHost.Proofs.NameLocks
import ScriptHost.Proofs.Outcomes

/-!
How often a call has to look for the cell of its name. It looks again when the cell at whose gate it
was has been taken away, and that is done by a call which drops the lock of the same name. Such a
call is done then. So there are no more rounds than other calls that change the name, and one.
-/
namespace ScriptHost

open Function (update_self update_apply)

def Request.changes? : Request → Option String
  | .get _ | .evaluate .. => none
  | r => r.target?

theorem Call.changes_of_takes {engines : EngineSet} {policy : Policy} {call : Call} {job : Job}
    (takes : call.Takes engines policy job) : call.request.changes? = some job.name := by
  have target := target_of_takes takes
  cases job with
  | create d =>
    obtain ⟨⟨body, asked, _⟩, _⟩ := takes
    rw [asked] at target ⊢
    exact target
  | _ =>
    have asked := takes
    simp only [Takes] at asked
    rw [asked] at target ⊢
    exact target

def Stage.seeks : Stage → Bool
  | .seeking _ => true
  | _ => false

theorem Stage.seeks_iff {s : Stage} : s.seeks = true ↔ ∃ job, s = .seeking job := by
  constructor
  · intro seeks
    cases s with
    | seeking job => exact ⟨job, rfl⟩
    | _ => cases seeks
  · rintro ⟨job, rfl⟩
    rfl

def Stage.entered? : Stage → Option (String × Nat)
  | .inside job k .entered => some (job.name, k)
  | _ => none

theorem Stage.entered?_eq_some {s : Stage} {name : String} {k : Nat} :
    s.entered? = some (name, k) ↔ ∃ job, s = .inside job k .entered ∧ job.name = name := by
  constructor
  · intro entered
    cases s with
    | inside job c p =>
      cases p with
      | entered =>
        cases entered
        exact ⟨job, rfl, rfl⟩
      | _ => cases entered
    | _ => cases entered
  · rintro ⟨job, rfl, rfl⟩
    rfl

def Stage.Past : Stage → Prop
  | .inside _ _ (.releasing _) | .done _ => True
  | _ => False

/-- What holds of a call that looks for a cell: the one that it has found is the one of its name,
or else it is `turned` away from it. -/
def Stage.Turns (index : String → Option Nat) (turned : String → Nat → Prop) : Stage → Prop
  | .waiting job k | .inside job k .entered => index job.name = some k ∨ turned job.name k
  | .inside job k .stale => turned job.name k
  | .seeking job => ∃ k, turned job.name k
  | _ => True

theorem Stage.Turns.imp {index index' : String → Option Nat} {turned turned' : String → Nat → Prop}
    {s : Stage} (h : s.Turns index turned) (mono : ∀ name k, turned name k → turned' name k)
    (kept : ∀ job k, s = .waiting job k ∨ s = .inside job k .entered → index job.name = some k →
      index' job.name = some k ∨ turned' job.name k) : s.Turns index' turned' := by
  cases s with
  | waiting job k => exact h.elim (kept job k (.inl rfl)) fun away => .inr (mono _ _ away)
  | inside job k p =>
    cases p with
    | entered => exact h.elim (kept job k (.inr rfl)) fun away => .inr (mono _ _ away)
    | stale => exact mono _ _ h
    | _ => trivial
  | seeking job => exact Exists.imp (mono job.name) h
  | _ => trivial

theorem Stage.Turns.of_entered {index : String → Option Nat} {turned : String → Nat → Prop}
    {s : Stage} {name : String} {k : Nat} (h : s.Turns index turned)
    (entered : s.entered? = some (name, k)) : index name = some k ∨ turned name k := by
  obtain ⟨job, rfl, rfl⟩ := entered?_eq_some.mp entered
  exact h

theorem Stage.Apart.turns {index : String → Option Nat} {turned : String → Nat → Prop}
    {s : Stage} (h : s.Apart) : s.Turns index turned := by
  cases s with
  | seeking _ | absent _ | waiting _ _ | inside _ _ _ => cases h
  | _ => trivial

theorem Phase.Current.turns {index : String → Option Nat} {turned : String → Nat → Prop}
    {p : Phase} (h : p.Current) (job : Job) (k : Nat) :
    (Stage.inside job k p).Turns index turned := by
  cases p with
  | entered | stale => cases h
  | _ => trivial

namespace Traffic

/-- The next step of call `i` begins a round: the call looks for the cell of its name. -/
def Looks (m : Traffic) (i : Nat) : Prop := (m.stages i).seeks = true

/-- The next step of call `i` ends a round: the call checks whether cell `k` is still the one of the
name. -/
def Checks (m : Traffic) (i : Nat) (name : String) (k : Nat) : Prop :=
  (m.stages i).entered? = some (name, k)

/-- In its next step call `j` drops its lock and takes the cell of the name away. -/
def Retires (calls : Nat → Call) (m : Traffic) (j : Nat) (name : String) (k : Nat) : Prop :=
  m.Locks j name k ∧ ¬ (m.step calls j).Locks j name k ∧ (m.step calls j).index name = none

instance (m : Traffic) (i : Nat) : Decidable (m.Looks i) :=
  inferInstanceAs (Decidable (_ = _))

instance (m : Traffic) (i : Nat) (name : String) (k : Nat) : Decidable (m.Checks i name k) :=
  inferInstanceAs (Decidable (_ = _))

instance (calls : Nat → Call) (m : Traffic) (j : Nat) (name : String) (k : Nat) :
    Decidable (m.Retires calls j name k) :=
  inferInstanceAs (Decidable (_ ∧ _))

/-- How many rounds call `i` begins. -/
def rounds (calls : Nat → Call) (i : Nat) : Traffic → List Nat → Nat
  | _, [] => 0
  | m, j :: rest => (if j = i ∧ m.Looks i then 1 else 0) + rounds calls i (m.step calls j) rest

def rivals (calls : Nat → Call) (i : Nat) (schedule : List Nat) : Finset Nat :=
  (schedule.toFinset.erase i).filter fun j =>
    (calls j).request.changes? = (calls i).request.changes?

variable {calls : Nat → Call} {m : Traffic} {i j k : Nat} {name : String}

/-! ### Dropping a lock -/

theorem Effect.index_apply {f : Effect} : (f.apply i m).index name =
    match f with
    | .place other => if name = other then some m.fresh else m.index name
    | .retire other => if name = other then none else m.index name
    | _ => m.index name := by
  cases f with
  | place other | retire other => exact update_apply ..
  | _ => rfl

theorem retires_of_gone (sound : m.Sound calls) (shown : m.index name = some k)
    (gone : (m.step calls j).index name ≠ some k) : m.Retires calls j name k := by
  obtain same | ⟨s, f, s', here, lap, step⟩ := step_cases sound j
  · rw [same] at gone
    exact absurd shown gone
  · rw [step] at gone
    have changed : (f.apply j m).index name ≠ some k := gone
    cases lap with
    | apart _ _ _ steady | hold _ _ steady =>
      rw [index_steady steady] at changed
      exact absurd shown changed
    | @place job free =>
      have other : name ≠ job.name := by
        rintro rfl
        rw [free] at shown
        cases shown
      simp only [Effect.index_apply, if_neg other] at changed
      exact absurd shown changed
    | @retire job c r vacant =>
      by_cases other : name = job.name
      · subst other
        have locks : m.Locks j job.name c := by
          rw [Locks, here]
          rfl
        cases shown.symm.trans (locks.shown sound)
        refine ⟨locks, ?_, ?_⟩
        · rw [step, Locks, stages_setStage_self]
          exact fun still => by cases still
        · rw [step]
          exact update_self ..
      · simp only [Effect.index_apply, if_neg other] at changed
        exact absurd shown changed
    | _ => exact absurd shown changed

theorem Retires.not_past (drops : m.Retires calls j name k) : ¬ (m.stages j).Past := by
  intro past
  obtain ⟨job, p, here, -, current⟩ := Stage.lock?_eq_some.mp drops.1
  rw [here] at past
  cases p with
  | releasing r => cases current
  | _ => cases past

theorem Retires.past (drops : m.Retires calls j name k) (sound : m.Sound calls) :
    ((m.step calls j).stages j).Past := by
  obtain ⟨locks, ended, -⟩ := drops
  obtain ⟨-, ⟨job, r, here⟩, -⟩ := locks.ends sound ended
  rw [here]
  trivial

theorem past_step (past : (m.stages j).Past) (i : Nat) : ((m.step calls i).stages j).Past := by
  by_cases mine : j = i
  · subst mine
    unfold step
    cases here : m.stages j with
    | inside job k p =>
      cases p with
      | releasing r => exact stages_setStage_self ▸ trivial
      | _ => rw [here] at past; cases past
    | done r =>
      change (m.stages j).Past
      exact here ▸ past
    | _ => rw [here] at past; cases past
  · rwa [stages_step_other mine]

theorem past_run (past : (m.stages j).Past) (schedule : List Nat) :
    ((m.run calls schedule).stages j).Past := by
  induction schedule generalizing m with
  | nil => exact past
  | cons i rest ih => exact ih (past_step past i)

theorem fresh_step (i : Nat) : m.fresh ≤ (m.step calls i).fresh := by
  unfold step
  split
  · rename_i f _ _
    cases f with
    | place _ => exact Nat.le_succ _
    | _ => exact Nat.le_refl _
  · exact Nat.le_refl _

theorem index_of_step (shown : (m.step calls i).index name = some k) :
    m.index name = some k ∨ k = m.fresh := by
  unfold step at shown
  split at shown
  · rename_i f s' _
    have after : (f.apply i m).index name = some k := shown
    rw [Effect.index_apply] at after
    split at after
    · split at after
      · exact .inr (Option.some.inj after).symm
      · exact .inl after
    · split at after
      · cases after
      · exact .inl after
    · exact .inl after
  · exact .inl shown

def Gone (m : Traffic) (k : Nat) : Prop := k < m.fresh ∧ ∀ name, m.index name ≠ some k

theorem Retires.gone (drops : m.Retires calls j name k) (sound : m.Sound calls) :
    (m.step calls j).Gone k := by
  obtain ⟨locks, -, free⟩ := drops
  have shown := locks.shown sound
  have made := sound.indexed.made shown
  refine ⟨Nat.lt_of_lt_of_le made (fresh_step j), fun other still => ?_⟩
  obtain before | new := index_of_step still
  · rw [sound.indexed.once before shown, free] at still
    cases still
  · omega

theorem gone_step (gone : m.Gone k) (i : Nat) : (m.step calls i).Gone k := by
  refine ⟨Nat.lt_of_lt_of_le gone.1 (fresh_step i), fun name shown => ?_⟩
  obtain before | new := index_of_step shown
  · exact gone.2 name before
  · have := gone.1
    omega

theorem gone_run (gone : m.Gone k) (schedule : List Nat) : (m.run calls schedule).Gone k := by
  induction schedule generalizing m with
  | nil => exact gone
  | cons i rest ih => exact ih (gone_step gone i)

theorem Retires.ne_of_later (drops : m.Retires calls j name k) (sound : m.Sound calls)
    {mid : List Nat} {j' k' : Nat} {name' : String}
    (later : (m.run calls (j :: mid)).Retires calls j' name' k') : j ≠ j' ∧ k ≠ k' := by
  constructor
  · rintro rfl
    exact later.not_past (past_run (drops.past sound) mid)
  · rintro rfl
    exact (gone_run (drops.gone sound) mid).2 name' (later.1.shown (sound_run sound (j :: mid)))

/-! ### Turning away -/

theorem turns_look (looks : m.Looks i) (turned : String → Nat → Prop) :
    ((m.step calls i).stages i).Turns (m.step calls i).index turned := by
  obtain ⟨job, here⟩ := Stage.seeks_iff.mp looks
  unfold step
  simp only [here, next]
  cases found : m.index job.name with
  | some k => exact stages_setStage_self ▸ Or.inl found
  | none => exact stages_setStage_self ▸ trivial

/-- The step that keeps what holds of a call that looks for a cell: between two rounds, the call is
turned away from no cell but one that another call has taken away meanwhile. -/
theorem turns_step {turned turned' : String → Nat → Prop} (sound : m.Sound calls)
    (h : (m.stages i).Turns m.index turned) (quiet : ¬ (j = i ∧ m.Looks i))
    (early : (m.stages i).Early → ∀ name, ∃ k, turned' name k)
    (mono : ∀ name k, turned name k → turned' name k)
    (taken : ∀ name k, j ≠ i → m.WaitsAt i name k → m.Retires calls j name k → turned' name k) :
    ((m.step calls j).stages i).Turns (m.step calls j).index turned' := by
  by_cases mine : j = i
  · subst mine
    obtain same | ⟨s, f, s', here, lap, step⟩ := step_cases sound j
    · rw [same]
      exact h.imp mono fun job k _ found => .inl found
    · rw [step, stages_setStage_self]
      rw [Looks, here] at quiet
      rw [here] at h early
      cases lap with
      | apart _ after => exact after.turns
      | begin job starts => exact early starts job.name
      | find _ | miss _ => exact absurd ⟨rfl, rfl⟩ quiet
      | findLate found => exact .inl found
      | place free => exact .inl (update_self ..)
      | enter job k => exact h.imp_right (mono job.name k)
      | lock _ | keep _ _ | retire _ _ | leave _ _ _ => trivial
      | @miscarry job k gone => exact mono _ _ (h.resolve_left gone)
      | again job k => exact ⟨k, mono _ _ h⟩
      | @hold job k p q f _ after => exact after.turns job k
  · rw [stages_step_other (Ne.symm mine)]
    refine h.imp mono fun job k there found => ?_
    by_cases kept : (m.step calls j).index job.name = some k
    · exact .inl kept
    · have drops := retires_of_gone sound found kept
      obtain waits | entered := there
      · exact .inr (taken job.name k mine (by rw [WaitsAt, waits]; rfl) drops)
      · -- The gate is not the one of a call that drops its lock.
        have inside := sound.fits i
        rw [entered] at inside
        exact absurd (Option.some.inj ((drops.1.holds sound).symm.trans inside.holds)) mine

theorem early_of_step (sound : m.Sound calls) (early : ((m.step calls j).stages i).Early) :
    (m.stages i).Early := by
  by_cases mine : j = i
  · subst mine
    obtain same | ⟨s, f, s', here, lap, step⟩ := step_cases sound j
    · rwa [same] at early
    · rw [step, stages_setStage_self] at early
      rw [here]
      cases lap with
      | apart _ _ late => exact late early
      | _ => cases early
  · rwa [stages_step_other (Ne.symm mine)] at early

theorem early_of_run (sound : m.Sound calls) {schedule : List Nat}
    (early : ((m.run calls schedule).stages i).Early) : (m.stages i).Early := by
  induction schedule generalizing m with
  | nil => exact early
  | cons j rest ih => exact early_of_step sound (ih (sound_step sound j) early)

theorem rounds_append (before after : List Nat) :
    rounds calls i m (before ++ after) =
      rounds calls i m before + rounds calls i (m.run calls before) after := by
  induction before generalizing m with
  | nil => exact (Nat.zero_add _).symm
  | cons j rest ih =>
    rw [List.cons_append, rounds, rounds, ih, Nat.add_assoc]
    rfl

def TakenFrom (calls : Nat → Call) (m : Traffic) (i : Nat) (schedule : List Nat) (name : String)
    (k : Nat) : Prop :=
  ∃ earlier j later, schedule = earlier ++ j :: later ∧ j ≠ i ∧
    (m.run calls earlier).WaitsAt i name k ∧ (m.run calls earlier).Retires calls j name k

theorem turns_run (sound : m.Sound calls) (first : ∀ turned, (m.stages i).Turns m.index turned)
    (begun : ¬ (m.stages i).Early) {schedule : List Nat} (quiet : rounds calls i m schedule = 0) :
    ((m.run calls schedule).stages i).Turns (m.run calls schedule).index
      (TakenFrom calls m i schedule) := by
  induction schedule using List.reverseRecOn with
  | nil => exact first _
  | append_singleton before j ih =>
    rw [rounds_append, Nat.add_eq_zero_iff] at quiet
    obtain ⟨earlier, last⟩ := quiet
    have step : m.run calls (before ++ [j]) = (m.run calls before).step calls j :=
      run_append before [j]
    rw [step]
    refine turns_step (sound_run sound before) (ih earlier) (fun looks => ?_)
      (fun early => absurd (early_of_run sound early) begun) ?_ ?_
    · rw [rounds, if_pos looks] at last
      omega
    · rintro name k ⟨a, b, c, rfl, taken⟩
      exact ⟨a, b, c ++ [j], by simp, taken⟩
    · exact fun name k other waits drops => ⟨before, j, [], rfl, other, waits, drops⟩

theorem taken_of_looks (sound : m.Sound calls) (looks : m.Looks i) {mid : List Nat}
    (once : rounds calls i m (i :: mid) = 1) (again : (m.run calls (i :: mid)).Looks i) :
    ∃ name k, TakenFrom calls (m.step calls i) i mid name k := by
  have begun : ¬ ((m.step calls i).stages i).Early := fun early => by
    have before := early_of_step sound early
    obtain ⟨job, here⟩ := Stage.seeks_iff.mp looks
    rw [here] at before
    cases before
  have quiet : rounds calls i (m.step calls i) mid = 0 := by
    rw [rounds, if_pos ⟨rfl, looks⟩] at once
    omega
  have turns := turns_run (sound_step sound i) (fun _ => turns_look looks _) begun quiet
  obtain ⟨job, here⟩ : ∃ job, ((m.step calls i).run calls mid).stages i = .seeking job :=
    Stage.seeks_iff.mp again
  rw [here] at turns
  exact ⟨job.name, turns⟩

/-! ### Counting -/

/-- What holds after call `i` has begun `r` rounds, when the calls that have taken a cell away from
it are `used`. -/
structure Paced (calls : Nat → Call) (m : Traffic) (i r : Nat) (used : Finset Nat) : Prop where
  bound : r ≤ used.card + 1
  early : (m.stages i).Early → r = 0
  turns : (m.stages i).Turns m.index fun _ _ => r ≤ used.card
  past : ∀ j ∈ used, (m.stages j).Past
  rival : ∀ j ∈ used, j ≠ i ∧ (calls j).request.changes? = (calls i).request.changes?

variable {r : Nat} {used : Finset Nat}

theorem Paced.look (h : Paced calls m i r used) (looks : m.Looks i) (sound : m.Sound calls) :
    Paced calls (m.step calls i) i (r + 1) used := by
  obtain ⟨job, here⟩ := Stage.seeks_iff.mp looks
  refine ⟨?_, fun early => ?_, turns_look looks _, fun j member => past_step (h.past j member) i,
    h.rival⟩
  · have turns := h.turns
    rw [here] at turns
    obtain ⟨-, within⟩ := turns
    omega
  · have before := early_of_step sound early
    rw [here] at before
    cases before

theorem WaitsAt.changes (waits : m.WaitsAt i name k) (sound : m.Sound calls) :
    (calls i).request.changes? = some name := by
  obtain ⟨job, here, rfl⟩ := Stage.gate?_eq_some.mp waits
  have fits := sound.fits i
  rw [here] at fits
  exact Call.changes_of_takes fits.1

theorem Checks.changes (checks : m.Checks i name k) (sound : m.Sound calls) :
    (calls i).request.changes? = some name := by
  obtain ⟨job, here, rfl⟩ := Stage.entered?_eq_some.mp checks
  have inside := sound.fits i
  rw [here] at inside
  exact Call.changes_of_takes inside.takes

theorem Locks.changes (locks : m.Locks i name k) (sound : m.Sound calls) :
    (calls i).request.changes? = some name := by
  obtain ⟨job, p, here, rfl, -⟩ := Stage.lock?_eq_some.mp locks
  have inside := sound.fits i
  rw [here] at inside
  exact Call.changes_of_takes inside.takes

theorem Paced.step (h : Paced calls m i r used) (sound : m.Sound calls)
    (quiet : ¬ (j = i ∧ m.Looks i)) :
    ∃ used' ⊆ insert j used, Paced calls (m.step calls j) i r used' := by
  have early (e : ((m.step calls j).stages i).Early) : r = 0 := h.early (early_of_step sound e)
  by_cases taken : ∃ name k, j ≠ i ∧ m.WaitsAt i name k ∧ m.Retires calls j name k
  · obtain ⟨name, k, other, waits, drops⟩ := taken
    have card : (insert j used).card = used.card + 1 :=
      Finset.card_insert_of_notMem fun member => drops.not_past (h.past j member)
    refine ⟨_, subset_rfl, ?_, early, ?_, ?_, ?_⟩
    · have := h.bound
      omega
    · refine turns_step sound h.turns quiet (fun e _ => ⟨0, ?_⟩) (fun _ _ within => ?_)
        fun _ _ _ _ _ => ?_
      · have := h.early e
        omega
      · omega
      · have := h.bound
        omega
    · simp only [Finset.forall_mem_insert]
      exact ⟨drops.past sound, fun c member => past_step (h.past c member) j⟩
    · simp only [Finset.forall_mem_insert]
      exact ⟨⟨other, (drops.1.changes sound).trans (waits.changes sound).symm⟩, h.rival⟩
  · refine ⟨used, Finset.subset_insert j used, h.bound, early, ?_,
      fun c member => past_step (h.past c member) j, h.rival⟩
    refine turns_step sound h.turns quiet (fun e _ => ⟨0, ?_⟩) (fun _ _ within => within)
      fun name k other waits drops => absurd ⟨name, k, other, waits, drops⟩ taken
    have := h.early e
    omega

theorem paced_run (h : Paced calls m i r used) (sound : m.Sound calls) (schedule : List Nat) :
    ∃ used' ⊆ used ∪ schedule.toFinset,
      Paced calls (m.run calls schedule) i (r + rounds calls i m schedule) used' := by
  induction schedule generalizing m r used with
  | nil => exact ⟨used, Finset.subset_union_left, h⟩
  | cons j rest ih =>
    rw [rounds, List.toFinset_cons, ← Nat.add_assoc]
    by_cases looks : j = i ∧ m.Looks i
    · obtain ⟨rfl, looks⟩ := looks
      obtain ⟨last, within, paced⟩ := ih (h.look looks sound) (sound_step sound j)
      rw [if_pos ⟨rfl, looks⟩]
      exact ⟨last, within.trans (Finset.union_subset_union_right (Finset.subset_insert j _)), paced⟩
    · obtain ⟨used', grown, next⟩ := h.step sound looks
      obtain ⟨last, within, paced⟩ := ih next (sound_step sound j)
      rw [if_neg looks]
      refine ⟨last, within.trans ?_, paced⟩
      rw [Finset.union_insert, ← Finset.insert_union]
      exact Finset.union_subset_union_left grown

/-- However the calls take their steps, a call that begins another round has been at the gate of a
cell while another call dropped the lock of the same name and took that cell away. Two such drops
are drops of different calls. So a call begins no more rounds than there are other calls that may
change its name, and one; and once it is inside a gate in the last of these, the cell is current. -/
theorem rounds_opened (calls : Nat → Call) (engines : EngineSet) (policy : Policy)
    (records : List Record) (hub : Hub) (i : Nat) :
    let m := opened engines policy records hub
    (∀ before mid, (m.run calls before).Looks i →
      rounds calls i (m.run calls before) (i :: mid) = 1 →
      (m.run calls (before ++ i :: mid)).Looks i →
      ∃ earlier j later name k, mid = earlier ++ j :: later ∧ j ≠ i ∧
        (m.run calls (before ++ i :: earlier)).WaitsAt i name k ∧
        (m.run calls (before ++ i :: earlier)).Retires calls j name k) ∧
    (∀ before mid j j' name name' k k', (m.run calls before).Retires calls j name k →
      (m.run calls (before ++ j :: mid)).Retires calls j' name' k' → j ≠ j' ∧ k ≠ k') ∧
    ∀ schedule, rounds calls i m schedule ≤ (rivals calls i schedule).card + 1 ∧
      (rounds calls i m schedule = (rivals calls i schedule).card + 1 → ∀ name k,
        (m.run calls schedule).Checks i name k → (m.run calls schedule).index name = some k) := by
  intro m
  have sound (schedule : List Nat) : (m.run calls schedule).Sound calls :=
    sound_opened calls engines policy records hub schedule
  refine ⟨fun before mid looks once again => ?_,
    fun before mid j j' name name' k k' drops later => ?_, fun schedule => ?_⟩
  · rw [run_append] at again
    obtain ⟨name, k, earlier, j, later, split, other, waits, drops⟩ :=
      taken_of_looks (sound before) looks once again
    have reached : m.run calls (before ++ i :: earlier) =
        ((m.run calls before).step calls i).run calls earlier := run_append before _
    exact ⟨earlier, j, later, name, k, split, other, reached ▸ waits, reached ▸ drops⟩
  · rw [run_append] at later
    exact drops.ne_of_later (sound before) later
  · have first : Paced calls m i 0 ∅ :=
      ⟨Nat.zero_le _, fun _ => rfl, trivial, by simp, by simp⟩
    obtain ⟨used, within, paced⟩ := paced_run first (sound []) schedule
    rw [Finset.empty_union] at within
    rw [Nat.zero_add] at paced
    have few : used.card ≤ (rivals calls i schedule).card := Finset.card_le_card fun j member =>
      Finset.mem_filter.mpr ⟨Finset.mem_erase.mpr ⟨(paced.rival j member).1, within member⟩,
        (paced.rival j member).2⟩
    refine ⟨paced.bound.trans (Nat.succ_le_succ few), fun last name k checks => ?_⟩
    exact (paced.turns.of_entered checks).resolve_right fun fewer => by omega

def unseen : List Nat := List.replicate 4 0 ++ List.replicate 2 1

def turnedAway : List Nat := List.replicate 8 0 ++ List.replicate 3 1

def awaited : List Nat := unseen ++ 1 :: List.replicate 6 0

def retried : List Nat := 0 :: List.replicate 11 1

def relooked : List Nat := unseen ++ 1 :: turnedAway ++ List.replicate 3 1

theorem rounds_opened_removals :
    let m := opened .empty ⟨true, 5000⟩ [] ⟨256, [], 0⟩
    ((m.run removals unseen).Looks 1 ∧ (m.run removals (unseen ++ 1 :: turnedAway)).Looks 1 ∧
      ∃ earlier j later name k, turnedAway = earlier ++ j :: later ∧ j ≠ 1 ∧
        (m.run removals (unseen ++ 1 :: earlier)).WaitsAt 1 name k ∧
        (m.run removals (unseen ++ 1 :: earlier)).Retires removals j name k) ∧
    ((m.run removals awaited).Retires removals 0 "a" 0 ∧
      (m.run removals (awaited ++ 0 :: retried)).Retires removals 1 "a" 1 ∧ 0 ≠ 1 ∧ 0 ≠ 1) ∧
    (rounds removals 1 m relooked = (rivals removals 1 relooked).card + 1 ∧
      (m.run removals relooked).Checks 1 "a" 1 ∧ (m.run removals relooked).index "a" = some 1) := by
  dsimp only
  obtain ⟨taken, distinct, bounded⟩ :=
    rounds_opened removals .empty ⟨true, 5000⟩ [] ⟨256, [], 0⟩ 1
  refine ⟨⟨?_, ?_, taken unseen turnedAway ?_ ?_ ?_⟩,
    ⟨?_, ?_, distinct awaited retried 0 1 "a" "a" 0 1 ?_ ?_⟩,
    ?_, ?_, (bounded relooked).2 ?_ "a" 1 ?_⟩ <;> decide +kernel

end Traffic

end ScriptHost
