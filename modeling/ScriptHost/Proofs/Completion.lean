import ScriptHost.Proofs.Progress

/-!
Calls under way can go on until all of them have returned, whatever steps they have taken. Those
inside a gate leave it first, each on its own; then nobody is in the way of anybody, and one call
after another returns.
-/
namespace ScriptHost.Traffic

variable {calls : Nat → Call} {m : Traffic} {i k : Nat} {job : Job}

theorem step_stale (here : m.stages i = .inside job k .stale) :
    (m.step calls i).stages i = .seeking job := by
  have eq : m.next (calls i) (m.stages i) = some (.leave k, .seeking job) := by
    rw [here]
    rfl
  rw [step_of_next eq, stages_setStage_self]

theorem step_entered (here : m.stages i = .inside job k .entered)
    (gone : m.index job.name ≠ some k) : (m.step calls i).stages i = .inside job k .stale := by
  have eq : m.next (calls i) (m.stages i) = some (.none, .inside job k .stale) := by
    simp only [here, next, inner, if_neg gone]
  rw [step_of_next eq, stages_setStage_self]

theorem turns_back (here : m.stages i = .inside job k .entered)
    (gone : m.index job.name ≠ some k) :
    (m.run calls (List.replicate 2 i)).stages i = .seeking job :=
  step_stale (step_entered here gone)

theorem exists_left (sound : m.Sound calls) (i : Nat) :
    ∃ n, ((m.run calls (List.replicate n i)).stages i).cell? = none := by
  have of_straight (straight : (m.stages i).Straight m)
      (apart : m.seeks? (calls i) (m.stages i) = none) :
      ∃ n, ((m.run calls (List.replicate n i)).stages i).cell? = none := by
    obtain ⟨n, r, done⟩ := returns_alone sound straight (not_barred apart)
    exact ⟨n, by rw [done]; rfl⟩
  cases here : m.stages i with
  | inside job k p =>
    rw [here] at of_straight
    cases p with
    | entered =>
      by_cases shown : m.index job.name = some k
      · exact of_straight shown rfl
      · exact ⟨2, by rw [turns_back here shown]; rfl⟩
    | stale => exact ⟨1, (congrArg Stage.cell? (step_stale here)).trans rfl⟩
    | _ => exact of_straight trivial rfl
  | _ => exact ⟨0, (congrArg Stage.cell? here).trans rfl⟩

theorem Clear.run {n : Nat} (clear : m.Clear)
    (left : ((m.run calls (List.replicate n i)).stages i).cell? = none) :
    (m.run calls (List.replicate n i)).Clear := by
  intro j
  by_cases mine : j = i
  · rw [mine]
    exact left
  · rw [stages_run_other fun member => mine (List.eq_of_mem_replicate member)]
    exact clear j

theorem Clear.returns (clear : m.Clear) (sound : m.Sound calls) (i : Nat) :
    ∃ n r, (m.run calls (List.replicate n i)).stages i = .done r := by
  by_cases straight : (m.stages i).Straight m
  · exact returns_alone sound straight (clear.not_barred sound)
  · cases here : m.stages i with
    | waiting job k =>
      -- The cell was taken away, so the call comes inside the gate only to look for another one.
      have gone : m.index job.name ≠ some k := by
        rw [here] at straight
        exact straight
      have free : (m.cells k).holder = none := by
        by_contra held
        obtain ⟨j, holds⟩ := Option.ne_none_iff_exists'.mp held
        have inside := sound.manned holds
        rw [clear j] at inside
        cases inside
      have eq : m.next (calls i) (m.stages i) = some (.enter k, .inside job k .entered) := by
        simp only [here, next, free]
      have entered : (m.step calls i).stages i = .inside job k .entered := by
        rw [step_of_next eq, stages_setStage_self]
      have still : (m.step calls i).index job.name ≠ some k := by
        rw [step_of_next eq]
        exact gone
      have seeks : (m.run calls (List.replicate 3 i)).stages i = .seeking job :=
        turns_back entered still
      have later : (m.run calls (List.replicate 3 i)).Clear := clear.run (by rw [seeks]; rfl)
      have sound₁ := sound_run sound (List.replicate 3 i)
      obtain ⟨n, r, done⟩ :=
        returns_alone sound₁ (by rw [seeks]; trivial) (later.not_barred sound₁)
      refine ⟨3 + n, r, ?_⟩
      rw [← List.replicate_append_replicate, run_append]
      exact done
    | inside job k p =>
      have apart := clear i
      rw [here] at apart
      cases apart
    | _ =>
      rw [here] at straight
      exact absurd trivial straight

theorem exists_sweep {P : Traffic → Prop} {Q : Stage → Prop}
    (one : ∀ {m : Traffic} (i : Nat), m.Sound calls → P m → ∃ n,
      P (m.run calls (List.replicate n i)) ∧ Q ((m.run calls (List.replicate n i)).stages i))
    (sound : m.Sound calls) (start : P m) (list : List Nat) :
    ∃ more, (∀ i ∈ more, i ∈ list) ∧ P (m.run calls more) ∧
      ∀ i ∈ list, Q ((m.run calls more).stages i) := by
  induction list generalizing m with
  | nil => exact ⟨[], fun _ => id, start, fun _ member => absurd member List.not_mem_nil⟩
  | cons i rest ih =>
    obtain ⟨n, kept, mine⟩ := one i sound start
    obtain ⟨more, among, last, theirs⟩ := ih (sound_run sound (List.replicate n i)) kept
    refine ⟨List.replicate n i ++ more, fun j member => ?_, ?_, fun j member => ?_⟩
    · rcases List.mem_append.mp member with first | later
      · rw [List.eq_of_mem_replicate first]
        exact List.mem_cons_self
      · exact List.mem_cons_of_mem i (among j later)
    · rw [run_append]
      exact last
    · rw [run_append]
      by_cases later : j ∈ rest
      · exact theirs j later
      · -- The call has had its steps before, and has none among the rest.
        obtain rfl := (List.mem_cons.mp member).resolve_right later
        rw [stages_run_other fun again => later (among j again)]
        exact mine

/-- The calls under way can go on until nobody is under way. -/
theorem exists_completion (sound : m.Sound calls) {made : List Nat}
    (others : ∀ i ∉ made, m.stages i = .idle ∨ ∃ r, m.stages i = .done r) :
    ∃ more, (∀ i ∈ more, i ∈ made) ∧ (m.run calls more).Resting := by
  obtain ⟨first, among₁, -, left⟩ := exists_sweep (P := fun _ => True)
    (Q := fun s => s.cell? = none)
    (fun i sound _ => (exists_left sound i).imp fun _ left => ⟨trivial, left⟩) sound trivial made
  have same (i : Nat) (absent : i ∉ made) : (m.run calls first).stages i = m.stages i :=
    stages_run_other fun member => absent (among₁ i member)
  have clear : (m.run calls first).Clear := by
    intro i
    by_cases member : i ∈ made
    · exact left i member
    · rw [same i member]
      exact cell?_of_rest (others i member)
  obtain ⟨second, among₂, -, returned⟩ := exists_sweep (P := Clear)
    (Q := fun s => ∃ r, s = .done r)
    (fun i sound clear => by
      obtain ⟨n, r, done⟩ := clear.returns sound i
      exact ⟨n, clear.run (by rw [done]; rfl), r, done⟩)
    (sound_run sound first) clear made
  refine ⟨first ++ second, fun i member => ?_, fun i => ?_⟩
  · exact (List.mem_append.mp member).elim (among₁ i) (among₂ i)
  · rw [run_append]
    by_cases member : i ∈ made
    · exact .inr (returned i member)
    · rw [stages_run_other fun again => member (among₂ i again), same i member]
      exact others i member

end ScriptHost.Traffic
