import ScriptHost.Proofs.TurnOrder

/-!
Every run of calls that alternate their steps has an order of the calls in which they could have
been made one after another: with the same answers, and leaving the same behind.
-/
namespace ScriptHost.Traffic

variable {calls : Nat → Call} {m : Traffic} {i j : Nat} {c : Catalog} {a : MemoryArchive}
  {r : Answer}

theorem run_append (before after : List Nat) :
    m.run calls (before ++ after) = (m.run calls before).run calls after :=
  List.foldl_append ..

theorem engines_run (schedule : List Nat) : (m.run calls schedule).engines = m.engines := by
  induction schedule generalizing m with
  | nil => rfl
  | cons j rest ih => exact ih.trans engines_step

theorem policy_run (schedule : List Nat) : (m.run calls schedule).policy = m.policy := by
  induction schedule generalizing m with
  | nil => rfl
  | cons j rest ih => exact ih.trans policy_step

theorem stages_run_other {schedule : List Nat} (absent : i ∉ schedule) :
    (m.run calls schedule).stages i = m.stages i := by
  induction schedule generalizing m with
  | nil => rfl
  | cons j rest ih =>
    obtain ⟨other, later⟩ := not_or.mp (mt List.mem_cons.mpr absent)
    exact (ih later).trans (stages_step_other other)

theorem turns_append (before after : List Nat) :
    m.turns calls (before ++ after) =
      m.turns calls before ++ (m.run calls before).turns calls after := by
  induction before generalizing m with
  | nil => rfl
  | cons i before ih =>
    simp only [List.cons_append, turns]
    split
    · rw [ih]
      rfl
    · exact ih

theorem answer?_run (settled : m.answer? calls i = some r) (schedule : List Nat) :
    (m.run calls schedule).answer? calls i = some r := by
  induction schedule generalizing m with
  | nil => exact settled
  | cons j rest ih => exact ih (answer?_step settled)

theorem answer?_step_other (other : j ≠ i) :
    (m.step calls i).answer? calls j = m.answer? calls j := by
  simp only [answer?, engines_step, policy_step, stages_step_other other]

theorem not_turn (turn : ¬ (m.answer? calls i = none ∧ (m.step calls i).answer? calls i ≠ none)) :
    m.answer? calls i ≠ none ∨ (m.step calls i).answer? calls i = none := by
  by_cases settled : m.answer? calls i = none
  · refine Or.inr ?_
    by_contra now
    exact turn ⟨settled, now⟩
  · exact Or.inl settled

theorem mem_turns {schedule : List Nat} :
    i ∈ m.turns calls schedule ↔
      m.answer? calls i = none ∧ (m.run calls schedule).answer? calls i ≠ none := by
  induction schedule generalizing m with
  | nil =>
    constructor
    · intro member
      cases member
    · rintro ⟨still, settled⟩
      exact absurd still settled
  | cons j rest ih =>
    have rest_of_other : i ≠ j → (i ∈ (m.step calls j).turns calls rest ↔
        m.answer? calls i = none ∧ (m.run calls (j :: rest)).answer? calls i ≠ none) := by
      intro other
      rw [ih, answer?_step_other other]
      rfl
    rw [turns]
    by_cases turn : m.answer? calls j = none ∧ (m.step calls j).answer? calls j ≠ none
    · rw [if_pos turn, List.mem_cons]
      by_cases mine : i = j
      · subst mine
        refine ⟨fun _ => ⟨turn.1, ?_⟩, fun _ => Or.inl rfl⟩
        obtain ⟨r, settled⟩ := Option.ne_none_iff_exists'.mp turn.2
        intro lost
        change ((m.step calls i).run calls rest).answer? calls i = none at lost
        rw [answer?_run settled] at lost
        cases lost
      · rw [rest_of_other mine]
        exact ⟨fun h => h.resolve_left mine, Or.inr⟩
    · rw [if_neg turn]
      by_cases mine : i = j
      · subst mine
        rw [ih]
        have same : (m.step calls i).answer? calls i = none ↔ m.answer? calls i = none := by
          constructor
          · intro still
            cases before : m.answer? calls i with
            | none => rfl
            | some r =>
              rw [answer?_step before] at still
              cases still
          · intro still
            by_contra settled
            exact turn ⟨still, settled⟩
        rw [same]
        rfl
      · exact rest_of_other mine

theorem mem_schedule {schedule : List Nat} (member : i ∈ m.turns calls schedule) :
    i ∈ schedule := by
  induction schedule generalizing m with
  | nil => cases member
  | cons j rest ih =>
    rw [turns] at member
    split at member
    · rcases List.mem_cons.mp member with first | later
      · rw [first]; exact List.mem_cons_self
      · exact List.mem_cons_of_mem j (ih later)
    · exact List.mem_cons_of_mem j (ih member)

theorem nodup_turns (schedule : List Nat) : (m.turns calls schedule).Nodup := by
  induction schedule generalizing m with
  | nil => exact List.nodup_nil
  | cons i rest ih =>
    rw [turns]
    split
    · rename_i turn
      exact List.nodup_cons.mpr ⟨fun again => turn.2 (mem_turns.mp again).1, ih⟩
    · exact ih

/-- The calls of a run, made one after another in the order of their turns, answer what they answer
in the run and leave the same behind. -/
theorem inTurn_turns (h : m.Matches c a) (sound : m.Sound calls) (schedule : List Nat) :
    ∃ answers c' a', Call.inTurn ((m.turns calls schedule).map calls) c a = (answers, c', a') ∧
      (m.run calls schedule).Matches c' a' ∧
      answers.map some = (m.turns calls schedule).map ((m.run calls schedule).answer? calls) := by
  -- `c` and `a` are what the calls have left that had their turn before the schedule.
  induction schedule generalizing m c a with
  | nil => exact ⟨[], c, a, rfl, h, rfl⟩
  | cons i rest ih =>
    rw [turns]
    by_cases turn : m.answer? calls i = none ∧ (m.step calls i).answer? calls i ≠ none
    · rw [if_pos turn]
      obtain ⟨r, settled⟩ := Option.ne_none_iff_exists'.mp turn.2
      obtain ⟨c₁, a₁, alone, next⟩ := takes_turn h sound turn.1 settled
      obtain ⟨answers, c', a', made, last, same⟩ := ih next (sound_step sound i)
      refine ⟨r :: answers, c', a', ?_, last, ?_⟩
      · rw [List.map_cons, Call.inTurn, alone]
        simp only [made]
      · have answered : (m.run calls (i :: rest)).answer? calls i = some r :=
          answer?_run settled rest
        rw [List.map_cons, List.map_cons, answered, same]
        rfl
    · rw [if_neg turn]
      exact ih (matches_step h sound (not_turn turn)) (sound_step sound i)

def Resting (m : Traffic) : Prop := ∀ i, m.stages i = .idle ∨ ∃ r, m.stages i = .done r

theorem archive_resting (h : m.Matches c a) (sound : m.Sound calls) (resting : m.Resting) :
    m.archive = a := by
  refine MemoryArchive.eq_of_find? sound.ordered h.ordered fun name =>
    h.kept name fun i publishes => ?_
  rcases resting i with idle | ⟨r, done⟩
  · rw [idle] at publishes
    exact publishes
  · rw [done] at publishes
    exact publishes

/-- An order in which the calls of a run could have been made one after another. -/
structure Linearized (calls : Nat → Call) (m : Traffic) (schedule : List Nat) (c : Catalog)
    (a : MemoryArchive) (order : List Nat) : Prop where
  /-- No call stands in it twice. -/
  once : order.Nodup
  /-- Every call that has returned stands in it. -/
  returned : ∀ {i r}, (m.run calls schedule).stages i = .done r → i ∈ order
  /-- No call stands in it that has not been made. -/
  made : ∀ {i}, i ∈ order → (m.run calls schedule).stages i ≠ .idle
  /-- A call that had returned before another one was made stands before it. -/
  respects : ∀ {before after i j r}, schedule = before ++ after →
    (m.run calls before).stages i = .done r → (m.run calls before).stages j = .idle →
    j ∈ order → List.Sublist [i, j] order
  /-- Every call that has returned answers the same in the order. -/
  answers : ∀ {k i : Nat} {r : Answer}, order[k]? = some i →
    (m.run calls schedule).stages i = .done r →
    (Call.inTurn (order.map calls) c a).1[k]? = some r
  /-- Every name stands for the same in the end. -/
  slots : ∀ name, (m.run calls schedule).slot name =
    (Call.inTurn (order.map calls) c a).2.1.slot name
  /-- When every call has returned the order is one of these calls alone, and the archive is the
  same too. -/
  resting : (m.run calls schedule).Resting →
    (∀ i ∈ order, ∃ r, (m.run calls schedule).stages i = .done r) ∧
      (m.run calls schedule).archive = (Call.inTurn (order.map calls) c a).2.2

theorem answer?_idle (idle : m.stages i = .idle) : m.answer? calls i = none := by
  simp only [answer?, idle, Stage.settled?]

theorem answer?_done (done : m.stages i = .done r) : m.answer? calls i = some r := by
  simp only [answer?, done, Stage.settled?]

theorem linearized_turns (h : m.Matches c a) (sound : m.Sound calls)
    (idle : ∀ i, m.stages i = .idle) (schedule : List Nat) :
    Linearized calls m schedule c a (m.turns calls schedule) := by
  obtain ⟨answers, c', a', made, last, same⟩ := inTurn_turns h sound schedule
  have returned : ∀ {i r}, (m.run calls schedule).stages i = .done r →
      i ∈ m.turns calls schedule := by
    intro i r done
    refine mem_turns.mpr ⟨answer?_idle (idle i), ?_⟩
    rw [answer?_done done]
    exact Option.some_ne_none r
  have notIdle : ∀ {i}, i ∈ m.turns calls schedule →
      (m.run calls schedule).stages i ≠ .idle :=
    fun member rest => (mem_turns.mp member).2 (answer?_idle rest)
  refine ⟨nodup_turns schedule, returned, notIdle, ?_, ?_, ?_, ?_⟩
  · rintro before after i j r rfl done rest member
    rw [turns_append] at member ⊢
    have first : i ∈ m.turns calls before := by
      refine mem_turns.mpr ⟨answer?_idle (idle i), ?_⟩
      rw [answer?_done done]
      exact Option.some_ne_none r
    have second : j ∈ (m.run calls before).turns calls after := by
      rcases List.mem_append.mp member with early | late
      · exact absurd (answer?_idle rest) (mem_turns.mp early).2
      · exact late
    exact (List.singleton_sublist.mpr first).append (List.singleton_sublist.mpr second)
  · intro k i r here done
    rw [made]
    have value := congrArg (·[k]?) same
    simp only [List.getElem?_map, here, Option.map_some, answer?_done done] at value
    obtain ⟨r', found, eq⟩ := Option.map_eq_some_iff.mp value
    cases eq
    exact found
  · intro name
    rw [made]
    exact last.slots name
  · intro resting
    refine ⟨fun i member => (resting i).resolve_left (notIdle member), ?_⟩
    rw [made]
    exact archive_resting last (sound_run sound schedule) resting

theorem matches_ofCatalog (sorted : Named.Sorted c.slots) (titled : c.Titled) (ordered : a.Ordered)
    (hub : Hub) : (ofCatalog c a hub).Matches c a :=
  ⟨rfl, rfl, slot_ofCatalog c a hub, sorted, titled, ordered,
    (fun stage => by cases stage), fun _ _ => rfl⟩

theorem matches_opened (engines : EngineSet) (policy : Policy) (records : List Record) (hub : Hub) :
    (opened engines policy records hub).Matches
      (Catalog.ofRecords engines policy (MemoryArchive.ofRecords records).all)
      (MemoryArchive.ofRecords records) :=
  matches_ofCatalog (Catalog.sorted_ofRecords engines policy _)
    (Catalog.titled_ofRecords engines policy _) (MemoryArchive.ordered_ofRecords records) hub

/-- The calls of a catalog, however their steps alternate, could have been made one after another:
on the catalog that was opened, with the same answers, in an order that keeps every call after those
that had returned before it was made. -/
theorem linearized_opened (calls : Nat → Call) (engines : EngineSet) (policy : Policy)
    (records : List Record) (hub : Hub) (schedule : List Nat) :
    ∃ order, Linearized calls (opened engines policy records hub) schedule
      (Catalog.ofRecords engines policy (MemoryArchive.ofRecords records).all)
      (MemoryArchive.ofRecords records) order :=
  ⟨_, linearized_turns (matches_opened engines policy records hub)
    (sound_opened calls engines policy records hub []) (fun _ => rfl) schedule⟩

end ScriptHost.Traffic
