import ScriptHost.Proofs.Reopening

/-!
A run of a script is cut off from all changes. It runs the edition that its name showed in the step
in which the call looked, and what it answers and tells does not depend on what others do later.
-/
namespace ScriptHost

open Time (Instant)

def Edition.event (e : Edition) (now : Instant) (line : Level × String) : LogEvent :=
  ⟨e.script.name, e.script.version, line.1, line.2, now⟩

/-- What a call that runs an edition, or has returned, is still going to say: its answer, and its
log events before that. -/
def Stage.ahead? (engines : EngineSet) (call : Call) : Stage → Option (Answer × List LogEvent)
  | .running e =>
    match call.request with
    | .evaluate _ input timeoutMs =>
      some (Evaluation.answer engines e input timeoutMs,
        (Evaluation.run engines e input timeoutMs).2.map (e.event call.given.now))
    | _ => none
  | .telling e lines r => some (r, lines.map (e.event call.given.now))
  | .done r => some (r, [])
  | _ => none

def Effect.told? : Effect → Option LogEvent
  | .tell event => some event
  | _ => Option.none

namespace Traffic

def told? (calls : Nat → Call) (m : Traffic) (i : Nat) : Option LogEvent :=
  (m.next (calls i) (m.stages i)).bind fun move => move.1.told?

def ahead? (calls : Nat → Call) (m : Traffic) (i : Nat) : Option (Answer × List LogEvent) :=
  (m.stages i).ahead? m.engines (calls i)

def feed (calls : Nat → Call) : Traffic → List Nat → List (Nat × LogEvent)
  | _, [] => []
  | m, i :: rest => ((m.told? calls i).map (i, ·)).toList ++ feed calls (m.step calls i) rest

def said (calls : Nat → Call) (m : Traffic) (schedule : List Nat) (i : Nat) : List LogEvent :=
  (m.feed calls schedule).filterMap fun p => if p.1 = i then some p.2 else none

variable {calls calls' : Nat → Call} {m m' : Traffic} {i j : Nat} {r : Answer}
  {events : List LogEvent} {call : Call} {f : Effect} {s s' : Stage}

theorem hub_apply : (f.apply i m).hub = f.told?.elim m.hub m.hub.publish := by
  cases f <;> rfl

theorem hub_run (schedule : List Nat) :
    (m.run calls schedule).hub =
      (m.feed calls schedule).foldl (fun h p => h.publish p.2) m.hub := by
  induction schedule generalizing m with
  | nil => rfl
  | cons i rest ih =>
    have first : (m.step calls i).hub = (m.told? calls i).elim m.hub m.hub.publish := by
      unfold step told?
      cases m.next (calls i) (m.stages i) with
      | none => rfl
      | some move => exact hub_apply
    have later := ih (m := m.step calls i)
    rw [feed, List.foldl_append]
    change ((m.step calls i).run calls rest).hub = _
    rw [later, first]
    cases m.told? calls i <;> rfl

theorem said_cons_self (rest : List Nat) :
    m.said calls (i :: rest) i =
      (m.told? calls i).toList ++ (m.step calls i).said calls rest i := by
  unfold said
  rw [feed, List.filterMap_append]
  cases m.told? calls i <;> simp

theorem said_cons_other (other : j ≠ i) (rest : List Nat) :
    m.said calls (j :: rest) i = (m.step calls j).said calls rest i := by
  unfold said
  rw [feed, List.filterMap_append]
  cases m.told? calls j <;> simp [other]

theorem said_append (before after : List Nat) :
    m.said calls (before ++ after) i =
      m.said calls before i ++ (m.run calls before).said calls after i := by
  induction before generalizing m with
  | nil => rfl
  | cons j before ih =>
    by_cases mine : j = i
    · subst mine
      rw [List.cons_append, said_cons_self, said_cons_self, ih, List.append_assoc]
      rfl
    · rw [List.cons_append, said_cons_other mine, said_cons_other mine, ih]
      rfl

/-- A step of a call that runs an edition says what is next of what it was going to say. -/
theorem next_ahead (ahead : s.ahead? m.engines call = some (r, events))
    (eq : m.next call s = some (f, s')) :
    ∃ later, events = f.told?.toList ++ later ∧ s'.ahead? m.engines call = some (r, later) := by
  cases s with
  | running e =>
    cases eq
    simp only [Stage.ahead?] at ahead
    split at ahead
    · rename_i asked
      cases ahead
      simp only [launch, asked]
      exact ⟨_, rfl, rfl⟩
    · cases ahead
  | telling e lines answer =>
    cases ahead
    cases lines with
    | nil => cases eq; exact ⟨[], rfl, rfl⟩
    | cons line lines => cases eq; exact ⟨_, rfl, rfl⟩
  | done answer => cases eq
  | _ => cases ahead

theorem ahead?_step (ahead : m.ahead? calls i = some (r, events)) :
    ∃ later, events = (m.told? calls i).toList ++ later ∧
      (m.step calls i).ahead? calls i = some (r, later) := by
  unfold told?
  cases eq : m.next (calls i) (m.stages i) with
  | none =>
    refine ⟨events, rfl, ?_⟩
    rw [step, eq]
    exact ahead
  | some move =>
    obtain ⟨later, same, next⟩ := next_ahead ahead eq
    refine ⟨later, same, ?_⟩
    rw [ahead?, engines_step, step_of_next eq, stages_setStage_self]
    exact next

theorem ahead?_step_other (other : j ≠ i) :
    (m.step calls j).ahead? calls i = m.ahead? calls i := by
  simp only [ahead?, engines_step, stages_step_other (Ne.symm other)]

theorem ahead?_run (ahead : m.ahead? calls i = some (r, events)) (schedule : List Nat) :
    ∃ later, events = m.said calls schedule i ++ later ∧
      (m.run calls schedule).ahead? calls i = some (r, later) := by
  induction schedule generalizing m events with
  | nil => exact ⟨events, rfl, ahead⟩
  | cons j rest ih =>
    by_cases mine : j = i
    · subst mine
      obtain ⟨later, same, next⟩ := ahead?_step ahead
      obtain ⟨last, same', final⟩ := ih next
      exact ⟨last, by rw [said_cons_self, same, same', List.append_assoc], final⟩
    · obtain ⟨last, same, final⟩ := ih ((ahead?_step_other mine).trans ahead)
      exact ⟨last, by rw [said_cons_other mine, same], final⟩

theorem next_of_ahead (ahead : s.ahead? m.engines call ≠ none) (engines : m.engines = m'.engines) :
    m.next call s = m'.next call s := by
  cases s with
  | running e => simp only [next, launch, engines]
  | telling e lines answer => cases lines <;> rfl
  | done answer => rfl
  | _ => exact absurd rfl ahead

theorem run_solo (ahead : m.ahead? calls i ≠ none) (engines : m.engines = m'.engines)
    (stages : m.stages i = m'.stages i) (same : calls i = calls' i) (schedule : List Nat) :
    (m.run calls schedule).stages i =
        (m'.run calls' (List.replicate (schedule.count i) i)).stages i ∧
      m.said calls schedule i = m'.said calls' (List.replicate (schedule.count i) i) i := by
  induction schedule generalizing m m' with
  | nil => exact ⟨stages, rfl⟩
  | cons j rest ih =>
    by_cases mine : j = i
    · subst mine
      have moves : m.next (calls j) (m.stages j) = m'.next (calls' j) (m'.stages j) := by
        rw [← same, ← stages]
        exact next_of_ahead ahead engines
      have told : m.told? calls j = m'.told? calls' j := by
        unfold told?
        rw [moves]
      have stages' : (m.step calls j).stages j = (m'.step calls' j).stages j := by
        unfold step
        rw [moves]
        cases m'.next (calls' j) (m'.stages j) with
        | none => exact stages
        | some move => rw [stages_setStage_self, stages_setStage_self]
      obtain ⟨⟨answer, events⟩, here⟩ := Option.ne_none_iff_exists'.mp ahead
      obtain ⟨later, _, next⟩ := ahead?_step here
      obtain ⟨last, events'⟩ := ih (by rw [next]; exact Option.some_ne_none _)
        (by rw [engines_step, engines_step, engines]) stages'
      rw [List.count_cons_self, List.replicate_succ]
      exact ⟨last, by rw [said_cons_self, said_cons_self, told, events']⟩
    · have stages' : (m.step calls j).stages i = m'.stages i := by
        rw [stages_step_other (Ne.symm mine), stages]
      obtain ⟨last, events'⟩ := ih (by rw [ahead?_step_other mine]; exact ahead)
        (by rw [engines_step, engines]) stages'
      rw [List.count_cons_of_ne mine]
      exact ⟨last, by rw [said_cons_other mine, events']⟩

/-- The step of a schedule in which a call looks at its name. -/
structure Captures (calls : Nat → Call) (m : Traffic) (i : Nat) (schedule before after : List Nat) :
    Prop where
  split : schedule = before ++ i :: after
  begun : (m.run calls before).stages i = .begun

theorem exists_capture (early : m.stages i = .idle ∨ m.stages i = .begun) (schedule : List Nat) :
    (((m.run calls schedule).stages i = .idle ∨ (m.run calls schedule).stages i = .begun) ∧
        m.said calls schedule i = []) ∨
      ∃ before after, Captures calls m i schedule before after ∧ m.said calls before i = [] := by
  induction schedule generalizing m with
  | nil => exact Or.inl ⟨early, rfl⟩
  | cons j rest ih =>
    -- Unless this step is the one, it is silent and the call is still early after it.
    have later : (m.step calls j).stages i = .idle ∨ (m.step calls j).stages i = .begun →
        (∀ rest, m.said calls (j :: rest) i = (m.step calls j).said calls rest i) →
        (((m.run calls (j :: rest)).stages i = .idle ∨
            (m.run calls (j :: rest)).stages i = .begun) ∧ m.said calls (j :: rest) i = []) ∨
          ∃ before after, Captures calls m i (j :: rest) before after ∧
            m.said calls before i = [] := by
      intro still silent
      rcases ih still with ⟨last, none⟩ | ⟨before, after, captures, none⟩
      · exact Or.inl ⟨last, (silent rest).trans none⟩
      · exact Or.inr ⟨j :: before, after, ⟨by rw [captures.split]; rfl, captures.begun⟩,
          (silent before).trans none⟩
    by_cases mine : j = i
    · subst mine
      rcases early with idle | begun
      · have eq : m.next (calls j) (m.stages j) = some (.none, .begun) := by
          rw [idle]
          rfl
        refine later (Or.inr ?_) fun rest => ?_
        · rw [step_of_next eq, stages_setStage_self]
        · rw [said_cons_self, told?, eq]
          rfl
      · exact Or.inr ⟨[], rest, ⟨rfl, begun⟩, rfl⟩
    · refine later ?_ (said_cons_other mine)
      rw [stages_step_other (Ne.symm mine)]
      exact early

variable {schedule before after : List Nat} {name : String} {input : Json} {timeoutMs : Nat}

def foretold (engines : EngineSet) (call : Call) (name : String) (input : Json) (timeoutMs : Nat) :
    Option Edition → Answer × List LogEvent
  | none => (.error (.notFound name), [])
  | some e => (Evaluation.answer engines e input timeoutMs,
      (Evaluation.run engines e input timeoutMs).2.map (e.event call.given.now))

theorem step_begun (asked : (calls i).request = .evaluate name input timeoutMs)
    (begun : m.stages i = .begun) :
    m.told? calls i = none ∧ (m.step calls i).ahead? calls i =
      some (foretold m.engines (calls i) name input timeoutMs (m.slot name).live?) := by
  have eq : m.next (calls i) (m.stages i) = some (.none, m.enter (calls i)) := by
    rw [begun]
    rfl
  refine ⟨by rw [told?, eq]; rfl, ?_⟩
  rw [ahead?, engines_step, step_of_next eq, stages_setStage_self]
  simp only [enter, asked]
  cases (m.slot name).live? with
  | none => rfl
  | some e => simp only [Stage.ahead?, asked, foretold]

namespace Captures

variable (h : Captures calls m i schedule before after)
include h

theorem last : m.run calls schedule = ((m.run calls before).step calls i).run calls after := by
  rw [h.split, run_append]
  rfl

theorem ahead (asked : (calls i).request = .evaluate name input timeoutMs) :
    ((m.run calls before).step calls i).ahead? calls i =
      some (foretold m.engines (calls i) name input timeoutMs
        ((m.run calls before).slot name).live?) := by
  rw [(step_begun asked h.begun).2, engines_run]

theorem ahead_last (asked : (calls i).request = .evaluate name input timeoutMs) :
    let (r, events) := foretold m.engines (calls i) name input timeoutMs
      ((m.run calls before).slot name).live?
    ∃ later, events = ((m.run calls before).step calls i).said calls after i ++ later ∧
      (m.run calls schedule).ahead? calls i = some (r, later) := by
  rw [h.last]
  exact ahead?_run (h.ahead asked) after

theorem once (asked : (calls i).request = .evaluate name input timeoutMs)
    {before' after' : List Nat} (h' : Captures calls m i schedule before' after') :
    before = before' := by
  have apart : ∀ {first last middle}, (m.run calls first).stages i = .begun →
      last = first ++ i :: middle → (m.run calls last).stages i ≠ .begun := by
    rintro first last middle begun split again
    obtain ⟨later, _, ahead⟩ := (Captures.mk split begun).ahead_last asked
    rw [ahead?, again] at ahead
    cases ahead
  have same := h.split.symm.trans h'.split
  rcases List.append_eq_append_iff.mp same with ⟨rest, longer, shifted⟩ | ⟨rest, longer, shifted⟩
  · cases rest with
    | nil => rw [longer, List.append_nil]
    | cons j rest =>
      cases shifted
      exact absurd h'.begun (apart h.begun longer)
  · cases rest with
    | nil => rw [longer, List.append_nil]
    | cons j rest =>
      cases shifted
      exact absurd h.begun (apart h'.begun longer)

end Captures

end Traffic

/-- What a run of an edition answers. An inactive edition is not run; otherwise the engine of its
language is given its source and its version, and the outcome carries its name and its version. -/
structure Edition.Evaluated (engines : EngineSet) (input : Json) (timeoutMs : Nat) (e : Edition)
    (r : Answer) : Prop where
  inactive : (∃ name, r = .error (.inactive name)) ↔ e.script.active = false
  ran : e.script.active = true → ∃ engine, engines.get? e.script.language = some engine ∧
    r = (Evaluation.verdict e.script.name timeoutMs
      (engine.run e.source ⟨e.script.name, e.script.version, input, timeoutMs⟩)).map fun o =>
        .evaluation ⟨e.script.name, e.script.version, o.value, o.logs⟩
  carries : ∀ evaluation, r = .ok (.evaluation evaluation) →
    evaluation.name = e.script.name ∧ evaluation.version = e.script.version

theorem Evaluation.verdict_ne_inactive (name other : String) (timeoutMs : Nat)
    (o : Outcome Output) : verdict name timeoutMs o ≠ .error (.inactive other) := by
  intro same
  cases o with
  | done _ | never => cases same
  | failed e => cases e <;> cases same

theorem Evaluation.answer_inactive {engines : EngineSet} {e : Edition} {input : Json}
    {timeoutMs : Nat} (inactive : e.script.active = false) :
    answer engines e input timeoutMs = .error (.inactive e.script.name) := by
  simp only [answer, run, inactive]
  rfl

theorem Evaluation.answer_active {engines : EngineSet} {engine : Engine} {e : Edition}
    {input : Json} {timeoutMs : Nat} (active : e.script.active = true)
    (speaks : engines.get? e.script.language = some engine) :
    answer engines e input timeoutMs = (verdict e.script.name timeoutMs
      (engine.run e.source ⟨e.script.name, e.script.version, input, timeoutMs⟩)).map fun o =>
        .evaluation ⟨e.script.name, e.script.version, o.value, o.logs⟩ := by
  simp only [answer, run, active, speaks]
  cases verdict e.script.name timeoutMs
    (engine.run e.source ⟨e.script.name, e.script.version, input, timeoutMs⟩) <;> rfl

theorem Edition.evaluated_answer {engines : EngineSet} {e : Edition} {input : Json}
    {timeoutMs : Nat} (supported : engines.supports e.script.language = true) :
    e.Evaluated engines input timeoutMs (Evaluation.answer engines e input timeoutMs) := by
  obtain ⟨engine, speaks⟩ := Option.isSome_iff_exists.mp supported
  cases active : e.script.active with
  | false =>
    rw [Evaluation.answer_inactive active]
    refine ⟨⟨fun _ => active, fun _ => ⟨_, rfl⟩⟩, fun on => ?_,
      fun evaluation same => by cases same⟩
    rw [active] at on
    cases on
  | true =>
    rw [Evaluation.answer_active active speaks]
    refine ⟨⟨fun ⟨name, failed⟩ => False.elim ?_, fun off => ?_⟩, fun _ => ⟨engine, speaks, rfl⟩,
      fun evaluation same => ?_⟩
    · cases outcome : Evaluation.verdict e.script.name timeoutMs
        (engine.run e.source ⟨e.script.name, e.script.version, input, timeoutMs⟩) with
      | ok o =>
        rw [outcome] at failed
        cases failed
      | error f =>
        rw [outcome] at failed
        cases failed
        exact Evaluation.verdict_ne_inactive _ _ _ _ outcome
    · rw [active] at off
      cases off
    · cases outcome : Evaluation.verdict e.script.name timeoutMs
        (engine.run e.source ⟨e.script.name, e.script.version, input, timeoutMs⟩) with
      | ok o =>
        rw [outcome] at same
        cases same
        exact ⟨rfl, rfl⟩
      | error f =>
        rw [outcome] at same
        cases same

namespace Traffic

variable {calls : Nat → Call} {i : Nat} {name : String} {input : Json} {timeoutMs : Nat}

/-- A call that asks for a run has looked at its name in one step of a schedule. All that it says
comes from the edition that the name showed in this step, whatever the others do afterwards. -/
structure Isolated (calls : Nat → Call) (m : Traffic) (i : Nat) (name : String) (input : Json)
    (timeoutMs : Nat) (schedule before after : List Nat) : Prop where
  captures : Captures calls m i schedule before after
  once : ∀ before' after', Captures calls m i schedule before' after' → before' = before
  missing : ((m.run calls before).slot name).live? = none →
    (∀ r, (m.run calls schedule).stages i = .done r → r = .error (.notFound name)) ∧
      m.said calls schedule i = []
  shown : ∀ e, ((m.run calls before).slot name).live? = some e →
    e.script.name = name ∧ Encoding.source? e.script.encoding e.script.code = some e.source ∧
      (∀ r, (m.run calls schedule).stages i = .done r →
        e.Evaluated m.engines input timeoutMs r) ∧
      ∀ event ∈ m.said calls schedule i,
        event.script = e.script.name ∧ event.version = e.script.version
  undisturbed : ∀ (others : Nat → Call) (later : List Nat), others i = calls i →
    later.count i = after.count i →
    let captured := (m.run calls before).step calls i
    (captured.run others later).stages i = (m.run calls schedule).stages i ∧
      captured.said others later i = m.said calls schedule i

namespace Captures

variable {m : Traffic} {schedule before after : List Nat} {e : Edition}
  (h : Captures calls m i schedule before after)
  (asked : (calls i).request = .evaluate name input timeoutMs)
include h asked

theorem said_eq (silent : m.said calls before i = []) :
    m.said calls schedule i = ((m.run calls before).step calls i).said calls after i := by
  have told := (step_begun asked h.begun).1
  rw [h.split, said_append, silent, said_cons_self, told]
  rfl

theorem missing (absent : ((m.run calls before).slot name).live? = none) :
    (∀ r, (m.run calls schedule).stages i = .done r → r = .error (.notFound name)) ∧
      ((m.run calls before).step calls i).said calls after i = [] := by
  have final := h.ahead_last asked
  rw [absent] at final
  obtain ⟨later, none, ahead⟩ := final
  refine ⟨fun r done => ?_, (List.append_eq_nil_iff.mp none.symm).1⟩
  rw [ahead?, done] at ahead
  cases ahead
  rfl

theorem shown (live : ((m.run calls before).slot name).live? = some e)
    (supported : m.engines.supports e.script.language = true) :
    (∀ r, (m.run calls schedule).stages i = .done r → e.Evaluated m.engines input timeoutMs r) ∧
      ∀ event ∈ ((m.run calls before).step calls i).said calls after i,
        event.script = e.script.name ∧ event.version = e.script.version := by
  have final := h.ahead_last asked
  rw [live] at final
  obtain ⟨rest, parts, ahead⟩ := final
  refine ⟨fun r done => ?_, fun event member => ?_⟩
  · rw [ahead?, done] at ahead
    cases ahead
    exact Edition.evaluated_answer supported
  · have told : event ∈ (Evaluation.run m.engines e input timeoutMs).2.map
        (e.event (calls i).given.now) := by
      rw [parts]
      exact List.mem_append_left rest member
    obtain ⟨line, _, rfl⟩ := List.mem_map.mp told
    exact ⟨rfl, rfl⟩

theorem undisturbed {others : Nat → Call} (same : others i = calls i) {later : List Nat}
    (steps : later.count i = after.count i) :
    (((m.run calls before).step calls i).run others later).stages i =
        (m.run calls schedule).stages i ∧
      ((m.run calls before).step calls i).said others later i =
        ((m.run calls before).step calls i).said calls after i := by
  have running : ((m.run calls before).step calls i).ahead? calls i ≠ none := by
    rw [h.ahead asked]
    exact Option.some_ne_none _
  have running' : ((m.run calls before).step calls i).ahead? others i ≠ none := by
    rw [ahead?, same]
    exact running
  have own : others i = others i := rfl
  obtain ⟨last, events⟩ := run_solo running rfl rfl same.symm after
  obtain ⟨last', events'⟩ := run_solo running' rfl rfl own later
  rw [steps] at last' events'
  exact ⟨by rw [last', ← last, h.last], events'.trans events.symm⟩

end Captures

/-- Every call that asks for a run is cut off from all others: from calls that change the script,
remove it, or make another one of the same name. What it says is what it hands to the hub. -/
theorem isolated_opened (calls : Nat → Call) (engines : EngineSet) (policy : Policy)
    (records : List Record) (hub : Hub) (schedule : List Nat) (i : Nat) (name : String)
    (input : Json) (timeoutMs : Nat) (asked : (calls i).request = .evaluate name input timeoutMs) :
    let m := opened engines policy records hub
    (m.run calls schedule).hub = (m.feed calls schedule).foldl (fun h p => h.publish p.2) hub ∧
    ((((m.run calls schedule).stages i = .idle ∨ (m.run calls schedule).stages i = .begun) ∧
        m.said calls schedule i = []) ∨
      ∃ before after, Isolated calls m i name input timeoutMs schedule before after) := by
  intro m
  refine ⟨hub_run schedule, (exists_capture (Or.inl rfl) schedule).imp_right ?_⟩
  rintro ⟨before, after, captures, silent⟩
  have said := captures.said_eq asked silent
  refine ⟨before, after, captures, fun _ _ other => (captures.once asked other).symm,
    fun absent => ?_, fun e live => ?_, fun others later same steps => ?_⟩
  · rw [said]
    exact captures.missing asked absent
  · obtain ⟨c, a, behind, coherent⟩ := matches_coherent calls engines policy records hub before
    have stands := Slot.live?_eq_some.mp live
    rw [behind.slots name] at stands
    obtain ⟨_, opened⟩ := coherent.record_of_live stands
    obtain ⟨_, _, supported, decoded⟩ := Slot.ofRecord_eq_live.mp opened
    rw [said]
    exact ⟨coherent.titled name e (Slot.live?_eq_some.mpr stands), decoded,
      captures.shown asked live supported⟩
  · rw [said]
    exact captures.undisturbed asked same steps

theorem isolated_opened_removed :
    let engines : EngineSet :=
      ⟨[⟨.lua, fun _ => .done (), fun source _ => .done ⟨.null, [source]⟩⟩]⟩
    let given : Given := ⟨.epoch, fun _ _ => .done (), none⟩
    let calls : Nat → Call := fun i =>
      ⟨if i = 0 then .evaluate "a" .null 1000 else .forceDelete "a", given⟩
    let script : Script := ⟨"a", "return 1", .lua, none, true, 7, .epoch, .epoch⟩
    let m := opened engines ⟨true, 5000⟩ [⟨script, false⟩] ⟨256, [], 0⟩
    let schedule := [0, 0] ++ List.replicate 11 1 ++ [0, 0, 0]
    let ran : Stage → Option (Int × List String) := fun
      | .done (.ok (.evaluation e)) => some (e.version, e.logs)
      | _ => none
    (m.run calls schedule).slot "a" = .vacant ∧
      ran ((m.run calls schedule).stages 0) = some (7, ["return 1"]) ∧
      ∃ before after, Isolated calls m 0 "a" .null 1000 schedule before after := by
  intro engines given calls script m schedule ran
  have returned : ran ((m.run calls schedule).stages 0) = some (7, ["return 1"]) := by
    decide +kernel
  have silent : ∀ s, s = .idle ∨ s = .begun → ran s = none := by
    rintro s (rfl | rfl)
    · rfl
    · rfl
  refine ⟨by decide +kernel, returned, ?_⟩
  rcases (isolated_opened calls engines ⟨true, 5000⟩ [⟨script, false⟩] ⟨256, [], 0⟩ schedule 0 "a"
    .null 1000 rfl).2 with ⟨early, _⟩ | isolated
  · rw [silent _ early] at returned
    cases returned
  · exact isolated

end Traffic

end ScriptHost
