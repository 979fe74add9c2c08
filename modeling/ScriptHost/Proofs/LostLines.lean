import ScriptHost.Engine.Lua
import ScriptHost.Proofs.ChunkLog
import ScriptHost.Proofs.EvaluationFeed
import ScriptHost.Proofs.UpdateTurns

/-!
What becomes of the lines that a Lua script logs. A script that returns a value hands all of them
to its subscribers. One that fails hands them nothing but its failure: the lines it logged before
are lost with the run, however many they are.
-/
namespace ScriptHost

open Time (Instant)

namespace Lua

structure Ends (source : String) (context : RunContext) (lines : List String)
    (ended : Chunk.Ended) : Prop where
  timed : context.timeoutMs ≠ 0
  named : nameFault? (bytes context.script) = none
  runs : ∃ f, Chunk.loadAny (bytes context.script) (bytes source) = .ok f ∧
    ended = Chunk.run (Chunk.shownName (bytes context.script)) f (prepare context)
      context.timeoutMs ∧
    lines = Chunk.linesOf (Chunk.shownName (bytes context.script)) f (prepare context)
      context.timeoutMs
  inTime : ended.late = false

namespace Ends

variable {source : String} {context : RunContext} {lines : List String} {ended : Chunk.Ended}
  (h : Ends source context lines ended)
include h

theorem logs : ended.logs = lines := by
  obtain ⟨f, _, rfl, rfl⟩ := h.runs
  exact Chunk.run_logs h.inTime

theorem run_ok {o : Output} (said : verdict ended = some (.ok o)) :
    run source context = .done o := by
  obtain ⟨f, loads, rfl, _⟩ := h.runs
  simp only [run, h.named, loads, said]

theorem run_error {x : EngineError} (said : verdict ended = some (.error x)) :
    run source context = .failed x := by
  obtain ⟨f, loads, rfl, _⟩ := h.runs
  simp [run, h.named, loads, said, h.inTime, h.timed]

end Ends

def failure? (ended : Chunk.Ended) : Option String :=
  match ended.result with
  | some (.error v) => some (failureText v)
  | _ => none

theorem result_of_failure? {ended : Chunk.Ended} {text : String}
    (failed : failure? ended = some text) :
    ∃ v, ended.result = some (.error v) ∧ failureText v = text := by
  unfold failure? at failed
  split at failed
  · exact ⟨_, ‹_›, Option.some.inj failed⟩
  · cases failed

/-- What the caller of a run of an edition and its log are told when the run has logged `lines`: all
of them if it returns what JSON can say, and if it does not, only why. -/
structure Told (now : Instant) (e : Edition) (lines : List String) (ended : Chunk.Ended)
    (answer : Answer) (events : List LogEvent) : Prop where
  returned : ∀ vs value, ended.result = some (.ok vs) →
    (Chunk.first vs).toJson ended.heap = .ok value →
      answer = .ok (.evaluation ⟨e.script.name, e.script.version, value, lines⟩) ∧
        events = lines.map fun line => ⟨e.script.name, e.script.version, .info, line, now⟩
  failed : ∀ v, ended.result = some (.error v) →
    answer = .error (.eval (failureText v)) ∧
      events = [⟨e.script.name, e.script.version, .error, failureText v, now⟩]
  unreadable : ∀ vs fault, ended.result = some (.ok vs) →
    (Chunk.first vs).toJson ended.heap = .error fault →
      answer = .error (.eval fault.message) ∧
        events = [⟨e.script.name, e.script.version, .error, fault.message, now⟩]

end Lua

namespace Evaluation

variable {engines : EngineSet} {e : Edition} {input : Json} {timeoutMs : Nat} {lines : List String}
  {ended : Chunk.Ended}

theorem run_active {engine : Engine} (active : e.script.active = true)
    (speaks : engines.get? e.script.language = some engine) :
    run engines e input timeoutMs =
      match verdict e.script.name timeoutMs
        (engine.run e.source ⟨e.script.name, e.script.version, input, timeoutMs⟩) with
      | .ok o => (.ok ⟨e.script.name, e.script.version, o.value, o.logs⟩,
          o.logs.map fun line => (.info, line))
      | .error f => (.error f, [(.error, f.message)]) := by
  simp only [run, active, speaks]
  rfl

theorem told_ends (active : e.script.active = true)
    (speaks : engines.get? e.script.language = some Lua.engine)
    (ends : Lua.Ends e.source ⟨e.script.name, e.script.version, input, timeoutMs⟩ lines ended)
    (now : Instant) :
    Lua.Told now e lines ended (answer engines e input timeoutMs)
      ((run engines e input timeoutMs).2.map (e.event now)) := by
  -- A failure takes the same way whether the script raised it or its value cannot be said.
  have fails : ∀ text, Lua.verdict ended = some (.error (.eval text)) →
      answer engines e input timeoutMs = .error (.eval text) ∧
        (run engines e input timeoutMs).2.map (e.event now) =
          [⟨e.script.name, e.script.version, .error, text, now⟩] := by
    intro text said
    have outcome : Lua.engine.run e.source ⟨e.script.name, e.script.version, input, timeoutMs⟩ =
        .failed (.eval text) := ends.run_error said
    rw [answer_active active speaks, run_active active speaks, outcome]
    exact ⟨rfl, rfl⟩
  refine ⟨fun vs value result said => ?_, fun v result => fails _ ?_,
    fun vs fault result said => fails _ ?_⟩
  · have said : Lua.verdict ended = some (.ok ⟨value, lines⟩) := by
      simp [Lua.verdict, result, said, ends.logs]
    have outcome : Lua.engine.run e.source ⟨e.script.name, e.script.version, input, timeoutMs⟩ =
        .done ⟨value, lines⟩ := ends.run_ok said
    rw [answer_active active speaks, run_active active speaks, outcome]
    exact ⟨rfl, List.map_map⟩
  · simp [Lua.verdict, result]
  · simp [Lua.verdict, result, said]

end Evaluation

namespace Traffic

variable {calls : Nat → Call} {m : Traffic} {i : Nat} {name : String} {input : Json}
  {timeoutMs : Nat} {schedule : List Nat}

theorem foretold_done (early : m.stages i = .idle)
    (asked : (calls i).request = .evaluate name input timeoutMs) {r : Answer}
    (done : (m.run calls schedule).stages i = .done r) :
    ∃ before after, Captures calls m i schedule before after ∧
      foretold m.engines (calls i) name input timeoutMs ((m.run calls before).slot name).live? =
        (r, m.said calls schedule i) := by
  have looked : _ ∨ ∃ before after, Captures calls m i schedule before after ∧ _ :=
    exists_capture (Or.inl early) schedule
  obtain ⟨idle | begun, _⟩ | ⟨before, after, captures, silent⟩ := looked
  · rw [idle] at done
    cases done
  · rw [begun] at done
    cases done
  · refine ⟨before, after, captures, ?_⟩
    have final := captures.ahead_last asked
    rw [← captures.said_eq asked silent] at final
    rcases told : foretold m.engines (calls i) name input timeoutMs
      ((m.run calls before).slot name).live? with ⟨answer, events⟩
    rw [told] at final
    obtain ⟨later, parts, ahead⟩ := final
    rw [ahead?, done] at ahead
    cases ahead
    rw [parts, List.append_nil]

end Traffic

namespace Scene

variable (calls : Nat → Call) (engines : EngineSet) (policy : Policy) (records : List Record)
  (capacity : Nat) (name : String) (before after : List Turn)

def saidAfter : List (Nat × LogEvent) :=
  let m := (opened engines policy records capacity).traffic.run calls (Turn.schedule before)
  (m.feed calls (Turn.schedule after)).filter fun p => p.2.script = name

theorem heard_eq :
    let start := opened engines policy records capacity
    let turns := before ++ .listener (.subscribe name) :: after
    let last := start.run calls turns
    let i := (start.run calls before).audience.joined
    (∀ e, .listener (.publish e) ∉ turns) →
    ∀ r, last.audience.readers i = some r →
    let got := start.received calls turns i ++
      ((last.audience.channels r.channel).buffer i r).upcoming
    (∀ count, .lagged count ∉ got) →
    got = (saidAfter calls engines policy records capacity name before after).map
      fun p => .event p.2 := by
  intro start turns last i alone r reads got kept
  have audience : last.audience =
      (Audience.ofCapacity capacity).run (moves calls start.traffic turns) :=
    (run_opened calls engines policy records capacity turns).2.1
  have joined : i = ((Audience.ofCapacity capacity).run
      (moves calls start.traffic before)).joined :=
    congrArg Audience.joined (run_opened calls engines policy records capacity before).2.1
  have alone' : ∀ e, .listener (.publish e) ∉ after := fun e member =>
    alone e (List.mem_append_right _ (List.mem_cons_of_mem _ member))
  -- The moves of the whole run are those before the subscription, it, and those after it.
  have whole : moves calls start.traffic turns = moves calls start.traffic before ++
      .subscribe name :: moves calls (start.traffic.run calls (Turn.schedule before)) after :=
    moves_append _ before (.listener (.subscribe name) :: after)
  rw [saidAfter, ← Function.comp_def, ← List.map_map, ← published_moves alone']
  have since := Audience.received_since capacity name (moves calls start.traffic before)
    (moves calls (start.traffic.run calls (Turn.schedule before)) after) (r := r)
  rw [← whole, ← joined, ← audience] at since
  exact since reads kept

theorem said_saidAfter {j : Nat} {input : Json} {timeoutMs : Nat}
    (asked : (calls j).request = .evaluate name input timeoutMs) (fresh : .call j ∉ before) :
    (saidAfter calls engines policy records capacity name before after).filterMap
        (fun p => if p.1 = j then some p.2 else none) =
      (opened engines policy records capacity).traffic.said calls
        (Turn.schedule (before ++ .listener (.subscribe name) :: after)) j := by
  have schedule : Turn.schedule (before ++ .listener (.subscribe name) :: after) =
      Turn.schedule before ++ Turn.schedule after := List.filterMap_append
  have silent : (opened engines policy records capacity).traffic.said calls
      (Turn.schedule before) j = [] :=
    Traffic.said_of_not_mem fun member => fresh (Turn.mem_of_mem_schedule member)
  have own : ∀ e ∈ ((opened engines policy records capacity).traffic.run calls
      (Turn.schedule before)).said calls (Turn.schedule after) j, e.script = name := by
    intro e member
    have told : e ∈ (opened engines policy records capacity).traffic.said calls
        (Turn.schedule before ++ Turn.schedule after) j := by
      rw [Traffic.said_append]
      exact List.mem_append_right _ member
    exact Traffic.script_of_said asked told
  rw [schedule, Traffic.said_append, silent, List.nil_append, saidAfter, List.filterMap_filter]
  refine List.filterMap_congr fun p member => ?_
  by_cases mine : p.1 = j
  · subst mine
    simp [own p.2 (Traffic.mem_said member)]
  · simp [mine]

/-- Subscribers hear every line of a Lua script that returns, and no line of one that fails. Let
somebody subscribe to a script and lose no event. What he gets of a run that asks for the script
later, and ends in its time, are all lines that it logged, in their order, if the script returns;
if it fails after any number of lines, he gets its failure alone. -/
theorem lines_opened (speaks : engines.get? .lua = some Lua.engine) :
    let start := opened engines policy records capacity
    let turns := before ++ .listener (.subscribe name) :: after
    let last := start.run calls turns
    let i := (start.run calls before).audience.joined
    (∀ e, .listener (.publish e) ∉ turns) →
    ∀ r, last.audience.readers i = some r →
    let got := start.received calls turns i ++
      ((last.audience.channels r.channel).buffer i r).upcoming
    (∀ count, .lagged count ∉ got) →
    let log := saidAfter calls engines policy records capacity name before after
    got = log.map (fun p => .event p.2) ∧
    ∀ j input timeoutMs answer, (calls j).request = .evaluate name input timeoutMs →
      .call j ∉ before → last.traffic.stages j = .done answer →
      ∃ front back, Traffic.Captures calls start.traffic j (Turn.schedule turns) front back ∧
        ∀ e, ((start.traffic.run calls front).slot name).live? = some e →
          e.script.active = true → e.script.language = .lua →
          ∀ lines ended, Lua.Ends e.source ⟨name, e.script.version, input, timeoutMs⟩ lines ended →
            Lua.Told (calls j).given.now e lines ended answer
              (log.filterMap fun p => if p.1 = j then some p.2 else none) := by
  intro start turns last i alone r reads got kept log
  refine ⟨heard_eq calls engines policy records capacity name before after alone r reads kept,
    fun j input timeoutMs answer asked fresh done => ?_⟩
  have stages : last.traffic.stages = (start.traffic.run calls (Turn.schedule turns)).stages :=
    (run_opened calls engines policy records capacity turns).1
  rw [stages] at done
  obtain ⟨front, back, captures, foretold⟩ := Traffic.foretold_done rfl asked done
  refine ⟨front, back, captures, fun e live active lua lines ended ends => ?_⟩
  have titled : e.script.name = name :=
    (Traffic.fits_opened calls engines policy records _ front live).1
  rw [live] at foretold
  rw [← titled] at ends
  rw [← lua] at speaks
  have told := Evaluation.told_ends active speaks ends (calls j).given.now
  obtain ⟨answered, said⟩ := Prod.mk.inj foretold
  change Evaluation.answer engines e input timeoutMs = answer at answered
  change (Evaluation.run engines e input timeoutMs).2.map _ = start.traffic.said calls _ j at said
  rw [said_saidAfter calls engines policy records capacity name before after asked fresh, ← said,
    ← answered]
  exact told

theorem lines_opened_lost :
    let engines : EngineSet := ⟨[Lua.engine]⟩
    let script : Script :=
      ⟨"a", "log('one')\nerror('boom')", .lua, none, true, 7, .epoch, .epoch⟩
    let calls : Nat → Call := fun _ => ⟨.evaluate "a" .null 1, .epoch, fun _ _ => .done (), none⟩
    let start := opened engines ⟨true, 5000⟩ [⟨script, false⟩] 4
    let after := List.replicate 5 (Turn.call 0)
    let turns := [] ++ .listener (.subscribe "a") :: after
    let last := start.run calls turns
    let i := (start.run calls []).audience.joined
    let got := start.received calls turns i ++ ((last.audience.channels 0).buffer i ⟨0, 0⟩).upcoming
    let log := saidAfter calls engines ⟨true, 5000⟩ [⟨script, false⟩] 4 "a" [] after
    let text := "runtime error: [string \"a\"]:2: boom"
    engines.get? .lua = some Lua.engine ∧
    (∀ e, .listener (.publish e) ∉ turns) ∧
    last.audience.readers i = some ⟨0, 0⟩ ∧
    (∀ count, .lagged count ∉ got) ∧
    got = log.map (fun p => .event p.2) ∧
    last.traffic.stages 0 = .done (.error (.eval text)) ∧
    ∃ ended, Lua.Ends script.code ⟨"a", 7, .null, 1⟩ ["one"] ended ∧
      (∃ v, ended.result = some (.error v)) ∧
      log.filterMap (fun p => if p.1 = 0 then some p.2 else none) =
        [⟨"a", 7, .error, text, .epoch⟩] := by
  intro engines script calls start after turns last i got log text
  have speaks : engines.get? .lua = some Lua.engine := rfl
  have alone : ∀ e, .listener (.publish e) ∉ turns := by
    intro e member
    simp [turns, after] at member
  have reads : last.audience.readers i = some ⟨0, 0⟩ := by decide +kernel
  have all : got = [.event ⟨"a", 7, .error, text, .epoch⟩] := by decide +kernel
  have kept : ∀ count, .lagged count ∉ got := by
    rw [all]
    simp
  have done : last.traffic.stages 0 = .done (.error (.eval text)) :=
    Stage.failure?_eq_some.mp (by decide +kernel)
  have captures : Traffic.Captures calls start.traffic 0 (Turn.schedule turns) [0] [0, 0, 0] :=
    ⟨rfl, rfl⟩
  have live : ((start.traffic.run calls [0]).slot "a").live? = some ⟨script, script.code⟩ := rfl
  have ran : ∃ f, Chunk.loadAny (bytes "a") (bytes script.code) = .ok f ∧
      let chunk := Chunk.shownName (bytes "a")
      let heap := Lua.prepare ⟨"a", 7, .null, 1⟩
      Chunk.linesOf chunk f heap 1 = ["one"] ∧ (Chunk.run chunk f heap 1).late = false ∧
        Lua.failure? (Chunk.run chunk f heap 1) = some text := by
    have checked : (match Chunk.loadAny (bytes "a") (bytes script.code) with
      | .ok f =>
        let chunk := Chunk.shownName (bytes "a")
        let heap := Lua.prepare ⟨"a", 7, .null, 1⟩
        decide (Chunk.linesOf chunk f heap 1 = ["one"] ∧ (Chunk.run chunk f heap 1).late = false ∧
          Lua.failure? (Chunk.run chunk f heap 1) = some text)
      | .error _ => false) = true := by decide +kernel
    split at checked
    · rename_i f loads
      exact ⟨f, loads, of_decide_eq_true checked⟩
    · cases checked
  obtain ⟨f, loads, lines, inTime, failed⟩ := ran
  generalize eq : Chunk.run (Chunk.shownName (bytes "a")) f (Lua.prepare ⟨"a", 7, .null, 1⟩) 1 =
    ended at inTime failed
  have ends : Lua.Ends script.code ⟨"a", 7, .null, 1⟩ ["one"] ended :=
    ⟨one_ne_zero, by decide +kernel, ⟨f, loads, eq.symm, lines.symm⟩, inTime⟩
  have heard := lines_opened calls engines ⟨true, 5000⟩ [⟨script, false⟩] 4 "a" [] after speaks
    alone ⟨0, 0⟩
  dsimp only [last, i, got, log, start, turns] at reads kept done captures live ⊢ heard
  obtain ⟨told, runs⟩ := heard reads kept
  obtain ⟨front, back, other, hears⟩ := runs 0 .null 1 _ rfl List.not_mem_nil done
  cases captures.once (show (calls 0).request = .evaluate "a" .null 1 from rfl) other
  obtain ⟨v, result, said⟩ := Lua.result_of_failure? failed
  obtain ⟨_, events⟩ := (hears _ live rfl rfl _ _ ends).failed v result
  rw [said] at events
  exact ⟨speaks, alone, reads, kept, told, done, ended, ends, ⟨v, result⟩, events⟩

end Scene

end ScriptHost
