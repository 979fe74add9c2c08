import ScriptHost.Proofs.Isolation
import ScriptHost.Proofs.LogDelivery

/-!
What the subscribers of a script get of its runs. Calls of the catalog and those who listen take
their steps in any order. A subscriber that loses nothing gets, for every run of the script that
began after it subscribed, just what belongs to the answer of the run, in its order and once.
-/
namespace ScriptHost

open Time (Instant)

inductive Turn where
  | call (i : Nat)
  | listener (move : Move)

def Turn.schedule (turns : List Turn) : List Nat :=
  turns.filterMap fun
    | .call i => some i
    | .listener _ => none

theorem Turn.mem_of_mem_schedule {j : Nat} {turns : List Turn} (member : j ∈ schedule turns) :
    .call j ∈ turns := by
  obtain ⟨turn, there, mine⟩ := List.mem_filterMap.mp member
  cases turn with
  | call i =>
    cases mine
    exact there
  | listener move => cases mine

/-- Calls of one catalog, and those who listen to the events of its scripts. -/
structure Scene where
  traffic : Traffic
  audience : Audience

def Traffic.withHub (h : Hub) (m : Traffic) : Traffic := { m with hub := h }

namespace Scene

def opened (engines : EngineSet) (policy : Policy) (records : List Record) (capacity : Nat) :
    Scene :=
  ⟨.opened engines policy records (.ofCapacity capacity), .ofCapacity capacity⟩

variable (calls : Nat → Call)

/-- One step. What a call tells is published, and the hub is the one of those who listen. -/
def step (s : Scene) : Turn → Scene
  | .call i =>
    ⟨s.traffic.step calls i, (s.traffic.told? calls i).elim s.audience s.audience.publish⟩
  | .listener move =>
    let audience := s.audience.step move
    ⟨s.traffic.withHub audience.view, audience⟩

def run (s : Scene) (turns : List Turn) : Scene := turns.foldl (step calls) s

def moves : Traffic → List Turn → List Move
  | _, [] => []
  | m, .call i :: rest => ((m.told? calls i).map Move.publish).toList ++ moves (m.step calls i) rest
  | m, .listener move :: rest => move :: moves m rest

def received (s : Scene) (turns : List Turn) (i : Nat) : List Delivery :=
  s.audience.received (moves calls s.traffic turns) i

end Scene

namespace Traffic

variable {calls : Nat → Call} {m : Traffic} {i : Nat}

theorem next_withHub (h : Hub) (call : Call) (s : Stage) :
    (m.withHub h).next call s = m.next call s := by
  cases s with
  | inside job k p => cases p <;> rfl
  | telling e lines r => cases lines <;> rfl
  | _ => rfl

theorem told?_withHub (h : Hub) : (m.withHub h).told? calls i = m.told? calls i := by
  rw [told?, told?, next_withHub]
  rfl

theorem step_withHub (h : Hub) : (m.withHub h).step calls i =
    (m.step calls i).withHub ((m.told? calls i).elim h h.publish) := by
  unfold step told?
  rw [next_withHub]
  dsimp only [withHub]
  cases m.next (calls i) (m.stages i) with
  | none => rfl
  | some move =>
    obtain ⟨f, s⟩ := move
    cases f <;> rfl

end Traffic

namespace Audience

variable {m : Audience} {i : Nat} {seat : Seat}

theorem script_step (h : m.Sound) (sits : m.seats i = some seat) (move : Move) :
    ∃ seat', (m.step move).seats i = some seat' ∧
      seat'.subscription.script = seat.subscription.script := by
  -- Whoever changes a seat finds it with its script.
  have change : ∀ {m' : Audience} {j s t} {found : Seat}, m'.seats = m.seats →
      m.seats j = some found → s.script = found.subscription.script →
      ∃ seat', (m'.setSeat j s t).seats i = some seat' ∧
        seat'.subscription.script = seat.subscription.script := by
    intro m' j s t found same there script
    by_cases mine : i = j
    · subst mine
      cases sits.symm.trans there
      exact ⟨_, seats_setSeat_self _ _ _ _, script⟩
    · exact ⟨seat, (seats_setSeat_of_ne mine _ _ _).trans ((congrFun same i).trans sits), rfl⟩
  cases move with
  | subscribe name =>
    have old : i ≠ m.joined := by
      rintro rfl
      rw [(h.empty _ (Nat.le_refl _)).1] at sits
      cases sits
    exact ⟨seat, (subscribe_of_ne old name).1.trans sits, rfl⟩
  | publish e =>
    change ∃ seat', (m.publish e).seats i = some seat' ∧ _
    unfold publish
    split <;> exact ⟨seat, sits, rfl⟩
  | receive j =>
    change ∃ seat', (m.receive j).seats i = some seat' ∧ _
    unfold receive
    split <;> exact ⟨seat, sits, rfl⟩
  | take j =>
    rw [step]
    split
    · rename_i there
      exact change rfl there rfl
    · exact ⟨seat, sits, rfl⟩
  | dropReceiver j =>
    rw [step]
    split
    · exact ⟨seat, (congrFun (seats_drop j m) i).trans sits, rfl⟩
    · exact ⟨seat, sits, rfl⟩
  | leave j =>
    rw [step]
    split
    · rename_i there
      exact change (seats_drop j m) there rfl
    · rename_i there
      exact change rfl there rfl
    · exact ⟨seat, sits, rfl⟩
  | release j =>
    rw [step]
    split
    · rename_i there
      exact change (seats_release _ m) there rfl
    · exact ⟨seat, sits, rfl⟩

theorem script_run (h : m.Sound) (sits : m.seats i = some seat) (moves : List Move) :
    ∃ seat', (m.run moves).seats i = some seat' ∧
      seat'.subscription.script = seat.subscription.script := by
  induction moves generalizing m seat with
  | nil => exact ⟨seat, sits, rfl⟩
  | cons move rest ih =>
    obtain ⟨next, there, script⟩ := script_step h sits move
    obtain ⟨last, final, script'⟩ := ih (h.step move) there
    exact ⟨last, final, script'.trans script⟩

open Delivery (account) in
theorem received_since (capacity : Nat) (name : String) (front back : List Move) {r : Reader}
    (reads : ((ofCapacity capacity).run (front ++ .subscribe name :: back)).readers
      ((ofCapacity capacity).run front).joined = some r) :
    let last := (ofCapacity capacity).run (front ++ .subscribe name :: back)
    let i := ((ofCapacity capacity).run front).joined
    let got := (ofCapacity capacity).received (front ++ .subscribe name :: back) i ++
      ((last.channels r.channel).buffer i r).upcoming
    (∀ count, .lagged count ∉ got) → got = (Move.published name back).map .event := by
  intro last i got kept
  have before := (Sound.ofCapacity capacity).run front
  have sound : last.Sound := (Sound.ofCapacity capacity).run _
  have parts : last = (((ofCapacity capacity).run front).subscribe name).run back :=
    run_append _ front (.subscribe name :: back)
  -- The subscription was made at this place of the run, and is one of the script still.
  obtain ⟨seat, sits, script⟩ := script_run (before.subscribe name)
    (seats_subscribe_self name _) back
  rw [← parts] at sits
  have hears : last.view.Hears name ((last.channels r.channel).buffer i r) :=
    (hears_view sound).mpr ⟨r, seat, reads, sits, script, rfl⟩
  have since : Move.since i (front ++ .subscribe name :: back) = back := by
    have number : i = front.countP Move.subscribes := (frame_run capacity front).2
    have joined : i < (front ++ [Move.subscribe name]).countP Move.subscribes := by
      rw [number, List.countP_append]
      exact Nat.lt_succ_self _
    rw [List.append_cons, Move.since_append joined, number, Move.since_subscribe, List.nil_append]
  have accounted := account_run capacity _ hears
  dsimp only [Broadcast.buffer] at accounted
  rw [since] at accounted
  exact Delivery.eq_of_account kept accounted

end Audience

namespace Scene

variable {calls : Nat → Call} {s : Scene} {m : Traffic} {a : Audience} {name : String}

/-- The calls go on as if nobody listened, and those who listen see the moves of the run. -/
theorem run_eq (sound : a.Sound) (turns : List Turn) :
    run calls ⟨m.withHub a.view, a⟩ turns =
      ⟨(m.run calls (Turn.schedule turns)).withHub (a.run (moves calls m turns)).view,
        a.run (moves calls m turns)⟩ := by
  induction turns generalizing m a with
  | nil => rfl
  | cons turn rest ih =>
    cases turn with
    | call i =>
      change run calls (step calls ⟨m.withHub a.view, a⟩ (.call i)) rest = _
      rw [step, Traffic.step_withHub, Traffic.told?_withHub, moves]
      change _ = Scene.mk (((m.step calls i).run calls (Turn.schedule rest)).withHub _) _
      cases m.told? calls i with
      | none => exact ih sound
      | some e =>
        rw [Option.elim_some, Option.elim_some, ← Audience.view_publish sound e]
        exact ih (sound.publish e)
    | listener move => exact ih (m := m) (sound.step move)

theorem moves_append (m : Traffic) (before after : List Turn) :
    moves calls m (before ++ after) =
      moves calls m before ++ moves calls (m.run calls (Turn.schedule before)) after := by
  induction before generalizing m with
  | nil => rfl
  | cons turn rest ih =>
    cases turn with
    | call i =>
      rw [List.cons_append, moves, ih, moves, List.append_assoc]
      rfl
    | listener move =>
      rw [List.cons_append, moves, ih]
      rfl

theorem published_moves {turns : List Turn} (alone : ∀ e, .listener (.publish e) ∉ turns)
    (m : Traffic) : Move.published name (moves calls m turns) =
      ((m.feed calls (Turn.schedule turns)).filter fun p => p.2.script = name).map Prod.snd := by
  induction turns generalizing m with
  | nil => rfl
  | cons turn rest ih =>
    have later := ih fun e member => alone e (List.mem_cons_of_mem _ member)
    cases turn with
    | call i =>
      change _ = ((m.feed calls (i :: Turn.schedule rest)).filter _).map _
      rw [moves, Move.published_append, later, Traffic.feed, List.filter_append, List.map_append]
      congr 1
      cases m.told? calls i with
      | none => rfl
      | some e => by_cases mine : e.script = name <;> simp [Move.published, mine]
    | listener move =>
      have silent : Move.published name [move] = [] := by
        cases move with
        | publish e => exact absurd List.mem_cons_self (alone e)
        | _ => rfl
      rw [moves, ← List.singleton_append, Move.published_append, silent, later]
      rfl

end Scene

namespace Traffic

variable {calls : Nat → Call} {m : Traffic} {call : Call} {i : Nat} {f : Effect} {s s' : Stage}

def Mute : Stage → Prop
  | .running _ | .telling _ _ _ => False
  | _ => True

theorem mute_next (other : ∀ name input timeoutMs, call.request ≠ .evaluate name input timeoutMs)
    (mute : Mute s) (eq : m.next call s = some (f, s')) : f.told? = none ∧ Mute s' := by
  cases s with
  | idle =>
    cases eq
    exact ⟨rfl, trivial⟩
  | begun =>
    cases eq
    refine ⟨rfl, ?_⟩
    unfold enter
    split
    · split <;> trivial
    · trivial
    · trivial
    · trivial
    · trivial
    · trivial
    · rename_i asked
      exact absurd asked (other _ _ _)
  | admitted d =>
    cases eq
    refine ⟨rfl, ?_⟩
    split <;> trivial
  | unclaimed d =>
    simp only [next] at eq
    split at eq <;> cases eq <;> exact ⟨rfl, trivial⟩
  | seeking job =>
    simp only [next] at eq
    split at eq <;> cases eq <;> exact ⟨rfl, trivial⟩
  | absent job =>
    simp only [next] at eq
    split at eq <;> cases eq <;> exact ⟨rfl, trivial⟩
  | waiting job k =>
    simp only [next] at eq
    split at eq <;> cases eq
    exact ⟨rfl, trivial⟩
  | inside job k p =>
    have same : m.inner call.given job k p = (f, s') := Option.some.inj eq
    cases p with
    | storing w =>
      simp only [inner] at same
      split at same <;> cases same <;> exact ⟨rfl, trivial⟩
    | retiring r =>
      simp only [inner] at same
      split at same <;> cases same <;> exact ⟨rfl, trivial⟩
    | _ =>
      cases same
      exact ⟨rfl, trivial⟩
  | running e => cases mute
  | telling e lines r => cases mute
  | done r => cases eq

theorem said_of_mute
    (other : ∀ name input timeoutMs, (calls i).request ≠ .evaluate name input timeoutMs)
    (mute : Mute (m.stages i)) (schedule : List Nat) : m.said calls schedule i = [] := by
  induction schedule generalizing m with
  | nil => rfl
  | cons j rest ih =>
    by_cases mine : j = i
    · subst mine
      cases eq : m.next (calls j) (m.stages j) with
      | none =>
        have still : m.step calls j = m := by
          rw [step, eq]
        rw [said_cons_self, told?, eq, still, ih mute]
        rfl
      | some move =>
        obtain ⟨silent, mute'⟩ := mute_next other mute eq
        rw [said_cons_self, told?, eq, Option.bind_some, silent, ih]
        · rfl
        · rw [step_of_next eq, stages_setStage_self]
          exact mute'
    · rw [said_cons_other mine, ih]
      rw [stages_step_other (Ne.symm mine)]
      exact mute

theorem mem_said {p : Nat × LogEvent} {schedule : List Nat} (told : p ∈ m.feed calls schedule) :
    p.2 ∈ m.said calls schedule p.1 :=
  List.mem_filterMap.mpr ⟨p, told, if_pos rfl⟩

end Traffic

/-- What belongs to the answer of a run of a script: of a run that succeeded every line of its log,
with the version of the edition that ran; of one that failed its failure, as the caller is told of
it; of one that was refused nothing. -/
structure Contribution (now : Instant) (name : String) (shown : Option Edition) (r : Answer)
    (events : List LogEvent) : Prop where
  succeeded : ∀ reply, r = .ok reply → ∃ e evaluation, shown = some e ∧
    reply = .evaluation evaluation ∧ evaluation.version = e.script.version ∧
      events = evaluation.logs.map fun line => ⟨name, e.script.version, .info, line, now⟩
  refused : r = .error (.notFound name) ∨ r = .error (.inactive name) → events = []
  failed : ∀ f, r = .error f → f ≠ .notFound name → f ≠ .inactive name → ∃ e, shown = some e ∧
    events = [⟨name, e.script.version, .error, f.message, now⟩]

theorem Evaluation.verdict_ne_notFound (name other : String) (timeoutMs : Nat)
    (o : Outcome Output) : verdict name timeoutMs o ≠ .error (.notFound other) := by
  intro same
  cases o with
  | done _ | never => cases same
  | failed e => cases e <;> cases same

theorem contribution_answer {engines : EngineSet} {e : Edition} (input : Json) (timeoutMs : Nat)
    (supported : engines.supports e.script.language = true) (now : Instant) :
    Contribution now e.script.name (some e) (Evaluation.answer engines e input timeoutMs)
      ((Evaluation.run engines e input timeoutMs).2.map (e.event now)) := by
  obtain ⟨engine, speaks⟩ := Option.isSome_iff_exists.mp supported
  cases active : e.script.active with
  | false =>
    rw [Evaluation.answer_inactive active]
    simp only [Evaluation.run, active]
    refine ⟨fun reply same => (by cases same), fun _ => rfl, fun f same _ inactive => ?_⟩
    cases same
    exact absurd rfl inactive
  | true =>
    rw [Evaluation.answer_active active speaks]
    simp only [Evaluation.run, active, speaks]
    cases outcome : Evaluation.verdict e.script.name timeoutMs
        (engine.run e.source ⟨e.script.name, e.script.version, input, timeoutMs⟩) with
    | ok o =>
      refine ⟨fun reply same => ?_, fun refused => ?_, fun f same => (by cases same)⟩
      · cases same
        exact ⟨e, _, rfl, rfl, rfl, List.map_map⟩
      · rcases refused with same | same <;> cases same
    | error f =>
      refine ⟨fun reply same => (by cases same), fun refused => ?_, fun f' same _ _ => ?_⟩
      · rcases refused with same | same <;> cases same
        · exact absurd outcome (Evaluation.verdict_ne_notFound _ _ _ _)
        · exact absurd outcome (Evaluation.verdict_ne_inactive _ _ _ _)
      · cases same
        exact ⟨e, rfl, rfl⟩

theorem Contribution.script {now : Instant} {name : String} {shown : Option Edition} {r : Answer}
    {events : List LogEvent} (h : Contribution now name shown r events) {e : LogEvent}
    (member : e ∈ events) : e.script = name := by
  cases r with
  | ok reply =>
    obtain ⟨_, _, _, _, _, rfl⟩ := h.succeeded reply rfl
    obtain ⟨_, _, rfl⟩ := List.mem_map.mp member
    rfl
  | error f =>
    by_cases refused : f = .notFound name ∨ f = .inactive name
    · rw [h.refused (refused.imp (congrArg _) (congrArg _))] at member
      cases member
    · obtain ⟨missing, inactive⟩ := not_or.mp refused
      obtain ⟨_, _, rfl⟩ := h.failed f rfl missing inactive
      rw [List.mem_singleton.mp member]

/-- What a call that asks for a run of a script has told by now: the beginning of what belongs to
its answer, and all of it when it has returned. -/
structure Reports (calls : Nat → Call) (m : Traffic) (schedule : List Nat) (name : String) (j : Nat)
    (told : List LogEvent) (shown : Option Edition) (r : Answer) (events : List LogEvent) :
    Prop where
  captured : ∃ before after, Traffic.Captures calls m j schedule before after ∧
    ((m.run calls before).slot name).live? = shown
  contribution : Contribution (calls j).given.now name shown r events
  begun : told <+: events
  returned : ∀ answer, (m.run calls schedule).stages j = .done answer →
    answer = r ∧ told = events

namespace Traffic

variable {calls : Nat → Call} {j : Nat} {name : String} {input : Json} {timeoutMs : Nat}

theorem contribution_foretold {engines : EngineSet} {call : Call} {shown : Option Edition}
    {r : Answer} {events : List LogEvent}
    (fits : ∀ e, shown = some e → e.script.name = name ∧
      engines.supports e.script.language = true)
    (told : foretold engines call name input timeoutMs shown = (r, events)) :
    Contribution call.given.now name shown r events := by
  cases shown with
  | none =>
    cases told
    refine ⟨fun reply same => (by cases same), fun _ => rfl, fun f same missing _ => ?_⟩
    cases same
    exact absurd rfl missing
  | some e =>
    cases told
    obtain ⟨rfl, supported⟩ := fits e rfl
    exact contribution_answer input timeoutMs supported call.given.now

theorem reports_opened (calls : Nat → Call) (engines : EngineSet) (policy : Policy)
    (records : List Record) (hub : Hub) (schedule : List Nat)
    (asked : (calls j).request = .evaluate name input timeoutMs) :
    let m := opened engines policy records hub
    (((m.run calls schedule).stages j = .idle ∨ (m.run calls schedule).stages j = .begun) ∧
        m.said calls schedule j = []) ∨
      ∃ shown r events, Reports calls m schedule name j (m.said calls schedule j) shown r
        events := by
  intro m
  refine (exists_capture (Or.inl rfl) schedule).imp_right ?_
  rintro ⟨before, after, captures, silent⟩
  have said := captures.said_eq asked silent
  have final := captures.ahead_last asked
  rcases told : foretold m.engines (calls j) name input timeoutMs
    ((m.run calls before).slot name).live? with ⟨r, events⟩
  rw [told] at final
  obtain ⟨later, parts, ahead⟩ := final
  have contribution := contribution_foretold
    (fun e live => fits_opened calls engines policy records hub before live) told
  refine ⟨_, r, events, ⟨before, after, captures, rfl⟩, contribution, ⟨later, ?_⟩,
    fun answer done => ?_⟩
  · rw [said, parts]
  · rw [ahead?, done] at ahead
    cases ahead
    exact ⟨rfl, by rw [said, parts, List.append_nil]⟩

end Traffic

namespace Traffic

variable {calls : Nat → Call} {engines : EngineSet} {policy : Policy} {records : List Record}
  {hub : Hub} {name : String} {input : Json} {timeoutMs : Nat}

theorem script_of_said {j : Nat} {schedule : List Nat}
    (asked : (calls j).request = .evaluate name input timeoutMs) {e : LogEvent}
    (told : e ∈ (opened engines policy records hub).said calls schedule j) : e.script = name := by
  rcases reports_opened calls engines policy records hub schedule asked with ⟨_, silent⟩ | reports
  · rw [silent] at told
    cases told
  · obtain ⟨_, _, _, reports⟩ := reports
    exact reports.contribution.script (reports.begun.subset told)

theorem asked_of_said {j : Nat} {schedule : List Nat} {e : LogEvent}
    (told : e ∈ (opened engines policy records hub).said calls schedule j)
    (mine : e.script = name) :
    ∃ input timeoutMs, (calls j).request = .evaluate name input timeoutMs := by
  by_cases asks : ∃ other input timeoutMs, (calls j).request = .evaluate other input timeoutMs
  · obtain ⟨other, input, timeoutMs, asked⟩ := asks
    have same := script_of_said asked told
    rw [mine] at same
    exact ⟨input, timeoutMs, by rw [asked, same]⟩
  · have silent := said_of_mute (m := opened engines policy records hub) (i := j)
      (fun other input timeoutMs asked => asks ⟨other, input, timeoutMs, asked⟩) trivial schedule
    rw [silent] at told
    cases told

theorem said_of_not_mem {m : Traffic} {j : Nat} {schedule : List Nat} (absent : j ∉ schedule) :
    m.said calls schedule j = [] := by
  induction schedule generalizing m with
  | nil => rfl
  | cons i rest ih =>
    obtain ⟨other, later⟩ := not_or.mp (mt List.mem_cons.mpr absent)
    rw [said_cons_other (Ne.symm other), ih later]

end Traffic

namespace Scene

theorem run_opened (calls : Nat → Call) (engines : EngineSet) (policy : Policy)
    (records : List Record) (capacity : Nat) (turns : List Turn) :
    let m := Traffic.opened engines policy records (.ofCapacity capacity)
    let last := (opened engines policy records capacity).run calls turns
    last.traffic.stages = (m.run calls (Turn.schedule turns)).stages ∧
      last.audience = (Audience.ofCapacity capacity).run (moves calls m turns) ∧
        last.traffic.hub = last.audience.view := by
  intro m last
  have ran : last = ⟨(m.run calls (Turn.schedule turns)).withHub
      ((Audience.ofCapacity capacity).run (moves calls m turns)).view, _⟩ :=
    run_eq (m := m) (Audience.Sound.ofCapacity capacity) turns
  rw [ran]
  exact ⟨rfl, rfl, rfl⟩

/-- Subscribers hear of every run of their script. Let somebody subscribe to a script, and let
nobody publish but the calls. If he has not lost an event so far, then what he got and what is ready
for him is a log to which every run of the script adds its own events, in their order. -/
theorem subscribers_hear (calls : Nat → Call) (engines : EngineSet) (policy : Policy)
    (records : List Record) (capacity : Nat) (name : String) (before after : List Turn) :
    let start := opened engines policy records capacity
    let turns := before ++ .listener (.subscribe name) :: after
    let last := start.run calls turns
    let i := (start.run calls before).audience.joined
    (∀ e, .listener (.publish e) ∉ turns) →
    ∀ r, last.audience.readers i = some r →
    let got := start.received calls turns i ++
      ((last.audience.channels r.channel).buffer i r).upcoming
    (∀ count, .lagged count ∉ got) →
    ∃ log : List (Nat × LogEvent), got = log.map (fun p => .event p.2) ∧
      (∀ p ∈ log, ∃ input timeoutMs, (calls p.1).request = .evaluate name input timeoutMs) ∧
      ∀ j input timeoutMs, (calls j).request = .evaluate name input timeoutMs →
        .call j ∉ before →
        let told := log.filterMap fun p => if p.1 = j then some p.2 else none
        ((last.traffic.stages j = .idle ∨ last.traffic.stages j = .begun) ∧ told = []) ∨
          ∃ shown answer events, Reports calls start.traffic (Turn.schedule turns) name j told shown
            answer events := by
  intro start turns last i alone r reads got kept
  obtain ⟨stages, audience, _⟩ := run_opened calls engines policy records capacity turns
  obtain ⟨_, earlier, _⟩ := run_opened calls engines policy records capacity before
  have schedule : Turn.schedule turns = Turn.schedule before ++ Turn.schedule after :=
    List.filterMap_append
  have whole : moves calls start.traffic turns = moves calls start.traffic before ++
      .subscribe name :: moves calls (start.traffic.run calls (Turn.schedule before)) after :=
    moves_append _ before (.listener (.subscribe name) :: after)
  generalize moved : start.traffic.run calls (Turn.schedule before) = m at whole
  have events : got = (Move.published name (moves calls m after)).map .event := by
    have same : last.audience = (Audience.ofCapacity capacity).run
        (moves calls start.traffic before ++ .subscribe name :: moves calls m after) := by
      rw [← whole]
      exact audience
    have number : i = ((Audience.ofCapacity capacity).run
        (moves calls start.traffic before)).joined := congrArg Audience.joined earlier
    have told : start.received calls turns i = (Audience.ofCapacity capacity).received
        (moves calls start.traffic before ++ .subscribe name :: moves calls m after) i := by
      rw [← whole]
      rfl
    clear_value i
    subst number
    simp only [got, told] at kept ⊢
    simp only [same] at reads kept ⊢
    exact Audience.received_since capacity name _ _ reads kept
  have alone' : ∀ e, .listener (.publish e) ∉ after := fun e member =>
    alone e (List.mem_append_right _ (List.mem_cons_of_mem _ member))
  rw [published_moves alone', List.map_map] at events
  have said : ∀ j, start.traffic.said calls (Turn.schedule turns) j =
      start.traffic.said calls (Turn.schedule before) j ++
        m.said calls (Turn.schedule after) j := by
    intro j
    rw [schedule, Traffic.said_append, moved]
  refine ⟨_, events, fun p member => ?_, fun j input timeoutMs asked fresh => ?_⟩
  · obtain ⟨member, mine⟩ := List.mem_filter.mp member
    have told : p.2 ∈ start.traffic.said calls (Turn.schedule turns) p.1 := by
      rw [said]
      exact List.mem_append_right _ (Traffic.mem_said member)
    exact Traffic.asked_of_said told (of_decide_eq_true mine)
  · have silent : start.traffic.said calls (Turn.schedule before) j = [] :=
      Traffic.said_of_not_mem fun member => fresh (Turn.mem_of_mem_schedule member)
    have whole : start.traffic.said calls (Turn.schedule turns) j =
        m.said calls (Turn.schedule after) j := by
      rw [said, silent, List.nil_append]
    -- All that the call told is of the script, so the log has it.
    have told : ((m.feed calls (Turn.schedule after)).filter fun p => p.2.script = name).filterMap
        (fun p => if p.1 = j then some p.2 else none) = m.said calls (Turn.schedule after) j := by
      rw [List.filterMap_filter]
      refine List.filterMap_congr fun p member => ?_
      by_cases mine : p.1 = j
      · have own : p.2 ∈ start.traffic.said calls (Turn.schedule turns) j := by
          rw [whole, ← mine]
          exact Traffic.mem_said member
        simp [Traffic.script_of_said asked own]
      · simp [mine]
    intro own
    rw [show own = start.traffic.said calls (Turn.schedule turns) j from told.trans whole.symm,
      stages]
    exact Traffic.reports_opened calls engines policy records _ _ asked

/-- An engine that writes the source of a script to its log, and a last line. Without time it does
not end. -/
def recorder : EngineSet :=
  ⟨[⟨.lua, fun _ => .done (), fun source context =>
    if context.timeoutMs = 0 then .never else .done ⟨.null, [source, "end"]⟩⟩]⟩

def crowd (i : Nat) : Call where
  request :=
    match i with
    | 0 => .evaluate "a" .null 1000
    | 1 => .evaluate "a" .null 0
    | 2 => .activate "a" false
    | _ => .evaluate "a" .null 1000
  given := ⟨.epoch, fun _ _ => .done (), none⟩

def attended : List Turn :=
  [0, 0, 0, 1, 1, 1, 0, 1, 0].map .call ++
    [.listener (.receive 0), .listener (.receive 0), .call 0, .call 1] ++
    (List.replicate 13 2 ++ List.replicate 4 3).map .call

theorem subscribers_hear_crowd :
    let script : Script := ⟨"a", "return 1", .lua, none, true, 7, .epoch, .epoch⟩
    let start := opened recorder ⟨true, 5000⟩ [⟨script, false⟩] 4
    let turns := [] ++ .listener (.subscribe "a") :: attended
    let last := start.run crowd turns
    let i := (start.run crowd []).audience.joined
    let got := start.received crowd turns i ++ ((last.audience.channels 0).buffer i ⟨0, 2⟩).upcoming
    let event : Level → String → LogEvent := fun level line => ⟨"a", 7, level, line, .epoch⟩
    let failure : Stage → Option Failure := fun
      | .done (.error f) => some f
      | _ => none
    (∀ e, .listener (.publish e) ∉ turns) ∧
    last.audience.readers i = some ⟨0, 2⟩ ∧
    (∀ count, .lagged count ∉ got) ∧
    got = [.event (event .info "return 1"),
      .event (event .error "Script 'a' timed out after 0ms"), .event (event .info "end")] ∧
    failure (last.traffic.stages 1) = some (.evalTimeout "a" 0) ∧
    failure (last.traffic.stages 3) = some (.inactive "a") ∧
    ∃ log : List (Nat × LogEvent), got = log.map (fun p => .event p.2) ∧ ∀ j ∈ [0, 1, 3],
      ∃ shown answer events, Reports crowd start.traffic (Turn.schedule turns) "a" j
        (log.filterMap fun p => if p.1 = j then some p.2 else none) shown answer events := by
  intro script start turns last i got event failure
  have alone : ∀ e, .listener (.publish e) ∉ turns := by
    intro e member
    simp [turns, attended] at member
  have reads : last.audience.readers i = some ⟨0, 2⟩ := by decide +kernel
  have all : got = [.event (event .info "return 1"),
      .event (event .error "Script 'a' timed out after 0ms"), .event (event .info "end")] := by
    decide +kernel
  have whole : ∀ count, .lagged count ∉ got := by
    rw [all]
    simp
  have timed : failure (last.traffic.stages 1) = some (.evalTimeout "a" 0) := by decide +kernel
  have asleep : failure (last.traffic.stages 3) = some (.inactive "a") := by decide +kernel
  have returned : ∀ j ∈ [0, 1, 3], (last.traffic.answer? crowd j).isSome = true := by
    decide +kernel
  refine ⟨alone, reads, whole, all, timed, asleep, ?_⟩
  have heard := subscribers_hear crowd recorder ⟨true, 5000⟩ [⟨script, false⟩] 4 "a" [] attended
    alone ⟨0, 2⟩
  dsimp only [last, i, got, start, turns] at reads whole returned ⊢ heard
  obtain ⟨log, told, _, runs⟩ := heard reads whole
  refine ⟨log, told, fun j member => ?_⟩
  have asked : ∃ timeoutMs, (crowd j).request = .evaluate "a" .null timeoutMs := by
    simp only [List.mem_cons, List.not_mem_nil, or_false] at member
    rcases member with rfl | rfl | rfl
    · exact ⟨1000, rfl⟩
    · exact ⟨0, rfl⟩
    · exact ⟨1000, rfl⟩
  obtain ⟨timeoutMs, asked⟩ := asked
  have last := returned j member
  refine (runs j .null timeoutMs asked List.not_mem_nil).resolve_left ?_
  rintro ⟨idle | begun, _⟩
  · rw [Traffic.answer?, idle] at last
    cases last
  · rw [Traffic.answer?, begun] at last
    cases last

end Scene

end ScriptHost
