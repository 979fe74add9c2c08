import ScriptHost.Child.Piping

/-!
The exchange with a program never comes to a standstill: while the program runs and the time is not
over, it can go on, or the task that it waits for can. What the host has in the end is the beginning
of each stream that the program has written.
-/
namespace ScriptHost.Child

/-! ### One stream -/

theorem Pipe.content_of_full {p : Pipe} (full : p.free = 0) : p.content ≠ [] := by
  intro empty
  have positive := p.capacity.2
  rw [free, empty, List.length_nil] at full
  omega

/-- What a task has kept, when this is all that it has read; `dry` says that nothing more comes. -/
def Reading.Tells (consumed : Bytes) (dry : Prop) : Reading → Prop
  | .keeping kept => kept = consumed ∧ consumed.length ≤ streamLimit
  | .discarding kept => kept = consumed.take streamLimit ∧ (streamLimit ≤ consumed.length ∨ dry)
  | .ended kept => kept = consumed.take streamLimit ∧ dry

theorem Reading.Tells.imp {consumed : Bytes} {dry dry' : Prop} (implies : dry → dry') {r : Reading}
    (h : r.Tells consumed dry) : r.Tells consumed dry' := by
  cases r with
  | keeping kept => exact h
  | discarding kept => exact ⟨h.1, h.2.imp id implies⟩
  | ended kept => exact ⟨h.1, implies h.2⟩

namespace Outlet

def Dry (o : Outlet) : Prop := o.pipe.content = [] ∧ o.pipe.writing = false

inductive Drains (o : Outlet) : Outlet → Prop where
  | turn {kept : Bytes} (task : o.task = .keeping kept)
      (enough : streamLimit ≤ kept.length ∨ o.Dry) : Drains o { o with task := .discarding kept }
  | keep {kept : Bytes} {n : Nat} (task : o.task = .keeping kept) (filled : o.pipe.content ≠ [])
      (positive : 0 < n) (fits : kept.length + n ≤ streamLimit) :
      Drains o { o with pipe := o.pipe.pull n, task := .keeping (kept ++ o.pipe.content.take n) }
  | discard {kept : Bytes} {n : Nat} (task : o.task = .discarding kept)
      (filled : o.pipe.content ≠ []) (positive : 0 < n) :
      Drains o { o with pipe := o.pipe.pull n }
  | finish {kept : Bytes} (task : o.task = .discarding kept) (dry : o.Dry) :
      Drains o { o with pipe := o.pipe.closeReading, task := .ended kept }

variable {o o' : Outlet} {n : Nat}

theorem Drains.not_ended (step : o.Drains o') (kept : Bytes) : o.task ≠ .ended kept := by
  cases step <;> simp_all only [ne_eq, reduceCtorEq, not_false_eq_true]

theorem Drains.writing (step : o.Drains o') : o'.pipe.writing = o.pipe.writing := by
  cases step <;> rfl

theorem drains_of_drain (eq : o.drain n = some o') : o.Drains o' := by
  have shut : ¬ o.pipe.writing = true → o.pipe.writing = false := Bool.eq_false_iff.mpr
  unfold drain at eq
  cases task : o.task with
  | keeping kept =>
    simp only [task] at eq
    split at eq
    · cases eq
      exact .turn task (.inl ‹_›)
    · split at eq
      · split at eq <;> cases eq
        exact .turn task (.inr ⟨‹_›, shut ‹_›⟩)
      · cases eq
        exact .keep task ‹_› (by omega) (by omega)
  | discarding kept =>
    simp only [task] at eq
    split at eq
    · split at eq <;> cases eq
      exact .finish task ⟨‹_›, shut ‹_›⟩
    · cases eq
      exact task ▸ .discard task ‹_› (Nat.succ_pos n)
  | ended kept =>
    simp only [task] at eq
    cases eq

theorem exists_drain (wet : o.pipe.content ≠ [] ∨ o.pipe.writing = false)
    (under : ∀ kept, o.task ≠ .ended kept) (n : Nat) : (o.drain n).isSome := by
  unfold drain
  cases task : o.task with
  | ended kept => exact absurd task (under kept)
  | _ =>
    simp only
    grind

def Sound (o : Outlet) : Prop :=
  ∃ consumed, o.written = consumed ++ o.pipe.content ∧ o.task.Tells consumed o.Dry

namespace Sound

theorem accept (h : o.Sound) (opened : o.pipe.writing = true) (b : Bytes) : (o.accept b).Sound := by
  obtain ⟨consumed, account, tells⟩ := h
  refine ⟨consumed, ?_, tells.imp fun dry => ?_⟩
  · simp only [Outlet.accept, Pipe.push, account, List.append_assoc]
  · rw [dry.2] at opened
    cases opened

theorem close (h : o.Sound) : o.close.Sound := by
  obtain ⟨consumed, account, tells⟩ := h
  exact ⟨consumed, account, tells.imp fun dry => ⟨dry.1, rfl⟩⟩

theorem drains (h : o.Sound) (step : o.Drains o') : o'.Sound := by
  obtain ⟨consumed, account, tells⟩ := h
  have split (n : Nat) : o.written =
      (consumed ++ o.pipe.content.take n) ++ (o.pipe.pull n).content := by
    rw [account, List.append_assoc, Pipe.pull, List.take_append_drop]
  cases step with
  | turn task enough =>
    rw [task] at tells
    obtain ⟨rfl, below⟩ := tells
    exact ⟨_, account, (List.take_of_length_le below).symm, enough⟩
  | @keep kept n task filled positive fits =>
    rw [task] at tells
    obtain ⟨rfl, below⟩ := tells
    refine ⟨_, split n, rfl, ?_⟩
    rw [List.length_append, List.length_take]
    omega
  | @discard kept n task filled positive =>
    refine ⟨_, split n, ?_⟩
    simp only [task] at tells ⊢
    obtain ⟨rfl, enough⟩ := tells
    have full : streamLimit ≤ consumed.length := enough.resolve_right fun dry => filled dry.1
    refine ⟨(List.take_append_of_le_length full).symm, .inl ?_⟩
    rw [List.length_append]
    omega
  | finish task dry =>
    rw [task] at tells
    exact ⟨consumed, account, tells.1, dry⟩

theorem ended (h : o.Sound) {kept : Bytes} (task : o.task = .ended kept) :
    o.Dry ∧ kept = o.written.take streamLimit := by
  obtain ⟨consumed, account, tells⟩ := h
  rw [task] at tells
  obtain ⟨rfl, dry⟩ := tells
  rw [account, dry.1, List.append_nil]
  exact ⟨dry, rfl⟩

end Sound

end Outlet

/-! ### All parties -/

namespace Exchange

/-- The task that a program waits for when it has no step. -/
inductive BlockedOn (e : Exchange) : Party → Prop where
  | input {most : Nat} {next : Option Bytes → Behaviour}
      (reads : e.program = .running (.read most next)) (waits : ∀ n, e.next .program n = none) :
      BlockedOn e .feeder
  | output {s : Stream} {b : Bytes} {next : Bool → Behaviour}
      (writes : e.program = .running (.write s b next)) (waits : ∀ n, e.next .program n = none) :
      BlockedOn e (.reader s)

inductive Moves (e : Exchange) (n : Nat) : Party → Exchange → Prop where
  | program {b : Behaviour} {e' : Exchange} (running : e.program = .running b)
      (acts : e.act n b = some e') : Moves e n .program e'
  | feeder {e' : Exchange} (feeds : e.feed n = some e') : Moves e n .feeder e'
  | reader {s : Stream} {o : Outlet} (drains : (e.outlets s).Drains o) :
      Moves e n (.reader s) (e.setOutlet s o)
  | host {e' : Exchange} (collects : e.collect = some e') : Moves e n .host e'
  | clock : Moves e n .clock { e with wait := .expired }

def Knows (e : Exchange) : Wait → Prop
  | .forProgram | .expired => True
  | .forOut ending => e.program = .ended ending
  | .forErr ending out => e.program = .ended ending ∧ (e.outlets .out).task = .ended out
  | .returned ending out err => e.program = .ended ending ∧
    (e.outlets .out).task = .ended out ∧ (e.outlets .err).task = .ended err

structure Sound (e : Exchange) : Prop where
  outlets : ∀ s, (e.outlets s).Sound
  shut : ∀ {ending}, e.program = .ended ending → ∀ s, (e.outlets s).pipe.writing = false
  knows : e.Knows e.wait

variable {e e' : Exchange} {n : Nat}

theorem moves_of_next {p : Party} (eq : e.next p n = some e') : e.Moves n p e' := by
  unfold next at eq
  split at eq
  · cases eq
  · cases p with
    | program =>
      simp only at eq
      split at eq
      · exact .program ‹_› eq
      · cases eq
    | feeder => exact .feeder eq
    | reader s =>
      obtain ⟨o, drained, rfl⟩ := Option.map_eq_some_iff.mp eq
      exact .reader (Outlet.drains_of_drain drained)
    | host => exact .host eq
    | clock =>
      cases eq
      exact .clock

theorem sound_start (input out err : Capacity) (payload : Bytes) (b : Behaviour) :
    (start input out err payload b).Sound where
  outlets s := by cases s <;> exact ⟨[], rfl, rfl, Nat.zero_le _⟩
  shut ended := by cases ended
  knows := trivial

theorem outlets_setOutlet (s t : Stream) (o : Outlet) :
    t = s ∧ (e.setOutlet s o).outlets t = o ∨
      t ≠ s ∧ (e.setOutlet s o).outlets t = e.outlets t := by
  by_cases same : t = s
  · exact .inl ⟨same, if_pos same⟩
  · exact .inr ⟨same, if_neg same⟩

theorem Sound.early (h : e.Sound) {b : Behaviour} (running : e.program = .running b) :
    e.wait = .forProgram ∨ e.wait = .expired := by
  have knows := h.knows
  cases wait : e.wait with
  | forProgram => exact .inl rfl
  | expired => exact .inr rfl
  | forOut ending =>
    rw [wait, Knows, running] at knows
    cases knows
  | forErr ending out | returned ending out err =>
    rw [wait, Knows, running] at knows
    cases knows.1

theorem sound_setOutlet (h : ∀ s, (e.outlets s).Sound) {s : Stream} {o : Outlet} (sound : o.Sound) :
    ∀ t, ((e.setOutlet s o).outlets t).Sound := by
  intro t
  obtain ⟨-, eq⟩ | ⟨-, eq⟩ := outlets_setOutlet (e := e) s t o
  · rwa [eq]
  · rw [eq]
    exact h t

theorem knows_early (early : e.wait = .forProgram ∨ e.wait = .expired) (e' : Exchange) :
    e'.Knows e.wait := by
  obtain wait | wait := early <;> rw [wait] <;> trivial

theorem sound_goOn (outlets : ∀ s, (e.outlets s).Sound)
    (early : e.wait = .forProgram ∨ e.wait = .expired) (b : Behaviour) : (e.goOn b).Sound where
  outlets := outlets
  shut ended := by cases ended
  knows := knows_early early _

theorem sound_exit (h : e.Sound) (early : e.wait = .forProgram ∨ e.wait = .expired)
    (ending : Ending) : (e.exit ending).Sound where
  outlets s := (h.outlets s).close
  shut _ _ := rfl
  knows := knows_early early _

theorem sound_act (h : e.Sound) {b : Behaviour} (running : e.program = .running b)
    (eq : e.act n b = some e') : e'.Sound := by
  have early := h.early running
  have outlets := h.outlets
  cases b with
  | exit ending =>
    cases eq
    exact sound_exit h early ending
  | read most next =>
    simp only [act] at eq
    split at eq
    · cases eq
      exact sound_goOn outlets early _
    · split at eq
      · cases eq
        exact sound_goOn outlets early _
      · split at eq
        · split at eq <;> cases eq
          exact sound_goOn outlets early _
        · cases eq
          exact sound_goOn (e := { e with input := e.input.pull _ }) outlets early _
  | write s b next =>
    simp only [act] at eq
    split at eq
    · cases eq
      exact sound_goOn outlets early _
    · split at eq
      · cases eq
        exact sound_goOn outlets early _
      · split at eq
        · cases eq
          exact sound_goOn outlets early _
        · split at eq <;> cases eq
          have opened : (e.outlets s).pipe.writing = true := by simpa using ‹¬ (!_) = true›
          exact sound_goOn (sound_setOutlet outlets ((outlets s).accept opened _)) early _
  | closeInput next =>
    cases eq
    exact sound_goOn (e := { e with input := e.input.closeReading }) outlets early _
  | close s next =>
    cases eq
    exact sound_goOn (sound_setOutlet outlets (outlets s).close) early _

theorem Sound.reader (h : e.Sound) {s : Stream} {o : Outlet} (drains : (e.outlets s).Drains o) :
    (e.setOutlet s o).Sound where
  outlets := sound_setOutlet h.outlets ((h.outlets s).drains drains)
  shut := by
    intro ending ended t
    obtain ⟨rfl, eq⟩ | ⟨-, eq⟩ := outlets_setOutlet (e := e) s t o
    · rw [eq, drains.writing]
      exact h.shut ended t
    · rw [eq]
      exact h.shut ended t
  knows := by
    have keep {t : Stream} {kept : Bytes} (task : (e.outlets t).task = .ended kept) :
        ((e.setOutlet s o).outlets t).task = .ended kept := by
      obtain ⟨rfl, -⟩ | ⟨-, eq⟩ := outlets_setOutlet (e := e) s t o
      · exact absurd task (drains.not_ended kept)
      · rwa [eq]
    have knows := h.knows
    change (e.setOutlet s o).Knows e.wait
    cases wait : e.wait with
    | forProgram | expired => trivial
    | forOut ending =>
      rw [wait] at knows
      exact knows
    | forErr ending out =>
      rw [wait] at knows
      exact ⟨knows.1, keep knows.2⟩
    | returned ending out err =>
      rw [wait] at knows
      exact ⟨knows.1, keep knows.2.1, keep knows.2.2⟩

theorem Sound.collect (h : e.Sound) (eq : e.collect = some e') : e'.Sound := by
  have knows := h.knows
  unfold Exchange.collect at eq
  split at eq
  · split at eq <;> cases eq
    exact { outlets := h.outlets, shut := h.shut, knows := ‹_› }
  · split at eq <;> cases eq
    rw [‹e.wait = _›] at knows
    exact { outlets := h.outlets, shut := h.shut, knows := ⟨knows, ‹_›⟩ }
  · split at eq <;> cases eq
    rw [‹e.wait = _›] at knows
    exact { outlets := h.outlets, shut := h.shut, knows := ⟨knows.1, knows.2, ‹_›⟩ }
  · cases eq
  · cases eq

theorem Sound.feed (h : e.Sound) (eq : e.feed n = some e') : e'.Sound := by
  have same : e'.outlets = e.outlets ∧ e'.program = e.program ∧ e'.wait = e.wait := by
    unfold Exchange.feed at eq
    grind
  obtain ⟨outlets, program, wait⟩ := same
  refine ⟨outlets ▸ h.outlets, program ▸ outlets ▸ h.shut, ?_⟩
  have knows := h.knows
  rw [wait]
  unfold Knows at knows ⊢
  rwa [program, outlets]

theorem sound_next (h : e.Sound) {p : Party} (eq : e.next p n = some e') : e'.Sound := by
  cases moves_of_next eq with
  | program running acts => exact sound_act h running acts
  | feeder feeds => exact h.feed feeds
  | reader drains => exact h.reader drains
  | host collects => exact h.collect collects
  | clock => exact ⟨h.outlets, h.shut, trivial⟩

theorem sound_run (h : e.Sound) (moves : List (Party × Nat)) : (e.run moves).Sound := by
  induction moves generalizing e with
  | nil => exact h
  | cons move moves ih =>
    refine ih ?_
    unfold step
    cases eq : e.next move.1 move.2 with
    | none => exact h
    | some e' => exact sound_next h eq

/-! ### Progress -/

theorem next_program {b : Behaviour} (running : e.program = .running b)
    (waiting : e.wait.isOver = false) (n : Nat) : e.next .program n = e.act n b := by
  simp only [next, waiting, running, Bool.false_eq_true, if_false]

theorem isSome_act (n m : Nat) (b : Behaviour) : (e.act n b).isSome = (e.act m b).isSome := by
  cases b <;> simp only [act] <;> grind

theorem waits_read {most : Nat} {next : Option Bytes → Behaviour}
    (stuck : e.act n (.read most next) = none) :
    e.input.content = [] ∧ e.input.writing = true := by
  simp only [act] at stuck
  grind

theorem waits_write {s : Stream} {b : Bytes} {next : Bool → Behaviour}
    (stuck : e.act n (.write s b next) = none) : (e.outlets s).pipe.free = 0 := by
  simp only [act] at stuck
  grind

theorem exists_feed (opened : e.input.writing = true) (room : e.input.free ≠ 0) (n : Nat) :
    (e.feed n).isSome := by
  unfold Exchange.feed
  grind

theorem exists_next_reader (waiting : e.wait.isOver = false) {s : Stream}
    (wet : (e.outlets s).pipe.content ≠ [] ∨ (e.outlets s).pipe.writing = false)
    (under : ∀ kept, (e.outlets s).task ≠ .ended kept) (n : Nat) :
    (e.next (.reader s) n).isSome := by
  simp only [next, waiting, Bool.false_eq_true, if_false, Option.isSome_map]
  exact Outlet.exists_drain wet under n

/-- A program that is running can go on, or the task that it waits for can. -/
theorem Sound.progress (h : e.Sound) {b : Behaviour} (running : e.program = .running b)
    (waits : e.wait ≠ .expired) :
    ∃ p, (p = .program ∨ e.BlockedOn p) ∧ ∀ n, (e.next p n).isSome := by
  have waiting : e.wait.isOver = false := by
    rw [(h.early running).resolve_right waits]
    rfl
  have own := next_program running waiting
  by_cases can : (e.act 0 b).isSome
  · exact ⟨.program, .inl rfl, fun n => by rwa [own, isSome_act n 0]⟩
  · have stuck (n : Nat) : e.act n b = none := by
      rwa [← Option.not_isSome_iff_eq_none, isSome_act n 0]
    have blocked (n : Nat) : e.next .program n = none := (own n).trans (stuck n)
    cases b with
    | exit _ | closeInput _ | close _ _ => exact absurd rfl can
    | read most next =>
      obtain ⟨empty, opened⟩ := waits_read (stuck 0)
      refine ⟨.feeder, .inr (.input running blocked), fun n => ?_⟩
      have room : e.input.free ≠ 0 := fun full => Pipe.content_of_full full empty
      simpa only [Exchange.next, waiting, Bool.false_eq_true, if_false] using
        exists_feed opened room n
    | write s b next =>
      have filled := Pipe.content_of_full (waits_write (stuck 0))
      refine ⟨.reader s, .inr (.output running blocked), ?_⟩
      -- A task that has ended has emptied the pipe.
      exact exists_next_reader waiting (.inl filled) fun kept task =>
        filled ((h.outlets s).ended task).1.1

/-- What the host has in the end is the beginning of each stream, up to the limit. -/
theorem Sound.captured (h : e.Sound) {ending : Ending} {out err : Bytes}
    (back : e.wait = .returned ending out err) :
    e.program = .ended ending ∧ out = (e.outlets .out).written.take streamLimit ∧
      err = (e.outlets .err).written.take streamLimit := by
  have knows := h.knows
  rw [back] at knows
  obtain ⟨ended, outEnded, errEnded⟩ := knows
  exact ⟨ended, ((h.outlets .out).ended outEnded).2, ((h.outlets .err).ended errEnded).2⟩

end Exchange

end ScriptHost.Child
