import Mathlib.Order.WellFounded
import ScriptHost.Proofs.PipedExchange

/-!
The exchange with a program comes to its end by the steps of its parties alone, in whatever order
they are taken: there are only finitely many of them, and the last one is that the host returns. So
it is never stuck before, and what the host reports in the end is what it reports of the program
when streams and time are looked at as a whole.
-/
namespace ScriptHost.Child

/-! ### The steps of a program -/

inductive Behaviour.Rest : Behaviour → Behaviour → Prop where
  | read {most : Nat} {next : Option Bytes → Behaviour} (got : Option Bytes) :
      Rest (next got) (.read most next)
  | wrote {s : Stream} {b : Bytes} {next : Bool → Behaviour} (ok : Bool) :
      Rest (next ok) (.write s b next)
  | write {s : Stream} {b b' : Bytes} {next : Bool → Behaviour} (less : b'.length < b.length) :
      Rest (.write s b' next) (.write s b next)
  | closeInput {next : Behaviour} : Rest next (.closeInput next)
  | close {s : Stream} {next : Behaviour} : Rest next (.close s next)

theorem Behaviour.acc_rest (b : Behaviour) : Acc Rest b := by
  induction b with
  | exit ending => exact ⟨_, fun _ rest => by cases rest⟩
  | read most next ih =>
    refine ⟨_, fun _ rest => ?_⟩
    cases rest with
    | read got => exact ih got
  | write s b next ih =>
    induction length : b.length using Nat.strong_induction_on generalizing b with
    | h n shorter =>
      refine ⟨_, fun _ rest => ?_⟩
      cases rest with
      | wrote ok => exact ih ok
      | write less => exact shorter _ (length ▸ less) _ rfl
  | closeInput next ih =>
    refine ⟨_, fun _ rest => ?_⟩
    cases rest with
    | closeInput => exact ih
  | close s next ih =>
    refine ⟨_, fun _ rest => ?_⟩
    cases rest with
    | close => exact ih

inductive Status.Rest : Status → Status → Prop where
  | goes {b b' : Behaviour} (rest : b'.Rest b) : Rest (.running b') (.running b)
  | ends {b : Behaviour} {ending : Ending} : Rest (.ended ending) (.running b)

theorem Status.wellFounded_rest : WellFounded Rest := by
  have ended (ending : Ending) : Acc Rest (.ended ending) := ⟨_, fun _ rest => by cases rest⟩
  refine ⟨fun status => ?_⟩
  cases status with
  | ended ending => exact ended ending
  | running b =>
    induction b.acc_rest with
    | intro b _ ih =>
      refine ⟨_, fun _ rest => ?_⟩
      cases rest with
      | goes rest => exact ih _ rest
      | ends => exact ended _

/-! ### The steps of the host and of its tasks -/

def Reading.stage : Reading → Nat
  | .keeping _ => 2
  | .discarding _ => 1
  | .ended _ => 0

def Wait.stage : Wait → Nat
  | .forProgram => 3
  | .forOut _ => 2
  | .forErr .. => 1
  | .returned .. | .expired => 0

/-- The task that reads a stream has no more steps than these when nothing is added to the pipe. -/
def Outlet.work (o : Outlet) : Nat := o.pipe.content.length + o.task.stage

theorem Outlet.Drains.work_lt {o o' : Outlet} (step : o.Drains o') : o'.work < o.work := by
  have shorter {n : Nat} (filled : o.pipe.content ≠ []) (positive : 0 < n) :
      (o.pipe.pull n).content.length < o.pipe.content.length := by
    have := List.length_pos_iff.mpr filled
    rw [Pipe.pull, List.length_drop]
    omega
  cases step with
  | turn task enough => simp [Outlet.work, task, Reading.stage]
  | keep task filled positive fits =>
    simpa [Outlet.work, task, Reading.stage] using shorter filled positive
  | discard task filled positive =>
    simpa [Outlet.work, task, Reading.stage] using shorter filled positive
  | finish task dry => simp [Outlet.work, task, Reading.stage, Pipe.closeReading]

namespace Exchange

def work (e : Exchange) : Nat :=
  e.wait.stage + (e.left.length + e.input.writing.toNat) +
    ((e.outlets .out).work + (e.outlets .err).work)

def Steps (e e' : Exchange) : Prop := ∃ p n, p ≠ .clock ∧ e.next p n = some e'

variable {e e' : Exchange} {n : Nat}

theorem rest_act {b : Behaviour} (running : e.program = .running b) (eq : e.act n b = some e') :
    Status.Rest e'.program e.program := by
  rw [running]
  cases b with
  | exit ending =>
    cases eq
    exact .ends
  | read most next =>
    obtain ⟨got, program⟩ : ∃ got, e'.program = .running (next got) := by
      simp only [act] at eq
      grind [goOn]
    exact program ▸ .goes (.read got)
  | write s b next =>
    have program : (∃ ok, e'.program = .running (next ok)) ∨
        ∃ b', b'.length < b.length ∧ e'.program = .running (.write s b' next) := by
      simp only [act] at eq
      have := @List.length_pos_iff _ b
      grind [goOn, setOutlet]
    obtain ⟨ok, program⟩ | ⟨b', less, program⟩ := program
    · exact program ▸ .goes (.wrote ok)
    · exact program ▸ .goes (.write less)
  | closeInput next =>
    cases eq
    exact .goes .closeInput
  | close s next =>
    cases eq
    exact .goes .close

theorem feed_work_lt (eq : e.feed n = some e') : e'.program = e.program ∧ e'.work < e.work := by
  unfold Exchange.feed at eq
  cases opened : e.input.writing
  · rw [opened] at eq
    cases eq
  · simp only [opened, Bool.not_true, Bool.false_eq_true, if_false] at eq
    split at eq
    · cases eq
      refine ⟨rfl, ?_⟩
      simp only [work, opened, Pipe.closeWriting, List.length_nil, Bool.toNat_true,
        Bool.toNat_false]
      omega
    · split at eq <;> cases eq
      have some_left : 0 < e.left.length := by
        rw [List.length_pos_iff]
        simp_all
      refine ⟨rfl, ?_⟩
      simp only [work, Pipe.push, List.length_drop]
      omega

theorem collect_work_lt (eq : e.collect = some e') : e'.program = e.program ∧ e'.work < e.work := by
  unfold Exchange.collect at eq
  split at eq
  any_goals cases eq
  all_goals
    split at eq <;> cases eq
    refine ⟨rfl, ?_⟩
    simp only [work, ‹e.wait = _›, Wait.stage]
    omega

theorem drain_work_lt {s : Stream} {o : Outlet} (drains : (e.outlets s).Drains o) :
    (e.setOutlet s o).work < e.work := by
  have less := drains.work_lt
  cases s <;> simp only [work, setOutlet, reduceCtorEq, if_true, if_false] <;> omega

/-- A step leaves less of the program, or as much of it and less to do for the others. -/
theorem Steps.lex (step : e.Steps e') :
    Prod.Lex Status.Rest (· < ·) (e'.program, e'.work) (e.program, e.work) := by
  obtain ⟨p, n, timeless, eq⟩ := step
  have others (h : e'.program = e.program ∧ e'.work < e.work) :
      Prod.Lex Status.Rest (· < ·) (e'.program, e'.work) (e.program, e.work) :=
    h.1 ▸ .right _ h.2
  cases moves_of_next eq with
  | program running acts => exact .left _ _ (rest_act running acts)
  | feeder feeds => exact others (feed_work_lt feeds)
  | reader drains => exact .right _ (drain_work_lt drains)
  | host collects => exact others (collect_work_lt collects)
  | clock => exact absurd rfl timeless

theorem wellFounded_steps : WellFounded fun e' e : Exchange => e.Steps e' :=
  Subrelation.wf (fun step => Steps.lex step)
    (InvImage.wf (fun e : Exchange => (e.program, e.work))
      (WellFounded.prod_lex Status.wellFounded_rest Nat.lt_wfRel.wf))

theorem Sound.exists_step (h : e.Sound) (waiting : e.wait.isOver = false) : ∃ e', e.Steps e' := by
  have step {p : Party} (timeless : p ≠ .clock) (can : (e.next p 0).isSome) : ∃ e', e.Steps e' := by
    obtain ⟨e', eq⟩ := Option.isSome_iff_exists.mp can
    exact ⟨e', p, 0, timeless, eq⟩
  cases running : e.program with
  | running b =>
    obtain ⟨p, which, can⟩ := h.progress running fun expired => by
      rw [expired] at waiting
      cases waiting
    refine step ?_ (can 0)
    rintro rfl
    obtain same | blocked := which
    · cases same
    · cases blocked
  | ended ending =>
    by_cases all : ∀ s, ∃ kept, (e.outlets s).task = .ended kept
    · refine step (p := .host) (fun same => by cases same) ?_
      obtain ⟨out, outEnded⟩ := all .out
      obtain ⟨err, errEnded⟩ := all .err
      simp only [next, waiting, Exchange.collect, running, outEnded, errEnded]
      cases wait : e.wait with
      | returned _ _ _ | expired =>
        rw [wait] at waiting
        cases waiting
      | _ => rfl
    · push Not at all
      obtain ⟨s, under⟩ := all
      exact step (p := .reader s) (fun same => by cases same)
        (exists_next_reader waiting (.inr (h.shut running s)) under 0)

theorem wait_act {b : Behaviour} (eq : e.act n b = some e') : e'.wait = e.wait := by
  cases b <;> simp only [act] at eq <;> grind [goOn, setOutlet, exit]

theorem next_ne_expired {p : Party} (timeless : p ≠ .clock) (waits : e.wait ≠ .expired)
    (eq : e.next p n = some e') : e'.wait ≠ .expired := by
  cases moves_of_next eq with
  | program _ acts => exact wait_act acts ▸ waits
  | feeder feeds =>
    unfold Exchange.feed at feeds
    grind
  | reader _ => exact waits
  | host collects =>
    unfold Exchange.collect at collects
    grind
  | clock => exact absurd rfl timeless

/-- Wherever the parties have come to in time, they can bring the host to return. -/
theorem Sound.exists_returned (h : e.Sound) (waits : e.wait ≠ .expired) :
    ∃ moves : List (Party × Nat), (∀ move ∈ moves, move.1 ≠ .clock) ∧
      ∃ ending out err, (e.run moves).wait = .returned ending out err := by
  induction e using wellFounded_steps.induction with
  | h e ih =>
    cases waiting : e.wait.isOver with
    | true =>
      refine ⟨[], nofun, ?_⟩
      cases wait : e.wait with
      | returned ending out err => exact ⟨ending, out, err, wait⟩
      | expired => exact absurd wait waits
      | _ =>
        rw [wait] at waiting
        cases waiting
    | false =>
      obtain ⟨e', step⟩ := h.exists_step waiting
      have ⟨p, n, timeless, eq⟩ := step
      obtain ⟨moves, alike, back⟩ :=
        ih e' step (sound_next h eq) (next_ne_expired timeless waits eq)
      refine ⟨(p, n) :: moves, List.forall_mem_cons.mpr ⟨timeless, alike⟩, ?_⟩
      have first : e.step (p, n) = e' := by simp only [Exchange.step, eq, Option.getD_some]
      rwa [run, List.foldl_cons, first]

/-- A computer says of a program that it has written the two streams of this exchange and ended. -/
def ToldBy (computer : Computer) (i : Invocation) (ms : Nat) (e : Exchange) : Prop :=
  ∃ ending, e.program = .ended ending ∧
    computer i = .ended (e.outlets .out).written (e.outlets .err).written ending ms

theorem Sound.report (h : e.Sound) {r : Report} (reported : e.wait.report? = some r)
    {computer : Computer} {i : Invocation} (given : Invocation.hasNul i = false)
    {ms timeoutMs : Nat} (inTime : ms < timeoutMs) (told : e.ToldBy computer i ms) :
    Child.run computer i timeoutMs = .ok r := by
  obtain ⟨ending, ended, starts⟩ := told
  cases wait : e.wait with
  | returned ending' out err =>
    rw [wait] at reported
    cases reported
    obtain ⟨ended', rfl, rfl⟩ := h.captured wait
    cases ended.symm.trans ended'
    simp only [Child.run, given, starts, Bool.false_eq_true, if_false, Nat.not_le.mpr inTime]
    rfl
  | _ =>
    rw [wait] at reported
    cases reported

/-- Whatever the capacities of the pipes, the input and the program: after any steps in any order, a
program that is running can go on, or the task that it waits for can, unless the time is over; and
when the host returns it has the beginning of each stream that the program has written. In time the
parties can always bring the host to return, and what it reports then is what it reports of the
program as a whole. -/
theorem run_never_stuck (input out err : Capacity) (payload : Bytes) (b : Behaviour)
    (moves : List (Party × Nat)) :
    let e := (start input out err payload b).run moves
    (∀ c, e.program = .running c → e.wait ≠ .expired →
      ∃ p, (p = .program ∨ e.BlockedOn p) ∧ ∀ n, (e.next p n).isSome) ∧
    (∀ ending kept keptErr, e.wait = .returned ending kept keptErr →
      e.program = .ended ending ∧ kept = (e.outlets .out).written.take streamLimit ∧
        keptErr = (e.outlets .err).written.take streamLimit) ∧
    (e.wait ≠ .expired → ∃ more : List (Party × Nat), (∀ move ∈ more, move.1 ≠ .clock) ∧
      ∃ ending kept keptErr, (e.run more).wait = .returned ending kept keptErr) ∧
    (∀ r, e.wait.report? = some r → ∀ computer i ms timeoutMs, Invocation.hasNul i = false →
      ms < timeoutMs → e.ToldBy computer i ms → Child.run computer i timeoutMs = .ok r) := by
  have sound := sound_run (sound_start input out err payload b) moves
  refine ⟨fun _ running waits => sound.progress running waits,
    fun _ _ _ back => sound.captured back, sound.exists_returned, ?_⟩
  intro r reported computer i ms timeoutMs given inTime told
  exact sound.report reported given inTime told

/-- Reads nothing before all that it writes has been taken. -/
def hasty : Behaviour := .write .out [1, 2] fun _ => .read 2 fun _ => .exit (.exited 0)

def hastyRun (moves : List (Party × Nat)) : Exchange :=
  (start ⟨1, Nat.one_pos⟩ ⟨1, Nat.one_pos⟩ ⟨1, Nat.one_pos⟩ [7, 8] hasty).run moves

def hastyWaits : List (Party × Nat) := [(.program, 0), (.feeder, 0)]

def hastyReturns : List (Party × Nat) := hastyWaits ++
  [(.reader .out, 0), (.program, 0), (.program, 0), (.program, 5), (.feeder, 0), (.program, 0),
   (.host, 0), (.reader .out, 0), (.reader .out, 0), (.reader .out, 0), (.reader .err, 0),
   (.reader .err, 0), (.host, 0), (.host, 0)]

theorem run_never_stuck_hasty :
    ((hastyRun hastyWaits).program =
        .running (.write .out [2] fun _ => .read 2 fun _ => .exit (.exited 0)) ∧
      (hastyRun hastyWaits).wait ≠ .expired ∧
      ∃ p, (p = .program ∨ (hastyRun hastyWaits).BlockedOn p) ∧
        ∀ n, ((hastyRun hastyWaits).next p n).isSome) ∧
    ((hastyRun hastyReturns).wait = .returned (.exited 0) [1, 2] [] ∧
      [1, 2] = ((hastyRun hastyReturns).outlets .out).written.take streamLimit) ∧
    (∃ more : List (Party × Nat), (∀ move ∈ more, move.1 ≠ .clock) ∧ ∃ ending kept keptErr,
      ((hastyRun hastyWaits).run more).wait = .returned ending kept keptErr) ∧
    Child.run (fun _ => .ended [1, 2] [] (.exited 0) 3) ⟨"hasty", [], [], [7, 8]⟩ 4 =
      .ok ⟨Bytes.lossy [1, 2], Bytes.lossy [], 0⟩ := by
  have running : (hastyRun hastyWaits).program =
    .running (.write .out [2] fun _ => .read 2 fun _ => .exit (.exited 0)) := rfl
  have waits : (hastyRun hastyWaits).wait ≠ .expired := by decide
  have back : (hastyRun hastyReturns).wait = .returned (.exited 0) [1, 2] [] := by decide +kernel
  have reported : (hastyRun hastyReturns).wait.report? =
    some ⟨Bytes.lossy [1, 2], Bytes.lossy [], 0⟩ := by rw [back]; rfl
  have told : (hastyRun hastyReturns).ToldBy (fun _ => .ended [1, 2] [] (.exited 0) 3)
    ⟨"hasty", [], [], [7, 8]⟩ 3 := ⟨.exited 0, rfl, rfl⟩
  obtain ⟨goes, -, returns, -⟩ := run_never_stuck _ _ _ _ _ hastyWaits
  obtain ⟨-, captured, -, reports⟩ := run_never_stuck _ _ _ _ _ hastyReturns
  exact ⟨⟨running, waits, goes _ running waits⟩, ⟨back, (captured _ _ _ back).2.1⟩,
    returns waits, reports _ reported _ _ 3 4 (by decide) (by decide) told⟩

end Exchange

end ScriptHost.Child
