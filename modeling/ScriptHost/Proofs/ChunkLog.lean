import ScriptHost.Chunk.Run

/-!
The log of a running chunk. A step adds a line exactly when it is a call of `log` or `print`, and
nothing is ever taken from the log, so that a run has one line for each such call, in their order,
whatever comes of the run.
-/
namespace ScriptHost.Chunk

/-! ## Replies of the library -/

def Reply.line? : Reply → Option String
  | .log line => some line
  | _ => none

namespace Library

variable {args : List Value} {n : Nat}

theorem line?_withInt {k : Int → Reply} (quiet : ∀ i, (k i).line? = none) :
    (withInt args n k).line? = none := by
  unfold withInt
  split
  · split
    · exact quiet _
    · rfl
  · rfl

theorem line?_withIntOr {d : Int} {k : Int → Reply} (quiet : ∀ i, (k i).line? = none) :
    (withIntOr args n d k).line? = none := by
  unfold withIntOr
  split
  · exact quiet d
  · exact line?_withInt quiet

theorem line?_withNumber {k : Number → Reply} (quiet : ∀ x, (k x).line? = none) :
    (withNumber args n k).line? = none := by
  unfold withNumber
  split
  · exact quiet _
  · rfl

theorem line?_withText {k : Bytes → Reply} (quiet : ∀ s, (k s).line? = none) :
    (withText args n k).line? = none := by
  unfold withText
  split
  · exact quiet _
  · rfl

theorem line?_withTable {k : Nat → Reply} (quiet : ∀ id, (k id).line? = none) :
    (withTable args n k).line? = none := by
  unfold withTable
  split
  · exact quiet _
  · rfl

theorem line?_withAny {k : Value → Reply} (quiet : ∀ v, (k v).line? = none) :
    (withAny args n k).line? = none := by
  unfold withAny
  split
  · exact quiet _
  · rfl

theorem line?_formatOne {f : Text.Field} {letter : UInt8} {k : Bytes → Reply}
    (quiet : ∀ s, (k s).line? = none) : (formatOne f letter args n k).line? = none := by
  unfold formatOne
  split
  · exact line?_withInt fun _ => quiet _
  · split
    · exact line?_withInt fun _ => quiet _
    · split
      · exact line?_withNumber fun _ => quiet _
      · exact quiet _

theorem line?_formatFrom (fuel n : Nat) (acc s : Bytes) (h : Heap) :
    (formatFrom args fuel n acc s h).line? = none := by
  induction fuel generalizing n acc s with
  | zero => rfl
  | succ fuel ih =>
    unfold formatFrom
    split
    · rfl
    · exact ih ..
    · split
      · rfl
      · dsimp only
        split
        · split
          · exact line?_formatOne fun _ => ih ..
          · rfl
        · rfl
    · exact ih ..

theorem line?_call (b : Builtin) (args : List Value) (h : Heap) :
    (call b args h).line?
      = if b = .log then some (String.intercalate "\t" (args.map logText)) else none := by
  cases b
  case log => rfl
  case format => exact line?_withText fun _ => line?_formatFrom ..
  all_goals
    simp only [call, selectArgs, repeated, insertInto, removeFrom, concatItems, unpackItems, choose,
      reduceCtorEq, if_false]
    repeat' first
      | rfl
      | refine line?_withInt fun _ => ?_
      | refine line?_withIntOr fun _ => ?_
      | refine line?_withNumber fun _ => ?_
      | refine line?_withText fun _ => ?_
      | refine line?_withTable fun _ => ?_
      | refine line?_withAny fun _ => ?_
      | split

end Library

/-! ## Steps and runs -/

namespace State

def line? (s : State) : Option String :=
  match s.control with
  | .apply (.builtin .log) args _ _ => some (String.intercalate "\t" (args.map Library.logText))
  | _ => none

def lines (chunk : Bytes) : Nat → State → List String
  | 0, _ => []
  | n + 1, s => if s.halted then [] else s.line?.toList ++ lines chunk n (s.step chunk)

variable {chunk : Bytes} {s s' : State}

@[simp] theorem logs_goOn (c : Control) : (s.goOn c).logs = s.logs := rfl

@[simp] theorem logs_push (f : Frame) (c : Control) : (s.push f c).logs = s.logs := rfl

@[simp] theorem logs_one (v : Value) : (s.one v).logs = s.logs := rfl

@[simp] theorem logs_failAt (line : Option Nat) (message : Bytes) :
    (s.failAt chunk line message).logs = s.logs := rfl

@[simp] theorem logs_bind (name : Bytes) (v : Value) (place : Place) :
    (s.bind name v place).2.logs = s.logs := rfl

@[simp] theorem logs_bindAll (names : List Bytes) (vs : List Value) (place : Place) :
    (s.bindAll names vs place).2.logs = s.logs := by
  induction names generalizing vs place s with
  | nil => rfl
  | cons name names ih => exact ih vs.tail _

@[simp] theorem logs_newClosure (f : Func) (place : Place) :
    (s.newClosure f place).2.logs = s.logs := rfl

theorem logs_assignKey {object key v : Value} {known : Option Known}
    (assigned : s.assignKey object key v known = .ok s') : s'.logs = s.logs := by
  unfold assignKey at assigned
  split at assigned
  · split at assigned <;> cases assigned
    rfl
  · cases assigned

theorem logs_assignAll {place : Place} {targets : List Expr} {parts vs : List Value}
    (assigned : s.assignAll place targets parts vs = .ok s') : s'.logs = s.logs := by
  fun_induction assignAll place targets parts vs s generalizing s' with
  | case1 o k line targets object key parts vs s ih =>
    cases rest : s.assignAll place targets parts vs.tail with
    | error fault => simp [rest, Bind.bind, Except.bind] at assigned
    | ok middle =>
      simp only [rest, Bind.bind, Except.bind] at assigned
      split at assigned <;> cases assigned
      exact (logs_assignKey ‹_›).trans (ih rest)
  | case2 name line targets parts vs s ih =>
    cases rest : s.assignAll place targets parts vs.tail with
    | error fault => simp [rest, Bind.bind, Except.bind] at assigned
    | ok middle =>
      have kept : middle.logs = s.logs := ih rest
      simp only [rest, Bind.bind, Except.bind] at assigned
      split at assigned <;> cases assigned <;> exact kept
  | case3 =>
    cases assigned
    rfl

@[simp] theorem logs_fill (m : Making) (fields : List Field) (place : Place) :
    (s.fill m fields place).logs = s.logs := by
  unfold fill
  have kept : (if batch ≤ m.waiting.length || fields.isEmpty then s.flush m
      else (m, s)).2.logs = s.logs := by
    split <;> rfl
  cases fields with
  | nil => exact kept
  | cons field _ => cases field <;> exact kept

@[simp] theorem logs_eval (e : Expr) (place : Place) : (s.eval e place).logs = s.logs := by
  cases e <;> rfl

@[simp] theorem logs_branch (arms : List Arm) (otherwise : List Stat) (place : Place) :
    (s.branch arms otherwise place).logs = s.logs := by
  unfold branch
  split <;> rfl

@[simp] theorem logs_startLeave (es : List Expr) (place : Place) :
    (s.startLeave es place).logs = s.logs := by
  unfold startLeave
  split <;> rfl

@[simp] theorem logs_exec (stats : List Stat) (block : Block) (place : Place) :
    (s.exec stats block place).logs = s.logs := by
  unfold exec
  split
  · rfl
  · rfl
  · rfl
  · rfl
  · dsimp only
    split <;> simp

@[simp] theorem logs_countLoop (name : Bytes) (i step : Int) (left : Nat) (body : List Stat)
    (place : Place) : (s.countLoop name i step left body place).logs = s.logs := rfl

@[simp] theorem logs_floatRound (name : Bytes) (x limit step : Float) (body : List Stat)
    (place : Place) : (s.floatRound name x limit step body place).logs = s.logs := by
  unfold floatRound
  simp [apply_ite logs]

@[simp] theorem logs_badBound (line : Nat) (what : String) (v : Value) :
    (s.badBound chunk line what v).logs = s.logs := rfl

@[simp] theorem logs_startCount (name : Bytes) (body : List Stat) (line : Nat) (place : Place)
    (start limit step : Value) :
    (s.startCount chunk name body line place start limit step).logs = s.logs := by
  unfold startCount
  repeat' split
  all_goals simp

@[simp] theorem logs_applyClosure (c : Closure) (args : List Value) (site : Site) (tail : Bool) :
    (s.applyClosure chunk c args site tail).logs = s.logs := by
  unfold applyClosure
  split
  · rfl
  · dsimp only
    split
    simp [apply_ite logs]

@[simp] theorem logs_operate (line : Nat) (a b : Option Known) (result : Operation) :
    (s.operate chunk line a b result).logs = s.logs := by
  unfold operate
  split <;> rfl

@[simp] theorem logs_iterate (f state control : Value) (names : List Bytes) (body : List Stat)
    (line : Nat) (place : Place) :
    (s.iterate f state control names body line place).logs = s.logs := rfl

@[simp] theorem logs_resume (frame : Frame) (vs : List Value) :
    (resume chunk frame vs s).logs = s.logs := by
  unfold resume
  dsimp only
  split
  case h_8 | h_10 => split <;> rfl
  case h_17 =>
    split
    · rename_i assigned
      exact (logs_goOn _).trans (logs_assignKey assigned)
    · rfl
  case h_21 =>
    split
    · rename_i assigned
      exact (logs_goOn _).trans (logs_assignAll assigned)
    · rfl
  all_goals simp [apply_ite logs]

@[simp] theorem logs_leave (vs : List Value) : (s.leave vs).logs = s.logs := by
  unfold leave
  split <;> rfl

@[simp] theorem logs_raise (v : Value) : (s.raise v).logs = s.logs := by
  unfold raise
  dsimp only
  split <;> rfl

@[simp] theorem logs_breakLoop : s.breakLoop.logs = s.logs := rfl

@[simp] theorem logs_jump (label : Bytes) : (s.jump label).logs = s.logs := by
  unfold jump
  repeat' split
  all_goals rfl

@[simp] theorem logs_finish (place : Place) : (s.finish place).logs = s.logs := by
  unfold finish
  split <;> rfl

theorem logs_applyBuiltin (b : Builtin) (args : List Value) (site : Site) :
    (s.applyBuiltin chunk b args site).logs
      = (Library.call b args s.heap).line?.toList ++ s.logs := by
  unfold applyBuiltin
  split <;> simp [Reply.line?, *]

/-- A step adds its line to the log, and nothing else happens to the log. -/
theorem logs_step : (s.step chunk).logs = s.line?.toList ++ s.logs := by
  cases control : s.control with
  | apply f args site tail =>
    cases f with
    | builtin b =>
      simp only [step, control, apply, logs_applyBuiltin, Library.line?_call, line?]
      split
      · subst b
        rfl
      · split <;> simp_all
    | _ => simp [step, control, apply, line?]
  | give vs => cases frames : s.frames <;> simp [step, control, frames, line?]
  | evalAll es place => cases es <;> simp [step, control, line?]
  | _ => simp [step, control, line?]

theorem logs_steps (n : Nat) : (s.steps chunk n).logs = (s.lines chunk n).reverse ++ s.logs := by
  induction n generalizing s with
  | zero => rfl
  | succ n ih =>
    unfold steps lines
    split
    · rfl
    · rw [ih, logs_step]
      cases s.line? <;> simp

end State

/-- The lines that a run logs in its time: one for each call of `log` or `print`. -/
def linesOf (chunk : Bytes) (f : Func) (heap : Heap) (timeoutMs : Nat) : List String :=
  (State.start f heap).lines chunk (max State.pause (min mostSteps (timeoutMs * stepsPerMs)))

/-- A run that is not interrupted keeps every line, whether it fails or not. -/
theorem run_logs {chunk : Bytes} {f : Func} {heap : Heap} {timeoutMs : Nat}
    (inTime : (run chunk f heap timeoutMs).late = false) :
    (run chunk f heap timeoutMs).logs = linesOf chunk f heap timeoutMs := by
  unfold run at inTime ⊢
  dsimp only at inTime ⊢
  rw [inTime, if_neg Bool.false_ne_true, State.logs_steps]
  simp [linesOf, State.start]

end ScriptHost.Chunk
