import ScriptHost.Child.Basic

/-!
The exchange with a program that was started, in steps that may alternate in any order. Between the
program and the host lie pipes that hold only so much. One task of the host writes the input, two
more read what the program writes, and the host waits for the end of the program and then for what
the two have kept.
-/
namespace ScriptHost.Child

inductive Stream where
  | out
  | err
  deriving DecidableEq, Repr

/-- What a program does with its streams until it ends. What comes next may depend on what it has
read and on whether it could write; on each way it comes to its end after finitely many steps. -/
inductive Behaviour where
  | exit (ending : Ending)
  /-- Reads no more than so many bytes. It gets none at the end of the input, and a failure when it
  has closed its input. -/
  | read (most : Nat) (next : Option Bytes → Behaviour)
  | write (s : Stream) (b : Bytes) (next : Bool → Behaviour)
  | closeInput (next : Behaviour)
  | close (s : Stream) (next : Behaviour)

inductive Status where
  | running (b : Behaviour)
  | ended (ending : Ending)

abbrev Capacity := {n : Nat // 0 < n}

structure Pipe where
  capacity : Capacity
  content : Bytes := []
  writing : Bool := true
  reading : Bool := true

namespace Pipe

def free (p : Pipe) : Nat := p.capacity - p.content.length

def push (b : Bytes) (p : Pipe) : Pipe := { p with content := p.content ++ b }

def pull (n : Nat) (p : Pipe) : Pipe := { p with content := p.content.drop n }

def closeWriting (p : Pipe) : Pipe := { p with writing := false }

def closeReading (p : Pipe) : Pipe := { p with reading := false }

end Pipe

inductive Reading where
  | keeping (kept : Bytes)
  | discarding (kept : Bytes)
  | ended (kept : Bytes)
  deriving DecidableEq

structure Outlet where
  pipe : Pipe
  task : Reading := .keeping []
  written : Bytes := []

namespace Outlet

def accept (b : Bytes) (o : Outlet) : Outlet :=
  { o with pipe := o.pipe.push b, written := o.written ++ b }

def close (o : Outlet) : Outlet := { o with pipe := o.pipe.closeWriting }

/-- A step of the task, which reads `n + 1` bytes at most. While it keeps what it reads, it asks for
no more than it may keep. -/
def drain (n : Nat) (o : Outlet) : Option Outlet :=
  match o.task with
  | .keeping kept =>
    if streamLimit ≤ kept.length then some { o with task := .discarding kept }
    else if o.pipe.content = [] then
      if o.pipe.writing then none else some { o with task := .discarding kept }
    else
      let n := min (n + 1) (streamLimit - kept.length)
      some { o with pipe := o.pipe.pull n, task := .keeping (kept ++ o.pipe.content.take n) }
  | .discarding kept =>
    if o.pipe.content = [] then
      if o.pipe.writing then none
      else some { o with pipe := o.pipe.closeReading, task := .ended kept }
    else some { o with pipe := o.pipe.pull (n + 1) }
  | .ended _ => none

end Outlet

inductive Wait where
  | forProgram
  | forOut (ending : Ending)
  | forErr (ending : Ending) (out : Bytes)
  | returned (ending : Ending) (out err : Bytes)
  /-- The time was over: the program is killed, and the tasks are given up. -/
  | expired
  deriving DecidableEq

namespace Wait

def isOver : Wait → Bool
  | .returned .. | .expired => true
  | _ => false

def report? : Wait → Option Report
  | .returned ending out err => some ⟨Bytes.lossy out, Bytes.lossy err, ending.code⟩
  | _ => none

end Wait

inductive Party where
  | program
  | feeder
  | reader (s : Stream)
  | host
  | clock
  deriving DecidableEq, Repr

structure Exchange where
  program : Status
  input : Pipe
  left : Bytes
  outlets : Stream → Outlet
  wait : Wait

namespace Exchange

def start (input out err : Capacity) (payload : Bytes) (b : Behaviour) : Exchange where
  program := .running b
  input := ⟨input, [], true, true⟩
  left := payload
  outlets
    | .out => ⟨⟨out, [], true, true⟩, .keeping [], []⟩
    | .err => ⟨⟨err, [], true, true⟩, .keeping [], []⟩
  wait := .forProgram

def goOn (b : Behaviour) (e : Exchange) : Exchange := { e with program := .running b }

def setOutlet (s : Stream) (o : Outlet) (e : Exchange) : Exchange :=
  { e with outlets := fun t => if t = s then o else e.outlets t }

def exit (ending : Ending) (e : Exchange) : Exchange :=
  { e with
    program := .ended ending
    input := e.input.closeReading
    outlets := fun s => (e.outlets s).close }

/-- The next step of a program, which reads or writes `n + 1` bytes at most. -/
def act (n : Nat) (e : Exchange) : Behaviour → Option Exchange
  | .exit ending => some (e.exit ending)
  | .read most next =>
    if !e.input.reading then some (e.goOn (next none))
    else if most = 0 then some (e.goOn (next (some [])))
    else if e.input.content = [] then
      if e.input.writing then none else some (e.goOn (next (some [])))
    else
      let n := min (n + 1) most
      some ({ e with input := e.input.pull n }.goOn (next (some (e.input.content.take n))))
  | .write s b next =>
    let o := e.outlets s
    if !o.pipe.writing then some (e.goOn (next false))
    else if b = [] then some (e.goOn (next true))
    else if !o.pipe.reading then some (e.goOn (next false))
    else if o.pipe.free = 0 then none
    else
      let n := min (n + 1) o.pipe.free
      some ((e.setOutlet s (o.accept (b.take n))).goOn (.write s (b.drop n) next))
  | .closeInput next => some ({ e with input := e.input.closeReading }.goOn next)
  | .close s next => some ((e.setOutlet s (e.outlets s).close).goOn next)

/-- The next step of the task that writes the input. It does not mind when nobody reads, and in the
end it closes its end of the pipe. -/
def feed (n : Nat) (e : Exchange) : Option Exchange :=
  if !e.input.writing then none
  else if !e.input.reading || e.left.isEmpty then
    some { e with input := e.input.closeWriting, left := [] }
  else if e.input.free = 0 then none
  else
    let n := min (n + 1) e.input.free
    some { e with input := e.input.push (e.left.take n), left := e.left.drop n }

def collect (e : Exchange) : Option Exchange :=
  match e.wait with
  | .forProgram =>
    match e.program with
    | .ended ending => some { e with wait := .forOut ending }
    | .running _ => none
  | .forOut ending =>
    match (e.outlets .out).task with
    | .ended out => some { e with wait := .forErr ending out }
    | _ => none
  | .forErr ending out =>
    match (e.outlets .err).task with
    | .ended err => some { e with wait := .returned ending out err }
    | _ => none
  | .returned .. | .expired => none

/-- The next step of a party, if it has one. There are none after the host has returned. -/
def next (p : Party) (n : Nat) (e : Exchange) : Option Exchange :=
  if e.wait.isOver then none
  else match p with
    | .program =>
      match e.program with
      | .running b => e.act n b
      | .ended _ => none
    | .feeder => e.feed n
    | .reader s => ((e.outlets s).drain n).map fun o => e.setOutlet s o
    | .host => e.collect
    | .clock => some { e with wait := .expired }

def step (e : Exchange) (move : Party × Nat) : Exchange := (e.next move.1 move.2).getD e

def run (e : Exchange) (moves : List (Party × Nat)) : Exchange := moves.foldl step e

end Exchange

end ScriptHost.Child
