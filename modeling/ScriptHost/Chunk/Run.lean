import ScriptHost.Chunk.Parser
import ScriptHost.Chunk.Machine

/-!
Running a whole chunk within a given time. Time is counted in steps: a run that takes too long is
interrupted by a failure, which the chunk may catch; it is then interrupted again and again.
-/
namespace ScriptHost.Chunk

/-- How a chunk is called in messages. A name after an equal sign or an at sign is shown as it is;
any other is shown as the beginning of a source. Long names are cut. -/
def shownName (name : Bytes) : Bytes :=
  match name with
  | 0x3D :: r => if name.length ≤ 60 then r else r.take 59
  | 0x40 :: r => if name.length ≤ 60 then r else bytes "..." ++ r.drop (r.length - 56)
  | _ =>
    let line := name.takeWhile (· ≠ 0x0A)
    let text := if name.length < 45 && line.length = name.length then name
      else line.take 45 ++ bytes "..."
    bytes "[string \x22" ++ text ++ bytes "\x22]"

inductive LoadFault where
  | syntaxError (message : Bytes)
  | tooDeep
  deriving DecidableEq, Repr

def compiledMark : UInt8 := 0x1B

/-- What is wrong with a compiled chunk behind its mark; none that is text can be in order. -/
def compiledFault (r : Bytes) : String :=
  if r.length < 3 then "truncated chunk"
  else if r.take 3 ≠ bytes "Lua" then "not a binary chunk"
  else match r.drop 3 with
    | [] => "truncated chunk"
    | version :: r =>
      if version ≠ 0x54 then "version mismatch"
      else match r with
        | [] => "truncated chunk"
        | format :: r =>
          if format ≠ 0 then "format mismatch"
          else if r.length < 6 then "truncated chunk"
          else "corrupted chunk"

def compiledName (name : Bytes) : Bytes :=
  match name with
  | 0x3D :: r | 0x40 :: r => r
  | 0x1B :: _ => bytes "binary string"
  | name => name

def load (name source : Bytes) : Except LoadFault Func :=
  match source with
  | 0x1B :: r =>
    .error (.syntaxError (compiledName name
      ++ bytes (": bad binary format (" ++ compiledFault r ++ ")")))
  | source =>
    match parse source with
    | .ok f => .ok f
    | .error .tooDeep => .error .tooDeep
    | .error (.malformed line message) =>
      .error (.syntaxError (position (shownName name) (some line) ++ message))

def loadAny (name source : Bytes) : Except LoadFault Func :=
  if source.head? = some compiledMark then load name source
  else match parse (bytes "return " ++ source) with
    | .ok f => .ok f
    | .error _ => load name source

namespace State

def halted (s : State) : Bool :=
  match s.control with
  | .halt _ => true
  | _ => false

def start (f : Func) (heap : Heap) : State :=
  let c : Closure := ⟨f, [], 0⟩
  let (id, heap) := heap.newClosure c
  ⟨.apply (.closure id) [] ⟨none, none⟩ false, [], heap, [], 0⟩

def steps (chunk : Bytes) : Nat → State → State
  | 0, s => s
  | n + 1, s => if s.halted then s else steps chunk n (s.step chunk)

def interrupt (s : State) : State := s.goOn (.raise (.text "deadline exceeded"))

/-- The steps between two looks at the clock. -/
def pause : Nat := 3000

def stepsLate (chunk : Bytes) : Nat → State → State
  | 0, s => s
  | n + 1, s => if s.halted then s else stepsLate chunk n (steps chunk pause s.interrupt)

end State

structure Ended where
  result : Option (Except Value (List Value))
  late : Bool
  heap : Heap
  logs : List String

def stepsPerMs : Nat := 10000

/-- No run takes more steps than this before it is interrupted. -/
def mostSteps : Nat := 6000000

/-- Runs a chunk for a time in milliseconds. The clock is looked at first after a pause. -/
def run (chunk : Bytes) (f : Func) (heap : Heap) (timeoutMs : Nat) : Ended :=
  let budget := max State.pause (min mostSteps (timeoutMs * stepsPerMs))
  let s := (State.start f heap).steps chunk budget
  let late := !s.halted
  let s := if late then s.stepsLate chunk 100 else s
  let result := match s.control with
    | .halt r => some r
    | _ => none
  ⟨result, late, s.heap, s.logs.reverse⟩

end ScriptHost.Chunk
