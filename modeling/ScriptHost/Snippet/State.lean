import ScriptHost.Snippet.Value
import ScriptHost.Snippet.Names

/-!
A running script as a whole: what is done next, what is still to be done after it, and the world in
which it runs. A dialect says what the operations do that are not the same in both notations.
-/
namespace ScriptHost.Snippet

inductive Control where
  | eval (node : Node) (scope : Nat)
  | give (v : Value)
  | leave (l : Leaving)
  | exhausted (v : Value)
  | call (f this : Value) (args : List Value) (named : List (String × Value))
  | bind (target : Node) (v : Value) (giving : Giving) (scope : Nat)
  | each (node : Node) (scope : Nat) (label : String) (source : Source)
  | draw (source : Source) (acc : List Value)
  | resume (id : Nat) (sent : Value)
  | halt (f : Finish)

structure State where
  control : Control
  frames : List Frame := []
  world : World
  line : Nat := 1
  depth : Nat := 0

/-- What the notations do in ways of their own. -/
structure Dialect where
  /-- Whether blocks have names of their own, and `this` goes with every call. -/
  braced : Bool
  literal : Node → Work Value
  truthy : Value → Work Bool
  unary : String → Value → Work Value
  binary : String → Value → Value → Work Value
  build : Node → List Value → Work Value
  getAttr : Value → String → Work Value
  setAttr : Value → String → Value → Work Unit
  dropAttr : Value → String → Work Value
  getIndex : Value → Value → Work Value
  setIndex : Value → Value → Value → Work Unit
  dropIndex : Value → Value → Work Value
  source : Bool → Value → Work Source
  call : String → Value → List Value → List (String × Value) → Work Value
  callOther : Value → Value → List Value → List (String × Value) → Work Value
  construct : String → List Value → Work Value
  missing : String → Work Value
  failure : String → String → Work Value
  raised : Value → Work Value
  isKind : Value → Value → Work Bool
  step : String → List Value → Value → Work Value
  load : String → Work Value
  loadMember : Value → String → String → Work Value
  settle : Value → Bool → Value → Work Unit
  await : Value → Nat → Work Unit
  uncaught : Value → Nat → Work Finish
  callLimit : Nat
  limitReached : String × String

namespace State

def goOn (s : State) (c : Control) : State := { s with control := c }

def push (s : State) (f : Frame) (c : Control) : State := { s with control := c, frames := f :: s.frames }

def give (s : State) (v : Value) : State := { s with control := .give v }

def eval (s : State) (n : Node) (scope : Nat) : State := { s with control := .eval n scope }

def leave (s : State) (l : Leaving) : State := { s with control := .leave l }

def halt (s : State) (f : Finish) : State := { s with control := .halt f }

def idle (d : Dialect) : Value := if d.braced then .undefined else .nothing

/-- Turns to what an operation has asked for instead of giving a value. -/
def detour (s : State) : Detour → State
  | .raise v => s.leave (.failure v)
  | .call f this args named => s.goOn (.call f this args named)
  | .callThen f this args step data => s.push (.after step data) (.call f this args [])
  | .draw source f this args named => s.push (.applying f this args named) (.draw source [])
  | .ask id sent default => s.push (.asking default) (.resume id sent)
  | .wait v => s.push (.after "wait" []) (.give v)
  | .finish f => s.halt f

def thenDo {α : Type} (s : State) (w : Work α) (k : α → State → State) : State :=
  match s with
  | ⟨control, frames, world, line, depth⟩ =>
    match w.run world with
    | .ok a world => k a ⟨control, frames, world, line, depth⟩
    | .error d world => detour ⟨control, frames, world, line, depth⟩ d

/-- Performs an operation; when it needs something else first, the frame waits for that. -/
def again {α : Type} (s : State) (f : Frame) (w : Work α) (k : α → State → State) : State :=
  match s with
  | ⟨control, frames, world, line, depth⟩ =>
    match w.run world with
    | .ok a world => k a ⟨control, frames, world, line, depth⟩
    | .error (.raise v) world => leave ⟨control, frames, world, line, depth⟩ (.failure v)
    | .error t world => detour ⟨control, f :: frames, world, line, depth⟩ t

def perform (s : State) (w : Work Value) : State := s.thenDo w fun v s => s.give v

def performUnit (d : Dialect) (s : State) (w : Work Unit) : State :=
  s.thenDo w fun _ s => s.give (idle d)

def fail (d : Dialect) (kind message : String) (s : State) : State := s.perform (d.failure kind message)

/-! ## Scopes -/

def scopeAt (w : World) (i : Nat) : Scope := w.scopes.getD i default

def findFrom (w : World) (name : String) : Nat → Nat → Option (Nat × Nat)
  | 0, _ => none
  | fuel + 1, i =>
    let scope := scopeAt w i
    match scope.vars.findIdx? fun x => x.name == name with
    | some k => some (i, k)
    | none =>
      if scope.outermost.contains name then findFrom w name fuel 0
      else match scope.parent with
        | some p => findFrom w name fuel p
        | none => none

def find? (w : World) (name : String) (scope : Nat) : Option (Nat × Nat) :=
  findFrom w name (w.scopes.size + 1) scope

def variableAt (w : World) (place : Nat × Nat) : Variable := (scopeAt w place.1).vars.getD place.2 default

def setAt (w : World) (place : Nat × Nat) (v : Value) : World :=
  { w with scopes := w.scopes.modify place.1 fun s =>
    { s with vars := s.vars.modify place.2 fun x => { x with value := v } } }

def define (w : World) (scope : Nat) (name : String) (v : Value) (fixed : Bool) : World :=
  { w with scopes := w.scopes.modify scope fun s =>
    match s.vars.findIdx? fun x => x.name == name with
    | some k => { s with vars := s.vars.modify k fun x => { x with value := v, fixed } }
    | none => { s with vars := s.vars.push ⟨name, v, fixed⟩ } }

def newScope (w : World) (s : Scope) : Nat × World :=
  (w.scopes.size, { w with scopes := w.scopes.push s })

def unset (d : Dialect) (name : String) (inFunction : Bool) (s : State) : State :=
  if d.braced then s.fail d "ReferenceError" ("Cannot access '" ++ name ++ "' before initialization")
  else if inFunction then
    s.fail d "UnboundLocalError"
      ("cannot access local variable '" ++ name ++ "' where it is not associated with a value")
  else s.fail d "NameError" ("name '" ++ name ++ "' is not defined")

def lookUp (d : Dialect) (name : String) (scope : Nat) (s : State) : State :=
  match find? s.world name scope with
  | some place =>
    match (variableAt s.world place).value with
    | .absent =>
      if place.1 = 0 && !d.braced then s.perform (d.missing name)
      else s.unset d name ((scopeAt s.world place.1).extent = .function)
    | v => s.give v
  | none => s.perform (d.missing name)

def assign (d : Dialect) (name : String) (scope : Nat) (v : Value) (s : State) : State :=
  let here := scopeAt s.world scope
  if !d.braced && here.extent ≠ .function && !here.outermost.contains name then
    { s with world := define s.world scope name v false, control := .give v }
  else match find? s.world name scope with
    | some place =>
      let x := variableAt s.world place
      if d.braced && x.value.isAbsent then s.unset d name false
      else if x.fixed then s.fail d "TypeError" "Assignment to constant variable."
      else { s with world := setAt s.world place v, control := .give v }
    | none => { s with world := define s.world 0 name v false, control := .give v }

def introduce (d : Dialect) (word name : String) (scope : Nat) (v : Value) (s : State) : State :=
  if word = "var" then
    match find? s.world name scope with
    | some place => { s with world := setAt s.world place v, control := .give (idle d) }
    | none => { s with world := define s.world 0 name v false, control := .give (idle d) }
  else { s with world := define s.world scope name v (word = "const"), control := .give (idle d) }

end State

end ScriptHost.Snippet
