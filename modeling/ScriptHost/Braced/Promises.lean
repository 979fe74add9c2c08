import ScriptHost.Braced.Prelude
import ScriptHost.Braced.Lists

/-!
Promises: what has been promised is settled once, and all that waits for it is put off until what is
under way has come to its end.
-/
namespace ScriptHost.Braced

open Snippet

def putOff (j : Job) : Work Unit := modify fun w => { w with jobs := w.jobs ++ [j] }

def putFirst (j : Job) : Work Unit :=
  modify fun w =>
    let isFirst (k : Job) : Bool := k.fails && k.resumes.isNone
    { w with jobs := w.jobs.takeWhile isFirst ++ { j with fails := true } :: w.jobs.dropWhile isFirst }

def newPromise : Work Nat := do
  match ← Work.new { shape := .promise, name := "pending" } with
  | .ref id => return id
  | _ => return 0

/-- What waits for a promise: a thing that goes on, or two functions and the promise of their result. -/
def reactTo (e : Entry) (ok : Bool) (v : Value) : Work Unit := do
  match e.key with
  | .ref id =>
    if e.mark == "resume" then
      putOff { f := .undefined, args := [v], resumes := some id, fails := !ok }
    else
      let t ← Work.thing id
      let f := t.items.getD (if ok then 0 else 1) .undefined
      let result := t.items.getD 2 .undefined
      if ← isFunction f then
        putOff { f := (Prelude.function? "reacted").getD .undefined
                 args := [f, v, .bound "fulfil" result, .bound "refuse" result] }
      else putOff { f := .bound (if ok then "fulfil" else "refuse") result, args := [v] }
  | _ => return ()

def settle (id : Nat) (ok : Bool) (v : Value) : Work Unit := do
  let t ← Work.thing id
  if t.name != "pending" then return ()
  let name := if ok then "fulfilled" else "rejected"
  Work.setThing id { t with name, items := #[v], entries := #[], done := true }
  for e in t.entries do reactTo e ok v

def reactLater (id : Nat) (e : Entry) : Work Unit := do
  let t ← Work.thing id
  let t := { t with handled := some (0, "") }
  match t.name with
  | "pending" => Work.setThing id { t with entries := t.entries.push e }
  | name =>
    Work.setThing id t
    reactTo e (name == "fulfilled") (t.items.getD 0 .undefined)

def thenCall (id : Nat) (f g : Value) : Work Value := do
  let result ← newPromise
  let e ← Work.newList [f, g, .ref result]
  reactLater id ⟨"call", e, .undefined⟩
  return .ref result

def thenOf? (v : Value) : Work (Option Value) := do
  match v with
  | .ref _ =>
    match ← rawMember? v "then" with
    | some f => return if ← isFunction f then some f else none
    | none => return none
  | _ => return none

/-- Settles a promise with a value, or with what that one promises in its turn. -/
def resolve (id : Nat) (v : Value) : Work Unit := do
  if strictEqual v (.ref id) then
    settle id false (← newError "TypeError" "Chaining cycle detected for promise #<Promise>")
  else match ← Work.shape? v with
    | some .promise =>
      Work.modifyThing id fun t => { t with done := true }
      putOff { f := .native "inner.follow", args := [v, .ref id] }
    | _ =>
      match ← thenOf? v with
      | some f =>
        Work.modifyThing id fun t => { t with done := true }
        putOff { f := (Prelude.function? "followed").getD .undefined
                 args := [v, f, .bound "fulfil" (.ref id), .bound "refuse" (.ref id)] }
      | none => settle id true v

def promiseOf (v : Value) : Work Nat := do
  match v, ← Work.shape? v with
  | .ref id, some .promise => return id
  | v, _ =>
    let id ← newPromise
    resolve id v
    return id

def await (v : Value) (waiting : Nat) : Work Unit := do
  reactLater (← promiseOf v) ⟨"resume", .ref waiting, .undefined⟩

def unhandled : Work Value := do
  let w ← get
  match w.heap.findIdx? fun t => t.shape == .promise && t.name == "rejected" && t.handled.isNone with
  | some i =>
    Work.modifyThing i fun t => { t with handled := some (0, "") }
    return (w.heap.getD i default).items.getD 0 .undefined
  | none => return .absent

def callPromise (name : String) (this : Value) (args : List Value) : Work Value := do
  let a := arg args 0
  match name, this with
  | "then", .ref id => thenCall id a (arg args 1)
  | _, _ => typeError "Method Promise.prototype.then called on incompatible receiver"

def callPromises (name : String) (args : List Value) : Work Value := do
  let a := arg args 0
  match name with
  | "resolve" => return .ref (← promiseOf a)
  | "reject" =>
    let id ← newPromise
    settle id false a
    return .ref id
  | _ => typeError ("Promise." ++ name ++ " is not a function")

end ScriptHost.Braced
