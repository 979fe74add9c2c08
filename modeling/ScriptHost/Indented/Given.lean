import ScriptHost.Indented.Operators
import ScriptHost.Snippet.Calls

/-!
What a function of the library makes of its arguments: it finds them by position or by name, asks
that they have a certain kind, and draws what a source holds into a list.
-/
namespace ScriptHost.Indented

open Snippet

def isNone : Value → Bool
  | .absent | .undefined | .nothing => true
  | _ => false

/-- The arguments in the order of the parameters; what is left out is absent. -/
def given (f : String) (names : List String) (needed : Nat) (args : List Value)
    (named : List (String × Value)) : Work (List Value) := do
  if names.length < args.length then
    typeError (f ++ " expected at most " ++ toString names.length ++ " " ++ plural names.length "argument"
      ++ ", got " ++ toString args.length)
  for (n, _) in named do
    if !names.contains n then typeError ("'" ++ n ++ "' is an invalid keyword argument for " ++ f ++ "()")
  let values := names.zipIdx.map fun (n, i) =>
    match args[i]? with
    | some v => v
    | none => ((named.find? (·.1 == n)).map (·.2)).getD .absent
  if (values.take needed).any (·.isAbsent) then
    typeError (f ++ " expected at least " ++ toString needed ++ " " ++ plural needed "argument" ++ ", got "
      ++ toString args.length)
  return values

def arg (vs : List Value) (i : Nat) : Value := vs.getD i .absent

def needText (f : String) (v : Value) : Work String := do
  match v with
  | .str s => return s
  | v => typeError (f ++ " argument must be str, not " ++ (← typeName v))

def needInt (v : Value) : Work Int := do
  match number? v with
  | some (.int n) => return n
  | _ =>
    if let some f ← special v "__index__" then throw (.call f .absent [] [])
    typeError ("'" ++ (← typeName v) ++ "' object cannot be interpreted as an integer")

def intOr (default : Int) (v : Value) : Work Int := if isNone v then return default else needInt v

def needFloat (v : Value) : Work Float := do
  match number? v with
  | some x => return x.toFloat
  | none => typeError ("must be real number, not " ++ (← typeName v))

def rangeAtOnce : Nat := 5000000

/-- The values of the first argument. What is not at hand is drawn first, and the function is called
again with the list in its place. -/
def listed (f : Value) (args : List Value) (named : List (String × Value)) :
    Work (List Value × List Value) := do
  match args with
  | [] => typeError "expected at least 1 argument, got 0"
  | v :: rest =>
    if let some vs ← valuesAtHand v then return (vs, rest)
    let names ← newDict (named.map fun (n, x) => (.str n, x))
    if (← special v "__next__").isSome then
      throw (.callThen (.native "iterated") .absent [v] "iterated" (f :: names :: rest))
    if let some g ← special v "__iter__" then
      throw (.callThen g .absent [] "iterated" (f :: names :: rest))
    match ← sourceOf v with
    | .items vs => return (vs, rest)
    | .list id k => return ((← Work.thing id).items.toList.drop k, rest)
    | .range i step n =>
      if rangeAtOnce < n then throw (.finish .endless)
      return ((List.range n).map fun (k : Nat) => .int (i + step * (k : Int)), rest)
    | source => throw (.draw source f .absent rest named)

def namedEntries (t : Thing) : List (String × Value) :=
  t.entries.toList.filterMap fun e =>
    match e.key with
    | .str k => some (k, e.value)
    | _ => none

def newObject (name : String) (members : List (String × Value)) (items : List Value) : Work Value :=
  Work.new { shape := .object, name, items := items.toArray
             members := (members.map fun (n, v) => (⟨n, .str n, v⟩ : Entry)).toArray }

def newIterator (name : String) (vs : List Value) : Work Value :=
  Work.new { shape := .iterator, name, items := vs.toArray }

def ownTextOf (v : Value) : Work (Option Value) := do
  if let some f ← special v "__str__" then return some f
  special v "__repr__"

def textsFirst (f : Value) (args : List Value) (named : List (String × Value)) : Work Unit := do
  for (v, i) in args.zipIdx do
    if let some g ← ownTextOf v then
      let names ← newDict (named.map fun (n, x) => (.str n, x))
      throw (.callThen g .absent [] "texted" (f :: names :: .int i :: args))

end ScriptHost.Indented
