import ScriptHost.Indented.Library
import ScriptHost.Snippet.Step

/-!
The notation whose blocks are indented, as far as the machine asks for it: literals, things put
together, names of the library, and what a failure that nothing handles leaves behind.
-/
namespace ScriptHost.Indented

open Snippet

def literal (n : Node) : Work Value := do
  match n.kind with
  | .int => return .int ((valueIn? 10 n.text.toList).getD 0)
  | .float => return .float ((float? n.text.toList).getD 0)
  | .byteStr => return .bytes (n.text.toList.map fun c => UInt8.ofNat c.toNat)
  | .other =>
    if n.text = "..." then return .native "Ellipsis" else raise "NotImplementedError" "complex numbers"
  | _ => raise "SyntaxError" "invalid syntax"

/-- Puts the pairs of a dictionary together with the dictionaries that are taken apart in it. -/
def dictParts : List Node → List Value → Work (List (Value × Value))
  | p :: ps, vs => do
    if p.kind = .entry then
      return (vs.getD 0 .absent, vs.getD 1 .absent) :: (← dictParts ps (vs.drop 2))
    let v := vs.getD 0 .absent
    let own ← match ← Work.thing? v with
      | some t =>
        if t.shape == .dict then pure (t.entries.toList.map fun e => (e.key, e.value))
        else typeError ("'" ++ (← typeName v) ++ "' object is not a mapping")
      | none => typeError ("'" ++ (← typeName v) ++ "' object is not a mapping")
    return own ++ (← dictParts ps (vs.drop 1))
  | [], _ => return []

def fieldValue' (conversion : String) (v spec : Value) : Work Value := do
  let v ← match conversion with
    | "" => pure v
    | c => converted (c.toList.headD 's') v
  match spec with
  | .str s => return .str (← formatValue v s)
  | _ => return .str (← textOf v)

def build (n : Node) (vs : List Value) : Work Value := do
  match n.kind with
  | .list => newList vs
  | .tuple => newTuple vs
  | .set => newSet vs
  | .dict => newDict (← dictParts n.parts vs)
  | .format =>
    let parts ← vs.mapM textOf
    return .str (String.join parts)
  | .field => fieldValue' n.text (vs.getD 0 .absent) (vs.getD 1 .absent)
  | .slice => newObject "slice" [] vs
  | _ => raise "SyntaxError" "invalid syntax"

def missing (name : String) : Work Value := do
  if typeNames.contains name || (isFailureKind name && !name.toList.contains '.') || builtinNames.contains name || name = "NotImplemented" then return .native name
  match name with
  | "Ellipsis" => return .native name
  | "EnvironmentError" | "IOError" => return .native "OSError"
  | "__name__" => return .str "__main__"
  | "__doc__" | "__file__" | "__spec__" => return .nothing
  | "__builtins__" => newModule "builtins"
  | _ => raise "NameError" ("name '" ++ name ++ "' is not defined")

def raised (v : Value) : Work Value := do
  match v with
  | .native n =>
    if isFailureKind n then throw (.call v .absent [] [])
    typeError "exceptions must derive from BaseException"
  | .ref id =>
    let t ← Work.thing id
    if t.shape == .classOf then
      if ← kindUnder 20 v (.native "BaseException") then throw (.call v .absent [] [])
    else if ← isFailure v then return v
    typeError "exceptions must derive from BaseException"
  | _ => typeError "exceptions must derive from BaseException"

/-! ## Failures that nothing handles -/

def traceLine (line : Nat) (name : String) : String :=
  "  File \x22<string>\x22, line " ++ toString line ++ ", in " ++ name ++ "\n"

/-- Lines of a trace; those that repeat more than three times are counted. -/
def traceLines (lines : List String) : String :=
  let rec go : Nat → List String → List String
    | 0, _ => []
    | _, [] => []
    | fuel + 1, l :: ls =>
      let same := ls.takeWhile (· == l)
      if same.length < 3 then l :: go fuel ls
      else
        let n := same.length - 2
        [l, l, l, "  [Previous line repeated " ++ toString n ++ " more " ++ plural n "time" ++ "]\n"]
          ++ go fuel (ls.drop same.length)
  String.join (go (lines.length + 1) lines)

def failureName (e : Value) : Work String := do
  match ← kindOf e with
  | .native "json.JSONDecodeError" => return "json.decoder.JSONDecodeError"
  | .native n => return n
  | k => kindName k

def failureLine (e : Value) : Work String := do
  let name ← failureName e
  let text ← (do
    match (failureText e).run (← get) with
    | .ok s _ => return s
    | .error _ _ => return "" : Work String)
  return (if text.isEmpty then name else name ++ ": " ++ text) ++ "\n"

/-- A failure with the lines that it has gone through, and the failures before it. -/
def traceOf : Nat → Value → Nat → Work String
  | 0, _, _ => return ""
  | fuel + 1, e, line => do
    let t := (← Work.thing? e).getD default
    let before ← match t.member? "__context__" with
      | some c => do
        pure ((← traceOf fuel c line)
          ++ "\nDuring handling of the above exception, another exception occurred:\n\n")
      | none => pure ""
    let place := match t.member? "filename", t.member? "lineno" with
      | some (.str f), some (.int n) => "  File \x22" ++ f ++ "\x22, line " ++ toString n ++ "\n"
      | _, _ => ""
    let (line, name) := t.handled.getD (line, "<module>")
    let lines := traceLine line name :: t.trace.map fun (l, n) => traceLine l n
    return before ++ "Traceback (most recent call last):\n" ++ traceLines lines ++ place ++ (← failureLine e)

def uncaught (e : Value) (line : Nat) : Work Finish := do
  if ← isInstance e (.native "SystemExit") then
    let code := match ← Work.thing? e with
      | some t => if t.items.size < 2 then t.items.getD 0 .nothing else .undefined
      | none => .nothing
    match code with
    | .nothing | .absent => return .exited 0
    | .int n => return .exited (n % 256).toNat
    | .truth b => return .exited (if b then 1 else 0)
    | code =>
      let text ← match code with
        | .undefined => failureText e
        | v => textOf v
      Work.writeErr (bytes (text ++ "\n"))
      return .exited 1
  Work.writeErr (bytes (← traceOf 20 e line))
  if ← isInstance e (.native "KeyboardInterrupt") then return .exited 130
  return .exited 1

def dialect : Dialect where
  braced := false
  literal := literal
  truthy v := do
    if let some f ← special v "__bool__" then throw (.callThen f .absent [] "truth" [])
    if let some f ← special v "__len__" then throw (.callThen f .absent [] "truth" [])
    truthy v
  unary := unary
  binary := binary
  build := build
  getAttr := getAttr
  setAttr := setAttr
  dropAttr := dropAttr
  getIndex := getIndex
  setIndex := setIndex
  dropIndex := dropIndex
  source _ v := do
    if (← special v "__next__").isSome then throw (.call (.native "iterated") .absent [v] [])
    sourceOf v
  call := call
  callOther := callOther
  construct _ _ := typeError "object is not callable"
  missing := missing
  failure kind message := raise kind message
  raised := raised
  isKind e kind := do
    needKind kind "catching classes that do not inherit from BaseException is not allowed"
    isKind e kind
  step := step
  load := load
  loadMember := loadMember
  settle _ _ _ := return ()
  await _ _ := return ()
  uncaught := uncaught
  callLimit := 999
  limitReached := ("RecursionError", "maximum recursion depth exceeded")

/-! ## Beginning -/

def newWorld (stdin : Bytes) (env : List (String × String)) (args : List String) : World :=
  let vars := Prelude.functions.zipIdx.map fun (n, i) => (⟨n.text, .ref i, false⟩ : Variable)
  let library : World :=
    { scopes := #[{ extent := .script }, { extent := .script, vars := vars.toArray }], stdin, env, args }
  let things := Prelude.functions.map fun n =>
    let defaults := (n.part 0).parts.filterMap fun p =>
      match p.part 1 with
      | .mk .absent _ _ _ => none
      | .mk .int t _ _ => some (Value.int ((valueIn? 10 t.toList).getD 0))
      | .mk .truth t _ _ => some (.truth (t = "true"))
      | _ => some .nothing
    let code := State.codeOf dialect library n 1 defaults
    ({ shape := .func, name := n.text, code := some { code with hidden := true } } : Thing)
  { library with heap := things.toArray }

end ScriptHost.Indented
