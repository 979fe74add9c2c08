import ScriptHost.Braced.Library
import ScriptHost.Snippet.Step

/-!
The notation whose blocks stand in braces, as far as the machine asks for it: literals, things put
together, names of the library, and what a failure that nothing handles leaves behind.
-/
namespace ScriptHost.Braced

open Snippet

def literal (n : Node) : Work Value := do
  match n.kind with
  | .float => return .float ((float? n.text.toList).getD nan)
  | .int | .big => return .int ((valueIn? 10 n.text.toList).getD 0)
  | .regex => newPattern n.text (n.part 0).text
  | _ =>
    match n.text, n.part 0 with
    | "import", .mk .str name _ _ =>
      let m ← requireModule (.str name)
      return .ref (← promiseOf m)
    | "import", _ | "with", _ => raise "SyntaxError" "Unexpected token"
    | _, _ => return .undefined

/-! ## Things put together -/

/-- A function without a name is called after the key where it is kept; a method knows its object. -/
def settleMember (o v : Value) (key : String) (m : Node) (isMethod : Bool) : Work Unit := do
  match v with
  | .ref id =>
    let nameless := (m.kind == .func || m.kind == .classOf) && m.text.isEmpty
    if nameless || isMethod then
      Work.modifyThing id fun t =>
        { t with
          name := if nameless then key else t.name
          code := t.code.map fun c =>
            { c with
              name := if nameless then key else c.name
              home := if isMethod then o else c.home } }
  | _ => return ()

def fillObject (o : Value) : List Node → List Value → Work Unit
  | p :: ps, vs => do
    if p.kind != .entry then
      copyMembers o (vs.getD 0 .undefined) []
      fillObject o ps (vs.drop 1)
    else
      let key ← keyText' (vs.getD 0 .undefined)
      let v := vs.getD 1 .undefined
      settleMember o v key (p.part 1) (p.text == "method" || p.text == "get" || p.text == "set")
      if p.text.isEmpty && key == "__proto__" then setPrototype o v
      else defineMember o key p.text v
      fillObject o ps (vs.drop 2)
  | [], _ => return ()

def pieces (template : Node) : Work Value := do
  let texts := template.parts.filter fun p => p.kind != .field
  let cooked := texts.map fun p => if p.kind == .str then Value.str p.text else .undefined
  let raw ← Work.newList (texts.map fun p => .str (p.part 0).text)
  Work.new
    { shape := .list, items := cooked.toArray, done := true, members := #[⟨"raw", .absent, raw⟩] }

def rawTemplate (template : Node) (vs : List Value) : Work String := do
  let raws := (template.parts.filter fun p => p.kind != .field).map fun p => (p.part 0).text
  let rec go : List String → List Value → Work String
    | [], _ => return ""
    | [r], _ => return r
    | r :: rs, v :: vs => do return r ++ (← textOf v) ++ (← go rs vs)
    | r :: rs, [] => do return r ++ (← go rs [])
  go raws vs

def build (n : Node) (vs : List Value) : Work Value := do
  match n.kind with
  | .list => Work.newList vs
  | .dict =>
    let o ← Work.new { shape := .object }
    fillObject o n.parts vs
    return o
  | .format =>
    return .str (String.join (vs.map fun v => match v with
      | .str s => s
      | _ => ""))
  | .field =>
    let v := vs.getD 0 .undefined
    if isSymbol v then typeError "Cannot convert a Symbol value to a string"
    asText v
  | .tagged =>
    match vs with
    | .native "String.raw" :: rest => return .str (← rawTemplate (n.part 1) rest)
    | f :: rest => throw (.call f .undefined ((← pieces (n.part 1)) :: rest) [])
    | [] => return .undefined
  | _ => raise "SyntaxError" "Invalid or unexpected token"

/-! ## Names -/

def missing (name : String) : Work Value := do
  if globalNames.contains name then return .native name
  match name with
  | "undefined" => return .undefined
  | "NaN" => return .float nan
  | "Infinity" => return .float infinity
  | "global" | "globalThis" => return .native "globalThis"
  | "__filename" => return .str "[eval]"
  | "__dirname" => return .str "."
  | "exports" => newObject []
  | "module" => newObject [("exports", ← newObject []), ("id", .str "[eval]")]
  | "super" => return .undefined
  | _ =>
    match ← extra? "globalThis" name with
    | some v => return v
    | none => raise "ReferenceError" (name ++ " is not defined")

/-! ## Failures that nothing handles -/

def version : String := "v22.0.0"

def uncaught (source : String) (e : Value) (line : Nat) : Work Finish := do
  let isError := (← Work.shape? e) == some .error
  let shown ← match e with
    | .str s => pure s
    | e => inspect e
  let place := "[eval]:" ++ toString line ++ "\n" ++ (source.splitOn "\n").getD (line - 1) "" ++ "\n^\n"
  let note := if isError then ""
    else match e with
      | .ref _ => ""
      | _ => "(Use \x60node --trace-uncaught ...\x60 to show where the exception was thrown)\n"
  Work.writeErr (bytes (place ++ (if note.isEmpty then "\n" else "") ++ shown ++ "\n" ++ note ++ "\nNode.js " ++ version ++ "\n"))
  return .exited 1

def dialect (source : String) : Dialect where
  braced := true
  literal := literal
  truthy v := return truthy v
  unary := unary
  binary := binary
  build := build
  getAttr := getMember
  setAttr := setMember
  dropAttr := dropMember
  getIndex := getIndex
  setIndex := setIndex
  dropIndex := dropIndex
  source := sourceOf
  call := call
  callOther := callOther
  construct := construct
  missing := missing
  failure kind message := raise kind message
  raised v := return v
  isKind _ _ := return true
  step := step
  load _ := return .undefined
  loadMember _ _ _ := return .undefined
  settle p ok v := do
    if let .ref id := p then
      if ok then resolve id v else settle id false v
  await := await
  uncaught := uncaught source
  callLimit := 9000
  limitReached := ("RangeError", "Maximum call stack size exceeded")

/-! ## Beginning -/

def textMembers (pairs : List (String × String)) : Array Entry :=
  (pairs.map fun (n, v) => (⟨n, .str n, .str v⟩ : Entry)).toArray

/-- The world before a script begins: the environment, functions of the library in a scope of their
own, and the names that belong to the whole script. -/
def newWorld (n : Node) (stdin : Bytes) (env : List (String × String)) (args : List String) : World :=
  let names := (spreadNames n).eraseDups.map fun x => (⟨x, .undefined, false⟩ : Variable)
  let this : Variable := ⟨"this", .native "globalThis", true⟩
  let functions := Prelude.functions.zipIdx.map fun (f, i) =>
    (⟨f.text, .ref (preludePlace + i), false⟩ : Variable)
  let inner := Prelude.inner.map fun (n, v) => (⟨n, .native v, true⟩ : Variable)
  let library : World :=
    { scopes := #[{ extent := .script, vars := (this :: names).toArray },
        { extent := .script, vars := (functions ++ inner).toArray }]
      stdin, env, args }
  let own := Prelude.functions.map fun f =>
    let code := State.codeOf (dialect "") library f 1 []
    ({ shape := .func, name := f.text, code := some { code with hidden := true } } : Thing)
  { library with
    heap := ({ shape := .object, members := textMembers env } :: { shape := .object } :: own).toArray }

end ScriptHost.Braced
