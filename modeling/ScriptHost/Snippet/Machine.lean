import ScriptHost.Snippet.Calls

/-!
The machine that runs a script, one small step at a time. Whatever is under way stands in the frames;
a failure, a jump or the end of a function takes frames away until one of them answers to it.
-/
namespace ScriptHost.Snippet.State

/-! ## Terms and statements -/

def isStrict : Kind → Bool
  | .list | .tuple | .set | .dict | .format | .field | .slice | .attr | .index | .unary | .binary
  | .tryAttr | .tryIndex | .tagged | .entry => true
  | _ => false

def partsOf (n : Node) : List Node :=
  match n.kind with
  | .dict => n.parts.flatMap fun e =>
      match e with
      | .mk .entry _ _ [k, v] => [k, v]
      | e => [e]
  | .tagged =>
    n.part 0 :: (n.part 1).parts.filterMap fun p => if p.kind = .field then some (p.part 0) else none
  | _ => n.parts

/-- A function or a class gets the name of what it is given to, unless it has one. -/
def nameFor (target value : Node) : Node :=
  match target, value with
  | .mk .name t _ _, .mk .func "" l ps => .mk .func t l ps
  | .mk .name t _ _, .mk .classOf "" l ps => .mk .classOf t l ps
  | _, v => v

/-- Functions of a block are known around it too, where nothing else has their names. -/
def spreadFunctions (stats : List Node) (inner outer : Nat) (w : World) : World :=
  (blockFunctions stats).foldl (fun w n =>
    match find? w n.text outer, find? w n.text inner with
    | some there, some here =>
      match (variableAt w there).value with
      | .undefined => setAt w there (variableAt w here).value
      | _ => w
    | _, _ => w) w

def openBlock (d : Dialect) (stats : List Node) (scope : Nat) (s : State) : Nat × State :=
  let vars := blockVars stats
  if vars.isEmpty && (blockFunctions stats).isEmpty then (scope, s)
  else
    let (inner, world) := newScope s.world { extent := .block, vars := vars.toArray, parent := some scope }
    let s := hoist d stats inner { s with world }
    (inner, { s with world := spreadFunctions stats inner scope s.world })

def runBlock (d : Dialect) (n : Node) (scope : Nat) (s : State) : State :=
  let (inner, s) := if d.braced then openBlock d n.parts scope s else (scope, s)
  s.push (.next n.parts inner) (.give (idle d))

def makeFunction (d : Dialect) (n : Node) (scope : Nat) (values : List Value) (s : State) : State :=
  let defaults := (n.part 0).parts.filter fun p => !(p.part 1).isAbsent
  let (ds, fs) := if d.braced then ([], []) else (values.take defaults.length, values.drop defaults.length)
  s.thenDo (newFunction (codeOf d s.world n scope ds)) fun v s =>
    let declared := !d.braced && (n.part 2).text.startsWith "declared"
    let s := if declared then
        { s with frames := .binding (.name n.text) .assigned scope :: s.frames } else s
    if fs.isEmpty then s.give v else s.push (.decorating fs.reverse) (.give v)

def functionParts (d : Dialect) (n : Node) : List Node :=
  if d.braced then []
  else ((n.part 0).parts.filterMap fun p => if (p.part 1).isAbsent then none else some (p.part 1))
    ++ n.parts.drop 3

def checkNode (n : Node) : Node :=
  let args := if (n.part 1).isAbsent then [] else [n.part 1]
  .mk .cond "" n.line [n.part 0, .mk .pass "" n.line [],
    .mk .raise "" n.line [.mk .call "" n.line (.name "AssertionError" :: args), .absent]]

def gather (d : Dialect) (n : Node) (scope : Nat) (s : State) : State :=
  let names := assignedNames (n.part 0)
  let vars := names.map fun x => (⟨x, .absent, false⟩ : Variable)
  let (inner, world) := newScope s.world
    { extent := .function, vars := vars.toArray, parent := some (homeScope s.world scope) }
  let name := match n.text with
    | "generator" => "<genexpr>"
    | t => "<" ++ t ++ "comp>"
  { s with world }.thenDo
    (Work.new { shape := .generator, name, saved := [.next [n.part 0] inner] }) fun v s =>
      match n.text, v with
      | "generator", v => s.give v
      | kind, .ref id => s.push (.applying (.native kind) .absent [] []) (.draw (.generator id) [])
      | _, v => let _ := d; s.give v

/-- Loops that can be seen to go on for ever and to do nothing. -/
def idlesForEver (n : Node) : Bool :=
  let isEmpty (b : Node) : Bool := !b.any fun m =>
    !(m.kind = .pass || m.kind = .block || m.kind = .continueLoop || m.kind = .absent)
  match n.kind with
  | .loop => (n.part 0).kind = .truth && (n.part 0).text = "true" && isEmpty (n.part 1)
  | .count =>
    ((n.part 1).isAbsent || ((n.part 1).kind = .truth && (n.part 1).text = "true"))
      && (n.part 2).isAbsent && isEmpty (n.part 3)
  | _ => false

def startLoop (d : Dialect) (n : Node) (label : String) (scope : Nat) (s : State) : State :=
  if idlesForEver n then s.halt .endless
  else match n.kind with
    | .loop => s.push (.looping .test n scope label) (.eval (n.part 0) scope)
    | .doLoop => s.push (.looping .body n scope label) (.eval (n.part 0) scope)
    | .count =>
      let (inner, s) := if d.braced then openBlock d [n.part 0] scope s else (scope, s)
      if (n.part 0).isAbsent then s.push (.looping .start n inner label) (.give (idle d))
      else s.push (.looping .start n inner label) (.eval (n.part 0) inner)
    | .each => s.push (.eachSource n scope label) (.eval (n.part 1) scope)
    | _ => s.push (.labelled label) (.eval n scope)

def isLoop : Kind → Bool
  | .loop | .doLoop | .count | .each => true
  | _ => false

def declare (d : Dialect) (word : String) (n : Node) (scope : Nat) (s : State) : State :=
  if (n.part 1).isAbsent then
    if word = "var" then s.give (idle d)
    else introduce d word (n.part 0).text scope .undefined s
  else s.push (.binding (n.part 0) (.declared word) scope) (.eval (nameFor (n.part 0) (n.part 1)) scope)

def bindingsOf (n : Node) : List Node :=
  n.parts.map fun b => .mk .binding n.text b.line b.parts

def startClass (d : Dialect) (n : Node) (scope : Nat) (s : State) : State :=
  if d.braced then
    if (n.part 0).isAbsent then s.push (.parts n scope [] []) (.give .absent)
    else s.push (.parts n scope [] []) (.eval (n.part 0) scope)
  else match n.parts.drop 2 with
    | [] =>
      let frames := .callee n scope .absent :: .binding (.name n.text) .assigned scope :: s.frames
      { s with frames, control := .give (.native "class") }
    | p :: ps => s.push (.parts n scope [] ps) (.eval p scope)

def handled? : List Frame → Option Value
  | [] => none
  | .handling _ _ failure _ :: _ => some failure
  | _ :: fs => handled? fs

def startCall (d : Dialect) (n : Node) (scope : Nat) (s : State) : State :=
  let callee := n.part 0
  match callee.kind with
  | .attr | .tryAttr | .index | .tryIndex =>
    if (callee.part 0).kind = .name && (callee.part 0).text = "super" && d.braced then
      s.push (.callee n scope .absent) (.eval callee scope)
    else s.push (.calleeObject n scope) (.eval (callee.part 0) scope)
  | _ => s.push (.callee n scope .absent) (.eval callee scope)

def placeOf (n : Node) (scope : Nat) (values : List Value) : Place :=
  match n.kind, values with
  | .attr, [o] => .attr o n.text
  | .index, [o, k] => .index o k
  | _, _ => .var n.text scope

def ungroup : Node → Node
  | .mk .group _ _ [n] => ungroup n
  | n => n

def startChange (n : Node) (scope : Nat) (s : State) : State :=
  let target := ungroup (n.part 0)
  match target.kind with
  | .attr | .index => s.push (.placing n scope [] (target.parts.drop 1)) (.eval (target.part 0) scope)
  | _ => s.push (.reading n scope (.var target.text scope)) (.eval target scope)

def evalAssign (d : Dialect) (n : Node) (scope : Nat) (s : State) : State :=
  if n.text = "=" || n.text = ":=" then
    let target := ungroup (n.part 0)
    s.push (.storing [target] scope) (.eval (nameFor target (n.part 1)) scope)
  else let _ := d; startChange n scope s

def evalName (d : Dialect) (n : Node) (scope : Nat) (s : State) : State :=
  if d.braced && n.text = "this" then
    match find? s.world "this" scope with
    | some place => s.give (variableAt s.world place).value
    | none => s.give .undefined
  else lookUp d n.text scope s

/-- Begins to work out one part of a node; what is taken apart adds several values. -/
def beginPart (n : Node) (scope : Nat) (done : List Value) (p : Node) (rest : List Node) (s : State) :
    State :=
  match p.kind with
  | .spread =>
    if n.kind = .dict then s.push (.parts n scope done rest) (.eval (p.part 0) scope)
    else s.push (.spreading n scope done rest) (.eval (p.part 0) scope)
  | .spreadNamed => s.push (.parts n scope done rest) (.eval (p.part 0) scope)
  | _ => s.push (.parts n scope done rest) (.eval p scope)

def evalNode (d : Dialect) (n : Node) (scope : Nat) (s : State) : State :=
  let s := if n.line = 0 then s else { s with line := n.line }
  match n.kind with
  | .absent => s.give .absent
  | .nothing => s.give .nothing
  | .undefined => s.give .undefined
  | .truth => s.give (.truth (n.text = "true"))
  | .str => s.give (.str n.text)
  | .int | .float | .big | .byteStr | .regex | .other => s.perform (d.literal n)
  | .name => evalName d n scope s
  | .group | .eval => s.eval (n.part 0) scope
  | .maybe => s.push .maybe (.eval (n.part 0) scope)
  | .call | .tryCall => startCall d n scope s
  | .make => s.push (.callee n scope .absent) (.eval (n.part 0) scope)
  | .both | .either | .orNothing | .choose | .cond =>
    s.push (.choice n scope) (.eval (n.part 0) scope)
  | .check => s.eval (checkNode n) scope
  | .chain => s.push (.chain scope (n.parts.drop 1)) (.eval (n.part 0) scope)
  | .sequence => s.push (.next n.parts scope) (.give (idle d))
  | .func =>
    match functionParts d n with
    | [] => makeFunction d n scope [] s
    | p :: ps => s.push (.parts n scope [] ps) (.eval p scope)
  | .classOf => startClass d n scope s
  | .gather => gather d n scope s
  | .produce | .produceAll | .wait =>
    if (n.part 0).isAbsent then s.push (.parts n scope [] []) (.give (idle d))
    else s.push (.parts n scope [] []) (.eval (n.part 0) scope)
  | .assign => evalAssign d n scope s
  | .step | .update => startChange n scope s
  | .store => s.push (.storing (n.parts.drop 1) scope) (.eval (nameFor .absent (n.part 0)) scope)
  | .annotate =>
    if (n.part 2).isAbsent then s.give (idle d)
    else s.push (.storing [ungroup (n.part 0)] scope) (.eval (n.part 2) scope)
  | .declare => s.push (.next (bindingsOf n) scope) (.give (idle d))
  | .binding => declare d n.text n scope s
  | .leave =>
    if (n.part 0).isAbsent then s.leave (.value (idle d)) else s.push .leaving (.eval (n.part 0) scope)
  | .raise =>
    if (n.part 0).isAbsent then
      match handled? s.frames with
      | some v => s.leave (.failure v)
      | none => s.fail d "RuntimeError" "No active exception to reraise"
    else s.push .raising (.eval (n.part 0) scope)
  | .loop | .doLoop | .count | .each => startLoop d n "" scope s
  | .label =>
    if isLoop (n.part 0).kind then
      s.push (.labelled n.text) (.give (idle d)) |> startLoop d (n.part 0) n.text scope
    else s.push (.labelled n.text) (.eval (n.part 0) scope)
  | .breakLoop => s.leave (.breakLoop n.text)
  | .continueLoop => s.leave (.continueLoop n.text)
  | .attempt =>
    let s := if (n.part 2).isAbsent then s else { s with frames := .finishing n scope :: s.frames }
    s.push (.guarded n scope) (.eval (n.part 0) scope)
  | .block => runBlock d n scope s
  | .pass | .global => s.give (idle d)
  | .delete => s.push (.next (n.parts.map fun t => .mk .unary "del" n.line [ungroup t]) scope) (.give (idle d))
  | .load => s.push (.next (n.parts.map (.atLine n.line)) scope) (.give (idle d))
  | .member =>
    s.thenDo (d.load n.text) fun v s =>
      let plain := (n.part 0).text.isEmpty
      let top := (n.text.takeWhile (· ≠ '.')).toString
      if plain && top ≠ n.text then
        s.thenDo (d.load top) fun v s => assign d top scope v s
      else assign d (loadedName n) scope v s
  | .loadFrom =>
    s.thenDo (d.load n.text) fun v s =>
      n.parts.foldl (fun s m =>
        match s.control with
        | .leave _ => s
        | _ => s.thenDo (d.loadMember v n.text m.text) fun x s => assign d (loadedName m) scope x s)
        (s.give (idle d))
  | .within => s.push (.holding n scope (n.part 0) (n.parts.drop 1)) (.eval ((n.part 0).part 1) scope)
  | .choice => s.push (.choosing n scope) (.eval (n.part 0) scope)
  | .unary =>
    let target := ungroup (n.part 0)
    match n.text, target.kind with
    | "typeof", .name =>
      match find? s.world target.text scope with
      | some _ => s.push (.parts n scope [] []) (.eval target scope)
      | none =>
        match (d.missing target.text).run s.world with
        | .ok v world => { s with world }.push (.parts n scope [] []) (.give v)
        | .error _ _ => s.give (.str "undefined")
    | "del", .name =>
      match find? s.world target.text scope with
      | some place =>
        if (variableAt s.world place).value.isAbsent then lookUp d target.text scope s
        else { s with world := setAt s.world place .absent }.give (idle d)
      | none => lookUp d target.text scope s
    | "del", .tuple | "del", .list => s.eval (.mk .delete "" n.line target.parts) scope
    | "del", .attr | "delete", .attr => s.push (.parts n scope [] []) (.eval (target.part 0) scope)
    | "del", .index | "delete", .index =>
      s.push (.parts n scope [] [target.part 1]) (.eval (target.part 0) scope)
    | _, _ => s.push (.parts n scope [] []) (.eval (n.part 0) scope)
  | _ =>
    if isStrict n.kind then
      match partsOf n with
      | [] => s.perform (d.build n [])
      | p :: ps => beginPart n scope [] p ps s
    else s.fail d "SyntaxError" "invalid syntax"

/-! ## Binding -/

def entryPairs (d : Dialect) (v : Value) : List Node → List String → Work (List (Node × Value))
  | [], _ => return []
  | .mk .entry _ _ [k, p] :: ps, seen => do
    let name := match ungroup k with
      | .mk _ t _ _ => t
    let x ← d.getAttr v name
    return (p, x) :: (← entryPairs d v ps (name :: seen))
  | .mk .spread _ _ [p] :: _, seen => do
    let rest ← d.call "rest" v (seen.map .str) []
    return [(p, rest)]
  | _ :: ps, seen => entryPairs d v ps seen

/-- Pairs the targets of a list with values; a star takes what the others leave. -/
def listPairs (d : Dialect) (targets : List Node) (vs : List Value) :
    Work (Except String (List (Node × Value))) := do
  match targets.findIdx? fun t => t.kind = .spread with
  | some i =>
    let behind := targets.length - i - 1
    if !d.braced && vs.length < targets.length - 1 then
      return .error ("not enough values to unpack (expected at least " ++ toString (targets.length - 1)
        ++ ", got " ++ toString vs.length ++ ")")
    let stop := max i (vs.length - behind)
    let middle ← Work.newList ((vs.take stop).drop i)
    return .ok ((targets.take i).zip vs ++ [((targets.getD i .absent).part 0, middle)]
      ++ (targets.drop (i + 1)).zip (vs.drop stop))
  | none =>
    if d.braced then
      let padded := vs ++ List.replicate (targets.length - vs.length) .undefined
      return .ok (((targets.zip padded).filter fun (t, _) => !t.isAbsent))
    else if vs.length < targets.length then
      return .error ("not enough values to unpack (expected " ++ toString targets.length ++ ", got "
        ++ toString vs.length ++ ")")
    else if targets.length < vs.length then
      return .error ("too many values to unpack (expected " ++ toString targets.length ++ ")")
    else return .ok (targets.zip vs)

def bindList (d : Dialect) (targets : List Node) (vs : List Value) (giving : Giving) (scope : Nat)
    (s : State) : State :=
  s.thenDo (listPairs d targets vs) fun pairs s =>
    match pairs with
    | .ok pairs => s.push (.bindNext pairs giving scope) (.give (idle d))
    | .error e => s.fail d "ValueError" e

def bind (d : Dialect) (target : Node) (v : Value) (giving : Giving) (scope : Nat) (s : State) : State :=
  match target.kind with
  | .name =>
    match giving with
    | .assigned => assign d target.text scope v s
    | .declared word => introduce d word target.text scope v s
  | .group => s.goOn (.bind (target.part 0) v giving scope)
  | .declare => s.goOn (.bind ((target.part 0).part 0) v (.declared target.text) scope)
  | .param =>
    match v, (target.part 1).isAbsent with
    | .undefined, false =>
      s.push (.binding (target.part 0) giving scope) (.eval (nameFor (target.part 0) (target.part 1)) scope)
    | v, _ => s.goOn (.bind (target.part 0) v giving scope)
  | .attr => s.push (.target target v scope [] []) (.eval (target.part 0) scope)
  | .index => s.push (.target target v scope [] [target.part 1]) (.eval (target.part 0) scope)
  | .list | .tuple =>
    match v with
    | .ref id =>
      let t := s.world.heap.getD id default
      if t.shape = .list || t.shape = .tuple then bindList d target.parts t.items.toList giving scope s
      else s.again (.binding target giving scope) (d.source false v) fun source s =>
        s.push (.binding target giving scope) (.draw source [])
    | v => s.again (.binding target giving scope) (d.source false v) fun source s =>
        s.push (.binding target giving scope) (.draw source [])
  | .dict =>
    match v with
    | .undefined | .nothing => s.fail d "TypeError"
        ("Cannot destructure '" ++ (if v.same .nothing then "null" else "undefined") ++ "' as it is "
          ++ (if v.same .nothing then "null" else "undefined") ++ ".")
    | v => s.thenDo (entryPairs d v target.parts []) fun pairs s =>
        s.push (.bindNext pairs giving scope) (.give (idle d))
  | _ => s.give (idle d)

/-! ## Loops that go through things -/

def nextOf (w : World) : Source → Option (Value × Source)
  | .items (v :: vs) => some (v, .items vs)
  | .items [] => none
  | .list id k =>
    match (w.heap.getD id default).items[k]? with
    | some v => some (v, .list id (k + 1))
    | none => none
  | .range i step (n + 1) => some (.int i, .range (i + step) step n)
  | .range _ _ 0 => none
  | .generator _ => none

def rangeValues (i step : Int) (n : Nat) : List Value :=
  (List.range n).map fun (k : Nat) => .int (i + step * (k : Int))

def endEach (n : Node) (scope : Nat) (d : Dialect) (s : State) : State :=
  if (n.part 3).isAbsent then s.give (idle d) else s.eval (n.part 3) scope

def eachWith (d : Dialect) (n : Node) (scope : Nat) (label : String) (source : Source) (v : Value)
    (s : State) : State :=
  let target := n.part 0
  let (inner, world) := if d.braced && target.kind = .declare && target.text ≠ "var" then
      newScope s.world { extent := .block, parent := some scope }
    else (scope, s.world)
  let frames := .next [n.part 2] inner :: .eachBody n scope label source :: s.frames
  if n.text = "async" then
    { s with world, frames := .after "wait" [] :: .binding target .assigned inner :: frames, control := .give v }
  else { s with world, frames, control := .bind target v .assigned inner }

def stepEach (d : Dialect) (n : Node) (scope : Nat) (label : String) (source : Source) (s : State) :
    State :=
  match source with
  | .generator id => s.push (.eachValue n scope label source) (.resume id (idle d))
  | source =>
    match nextOf s.world source with
    | some (v, rest) => eachWith d n scope label rest v s
    | none => endEach n scope d s

def draw (d : Dialect) (source : Source) (acc : List Value) (s : State) : State :=
  match source with
  | .items vs => s.perform (Work.newList (acc.reverse ++ vs))
  | .list id k => s.perform (Work.newList (acc.reverse ++ (s.world.heap.getD id default).items.toList.drop k))
  | .range i step n => s.perform (Work.newList (acc.reverse ++ rangeValues i step n))
  | .generator id => s.push (.drawing source acc) (.resume id (idle d))

/-! ## Generators -/

def resume (id : Nat) (sent : Value) (s : State) : State :=
  let t := s.world.heap.getD id default
  if t.shape ≠ .generator then
    match t.items.toList with
    | v :: rest =>
      { s with world := { s.world with heap := s.world.heap.modify id fun t => { t with items := rest.toArray } } }.give v
    | [] => s.goOn (.exhausted .nothing)
  else if t.done then s.goOn (.exhausted .undefined)
  else
    { s with
      frames := t.saved ++ .generating id s.line :: s.frames
      control := .give sent
      depth := s.depth + 1
      world := { s.world with heap := s.world.heap.modify id fun t => { t with saved := [] } } }

/-- The frames above the end of the generator that runs, its number, and the frames below. -/
def splitGenerator : List Frame → List Frame → Option (List Frame × Nat × Nat × List Frame)
  | _, [] => none
  | acc, .generating id line :: fs => some (acc.reverse, id, line, fs)
  | acc, f :: fs => splitGenerator (f :: acc) fs

def splitAsync : List Frame → List Frame → Option (List Frame × Nat × Nat × List Frame)
  | _, [] => none
  | acc, .asynchronous id line :: fs => some (acc.reverse, id, line, fs)
  | acc, f :: fs => splitAsync (f :: acc) fs

def produce (d : Dialect) (v : Value) (s : State) : State :=
  match splitGenerator [] s.frames with
  | some (saved, id, line, below) =>
    { s with
      world := { s.world with heap := s.world.heap.modify id fun t => { t with saved } }
      frames := below, control := .give v, line, depth := s.depth - 1 }
  | none => s.fail d "SyntaxError" "'yield' outside function"

/-- Waits for a value: everything up to the end of the function is kept until it is there. -/
def wait (d : Dialect) (v : Value) (s : State) : State :=
  if d.braced then
    match splitAsync [] s.frames with
    | some (saved, id, line, below) =>
      s.thenDo (Work.new { shape := .generator, name := "async", saved, parent := .ref id }) fun c s =>
        match c with
        | .ref cid =>
          s.thenDo (d.await v cid) fun _ s =>
            { s with frames := below, control := .give (.ref id), line, depth := s.depth - 1 }
        | c => s.give c
    | none => s.give v
  else match v with
    | .ref id =>
      if (s.world.heap.getD id default).shape = .generator then
        s.push (.relaying (.generator id)) (.resume id .nothing)
      else s.give v
    | v => s.give v

/-! ## Changing places -/

def readPlace (d : Dialect) (p : Place) (s : State) : State :=
  match p with
  | .var name scope => lookUp d name scope s
  | .attr o name => s.perform (d.getAttr o name)
  | .index o k => s.perform (d.getIndex o k)

def writePlace (d : Dialect) (p : Place) (v : Value) (s : State) : State :=
  match p with
  | .var name scope => assign d name scope v s
  | .attr o name => performUnit d s (d.setAttr o name v)
  | .index o k => performUnit d s (d.setIndex o k v)

def change (d : Dialect) (n : Node) (scope : Nat) (p : Place) (old : Value) (s : State) : State :=
  match n.kind, n.text with
  | .step, text =>
    let op := if text = "++x" || text = "x++" then "++" else "--"
    s.thenDo (d.unary op old) fun new s =>
      s.thenDo (d.unary "number" old) fun before s =>
        let result := if text.startsWith "x" then before else new
        writePlace d p new { s with frames := .giving result :: s.frames }
  | _, "&&=" =>
    s.thenDo (d.truthy old) fun t s =>
      if t then s.push (.putting p .absent) (.eval (n.part 1) scope) else s.give old
  | _, "||=" =>
    s.thenDo (d.truthy old) fun t s =>
      if t then s.give old else s.push (.putting p .absent) (.eval (n.part 1) scope)
  | _, "??=" =>
    match old with
    | .undefined | .nothing => s.push (.putting p .absent) (.eval (n.part 1) scope)
    | old => s.give old
  | _, _ => s.push (.combining n scope p old) (.eval (n.part 1) scope)

/-! ## When all parts are there -/

def finish (d : Dialect) (n : Node) (scope : Nat) (values : List Value) (s : State) : State :=
  let s := if n.line = 0 then s else { s with line := n.line }
  match n.kind, values with
  | .attr, [o] =>
    if d.braced && (n.part 0).kind = .name && (n.part 0).text = "super" then
      s.perform (d.call "superMember" o [.str n.text] [])
    else s.perform (d.getAttr o n.text)
  | .tryAttr, [o] =>
    match o with
    | .undefined | .nothing => s.leave .link
    | o => s.perform (d.getAttr o n.text)
  | .index, [o, k] => s.perform (d.getIndex o k)
  | .tryIndex, [o, k] =>
    match o with
    | .undefined | .nothing => s.leave .link
    | o => s.perform (d.getIndex o k)
  | .unary, [v] =>
    if n.text = "del" || n.text = "delete" then
      if (ungroup (n.part 0)).kind = .attr then s.perform (d.dropAttr v (ungroup (n.part 0)).text)
      else s.give (.truth true)
    else s.perform (d.unary n.text v)
  | .unary, [o, k] => s.perform (d.dropIndex o k)
  | .binary, [a, b] => s.perform (d.binary n.text a b)
  | .func, vs => makeFunction d n scope vs s
  | .produce, [v] => produce d v s
  | .produceAll, [v] =>
    s.again (.parts n scope [] []) (d.source false v) fun source s =>
      match source with
      | .generator id => s.push (.relaying source) (.resume id (idle d))
      | source => s.push (.relaying source) (.give (idle d))
  | .wait, [v] => wait d v s
  | .classOf, parent :: fs =>
    if !d.braced then
      let frames := .decorating (parent :: fs).reverse :: .binding (.name n.text) .assigned scope :: s.frames
      { s with frames }.push (.callee n scope .absent) (.give (.native "class"))
    else
    let (inner, world) := newScope s.world { extent := .block, parent := some scope }
    { s with world }.thenDo (d.call "class" .absent [parent, .str n.text] []) fun c s =>
      match c with
      | .ref id =>
        let s := { s with world := define s.world inner n.text c false }
        let s := { s with frames := .giving c :: s.frames }
        let s := match find? s.world n.text scope with
          | some place =>
            if !n.text.isEmpty && place.1 = scope && (variableAt s.world place).value.isAbsent then
              { s with world := setAt s.world place c } else s
          | none => s
        s.push (.classMembers id none (n.parts.drop 1) inner) (.give .undefined)
      | c => s.give c
  | _, vs => s.perform (d.build n vs)

def nextPart (d : Dialect) (n : Node) (scope : Nat) (done : List Value) (rest : List Node) (s : State) :
    State :=
  match rest with
  | [] => finish d n scope done.reverse s
  | p :: ps => beginPart n scope done p ps s

/-! ## Calls -/

def calleeText : Node → String
  | .mk .name t _ _ => t
  | .mk .attr t _ [n] | .mk .tryAttr t _ [n] => calleeText n ++ "." ++ t
  | .mk .index _ _ [n, _] | .mk .tryIndex _ _ [n, _] => calleeText n ++ "[...]"
  | .mk .call _ _ (n :: _) => calleeText n ++ "(...)"
  | .mk .group _ _ [n] => calleeText n
  | _ => "(intermediate value)"

def isCallable (w : World) (f : Value) : Bool :=
  match f with
  | .native _ | .bound .. => true
  | .ref id =>
    let shape := (w.heap.getD id default).shape
    shape = .func || shape = .classOf
  | _ => false

def finishCall (d : Dialect) (c : Calling) (scope : Nat) (s : State) : State :=
  let all := c.done.reverse
  let args := (all.filter (·.1.isEmpty)).map (·.2)
  let named := all.filter fun (n, _) => !n.isEmpty
  let s := { s with line := if c.node.line = 0 then s.line else c.node.line }
  if d.braced && !isCallable s.world c.f && c.node.kind ≠ .classOf && calleeText (c.node.part 0) ≠ "super" then
    s.fail d "TypeError" (calleeText (c.node.part 0)
      ++ (if c.node.kind = .make then " is not a constructor" else " is not a function"))
  else match c.node.kind with
  | .make => makeNew d c.f args s
  | .classOf =>
    let (inner, world) := newScope s.world { extent := .classBody, parent := some scope }
    { s with world }.push (.classBody c.node inner all scope) (.eval (c.node.part 1) inner)
  | _ =>
    let callee := c.node.part 0
    if d.braced && callee.kind = .name && callee.text = "super" then
      match find? s.world "super" scope, find? s.world "this" scope with
      | some a, some b =>
        let this := (variableAt s.world b).value
        match (variableAt s.world a).value with
        | .ref id =>
          let t := s.world.heap.getD id default
          { s with frames := .fields this t.entries.toList :: s.frames }.goOn
            (.call (.bound "super" t.parent) this args [])
        | _ => s.fail d "SyntaxError" "'super' keyword unexpected here"
      | _, _ => s.fail d "SyntaxError" "'super' keyword unexpected here"
    else if !d.braced && callee.kind = .name && callee.text = "super" && args.isEmpty then
      match find? s.world "__class__" scope with
      | some place =>
        let self := ((scopeAt s.world place.1).vars.getD 0 default).value
        s.goOn (.call c.f c.this [(variableAt s.world place).value, self] named)
      | none => s.goOn (.call c.f c.this args named)
    else s.goOn (.call c.f c.this args named)

def nextArgument (d : Dialect) (c : Calling) (scope : Nat) (rest : List Node) (s : State) : State :=
  match rest with
  | [] => finishCall d c scope s
  | p :: ps =>
    match p.kind with
    | .spread => s.push (.spreadingArguments c scope ps) (.eval (p.part 0) scope)
    | .named => s.push (.arguments c scope ps) (.eval (p.part 0) scope)
    | .spreadNamed => s.push (.arguments c scope ps) (.eval (p.part 0) scope)
    | _ => s.push (.arguments c scope ps) (.eval p scope)

/-- The argument that has just been worked out: its position is told by what is still to come. -/
def addArgument (d : Dialect) (c : Calling) (rest : List Node) (v : Value) : Work Calling := do
  let all := if c.node.kind = .classOf then (c.node.part 0).parts else c.node.parts.drop 1
  match all[all.length - rest.length - 1]? with
  | some p =>
    match p.kind with
    | .named => return { c with done := (p.text, v) :: c.done }
    | .spreadNamed =>
      match ← Work.thing? v with
      | some t =>
        let pairs := t.entries.toList.filterMap fun e =>
          match e.key with
          | .str k => some (k, e.value)
          | _ => none
        return { c with done := pairs.reverse ++ c.done }
      | none =>
        let _ ← d.failure "TypeError" "argument after ** must be a mapping"
        return c
    | _ => return { c with done := ("", v) :: c.done }
  | none => return c

def startArguments (d : Dialect) (f this : Value) (n : Node) (scope : Nat) (s : State) : State :=
  match n.kind, f with
  | .tryCall, .undefined | .tryCall, .nothing => s.leave .link
  | .classOf, _ => nextArgument d ⟨f, this, n, []⟩ scope (n.part 0).parts s
  | _, _ => nextArgument d ⟨f, this, n, []⟩ scope (n.parts.drop 1) s

end ScriptHost.Snippet.State
