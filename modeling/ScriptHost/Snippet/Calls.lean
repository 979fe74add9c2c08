import ScriptHost.Snippet.State

/-!
Functions and classes of scripts: how arguments get to parameters, what a call leaves on the stack,
and how new objects come to be.
-/
namespace ScriptHost.Snippet

/-! ## Parameters with names -/

/-- The parameters of a function by kind. -/
structure Signature where
  positional : List String := []
  positionalOnly : Nat := 0
  rest : Option String := none
  named : List String := []
  others : Option String := none
  defaults : List (String × Value) := []

def Signature.ofParams : List Node → List Value → Bool → Signature → Signature
  | [], _, _, sig => sig
  | p :: ps, ds, named, sig =>
    let name := (p.part 0).text
    match p.text with
    | "*" =>
      Signature.ofParams ps ds true { sig with rest := if (p.part 0).isAbsent then none else some name }
    | "**" => Signature.ofParams ps ds named { sig with others := some name }
    | "/" => Signature.ofParams ps ds named { sig with positionalOnly := sig.positional.length }
    | _ =>
      let (default, ds) := if (p.part 1).isAbsent then ([], ds)
        else ([(name, ds.headD .nothing)], ds.drop 1)
      let sig := { sig with defaults := sig.defaults ++ default }
      Signature.ofParams ps ds named
        (if named then { sig with named := sig.named ++ [name] }
        else { sig with positional := sig.positional ++ [name] })

def enumerated : List String → String
  | [] => ""
  | [a] => "'" ++ a ++ "'"
  | [a, b] => "'" ++ a ++ "' and '" ++ b ++ "'"
  | names =>
    ", ".intercalate (names.dropLast.map fun a => "'" ++ a ++ "'")
      ++ ", and '" ++ names.getLastD "" ++ "'"

def plural (n : Nat) (word : String) : String := if n = 1 then word else word ++ "s"

namespace Signature

def tooMany (sig : Signature) (f : String) (given : Nat) : String :=
  let most := sig.positional.length
  let withDefault := (sig.positional.filter fun p => sig.defaults.any (·.1 == p)).length
  let takes := if withDefault = 0 then toString most ++ " positional " ++ plural most "argument"
    else "from " ++ toString (most - withDefault) ++ " to " ++ toString most ++ " positional "
      ++ plural most "argument"
  f ++ "() takes " ++ takes ++ " but " ++ toString given ++ (if given = 1 then " was" else " were")
    ++ " given"

/-- The values of the parameters, and the surplus arguments; or the reason why the arguments do not
fit. -/
def fit (sig : Signature) (f : String) (args : List Value) (given : List (String × Value)) :
    Except String (List (String × Value) × List Value × List (String × Value)) := do
  let byPosition := sig.positional.zip args
  let surplus := args.drop sig.positional.length
  if !surplus.isEmpty && sig.rest.isNone then throw (sig.tooMany f args.length)
  let open' := sig.positional.drop sig.positionalOnly ++ sig.named
  let (known, unknown) := given.partition fun (n, _) => open'.contains n
  match known.find? fun (n, _) => byPosition.any (·.1 == n) with
  | some (n, _) => throw (f ++ "() got multiple values for argument '" ++ n ++ "'")
  | none => pure ()
  match unknown, sig.others with
  | (n, _) :: _, none => throw (f ++ "() got an unexpected keyword argument '" ++ n ++ "'")
  | _, _ => pure ()
  let bound := byPosition ++ known
  let filled := sig.defaults.filter fun (n, _) => !bound.any (·.1 == n)
  let all := bound ++ filled
  let missing (names : List String) := names.filter fun n => !all.any (·.1 == n)
  let complain (names : List String) (kind : String) : Except String Unit :=
    if names.isEmpty then .ok ()
    else throw (f ++ "() missing " ++ toString names.length ++ " required " ++ kind ++ " "
      ++ plural names.length "argument" ++ ": " ++ enumerated names)
  complain (missing sig.positional) "positional"
  complain (missing sig.named) "keyword-only"
  return (all, surplus, unknown)

end Signature

namespace State

/-! ## Making functions -/

/-- The scope in which the functions of a class body look for names. -/
def homeScope (w : World) (scope : Nat) : Nat :=
  let s := scopeAt w scope
  if s.extent = .classBody then s.parent.getD 0 else scope

def isArguments (n : Node) : Bool := n.kind = .name && n.text = "arguments"

def codeOf (d : Dialect) (w : World) (n : Node) (scope : Nat) (defaults : List Value) : Code :=
  let params := (n.part 0).parts
  let body := n.part 1
  let manner := (n.part 2).text.splitOn " " |>.filter (!·.isEmpty)
  if d.braced then
    let manner := if body.any isArguments || Node.anyAmong isArguments params then "counted" :: manner
      else manner
    { name := n.text, params, body, manner, scope, defaults
      own := spreadNames body }
  else
    let manner := if producesValues body then "generator" :: manner else manner
    let outermost := outerNames "global" body
    let outside := outermost ++ outerNames "nonlocal" body
    { name := n.text, params, body, manner, scope := homeScope w scope, defaults, outermost
      own := (assignedNames body).filter fun x => !outside.contains x }

def newFunction (c : Code) : Work Value := Work.new { shape := .func, name := c.name, code := some c }

/-! ## Entering functions -/

def blockVars (stats : List Node) : List Variable :=
  (blockNames stats).map fun (n, fixed) => ⟨n, .absent, fixed⟩

/-- Makes the functions of a block before anything of it is done. -/
def hoist (d : Dialect) (stats : List Node) (scope : Nat) (s : State) : State :=
  (blockFunctions stats).foldl (fun s n =>
    match (newFunction (codeOf d s.world n scope [])).run s.world with
    | .ok v w => { s with world := define w scope n.text v false }
    | .error _ w => { s with world := w }) s

def bodyStats (n : Node) : List Node := if n.kind = .block then n.parts else [n]

def addVars (vars : Array Variable) (more : List Variable) : Array Variable :=
  more.foldl (fun vs x => if vs.any fun y => y.name == x.name then vs else vs.push x) vars

def pairUp : List Node → List Value → List (Node × Value) × List Value
  | [], _ => ([], [])
  | p :: ps, args =>
    if p.text = "*" then ([], args)
    else
      let target := if (p.part 1).isAbsent then p.part 0 else .mk .param "" p.line [p.part 0, p.part 1]
      let (rest, surplus) := pairUp ps (args.drop 1)
      ((target, args.headD .undefined) :: rest, surplus)

def plainParams (ps : List Node) : Bool :=
  ps.all fun p => p.text.isEmpty && (p.part 0).kind = .name && (p.part 1).isAbsent

/-- The scope of a call that gives its arguments by position, and what is still to be bound. -/
def openPositional (c : Code) (this : Value) (args : List Value) (s : State) :
    Nat × List (Node × Value) × State :=
  let around := if c.is "arrow" then #[]
    else #[⟨"this", this, true⟩, ⟨"super", c.home, true⟩]
  let names := (boundAmong c.params).map fun n => (⟨n, .undefined, false⟩ : Variable)
  let own := c.own.map fun n => (⟨n, .undefined, false⟩ : Variable)
  let vars := addVars (addVars (addVars around names) (blockVars (bodyStats c.body))) own
  if plainParams c.params then
    let given := (c.params.map fun p => (p.part 0).text).zip args
    let vars := vars.map fun x =>
      match given.find? (·.1 == x.name) with
      | some (_, v) => { x with value := v }
      | none => x
    let (scope, world) := newScope s.world { extent := .function, vars, parent := some c.scope }
    (scope, [], { s with world })
  else
    let (scope, world) := newScope s.world { extent := .function, vars, parent := some c.scope }
    let (pairs, surplus) := pairUp c.params args
    let (pairs, world) := match c.params.getLast? with
      | some p =>
        if p.text = "*" then
          match (Work.newList surplus).run world with
          | .ok v w => (pairs ++ [(p.part 0, v)], w)
          | .error _ w => (pairs, w)
        else (pairs, world)
      | none => (pairs, world)
    (scope, pairs, { s with world })

def noteArguments (c : Code) (args : List Value) (scope : Nat) (s : State) : State :=
  if c.is "counted" && !c.is "arrow" then
    match (Work.newList args).run s.world with
    | .ok v w => { s with world := define w scope "arguments" v false }
    | .error _ w => { s with world := w }
  else s

def dictOf (named : List (String × Value)) : Work Value :=
  Work.new { shape := .dict
             entries := (named.map fun (n, v) => (⟨"s" ++ n, .str n, v⟩ : Entry)).toArray }

def surplusVars (sig : Signature) (surplus : List Value) (others : List (String × Value)) :
    Work (List Variable) := do
  let rest ← match sig.rest with
    | some n => do pure [(⟨n, ← Work.newTuple surplus, false⟩ : Variable)]
    | none => pure []
  let more ← match sig.others with
    | some n => do pure [(⟨n, ← dictOf others, false⟩ : Variable)]
    | none => pure []
  return rest ++ more

def openNamed (c : Code) (sig : Signature) (bound : List (String × Value)) (surplus : List Value)
    (others : List (String × Value)) : Work Nat := do
  let params := bound.map fun (n, v) => (⟨n, v, false⟩ : Variable)
  let inOrder := sig.positional.filterMap fun n => params.find? (·.name == n)
  let extra ← surplusVars sig surplus others
  let own := c.own.map fun n => (⟨n, .absent, false⟩ : Variable)
  let home := if c.home.isAbsent then [] else [(⟨"__class__", c.home, true⟩ : Variable)]
  let vars := addVars (addVars inOrder.toArray (params ++ extra)) (own ++ home)
  modifyGet fun w => newScope w
    { extent := .function, vars, parent := some c.scope, outermost := c.outermost }

def bodyWork (c : Code) (pairs : List (Node × Value)) (scope : Nat) : List Frame :=
  let body := [Frame.next (bodyStats c.body) scope]
  if pairs.isEmpty then body else .bindNext pairs (.declared "let") scope :: body

def startBody (c : Code) (pairs : List (Node × Value)) (scope : Nat) (s : State) : State :=
  if c.is "generator" then
    s.perform (Work.new { shape := .generator, name := c.name, saved := bodyWork c pairs scope })
  else
    { s with
      frames := bodyWork c pairs scope ++ .boundary s.line c.name c.hidden :: s.frames
      control := .give .undefined
      depth := s.depth + 1 }

/-- A call that gives a promise: its body runs until it waits for the first time. -/
def startAsync (c : Code) (pairs : List (Node × Value)) (scope : Nat) (s : State) : State :=
  s.thenDo (Work.new { shape := .promise, name := "pending" }) fun p s =>
    match p with
    | .ref id =>
      { s with
        frames := bodyWork c pairs scope ++ .asynchronous id s.line :: s.frames
        control := .give .undefined
        depth := s.depth + 1 }
    | p => s.give p

def enter (d : Dialect) (c : Code) (this : Value) (args : List Value) (named : List (String × Value))
    (s : State) : State :=
  if d.callLimit ≤ s.depth then s.fail d d.limitReached.1 d.limitReached.2
  else if d.braced then
    let (scope, pairs, s) := openPositional c this args s
    let s := noteArguments c args scope s
    let s := hoist d (bodyStats c.body) scope s
    if c.is "async" && !c.is "generator" then startAsync c pairs scope s
    else startBody c pairs scope s
  else
    let args := match this with
      | .absent => args
      | this => this :: args
    let sig := Signature.ofParams c.params c.defaults false {}
    match sig.fit c.name args named with
    | .error message => s.fail d "TypeError" message
    | .ok (bound, surplus, others) =>
      let c := if c.is "async" then { c with manner := "generator" :: c.manner } else c
      s.thenDo (openNamed c sig bound surplus others) fun scope s => startBody c [] scope s

/-! ## Objects -/

def prototypeOf (id : Nat) : Work Value := do
  match (← Work.thing id).member? "prototype" with
  | some v => return v
  | none =>
    let t ← Work.thing id
    let p ← Work.new { shape := .object, members := #[⟨"constructor", .absent, .ref id⟩] }
    Work.setThing id (t.putMember "prototype" p)
    return p

def rootFrom : Nat → Value → Work (Option String)
  | 0, _ => return none
  | fuel + 1, v => do
    match v with
    | .native n => return some n
    | .ref id => rootFrom fuel (← Work.thing id).parent
    | _ => return none

def blank (d : Dialect) (id : Nat) : Work Value := do
  let p ← prototypeOf id
  let root ← rootFrom ((← get).heap.size) (← Work.thing id).parent
  match root with
  | some n =>
    let v ← d.call "blank" .absent [.str n] []
    match v with
    | .ref o =>
      Work.modifyThing o fun t => { t with parent := p }
      return v
    | v => return v
  | none => Work.new { shape := .object, parent := p }

/-- Runs the maker of a class for an object, that of its parent first when it has none of its own. -/
def runMaker (d : Dialect) (class' object : Value) (args : List Value) (s : State) : State :=
  match class' with
  | .ref id =>
    let t := s.world.heap.getD id default
    let fieldFrame := Frame.fields object t.entries.toList
    match t.code with
    | some c =>
      let s := { s with frames := .giving .undefined :: s.frames }
      if t.parent.isAbsent then
        { s with frames := fieldFrame :: .calling (.ref id) object args :: s.frames
                 control := .give .undefined }
      else enter d { c with home := .ref id } object args [] s
    | none =>
      if t.parent.isAbsent then { s with frames := fieldFrame :: s.frames, control := .give .undefined }
      else
        { s with frames := fieldFrame :: s.frames
                 control := .call (.bound "super" t.parent) object args [] }
  | .native n => s.thenDo (d.call "initialize" object (.str n :: args) []) fun _ s => s.give .undefined
  | _ => s.give .undefined

def makeNew (d : Dialect) (f : Value) (args : List Value) (s : State) : State :=
  match f with
  | .native n => s.perform (d.construct n args)
  | .ref id =>
    let t := s.world.heap.getD id default
    match t.shape, t.code with
    | .classOf, _ =>
      s.thenDo (blank d id) fun o s => runMaker d f o args { s with frames := .making o :: s.frames }
    | .func, some c =>
      if c.is "arrow" || c.is "method" || c.is "async" || c.is "generator" then
        s.fail d "TypeError" (c.name ++ " is not a constructor")
      else
        s.thenDo (prototypeOf id) fun p s =>
          s.thenDo (Work.new { shape := .object, parent := p }) fun o s =>
            enter d c o args [] { s with frames := .making o :: s.frames }
    | _, _ => s.fail d "TypeError" "value is not a constructor"
  | _ => s.fail d "TypeError" "value is not a constructor"

def makeInstance (d : Dialect) (f : Value) (args : List Value) (named : List (String × Value))
    (s : State) : State :=
  s.thenDo (Work.new { shape := .instanceOf, parent := f, items := args.toArray }) fun o s =>
    s.thenDo (d.call "initializer" o [] []) fun init s =>
      match init with
      | .absent =>
        if args.isEmpty && named.isEmpty then s.give o
        else s.perform (d.call "initialize" o args named)
      | init => { s with frames := .giving o :: s.frames, control := .call init .absent args named }

def callValue (d : Dialect) (f this : Value) (args : List Value) (named : List (String × Value))
    (s : State) : State :=
  match f with
  | .native n => s.perform (d.call n this args named)
  | .bound "super" parent =>
    match parent with
    | .native n =>
      s.thenDo (d.call "initialize" this (.str n :: args) named) fun _ s => s.give .undefined
    | parent => runMaker d parent this args s
  | .bound n self => s.perform (d.call n self args named)
  | .ref id =>
    let t := s.world.heap.getD id default
    match t.shape, t.code with
    | .func, some c => enter d c (if d.braced then this else t.parent) args named s
    | .classOf, code =>
      if d.braced then
        match this, code with
        | .ref _, some c => enter d { c with home := .ref id } this args named s
        | _, _ => s.fail d "TypeError"
            ("Class constructor " ++ t.name ++ " cannot be invoked without 'new'")
      else makeInstance d f args named s
    | _, _ => s.perform (d.callOther f this args named)
  | _ => s.perform (d.callOther f this args named)

end State

end ScriptHost.Snippet
