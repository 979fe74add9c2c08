import ScriptHost.Snippet.Machine

/-!
One step of a running script: a value goes to the frame that waits for it, a failure or a jump looks
for a frame that answers to it, and when nothing is left to do, what has been put off comes next.
-/
namespace ScriptHost.Snippet.State

def nextComparison (left : Value) (rest : List Node) (scope : Nat) (s : State) : State :=
  match rest with
  | [] => s.give left
  | c :: cs => s.push (.compared scope left c.text cs) (.eval (c.part 0) scope)

def functionName : List Frame → String
  | [] => "<module>"
  | .boundary _ name _ :: _ => name
  | _ :: fs => functionName fs

def notePlace (e : Value) (s : State) : State :=
  match e with
  | .ref id =>
    let place := (s.line, functionName s.frames)
    { s with world := { s.world with heap := s.world.heap.modify id fun t =>
      { t with handled := t.handled.orElse fun _ => some place } } }
  | _ => s

def forgetPlace (e : Value) (s : State) : State :=
  match e with
  | .ref id => { s with world := { s.world with heap := s.world.heap.modify id fun t => { t with handled := none } } }
  | _ => s

def runHandler (d : Dialect) (n h : Node) (scope : Nat) (failure : Value) (s : State) : State :=
  let name := (h.part 1).text
  if d.braced then
    let (inner, world) := newScope s.world { extent := .block, parent := some scope }
    let s := { s with world }
    if (h.part 1).isAbsent then s.push (.handling n scope failure "") (.eval (h.part 2) inner)
    else
      { s with frames := .next [h.part 2] inner :: .handling n scope failure "" :: s.frames }.goOn
        (.bind (h.part 1) failure (.declared "let") inner)
  else
    let s := s.push (.handling n scope failure name) (.give .nothing)
    if name.isEmpty then s.eval (h.part 2) scope
    else { s with frames := .next [h.part 2] scope :: s.frames }.goOn
      (.bind (h.part 1) failure .assigned scope)

/-- Looks for a handler that takes a failure. -/
def handle (d : Dialect) (n : Node) (handlers : List Node) (scope : Nat) (failure : Value) (s : State) :
    State :=
  match handlers with
  | [] => (forgetPlace failure s).leave (.failure failure)
  | h :: hs =>
    let s := notePlace failure s
    if (h.part 0).isAbsent then runHandler d n h scope failure s
    else s.push (.matching n scope failure (h :: hs)) (.eval (h.part 0) scope)

def forget (name : String) (scope : Nat) (s : State) : State :=
  if name.isEmpty then s
  else match find? s.world name scope with
    | some place => { s with world := setAt s.world place .absent }
    | none => s

def atHand? (w : World) : Source → Option (List Value)
  | .items vs => some vs
  | .list id k => some ((w.heap.getD id default).items.toList.drop k)
  | .range i step n => some (rangeValues i step n)
  | .generator _ => none

def spread (d : Dialect) (v : Value) (f : Frame) (s : State) (k : List Value → State → State) : State :=
  s.again f (d.source false v) fun source s =>
    match atHand? s.world source with
    | some vs => k vs s
    | none => s.push f (.draw source [])

/-! ## Choices -/

def caseStats (cases : List Node) : List Node := cases.flatMap fun c => (c.part 1).parts

def nextCase (d : Dialect) (value : Value) (all rest : List Node) (scope : Nat) (s : State) : State :=
  match rest with
  | [] =>
    match all.dropWhile fun c => !(c.part 0).isAbsent with
    | [] => s.give (idle d)
    | from' => { s with frames := .next (caseStats from') scope :: .caseBody :: s.frames }.give (idle d)
  | c :: cs =>
    if (c.part 0).isAbsent then nextCase d value all cs scope s
    else s.push (.caseTest value all (c :: cs) scope) (.eval (c.part 0) scope)

def dottedValue (d : Dialect) (scope : Nat) : Node → Work Value
  | .mk .attr t _ [n] => do d.getAttr (← dottedValue d scope n) t
  | .mk _ t _ _ => do
    let w ← get
    match find? w t scope with
    | some place => return (variableAt w place).value
    | none => d.missing t

def patternValue (d : Dialect) (scope : Nat) (n : Node) : Work Value :=
  match n.kind with
  | .nothing => return .nothing
  | .truth => return .truth (n.text = "true")
  | .str => return .str n.text
  | .unary => do d.unary "-" (← d.literal (n.part 0))
  | .name | .attr => dottedValue d scope n
  | _ => d.literal n

def isConstant (n : Node) : Bool := n.kind = .nothing || n.kind = .truth

def innerOf : Node → Node
  | .mk .case "value" _ [n] => n
  | n => n

mutual

def fitPattern (d : Dialect) (scope : Nat) (v : Value) : Node → Work (Option (List (String × Value)))
  | .mk .case "any" _ _ => return some []
  | .mk .case "capture" _ [n] => return some [(n.text, v)]
  | .mk .case "value" _ [n] => do
    let x ← patternValue d scope n
    if isConstant n then return if v.same x then some [] else none
    return if ← d.truthy (← d.binary "==" v x) then some [] else none
  | .mk .case "or" _ ps => fitAny d scope v ps
  | .mk .case "as" _ [p, n] => do
    match ← fitPattern d scope v p with
    | some bs => return some ((n.text, v) :: bs)
    | none => return none
  | .mk .case "sequence" _ ps => do
    match ← Work.thing? v with
    | some t =>
      if t.shape ≠ .list && t.shape ≠ .tuple then return none
      fitAll d scope t.items.toList ps
    | none => return none
  | .mk .case "mapping" _ es => do
    match ← Work.shape? v with
    | some .dict => fitEntries d scope v es
    | _ => return none
  | .mk .case "class" _ (c :: items) => do
    let kind ← dottedValue d scope c
    if ← d.isKind v kind then fitMembers d scope v items else return none
  | _ => return none

def fitAny (d : Dialect) (scope : Nat) (v : Value) : List Node → Work (Option (List (String × Value)))
  | [] => return none
  | p :: ps => do
    match ← fitPattern d scope v p with
    | some bs => return some bs
    | none => fitAny d scope v ps

def fitAll (d : Dialect) (scope : Nat) (vs : List Value) :
    List Node → Work (Option (List (String × Value)))
  | [] => return if vs.isEmpty then some [] else none
  | .mk .case "rest" _ [n] :: ps => do
    let stop := vs.length - ps.length
    if vs.length < ps.length then return none
    match ← fitAll d scope (vs.drop stop) ps with
    | some bs => return some ((n.text, ← Work.newList (vs.take stop)) :: bs)
    | none => return none
  | p :: ps => do
    match vs with
    | [] => return none
    | v :: vs =>
      match ← fitPattern d scope v p with
      | none => return none
      | some bs =>
        match ← fitAll d scope vs ps with
        | some cs => return some (bs ++ cs)
        | none => return none

def fitEntries (d : Dialect) (scope : Nat) (v : Value) :
    List Node → Work (Option (List (String × Value)))
  | [] => return some []
  | .mk .case "others" _ [n] :: _ => return some [(n.text, v)]
  | .mk .entry _ _ [k, p] :: es => do
    let key ← patternValue d scope (innerOf k)
    let there ← d.truthy (← d.binary "in" key v)
    if !there then return none
    match ← fitPattern d scope (← d.getIndex v key) p with
    | none => return none
    | some bs =>
      match ← fitEntries d scope v es with
      | some cs => return some (bs ++ cs)
      | none => return none
  | _ :: es => fitEntries d scope v es

def fitMembers (d : Dialect) (scope : Nat) (v : Value) :
    List Node → Work (Option (List (String × Value)))
  | [] => return some []
  | .mk .named n _ [q] :: ps => do
    match ← fitPattern d scope (← d.getAttr v n) q with
    | none => return none
    | some bs =>
      match ← fitMembers d scope v ps with
      | some cs => return some (bs ++ cs)
      | none => return none
  | p :: ps => do
    match ← fitPattern d scope v p with
    | none => return none
    | some bs =>
      match ← fitMembers d scope v ps with
      | some cs => return some (bs ++ cs)
      | none => return none

end

def nextPattern (d : Dialect) (value : Value) (rest : List Node) (scope : Nat) (s : State) : State :=
  match rest with
  | [] => s.give (idle d)
  | c :: cs =>
    s.thenDo (fitPattern d scope value (c.part 0)) fun bound s =>
      match bound with
      | none => nextPattern d value cs scope s
      | some bs =>
        let s := bs.reverse.foldl (fun s (n, v) => assign d n scope v s) s
        if (c.part 1).isAbsent then s.eval (c.part 2) scope
        else s.push (.caseGuard value (c :: cs) scope) (.eval (c.part 1) scope)

/-! ## Classes with members -/

def addMember (d : Dialect) (id : Nat) (m : Node) (key : String) (scope : Nat) (s : State) : State :=
  let onClass := m.text.startsWith "static"
  s.thenDo (prototypeOf id) fun proto s =>
    let target := if onClass then Value.ref id else proto
    let what := if onClass then (m.text.drop 7).toString else m.text
    if what = "field" || what = "block" then
      let body := if what = "block" then m.part 1 else .mk .leave "" m.line [nameFor (.name key) (m.part 1)]
      let body := if (m.part 1).isAbsent then .mk .leave "" m.line [.mk .undefined "" 0 []] else body
      let code : Code :=
        { name := key, params := [], body, manner := ["method"], scope, home := target, own := spreadNames body }
      s.thenDo (newFunction code) fun f s =>
        if what = "block" then s.goOn (.call f target [] [])
        else if onClass then s.push (.field target key) (.call f target [] [])
        else
          { s with world := { s.world with heap := s.world.heap.modify id fun t =>
            { t with entries := t.entries.push ⟨key, .str key, f⟩ } } }.give .undefined
    else
      let code := { codeOf d s.world (m.part 1) scope [] with name := key, home := target }
      if what = "constructor" then
        { s with world := { s.world with heap := s.world.heap.modify id fun t =>
          { t with code := some { code with name := t.name } } } }.give .undefined
      else
        s.thenDo (newFunction code) fun f s =>
          s.thenDo (d.call "define" target [.str key, .str what, f] []) fun _ s => s.give .undefined

def nextMember (d : Dialect) (id : Nat) (rest : List Node) (scope : Nat) (s : State) : State :=
  match rest with
  | [] => s.give .undefined
  | m :: ms =>
    let key := m.part 0
    match key.kind with
    | .group => s.push (.classMembers id (some m) ms scope) (.eval (key.part 0) scope)
    | .float =>
      s.push (.classMembers id (some m) ms scope) (.eval key scope)
    | _ => addMember d id m key.text scope { s with frames := .classMembers id none ms scope :: s.frames }

/-! ## Values that arrive -/

def exitHeld (d : Dialect) (manager : Value) (how : Leaving) (s : State) : State :=
  let failure := match how with
    | .failure e => e
    | _ => .nothing
  { s with frames := .exiting how :: s.frames }.perform (d.call "exit" manager [failure] [])

def markDone (id : Nat) (w : World) : World :=
  { w with heap := w.heap.modify id fun t => { t with done := true, saved := [] } }

def nextRound (d : Dialect) (scope : Nat) (s : State) : Nat × State :=
  let here := scopeAt s.world scope
  if d.braced && here.extent = .block && !here.vars.isEmpty then
    let (inner, world) := newScope s.world here
    (inner, { s with world })
  else (scope, s)

def giveLoop (d : Dialect) (phase : Phase) (n : Node) (scope : Nat) (label : String) (v : Value)
    (s : State) : State :=
  let test (scope : Nat) (s : State) : State :=
    match n.kind with
    | .loop => s.push (.looping .test n scope label) (.eval (n.part 0) scope)
    | .doLoop => s.push (.looping .test n scope label) (.eval (n.part 1) scope)
    | _ =>
      if (n.part 1).isAbsent then s.push (.looping .body n scope label) (.eval (n.part 3) scope)
      else s.push (.looping .test n scope label) (.eval (n.part 1) scope)
  match phase with
  | .start => test scope s
  | .test =>
    s.again (.looping .test n scope label) (d.truthy v) fun t s =>
      match n.kind, t with
      | .loop, true => s.push (.looping .body n scope label) (.eval (n.part 1) scope)
      | .loop, false => if (n.part 2).isAbsent then s.give (idle d) else s.eval (n.part 2) scope
      | .doLoop, true => s.push (.looping .body n scope label) (.eval (n.part 0) scope)
      | _, true => s.push (.looping .body n scope label) (.eval (n.part 3) scope)
      | _, false => s.give (idle d)
  | .body =>
    if n.kind = .count then
      let (scope, s) := nextRound d scope s
      if (n.part 2).isAbsent then test scope s
      else s.push (.looping .step n scope label) (.eval (n.part 2) scope)
    else test scope s
  | .step => test scope s

def giveChoice (d : Dialect) (n : Node) (scope : Nat) (v : Value) (s : State) : State :=
  if n.kind = .orNothing then
    match v with
    | .undefined | .nothing => s.eval (n.part 1) scope
    | v => s.give v
  else s.again (.choice n scope) (d.truthy v) fun t s =>
    match n.kind with
    | .both => if t then s.eval (n.part 1) scope else s.give v
    | .either => if t then s.give v else s.eval (n.part 1) scope
    | _ =>
      let m := if t then n.part 1 else n.part 2
      if m.isAbsent then s.give (idle d) else s.eval m scope

def giveCalleeObject (d : Dialect) (n : Node) (scope : Nat) (v : Value) (s : State) : State :=
  let callee := n.part 0
  let optional := callee.kind = .tryAttr || callee.kind = .tryIndex
  match v, optional with
  | .undefined, true | .nothing, true => s.leave .link
  | v, _ =>
    match callee.kind with
    | .attr | .tryAttr =>
      { s with frames := .callee n scope v :: s.frames }.perform (d.getAttr v callee.text)
    | _ => s.push (.calleeKey n scope v) (.eval (callee.part 1) scope)

def thisOfSuper (d : Dialect) (n : Node) (scope : Nat) (this : Value) (s : State) : Value :=
  let callee := n.part 0
  if d.braced && (callee.kind = .attr || callee.kind = .index) && (callee.part 0).kind = .name
      && (callee.part 0).text = "super" then
    match find? s.world "this" scope with
    | some place => (variableAt s.world place).value
    | none => this
  else this

/-- The functions of a class learn which class they belong to. -/
def settleHome (c : Value) (members : List Entry) (w : World) : World :=
  members.foldl (fun w e =>
    match e.value with
    | .ref id =>
      { w with heap := w.heap.modify id fun t =>
        if t.shape = .func then
          { t with code := t.code.map fun k => if k.home.isAbsent then { k with home := c } else k }
        else t }
    | _ => w) w

def giveTo (d : Dialect) (f : Frame) (v : Value) (s : State) : State :=
  match f with
  | .parts n scope done rest => nextPart d n scope (v :: done) rest s
  | .spreading n scope done rest =>
    spread d v f s fun vs s => nextPart d n scope (vs.reverse ++ done) rest s
  | .callee n scope this => startArguments d v (thisOfSuper d n scope this s) n scope s
  | .calleeObject n scope => giveCalleeObject d n scope v s
  | .calleeKey n scope object =>
    { s with frames := .callee n scope object :: s.frames }.perform (d.getIndex object v)
  | .arguments c scope rest => s.thenDo (addArgument d c rest v) fun c s => nextArgument d c scope rest s
  | .spreadingArguments c scope rest =>
    spread d v f s fun vs s =>
      nextArgument d { c with done := vs.reverse.map (fun x => ("", x)) ++ c.done } scope rest s
  | .applying f this args named => s.goOn (.call f this (v :: args) named)
  | .next rest scope =>
    match rest with
    | [] => s.give v
    | [n] => s.eval n scope
    | n :: ns => s.push (.next ns scope) (.eval n scope)
  | .choice n scope => giveChoice d n scope v s
  | .chain scope rest => nextComparison v rest scope s
  | .compared scope left op rest =>
    s.thenDo (d.binary op left v) fun r s =>
      if rest.isEmpty then s.give r
      else s.thenDo (d.truthy r) fun t s => if t then nextComparison v rest scope s else s.give r
  | .looping phase n scope label => giveLoop d phase n scope label v s
  | .eachSource n scope label =>
    s.again f (d.source (n.text = "in") v) fun source s => s.goOn (.each n scope label source)
  | .eachValue n scope label source => eachWith d n scope label source v s
  | .eachBody n scope label source => s.goOn (.each n scope label source)
  | .labelled _ | .maybe | .caseBody => s.give v
  | .storing targets scope =>
    { s with frames := .bindNext (targets.map fun t => (t, v)) .assigned scope :: .giving v :: s.frames }.give v
  | .binding target giving scope => s.goOn (.bind target v giving scope)
  | .bindNext pairs giving scope =>
    match pairs with
    | [] => s.give (idle d)
    | (t, x) :: ps => s.push (.bindNext ps giving scope) (.bind t x giving scope)
  | .target n x scope done rest =>
    match rest with
    | p :: ps => s.push (.target n x scope (v :: done) ps) (.eval p scope)
    | [] => writePlace d (placeOf n scope (v :: done).reverse) x s
  | .placing n scope done rest =>
    match rest with
    | p :: ps => s.push (.placing n scope (v :: done) ps) (.eval p scope)
    | [] =>
      let place := placeOf (ungroup (n.part 0)) scope (v :: done).reverse
      readPlace d place { s with frames := .reading n scope place :: s.frames }
  | .reading n scope place => change d n scope place v s
  | .combining n _ place old =>
    let op := if n.kind = .update then n.text ++ "=" else (n.text.dropEnd 1).toString
    s.thenDo (d.binary op old v) fun r s => writePlace d place r { s with frames := .giving r :: s.frames }
  | .putting place _ => writePlace d place v { s with frames := .giving v :: s.frames }
  | .leaving => s.leave (.value v)
  | .raising => s.again f (d.raised v) fun e s => s.leave (.failure e)
  | .guarded n scope => if (n.part 1).isAbsent then s.give v else s.eval (n.part 1) scope
  | .matching n scope failure handlers =>
    s.thenDo (d.isKind failure v) fun fits s =>
      match handlers with
      | [] => s.leave (.failure failure)
      | h :: hs => if fits then runHandler d n h scope failure s else handle d n hs scope failure s
  | .handling _ scope _ name => (forget name scope s).give v
  | .resuming how line => { s with line }.leave how
  | .finishing n scope => { s with frames := .giving v :: s.frames }.eval (n.part 2) scope
  | .boundary line _ _ => { s with line, depth := s.depth - 1 }.give (idle d)
  | .making o =>
    match v with
    | .ref _ => s.give v
    | _ => s.give o
  | .giving x => s.give x
  | .generating id line =>
    { s with line, depth := s.depth - 1, world := markDone id s.world }.goOn (.exhausted (idle d))
  | .asynchronous p line =>
    { s with line, depth := s.depth - 1 }.thenDo (d.settle (.ref p) true .undefined) fun _ s => s.give (.ref p)
  | .drawing source acc => s.goOn (.draw source (v :: acc))
  | .relaying source =>
    match source with
    | .generator _ => produce d v { s with frames := .relayed source :: s.frames }
    | source =>
      match nextOf s.world source with
      | some (x, rest) => produce d x { s with frames := .relayed rest :: s.frames }
      | none => s.give (idle d)
  | .relayed source =>
    match source with
    | .generator id => s.push (.relaying source) (.resume id v)
    | source => s.push (.relaying source) (.give v)
  | .asking default => s.perform (d.step "asked" [default] v)
  | .classBody n inner bases _ =>
    let vars := (scopeAt s.world inner).vars
    let members := vars.filterMap fun x =>
      if x.value.isAbsent then none else some (⟨x.name, .str x.name, x.value⟩ : Entry)
    let parents := (bases.filter (·.1.isEmpty)).map (·.2)
    s.thenDo (Work.new { shape := .classOf, name := n.text, items := parents.toArray, members }) fun c s =>
      { s with world := settleHome c members.toList s.world }.give c
  | .classMembers id key rest scope =>
    match key with
    | some m =>
      s.thenDo (d.unary "key" v) fun k s =>
        let name := match k with
          | .str k => k
          | _ => ""
        addMember d id m name scope { s with frames := .classMembers id none rest scope :: s.frames }
    | none => nextMember d id rest scope s
  | .decorating fs =>
    match fs with
    | [] => s.give v
    | g :: gs => s.push (.decorating gs) (.call g .absent [v] [])
  | .holding n scope item rest =>
    { s with frames := .entered n scope item rest v :: s.frames }.perform (d.call "enter" v [] [])
  | .entered n scope item rest manager =>
    let s := { s with frames := .held manager :: s.frames }
    let body : Frame := match rest with
      | [b] => .next [b] scope
      | rest => .next [.mk .within n.text n.line rest] scope
    if (item.part 0).isAbsent then s.push body (.give v)
    else s.push body (.bind (item.part 0) v .assigned scope)
  | .held manager => exitHeld d manager (.value .absent) s
  | .exiting how =>
    match how with
    | .value .absent => s.give (idle d)
    | .failure e => s.thenDo (d.truthy v) fun t s => if t then s.give (idle d) else s.leave (.failure e)
    | how => s.leave how
  | .choosing n scope =>
    if n.text = "switch" then
      let cases := n.parts.drop 1
      let (inner, s) := openBlock d (caseStats cases) scope s
      nextCase d v cases cases inner s
    else nextPattern d v (n.parts.drop 1) scope s
  | .caseTest value all rest scope =>
    s.thenDo (d.binary "===" value v) fun same s =>
      match same with
      | .truth true => { s with frames := .next (caseStats rest) scope :: .caseBody :: s.frames }.give (idle d)
      | _ => nextCase d value all (rest.drop 1) scope s
  | .caseGuard value rest scope =>
    s.thenDo (d.truthy v) fun t s =>
      match rest with
      | c :: cs => if t then s.eval (c.part 2) scope else nextPattern d value cs scope s
      | [] => s.give (idle d)
  | .fields o rest =>
    match rest with
    | [] => s.give .undefined
    | e :: es =>
      { s with frames := .field o e.mark :: .fields o es :: s.frames }.goOn (.call e.value o [] [])
  | .field o name => s.thenDo (d.call "define" o [.str name, .str "field", v] []) fun _ s => s.give .undefined
  | .calling g this args => s.goOn (.call g this args [])
  | .after step data =>
    if step = "wait" then wait d v s else s.perform (d.step step data v)

/-! ## Failures and jumps -/

def noteTrace (e : Value) (line : Nat) (name : String) (w : World) : World :=
  match e with
  | .ref id => { w with heap := w.heap.modify id fun t => { t with trace := (line, name) :: t.trace } }
  | _ => w

/-- A failure that arises while another one is handled remembers that one. -/
def noteContext (e before : Value) (w : World) : World :=
  match e, before with
  | .ref a, .ref b =>
    if a = b then w
    else { w with heap := w.heap.modify a fun t =>
      if (t.member? "__context__").isSome then t else t.putMember "__context__" before }
  | _, _ => w

def catches (label own : String) : Bool := label.isEmpty || label = own

def leaveLoop (d : Dialect) (f : Frame) (l : Leaving) (own : String) (s : State) : State :=
  match l with
  | .breakLoop label => if catches label own then s.give (idle d) else s.leave l
  | .continueLoop label =>
    if catches label own then
      match f with
      | .eachBody n scope label source => s.goOn (.each n scope label source)
      | f => { s with frames := f :: s.frames }.give (idle d)
    else s.leave l
  | l => s.leave l

/-- Takes one frame away, unless it answers to what leaves it. -/
def leaveFrom (d : Dialect) (f : Frame) (l : Leaving) (s : State) : State :=
  match f, l with
  | .looping .body _ _ label, l => leaveLoop d f l label s
  | .eachBody _ _ label _, l => leaveLoop d f l label s
  | .labelled own, .breakLoop label => if label = own then s.give (idle d) else s.leave l
  | .caseBody, .breakLoop "" => s.give (idle d)
  | .maybe, .link => s.give .undefined
  | .guarded n scope, .failure e => handle d n (n.parts.drop 3) scope e s
  | .handling _ scope failure name, .failure e =>
    { (forget name scope s) with world := noteContext e failure (forget name scope s).world }.leave l
  | .handling _ scope _ name, l => (forget name scope s).leave l
  | .finishing n scope, l => { s with frames := .resuming l s.line :: s.frames }.eval (n.part 2) scope
  | .held manager, l => exitHeld d manager l s
  | .boundary line _ _, .value v => { s with line, depth := s.depth - 1 }.give v
  | .boundary line name hidden, .failure e =>
    let world := if hidden then s.world else noteTrace e s.line name s.world
    { s with line, depth := s.depth - 1, world }.leave l
  | .generating id line, .value v =>
    { s with line, depth := s.depth - 1, world := markDone id s.world }.goOn (.exhausted v)
  | .generating id line, .failure e =>
    let name := (s.world.heap.getD id default).name
    { s with line, depth := s.depth - 1, world := noteTrace e s.line name (markDone id s.world) }.leave l
  | .asynchronous p line, .value v =>
    { s with line, depth := s.depth - 1 }.thenDo (d.settle (.ref p) true v) fun _ s => s.give (.ref p)
  | .asynchronous p line, .failure e =>
    { s with line, depth := s.depth - 1 }.thenDo (d.settle (.ref p) false e) fun _ s => s.give (.ref p)
  | _, l => s.leave l

def exhaust (d : Dialect) (f : Frame) (v : Value) (s : State) : State :=
  match f with
  | .eachValue n scope _ _ => endEach n scope d s
  | .drawing _ acc => s.perform (Work.newList acc.reverse)
  | .relaying _ => s.give v
  | .asking default => s.perform (d.step "ended" [default] v)
  | _ => s.give v

/-! ## When nothing is left to do -/

def earliest? (ts : List Timer) : Option Timer :=
  ts.foldl (fun best t =>
    match best with
    | none => some t
    | some b => if t.due < b.due then some t else some b) none

/-- Timers that go on for longer than this go on for ever. -/
def longestMs : Nat := 3600000

def nextJob (d : Dialect) (s : State) : State :=
  match s.world.jobs with
  | j :: jobs =>
    let s := { s with world := { s.world with jobs } }
    match j.resumes with
    | some id =>
      let t := s.world.heap.getD id default
      let v := j.args.headD .undefined
      match t.parent with
      | .ref p =>
        let s := { s with frames := t.saved ++ [Frame.asynchronous p s.line], depth := s.depth + 1 }
        if j.fails then s.leave (.failure v) else s.give v
      | _ => s.give v
    | none => s.goOn (.call j.f .undefined j.args [])
  | [] =>
    s.thenDo (d.call "unhandled" .undefined [] []) fun e s =>
      match e with
      | .absent =>
        match earliest? s.world.timers with
        | some t =>
          let rest := s.world.timers.filter fun u => u.id ≠ t.id
          let now := max s.world.ms t.due
          let timers := match t.every with
            | some n => rest ++ [{ t with due := now + max 1 n }]
            | none => rest
          if longestMs < now then s.halt .endless
          else { s with world := { s.world with timers, ms := now } }.goOn (.call t.f .undefined t.args [])
        | none =>
          s.thenDo (d.call "ending" .undefined [] []) fun f s =>
            match f with
            | .absent => s.halt (.exited s.world.exitCode)
            | f => s.goOn (.call f .undefined [.float (Float.ofNat s.world.exitCode)] [])
      | e => s.leave (.failure e)

def step (d : Dialect) (s : State) : State :=
  match s.control with
  | .eval n scope => evalNode d n scope s
  | .give v =>
    match s.frames with
    | f :: frames => giveTo d f v { s with frames }
    | [] => nextJob d s
  | .leave l =>
    match s.frames with
    | f :: frames => leaveFrom d f l { s with frames }
    | [] =>
      match l with
      | .failure e => s.thenDo (d.uncaught e s.line) fun f s => s.halt f
      | _ => s.give (idle d)
  | .exhausted v =>
    match s.frames with
    | f :: frames => exhaust d f v { s with frames }
    | [] => s.give v
  | .call f this args named => callValue d f this args named s
  | .bind target v giving scope => bind d target v giving scope s
  | .each n scope label source => stepEach d n scope label source s
  | .draw source acc => draw d source acc s
  | .resume id sent => resume id sent s
  | .halt _ => s

def halted? (s : State) : Option Finish :=
  match s.control with
  | .halt f => some f
  | _ => none

def steps (d : Dialect) : Nat → State → State
  | 0, s => s
  | n + 1, s => if s.halted?.isSome then s else steps d n (s.step d)

end ScriptHost.Snippet.State
