import ScriptHost.Braced.Host

/-!
All functions of the library by name, what makes new objects, and what goes on when a function of the
script has given its result.
-/
namespace ScriptHost.Braced

open Snippet

/-! ## Conversions -/

def callPrelude {α : Type} (name : String) (this : Value) (args : List Value) : Work α := do
  throw (.call ((Prelude.function? name).getD .undefined) this args [])

def asText (v : Value) : Work Value := do
  if isSymbol v then return .str ("Symbol(" ++ (if let .native n := v then n else symbolText v) ++ ")")
  if let some f ← ownConversion v ["@@toPrimitive", "toString"] then
    throw (.callThen f v [.str "string"] "text" [])
  return .str (← textOf v)

def asNumber (v : Value) : Work Value := do
  if let .int n := v then return .float (Float.ofInt n)
  unary "+" v

/-! ## New objects -/

def refuse {α : Type} (name : String) : Work α := typeError (shortName name ++ " is not a constructor")

def newArray (args : List Value) : Work Value := do
  match args with
  | [.float x] =>
    match Decimal.integer? x with
    | some n =>
      if n < 0 || (gapLimit : Int) < n then rangeError "Invalid array length"
      Work.newList (List.replicate n.toNat .absent)
    | none => rangeError "Invalid array length"
  | vs => Work.newList vs

def newKeyed (name : String) (args : List Value) : Work Value := do
  let isSet := name = "Set" || name = "WeakSet"
  let o ← Work.new
    { shape := if isSet then .set else .dict
      name := if name = "Map" || name = "Set" then "" else name }
  let a := arg args 0
  if isNullish a then return o
  callPrelude (if isSet then "setFilled" else "mapFilled") .undefined [o, a]

def newFailure (kind : String) (args : List Value) : Work Value := do
  let o ← Work.new { shape := .error, parent := .native kind }
  fillError o kind args
  return o

def functionIn : List Node → Option Node
  | .mk .eval _ _ [.mk .group _ _ [n]] :: _ => some n
  | _ => none

def functionOf (name : String) (params : List String) (body : String) : Work Value := do
  match parse ("(function " ++ name ++ "(" ++ ",".intercalate params ++ "\n) \x7b\n" ++ body ++ "\n\x7d)") with
  | .error (_, message) => raise "SyntaxError" message
  | .ok n =>
    match functionIn n.parts with
    | some f =>
      let code : Code :=
        { name, params := (f.part 0).parts, body := f.part 1, scope := 0, own := spreadNames (f.part 1) }
      State.newFunction code
    | none => raise "SyntaxError" "Unexpected token"

/-- Statements as the body of a function, which gives the value of the last one. -/
def givingLast : List Node → List Node
  | [] => []
  | [.mk .eval _ l [n]] => [.mk .leave "" l [n]]
  | n :: ns => n :: givingLast ns

/-- Runs a text as a script of its own; only the outermost names are known to it. -/
def evaluate (v : Value) : Work Value := do
  match v with
  | .str s =>
    match parse s with
    | .error (_, message) => raise "SyntaxError" message
    | .ok n =>
      let body := Node.block (givingLast n.parts)
      let f ← State.newFunction { name := "eval", params := [], body, scope := 0, own := spreadNames body }
      throw (.call f .undefined [] [])
  | v => return v

def newScript (args : List Value) : Work Value := do
  match parse (← textOf (arg args 0)) with
  | .ok _ => Work.new { shape := .object, name := "Script" }
  | .error (_, message) => raise "SyntaxError" message

def construct (name : String) (args : List Value) : Work Value := do
  let a := arg args 0
  if errorKinds.contains name then return ← newFailure name args
  match name with
  | "Object" =>
    match a with
    | .ref _ => return a
    | _ => Work.new { shape := .object }
  | "Array" => newArray args
  | "Map" | "Set" | "WeakMap" | "WeakSet" => newKeyed name args
  | "Date" => newDate args
  | "RegExp" =>
    match ← searching? a with
    | some s => newPattern (← Work.thing s.id).name (← textOr s.flags (arg args 1))
    | none => newPattern (← textOr "" a) (← textOr "" (arg args 1))
  | "Promise" =>
    if !(← isFunction a) then typeError ("Promise resolver " ++ (← shownValue a) ++ " is not a function")
    let p := Value.ref (← newPromise)
    callPrelude "promiseMade" .undefined [p, a, .bound "resolve" p, .bound "reject" p]
  | "String" => if args.isEmpty then return .str "" else asText a
  | "Number" => if args.isEmpty then return .float 0 else asNumber a
  | "Boolean" => return .truth (truthy a)
  | "vm.Script" => newScript args
  | "EventEmitter" => Work.new { shape := .object, parent := .native "EventEmitter" }
  | "Function" => functionOf "anonymous" (← args.dropLast.mapM textOf) (← textOr "" (args.getLastD .undefined))
  | _ => refuse name

/-- A new object of a kind with nothing in it yet, for a class that goes back to the library. -/
def blank (kind : String) : Work Value := do
  if errorKinds.contains kind then return ← Work.new { shape := .error, parent := .native kind }
  match kind with
  | "Map" | "Set" | "WeakMap" | "WeakSet" => newKeyed kind []
  | "Array" => Work.newList []
  | "Promise" => return .ref (← newPromise)
  | "Date" => newDate []
  | _ => Work.new { shape := .object, parent := .native kind }

def initialize' (o : Value) (kind : String) (args : List Value) : Work Value := do
  let a := arg args 0
  if errorKinds.contains kind then
    fillError o kind args
    return .undefined
  match kind with
  | "Map" | "WeakMap" => if isNullish a then return .undefined else callPrelude "mapFilled" .undefined [o, a]
  | "Set" | "WeakSet" => if isNullish a then return .undefined else callPrelude "setFilled" .undefined [o, a]
  | "Promise" =>
    callPrelude "promiseMade" .undefined [o, a, .bound "resolve" o, .bound "reject" o]
  | "Array" | "Date" =>
    let made ← construct kind args
    match o, ← Work.thing? made with
    | .ref id, some t => Work.modifyThing id fun u => { u with items := t.items }
    | _, _ => pure ()
    return .undefined
  | _ => return .undefined

/-! ## Classes -/

def newClass (parent : Value) (name : String) : Work Value := do
  let above ← match parent with
    | .ref id => State.prototypeOf id
    | .native n => pure (.native n)
    | .nothing => pure .nothing
    | _ => pure .absent
  match parent with
  | .absent | .nothing | .native _ | .ref _ => pure ()
  | v => typeError ("Class extends value " ++ (← inspect v) ++ " is not a constructor or null")
  let c ← Work.new { shape := .classOf, name, parent }
  let proto ← Work.new
    { shape := .object, parent := above, members := #[⟨"constructor", .absent, c⟩] }
  if let .ref id := c then Work.modifyThing id fun t => t.putMember "prototype" proto
  return c

def superMember (home : Value) (name : String) : Work Value := do
  match ← Work.thing? home with
  | some t =>
    let found ← match protoOf t with
      | .native n => if t.shape == .classOf then nativeMember? n name else sharedMember? n name
      | p => rawMember? p name
    match found with
    | some x =>
      match ← accessorPart x 0 with
      | some g => throw (.call g home [] [])
      | none => return x
    | none => return .undefined
  | none => return .undefined

/-! ## Methods -/

def thisText (name : String) (this : Value) : Work String := do
  if isNullish this then typeError (name ++ " called on null or undefined")
  textOf this

def isWritten (owner name : String) (this : Value) (args : List Value) : Work Bool := do
  match owner, name with
  | "Array", "sort" | "Array", "toSorted" => return isGiven (arg args 0)
  | "Array", "join" => anyOwnText (← itemsOf this)
  | _, _ => return (Prelude.function? (Prelude.nameOf (owner ++ "." ++ name))).isSome

def wantsFunction (owner name : String) : Bool :=
  (owner = "Array" && name != "join" && name != "from") || name = "forEach"

def callMethod (owner name : String) (this : Value) (args : List Value) : Work Value := do
  if ← isWritten owner name this args then
    if wantsFunction owner name && !(← isFunction (arg args 0)) then
      typeError ((← shownValue (arg args 0)) ++ " is not a function")
    callPrelude (Prelude.nameOf (owner ++ "." ++ name)) this args
  if errorKinds.contains owner then return .str (← errorText this)
  match owner with
  | "Array" => callList name this args
  | "String" =>
    if name = "toString" || name = "valueOf" then return .str (← textOf this)
    callTextWith name (← thisText ("String.prototype." ++ name) this) args
  | "Number" => callNumber name this args
  | "BigInt" => callBig name this args
  | "Boolean" => if name = "valueOf" then return this else return .str (← textOf this)
  | "Symbol" => callSymbol name this
  | "RegExp" => callPattern name this args
  | "Map" | "Set" | "WeakMap" | "WeakSet" => callKeyed owner name this args
  | "Promise" => callPromise name this args
  | "Generator" | "Iterator" =>
    match this, name with
    | .ref id, "next" => throw (.ask id (arg args 0) .undefined)
    | .ref id, _ =>
      Work.modifyThing id fun t => { t with done := true, saved := [], items := #[] }
      if name = "throw" then throw (.raise (arg args 0))
      newObject [("value", arg args 0), ("done", .truth true)]
    | _, _ => typeError "next method called on incompatible receiver"
  | "Date" => callDate name this
  | "Function" => callFunction name this args
  | "Buffer" =>
    match this with
    | .bytes b => return .str (← bytesText b (arg args 0))
    | v => return .str (← textOf v)
  | _ => callObject name this args

def callOwned (owner name : String) (this : Value) (args : List Value) : Work Value := do
  let a := arg args 0
  if let some f := Prelude.function? (Prelude.nameOf (owner ++ "." ++ name)) then
    throw (.call f this args [])
  match owner with
  | "Object" => callObjects name args
  | "Array" => if name = "isArray" then return .truth ((← Work.shape? a) == some .list) else Work.newList args
  | "Number" => callNumbers name args
  | "String" => callTexts name args
  | "Math" => callMath name args
  | "JSON" =>
    if name = "stringify" then JsonText.stringify a (arg args 1) (arg args 2)
    else
      let v ← JsonText.read (← textOf a)
      if ← isFunction (arg args 1) then
        callPrelude "revived" .undefined [← newObject [("", v)], .str "", arg args 1]
      return v
  | "Promise" => callPromises name args
  | "Date" => callDates name args
  | "Symbol" => return .bound "symbol" (.str ("for:" ++ (← textOf a)))
  | "BigInt" =>
    match a, arg args 1 with
    | .float n, .int m =>
      let bits := (intOfFloat n).toNat
      return .int (if name = "asUintN" then m % (twoTo bits : Int) else m.bmod (twoTo bits))
    | _, _ => typeError "Cannot convert to a BigInt"
  | "Reflect" => callReflect name args
  | "Buffer" => callBytes name args
  | "console" => callConsole name args
  | "process" => callProcess name args
  | "performance" => return .float (Float.ofNat ((← get).ms + 25))
  | "fs" => callFiles name args
  | "path" => callPath name args
  | "os" => return .str (if name = "platform" then "linux" else if name = "tmpdir" then "/tmp" else "localhost")
  | "util" =>
    match name with
    | "inspect" => return .str (← inspect a)
    | "format" => return .str (← formatted args)
    | _ => return .truth ((← inspect a) == (← inspect (arg args 1)))
  | "assert" => callAssert name args
  | "timers/promises" =>
    let p ← newPromise
    let (ms, v) ← if name = "setTimeout" then do pure (← delayOf a, arg args 1) else pure (0, a)
    let _ ← addTimer (.bound "resolve" (.ref p)) ms none [v]
    return .ref p
  | "Error" => return .undefined
  | "readline" => return .native "readline.Interface"
  | _ => typeError (owner ++ "." ++ name ++ " is not a function")

def callStream (stream name : String) (args : List Value) : Work Value := do
  match stream, name with
  | "stdin", _ => callInput name args
  | _, "write" =>
    writeAny (stream = "stderr") (arg args 0)
    return .truth true
  | _, _ => return .native ("process." ++ stream)

def callAlone (name : String) (args : List Value) : Work Value := do
  let a := arg args 0
  if errorKinds.contains name then return ← newFailure name args
  match name with
  | "String" => if args.isEmpty then return .str "" else asText a
  | "Number" => if args.isEmpty then return .float 0 else asNumber a
  | "Boolean" => return .truth (truthy a)
  | "BigInt" => toBig a
  | "Object" => if isNullish a then Work.new { shape := .object } else return a
  | "Array" | "RegExp" | "Function" => construct name args
  | "eval" => evaluate a
  | "Date" => return .str (dateText (← nowMs))
  | "Symbol" => newSymbol args
  | "parseInt" | "parseFloat" => callNumbers name args
  | "isNaN" => return .truth (← toNumber a).isNaN
  | "isFinite" => return .truth (← toNumber a).isFinite
  | "require" => requireModule a
  | "structuredClone" => copied 10000 a
  | "encodeURIComponent" => return .str (addressText "" (← textOf a))
  | "encodeURI" => return .str (addressText addressSigns (← textOf a))
  | "decodeURIComponent" | "decodeURI" => fromAddress (← textOf a)
  | "btoa" => return .str (String.ofList (Text.Base64.encode (← bytesOf (.str (← textOf a)) (.str "latin1"))))
  | "atob" => return .str (← bytesText (base64Bytes (← textOf a)) (.str "latin1"))
  | "assert" => callAssert name args
  | "Map" | "Set" | "Promise" | "WeakMap" | "WeakSet" =>
    typeError ("Constructor " ++ name ++ " requires 'new'")
  | _ =>
    if ["setTimeout", "setInterval", "setImmediate", "clearTimeout", "clearInterval", "clearImmediate",
        "queueMicrotask"].contains name then
      callTimer name args
    else typeError (shortName name ++ " is not a function")

/-! ## Calls -/

def callInner (name : String) (this : Value) (args : List Value) : Work (Option Value) := do
  let a := arg args 0
  match name, args with
  | "class", parent :: .str n :: _ => return some (← newClass parent n)
  | "define", .str key :: .str what :: v :: _ =>
    defineMember this key what v
    if what != "field" then hideMember this key
    return some .undefined
  | "rest", _ =>
    let o ← Work.new { shape := .object }
    copyMembers o this (args.filterMap fun v => match v with
      | .str s => some s
      | _ => none)
    return some o
  | "superMember", .str key :: _ => return some (← superMember this key)
  | "blank", .str kind :: _ => return some (← blank kind)
  | "initialize", .str kind :: rest => return some (← initialize' this kind rest)
  | "unhandled", _ => return some (← unhandled)
  | "inner.list", _ => return some (← listOf a)
  | "inner.items", _ =>
    if (← Work.shape? a) == some .list then return some a
    return some (← Work.newList (← itemsOf a))
  | "inner.same", _ => return some a
  | "inner.follow", .ref p :: result :: _ =>
    let e ← Work.newList [.undefined, .undefined, result]
    reactLater p ⟨"call", e, .undefined⟩
    return some .undefined
  | "resolve", _ =>
    if let .ref id := this then
      if !(← Work.thing id).done then resolve id a
    return some .undefined
  | "reject", _ =>
    if let .ref id := this then
      if !(← Work.thing id).done then settle id false a
    return some .undefined
  | "fulfil", _ =>
    if let .ref id := this then resolve id a
    return some .undefined
  | "refuse", _ =>
    if let .ref id := this then settle id false a
    return some .undefined
  | "ending", _ =>
    let f := (← extra? "process" "#end").getD .absent
    Work.modifyThing extraPlace fun t => { t with members := dropEntry t.members "process.#end" }
    return some f
  | _, _ => return none

def call (name : String) (this : Value) (args : List Value) (_ : List (String × Value)) : Work Value := do
  match ← callInner name this args with
  | some v => return v
  | none =>
    match name.splitOn "." with
    | [owner, "prototype", m] => callMethod owner m this args
    | ["Function", "prototype"] => return .undefined
    | ["process", "hrtime", _] => return .int ((1000000 + (← get).ms) * 1000000)
    | ["process", stream, m] => callStream stream m args
    | ["readline", "Interface", m] => callLines m args
    | [owner, m] => callOwned owner m this args
    | _ => callAlone name args

def callOther (f _ : Value) (_ : List Value) (_ : List (String × Value)) : Work Value := do
  typeError ((← shownValue f) ++ " is not a function")

def step (name : String) (data : List Value) (v : Value) : Work Value := do
  let first := match data with
    | .str s :: _ => s
    | _ => ""
  let second := arg data 1
  let needSimple : Work Unit := do
    if let .ref _ := v then typeError "Cannot convert object to primitive value"
  match name with
  | "asked" => newObject [("value", v), ("done", .truth false)]
  | "ended" => newObject [("value", v), ("done", .truth true)]
  | "leftOperand" =>
    needSimple
    binary first v second
  | "rightOperand" =>
    needSimple
    binary first second v
  | "operand" =>
    needSimple
    unary first v
  | "text" =>
    needSimple
    return .str (← textOf v)
  | "listed" => drawn v
  | "written" =>
    let style ← JsonText.styleOf (arg data 1) (arg data 0)
    match ← JsonText.write style JsonText.depth 0 [] "" v with
    | some s => return .str s
    | none => return .undefined
  | _ => return v

end ScriptHost.Braced
