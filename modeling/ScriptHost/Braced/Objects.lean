import ScriptHost.Braced.Patterns

/-!
What is asked of objects, functions, symbols, failures and dates.
-/
namespace ScriptHost.Braced

open Snippet

/-! ## Objects -/

def newObject (pairs : List (String × Value)) : Work Value := JsonText.newObject pairs

def plainValue (v : Value) (key : String) : Work Value := do
  let found ← match v with
    | .ref _ | .native _ => rawMember? v key
    | v => primitiveMember? v key
  match found with
  | some x => return if (← Work.shape? x) == some .accessor then .undefined else x
  | none => return .undefined

def needObject (f : String) (v : Value) : Work Unit := do
  if isNullish v then typeError ("Cannot convert undefined or null to object")
  let _ := f

def allKeysOf (v : Value) : Work (List String) := do
  let own ← keysOf v
  match ← Work.thing? v with
  | some t =>
    return own ++ t.members.toList.filterMap fun e => if isSymbolKey e.mark then some e.mark else none
  | none => return own

def copyMembers (target source : Value) (without : List String) : Work Unit := do
  for k in ← allKeysOf source do
    if !without.contains k then setMember target k (← plainValue source k)

def hideMember (v : Value) (key : String) : Work Unit := do
  match v with
  | .ref id =>
    Work.modifyThing id fun t =>
      { t with members := t.members.map fun e => if e.mark == key then { e with key := .absent } else e }
  | _ => return ()

def prototypeValue (v : Value) : Work Value := do
  match v with
  | .ref id =>
    let t ← Work.thing id
    match protoOf t, t.shape with
    | .native n, .classOf => return if t.parent.isAbsent then .native "Function.prototype" else .native n
    | .native n, _ =>
      return if n == "Object" && (t.member? "constructor").isSome && t.parent.isAbsent && t.name.isEmpty
        then .native "Object.prototype" else .native (n ++ ".prototype")
    | p, _ => return p
  | .native n =>
    if n == "Object.prototype" then return .nothing
    if n.endsWith ".prototype" then return .native "Object.prototype"
    return .native (if isPlainNative n then "Object.prototype" else "Function.prototype")
  | v => return .native (primitiveKind v ++ ".prototype")

def setPrototype (v p : Value) : Work Unit := do
  match v with
  | .ref id =>
    let parent := match p with
      | .native n => if n.endsWith ".prototype" then .native (n.dropEnd 10).toString else p
      | p => p
    Work.modifyThing id fun t => { t with parent }
  | _ => return ()

def hasOwn (v : Value) (key : String) : Work Bool := do
  match v with
  | .ref id => return (← ownMember? id (← Work.thing id) key).isSome
  | .native n => return (constant? n key).isSome || hasName ownMembers n key || (← extra? n key).isSome
  | v => return key == "length" || (← keysOf v).contains key

def describe (o : Value) (key : String) (d : Value) : Work Unit := do
  let asked (n : String) : Work (Option Value) := rawMember? d n
  let enumerable := ((← asked "enumerable").map truthy).getD false
  let there ← hasOwn o key
  match ← asked "get", ← asked "set" with
  | none, none =>
    let v ← match ← asked "value" with
      | some v => pure v
      | none => if there then plainValue o key else pure .undefined
    defineMember o key "value" v
  | g, s =>
    if let some g := g then defineMember o key "get" g
    if let some s := s then defineMember o key "set" s
  if !enumerable && !there then hideMember o key

def kindText (v : Value) : Work String := do
  match v with
  | .absent | .undefined => return "[object Undefined]"
  | .nothing => return "[object Null]"
  | .str _ => return "[object String]"
  | .float _ => return "[object Number]"
  | .truth _ => return "[object Boolean]"
  | .ref id =>
    let t ← Work.thing id
    if let some (.str tag) ← rawMember? v "@@toStringTag" then return "[object " ++ tag ++ "]"
    return "[object " ++ (if t.shape == .object && t.name != "Date" then "Object" else shapeKind t) ++ "]"
  | v => return if ← isFunction v then "[object Function]" else "[object Object]"

def descriptor (v : Value) (key : String) : Work Value := do
  if !(← hasOwn v key) then return .undefined
  let frozen := match ← Work.thing? v with
    | some t => isFrozen t
    | none => true
  let listed := (← keysOf v).contains key
  let rest := [("enumerable", Value.truth listed), ("configurable", .truth !frozen)]
  match ← accessorPart ((← rawMember? v key).getD .undefined) 0,
      ← accessorPart ((← rawMember? v key).getD .undefined) 1 with
  | some g, some s => newObject ([("get", g), ("set", s)] ++ rest)
  | _, _ => newObject ([("value", ← plainValue v key), ("writable", .truth !frozen)] ++ rest)

def freeze (v : Value) : Work Unit := do
  match v with
  | .ref id => Work.modifyThing id fun t => if t.shape == .generator then t else { t with done := true }
  | _ => return ()

def isTextual : Value → Bool
  | .ref _ | .native _ | .bytes _ => false
  | .bound "symbol" _ => true
  | .bound .. => false
  | _ => true

def callObjects (name : String) (args : List Value) : Work Value := do
  let a := arg args 0
  let key ← keyText' (arg args 1)
  match name with
  | "keys" =>
    needObject name a
    newTexts (← keysOf a)
  | "values" =>
    needObject name a
    Work.newList (← (← keysOf a).mapM (plainValue a))
  | "entries" =>
    needObject name a
    Work.newList (← (← keysOf a).mapM fun k => do newPair (.str k) (← plainValue a k))
  | "assign" =>
    needObject name a
    for s in args.drop 1 do copyMembers a s []
    return a
  | "freeze" =>
    freeze a
    return a
  | "seal" | "preventExtensions" => return a
  | "isFrozen" | "isSealed" =>
    return .truth (match ← Work.thing? a with
      | some t => isFrozen t
      | none => true)
  | "isExtensible" =>
    return .truth (match ← Work.thing? a with
      | some t => !isFrozen t
      | none => false)
  | "create" =>
    match a with
    | .ref _ | .nothing | .native _ =>
      let o ← Work.new { shape := .object }
      setPrototype o a
      if let .ref _ := arg args 1 then
        for k in ← keysOf (arg args 1) do describe o k (← plainValue (arg args 1) k)
      return o
    | a => typeError ("Object prototype may only be an Object or null: " ++ (← textOf a))
  | "getPrototypeOf" => prototypeValue a
  | "setPrototypeOf" =>
    setPrototype a (arg args 1)
    return a
  | "defineProperty" =>
    if isTextual a then typeError "Object.defineProperty called on non-object"
    describe a key (arg args 2)
    return a
  | "defineProperties" =>
    for k in ← keysOf (arg args 1) do describe a k (← plainValue (arg args 1) k)
    return a
  | "getOwnPropertyNames" =>
    match ← Work.thing? a with
    | some t =>
      let own := t.members.toList.filterMap fun e => if isHiddenKey e.mark then none else some e.mark
      let front := match t.shape with
        | .list => (List.range t.items.size).map toString ++ ["length"]
        | .func | .classOf => ["length", "name"] ++ (if own.contains "prototype" then ["prototype"] else [])
        | _ => []
      newTexts (front ++ (orderedKeys own).filter fun k => !front.contains k)
    | none =>
      let keys ← keysOf a
      newTexts (match a with
        | .str _ => keys ++ ["length"]
        | _ => keys)
  | "getOwnPropertySymbols" => Work.newList []
  | "getOwnPropertyDescriptor" => descriptor a key
  | "is" => return .truth (sameValue a (arg args 1))
  | "hasOwn" => return .truth (← hasOwn a key)
  | _ => typeError ("Object." ++ name ++ " is not a function")

def callObject (name : String) (this : Value) (args : List Value) : Work Value := do
  let key ← keyText' (arg args 0)
  match name with
  | "hasOwnProperty" => return .truth (← hasOwn this key)
  | "propertyIsEnumerable" => return .truth ((← keysOf this).contains key)
  | "isPrototypeOf" =>
    match arg args 0 with
    | .ref _ => return .truth (← goesBack 100 (arg args 0) this)
    | _ => return .truth false
  | "valueOf" => return this
  | "toLocaleString" => return .str (← textOf this)
  | _ => return .str (← kindText this)

def callReflect (name : String) (args : List Value) : Work Value := do
  let a := arg args 0
  let key ← keyText' (arg args 1)
  match name with
  | "ownKeys" => callObjects "getOwnPropertyNames" args
  | "has" => return .truth ((← rawMember? a key).isSome)
  | "get" => getMember a key
  | "set" =>
    setMember a key (arg args 2)
    return .truth true
  | "getPrototypeOf" => prototypeValue a
  | "deleteProperty" => dropMember a key
  | "apply" => throw (.call a (arg args 1) (← itemsOf (arg args 2)) [])
  | _ => typeError ("Reflect." ++ name ++ " is not a function")

/-! ## Functions, symbols and failures -/

def callFunction (name : String) (this : Value) (args : List Value) : Work Value := do
  match name with
  | "call" => throw (.call this (arg args 0) (args.drop 1) [])
  | "apply" =>
    let more ← if isNullish (arg args 1) then pure [] else itemsOf (arg args 1)
    throw (.call this (arg args 0) more [])
  | _ => return .str (← textOf this)

def newSymbol (args : List Value) : Work Value := do
  let id := (← get).heap.size
  let text ← textOr "" (arg args 0)
  let _ ← Work.new { shape := .object }
  return .bound "symbol" (.str (toString id ++ ":" ++ text))

def callSymbol (name : String) (this : Value) : Work Value := do
  match name with
  | "toString" => return .str ("Symbol(" ++ symbolText this ++ ")")
  | _ => return this

def fillError (o : Value) (kind : String) (args : List Value) : Work Unit := do
  match o with
  | .ref id =>
    let (errors, args) := if kind == "AggregateError" then (args.take 1, args.drop 1) else ([], args)
    let message ← textOr "" (arg args 0)
    let name ← plainMember o "name"
    let name := if name.isEmpty then kind else name
    let head := if message.isEmpty then name else name ++ ": " ++ message
    Work.modifyThing id fun t =>
      let t := if isGiven (arg args 0) then t.putMember "message" (.str message) else t
      t.putMember "stack" (.str (head ++ "\n    at [eval]:1:1"))
    match arg args 1 with
    | .ref _ =>
      if let some c ← rawMember? (arg args 1) "cause" then
        Work.modifyThing id fun t => t.putMember "cause" c
    | _ => pure ()
    for e in errors do
      let list ← Work.newList (← itemsOf e)
      Work.modifyThing id fun t => t.putMember "errors" list
  | _ => return ()

/-! ## Dates -/

def daysFrom (y : Int) (m d : Nat) : Int :=
  let y := if m ≤ 2 then y - 1 else y
  let era := y.fdiv 400
  let yoe := (y - era * 400).toNat
  let doy := (153 * (if 2 < m then m - 3 else m + 9) + 2) / 5 + d - 1
  let doe := yoe * 365 + yoe / 4 - yoe / 100 + doy
  era * 146097 + doe - 719468

/-- The milliseconds of a date out of its parts, which may go beyond their bounds. -/
def dateFrom (parts : List Float) : Float :=
  match parts.mapM wholePart? with
  | some ns =>
    let n (i : Nat) (default : Int) : Int := ns.getD i default
    let year := if 0 ≤ n 0 0 && n 0 0 ≤ 99 then n 0 0 + 1900 else n 0 0
    let month := n 1 0
    let days := daysFrom (year + month.fdiv 12) ((month.fmod 12).toNat + 1) 1 + n 2 1 - 1
    Float.ofInt ((((days * 24 + n 3 0) * 60 + n 4 0) * 60 + n 5 0) * 1000 + n 6 0)
  | none => nan

def parseDate (s : String) : Float :=
  let number (cs : List Char) : Option Int := if cs.isEmpty || !cs.all isDigit then none else (valueIn? 10 cs).map Int.ofNat
  let cs := (trimSpaces s.toList)
  let day := cs.takeWhile fun c => c ≠ 'T' && c ≠ ' '
  let rest := (cs.drop day.length).drop 1
  let time := rest.takeWhile fun c => isDigit c || c = ':' || c = '.'
  let zone := rest.drop time.length
  let parts? := ((String.ofList day).splitOn "-").mapM fun p => number p.toList
  let fraction := ((time.dropWhile (· ≠ '.')).drop 1)
  let ms := (number ((fraction ++ ['0', '0', '0']).take 3)).getD 0
  let clock? := if time.isEmpty then some [] else
    ((String.ofList (time.takeWhile (· ≠ '.'))).splitOn ":").mapM fun p => number p.toList
  let zone? : Option Int := match zone with
    | [] | ['Z'] => some 0
    | sign :: ds =>
      if sign = '+' || sign = '-' then
        (number (ds.filter (· ≠ ':'))).map fun n =>
          let minutes := n / 100 * 60 + n % 100
          if sign = '+' then minutes else -minutes
      else none
  match parts?, clock?, zone? with
  | some parts, some clock, some zone =>
    let month := parts.getD 1 1
    let d := parts.getD 2 1
    if 3 < parts.length || month < 1 || 12 < month || d < 1 || 31 < d || (day.takeWhile (· ≠ '-')).length ≠ 4 then nan
    else if 24 < clock.getD 0 0 || 59 < clock.getD 1 0 || 59 < clock.getD 2 0 || clock.length = 1 then nan
    else
      let days := daysFrom (parts.getD 0 1970) month.toNat d.toNat
      Float.ofInt ((((days * 24 + clock.getD 0 0) * 60 + clock.getD 1 0 - zone) * 60 + clock.getD 2 0) * 1000 + ms)
  | _, _, _ => nan

def startOfTime : Nat := 1700000000000

def nowMs : Work Float := do return Float.ofNat (startOfTime + (← get).ms)

def newDate (args : List Value) : Work Value := do
  let ms ← match args with
    | [] => nowMs
    | [.str s] => pure (parseDate s)
    | [v] => toNumber v
    | vs => do pure (dateFrom (← vs.mapM toNumber))
  let ms := if ms.isFinite then (if ms < 0 then ms.ceil else ms.floor) else nan
  Work.new { shape := .object, name := "Date", items := #[.float ms] }

def callDate (name : String) (this : Value) : Work Value := do
  let ms := match (← Work.thing? this).bind dateOf? with
    | some ms => ms
    | none => nan
  let n := wholePart? ms
  let ask (f : Int → Int) : Value := match n with
    | some n => numberOfInt (f n)
    | none => .float nan
  let day (n : Int) : Int := n.fdiv 86400000
  match name with
  | "getTime" | "valueOf" => return .float ms
  | "toISOString" | "toJSON" =>
    match isoDate? ms with
    | some s => return .str s
    | none => if name = "toJSON" then return .nothing else rangeError "Invalid time value"
  | "getTimezoneOffset" => return .float 0
  | "getFullYear" | "getUTCFullYear" => return ask fun n => (civil (day n)).1
  | "getMonth" | "getUTCMonth" => return ask fun n => (civil (day n)).2.1 - 1
  | "getDate" | "getUTCDate" => return ask fun n => (civil (day n)).2.2
  | "getDay" | "getUTCDay" => return ask fun n => (day n + 4).fmod 7
  | "getHours" | "getUTCHours" => return ask fun n => (n.fdiv 3600000).fmod 24
  | "getMinutes" | "getUTCMinutes" => return ask fun n => (n.fdiv 60000).fmod 60
  | "getSeconds" | "getUTCSeconds" => return ask fun n => (n.fdiv 1000).fmod 60
  | "getMilliseconds" | "getUTCMilliseconds" => return ask fun n => n.fmod 1000
  | _ => return .str (← textOf this)

def callDates (name : String) (args : List Value) : Work Value := do
  match name with
  | "now" => return .float (← nowMs)
  | "UTC" => return .float (dateFrom (← args.mapM toNumber))
  | _ => return .float (parseDate (← textOf (arg args 0)))

end ScriptHost.Braced
