import ScriptHost.Braced.Promises

/-!
Things that keep values under keys of any kind, and how one goes through what a value holds.
-/
namespace ScriptHost.Braced

open Snippet

/-- Keys that are equal have the same mark. -/
def markOf : Value → String
  | .absent | .undefined => "u"
  | .nothing => "n"
  | .truth b => if b then "true" else "false"
  | .int n => "i" ++ toString n
  | .float x => if x.isNaN then "nan" else if x == 0 then "0" else "f" ++ toString x.toBits
  | .str s => "s" ++ s
  | .bytes _ => "b"
  | .native n => "l" ++ n
  | .bound n v => "m" ++ n ++ " " ++ markOf v
  | .ref id => "r" ++ toString id

def entryPairs (es : List Entry) : Work (List Value) := es.mapM fun e => newPair e.key e.value

def readAll : Work Bytes := do
  let b := (← get).stdin
  modify fun w => { w with stdin := [] }
  return b

def notIterable {α : Type} (v : Value) : Work α := do
  let shown ← match v with
    | .str _ | .float _ | .truth _ | .int _ => do pure ((← typeOf v) ++ " " ++ (← textOf v))
    | v => typeOf' v
  typeError (shown ++ " is not iterable")
where
  typeOf' (v : Value) : Work String := do
    if isNullish v then return shownNullish v
    typeOf v

def sourceOf (keys : Bool) (v : Value) : Work Source := do
  if keys then
    if isNullish v then return .items []
    return .items ((← keysOf v).map .str)
  match v with
  | .str s => return .items (s.toList.map fun c => .str c.toString)
  | .bytes b => return .items (b.map fun x => numberOf x.toNat)
  | .native "process.stdin" =>
    let b ← readAll
    return .items (if b.isEmpty then [] else [.bytes b])
  | .native "readline.Interface" =>
    let lines := (Bytes.lossy (← readAll)).splitOn "\n"
    return .items ((if lines.getLast? == some "" then lines.dropLast else lines).map .str)
  | .ref id =>
    let t ← Work.thing id
    match t.shape with
    | .list => return .list id 0
    | .generator | .iterator => return .generator id
    | .set => return .items (t.entries.toList.map (·.key))
    | .dict => return .items (← entryPairs t.entries.toList)
    | _ =>
      if let some f ← rawMember? v "next" then
        if ← isFunction f then
          throw (.call ((Prelude.function? "iterated").getD .undefined) .undefined [v] [])
      for key in ["@@iterator", "@@asyncIterator"] do
        if let some f ← rawMember? v key then
          if ← isFunction f then throw (.call f v [] [])
      notIterable v
  | v => notIterable v

def drawn (v : Value) : Work Value := do
  let isOwn ← match ← Work.shape? v with
    | some .object | some .instanceOf => pure true
    | _ => pure false
  if isOwn then
    if let some f ← rawMember? v "next" then
      if ← isFunction f then
        throw (.callThen ((Prelude.function? "iterated").getD .undefined) .undefined [v] "listed" [])
    if let some f ← rawMember? v "@@iterator" then throw (.callThen f v [] "listed" [])
  throw (.draw (← sourceOf false v) (.native "inner.same") .undefined [] [])

def listOf (v : Value) : Work Value := do
  match v with
  | .ref id =>
    let t ← Work.thing id
    match t.shape with
    | .list => Work.newList (t.items.toList.map filled)
    | .object | .instanceOf =>
      let own ← ["next", "@@iterator"].anyM fun k => do return (← rawMember? v k).isSome
      if own then drawn v else Work.newList (← itemsOf v)
    | _ => drawn v
  | .float _ | .truth _ | .int _ => Work.newList []
  | v => drawn v

def callKeyed (kind name : String) (this : Value) (args : List Value) : Work Value := do
  let a := arg args 0
  let mark := markOf a
  match this with
  | .ref id =>
    let t ← Work.thing id
    if t.shape != .dict && t.shape != .set then
      typeError ("Method " ++ kind ++ ".prototype." ++ name ++ " called on incompatible receiver " ++ (← textOf this))
    match name with
    | "get" => return ((findEntry t.entries mark).map (·.value)).getD .undefined
    | "has" => return .truth (findEntry t.entries mark).isSome
    | "set" =>
      Work.setThing id { t with entries := putEntry t.entries mark a (arg args 1) }
      return this
    | "add" =>
      if (findEntry t.entries mark).isNone then
        Work.setThing id { t with entries := t.entries.push ⟨mark, a, a⟩ }
      return this
    | "delete" =>
      let there := (findEntry t.entries mark).isSome
      if there then Work.setThing id { t with entries := dropEntry t.entries mark }
      return .truth there
    | "clear" =>
      Work.setThing id { t with entries := #[] }
      return .undefined
    | "keys" => newIterator (kind ++ " Iterator") (t.entries.toList.map (·.key))
    | "values" => newIterator (kind ++ " Iterator") (t.entries.toList.map (·.value))
    | _ => newIterator (kind ++ " Entries") (← entryPairs t.entries.toList)
  | this => typeError ("Method " ++ kind ++ ".prototype." ++ name ++ " called on incompatible receiver " ++ (← textOf this))

end ScriptHost.Braced
