import ScriptHost.Braced.Texts

/-!
What is asked of a list, as far as no function of the script takes part in it.
-/
namespace ScriptHost.Braced

open Snippet

/-- Gaps are read as if nothing had been defined there. -/
def filled : Value → Value
  | .absent => .undefined
  | v => v

def itemsOf (v : Value) : Work (List Value) := do
  match v with
  | .str s => return (unitsOf s).toList.map fun u => .str (textOfUnits [u])
  | .bytes b => return b.map fun x => numberOf x.toNat
  | .ref id =>
    let t ← Work.thing id
    if t.shape == .list then return t.items.toList
    match ← rawMember? v "length" with
    | some n =>
      let n := intOfFloat (← toNumber n)
      (List.range (min n.toNat gapLimit)).mapM fun i => do
        return (← rawMember? v (toString i)).getD .undefined
    | none => return []
  | v =>
    if isNullish v then typeError "Cannot convert undefined or null to object"
    return []

def newIterator (name : String) (vs : List Value) : Work Value :=
  Work.new { shape := .iterator, name, items := vs.toArray }

def newPair (a b : Value) : Work Value := Work.newList [a, b]

def setItems (id : Nat) (vs : List Value) : Work Unit := do
  if isFrozen (← Work.thing id) then
    typeError "Cannot assign to read only property '0' of object '[object Array]'"
  Work.modifyThing id fun t => { t with items := vs.toArray }

def addItems (id : Nat) (vs : List Value) : Work Value := do
  let t ← Work.thing id
  let frozen := isFrozen t
  let size := t.items.size
  if frozen then
    typeError ("Cannot add property " ++ toString size ++ ", object is not extensible")
  Work.modifyThing id fun t => { t with items := vs.foldl Array.push t.items }
  return numberOf (size + vs.length)

def flattened : Nat → List Value → Work (List Value)
  | 0, vs => return vs
  | depth + 1, vs => do
    let parts ← vs.mapM fun v => do
      match ← Work.thing? v with
      | some t => if t.shape == .list then flattened depth t.items.toList else return [v]
      | none => return [v]
    return parts.flatten.filter fun v => !v.isAbsent

def spreadLists (vs : List Value) : Work (List Value) := do
  let parts ← vs.mapM fun v => do
    match ← Work.thing? v with
    | some t => return if t.shape == .list then t.items.toList else [v]
    | none => return [v]
  return parts.flatten

def anyOwnText (vs : List Value) : Work Bool :=
  vs.anyM fun v => do return (← ownConversion v ["toString"]).isSome

def joined (vs : List Value) (separator : String) : Work String := do
  let texts ← vs.mapM fun v => if isNullish v then pure "" else textOf v
  return separator.intercalate texts

/-- Items in the order of their texts; what is undefined stands last. -/
def sortedByText (vs : List Value) : Work (List Value) := do
  let there := vs.filter fun v => isGiven v
  let others := vs.filter fun v => !isGiven v
  let pairs ← there.mapM fun v => do return ((unitsOf (← textOf v)).toList, v)
  return (pairs.mergeSort fun a b => !unitsLess b.1 a.1).map (·.2) ++ others

def callList (name : String) (this : Value) (args : List Value) : Work Value := do
  let a := arg args 0
  match name, this with
  | "push", .ref id => return ← addItems id args
  | _, _ => pure ()
  let vs ← itemsOf this
  let size := vs.length
  let id := match this with
    | .ref id => id
    | _ => 0
  match name with
  | "pop" =>
    match vs.getLast? with
    | some v =>
      if isFrozen (← Work.thing id) then typeError "Cannot delete property of a frozen list"
      Work.modifyThing id fun t => { t with items := t.items.pop }
      return filled v
    | none => return .undefined
  | "shift" =>
    match vs with
    | v :: rest =>
      setItems id rest
      return filled v
    | [] => return .undefined
  | "unshift" =>
    setItems id (args ++ vs)
    return numberOf (size + args.length)
  | "slice" =>
    let i ← relative a size 0
    let j ← relative (arg args 1) size size
    Work.newList ((vs.take j).drop i)
  | "splice" | "toSpliced" =>
    let i ← relative a size 0
    let n ← if args.length < 2 then pure (if args.isEmpty then 0 else size - i)
      else do pure (min (← countOf (arg args 1) 0) (size - i))
    let rest := vs.take i ++ args.drop 2 ++ vs.drop (i + n)
    if name = "toSpliced" then return ← Work.newList rest
    setItems id rest
    Work.newList ((vs.drop i).take n)
  | "concat" => Work.newList (vs ++ (← spreadLists args))
  | "join" => return .str (← joined vs (← textOr "," a))
  | "toString" | "toLocaleString" => return .str (← joined vs ",")
  | "reverse" =>
    setItems id vs.reverse
    return this
  | "toReversed" => Work.newList (vs.reverse.map filled)
  | "with" =>
    let n := intOfFloat (← toNumber a)
    let i := if n < 0 then (size : Int) + n else n
    if i < 0 || (size : Int) ≤ i then rangeError "Invalid index : -1"
    Work.newList ((vs.set i.toNat (arg args 1)).map filled)
  | "indexOf" =>
    let i ← relative (arg args 1) size 0
    return placeValue (((vs.drop i).findIdx? (strictEqual a)).map (· + i))
  | "lastIndexOf" => return placeValue ((vs.reverse.findIdx? (strictEqual a)).map fun i => size - 1 - i)
  | "includes" =>
    let i ← relative (arg args 1) size 0
    return .truth ((vs.drop i).any fun v => sameKey a (filled v))
  | "fill" =>
    let i ← relative (arg args 1) size 0
    let j ← relative (arg args 2) size size
    setItems id (vs.take i ++ List.replicate (j - i) a ++ vs.drop (max i j))
    return this
  | "flat" =>
    let depth ← countOf a 1
    Work.newList (← flattened (min depth 1000) (vs.filter fun v => !v.isAbsent))
  | "keys" => newIterator "Array Iterator" ((List.range size).map numberOf)
  | "values" | "@@iterator" => newIterator "Array Iterator" (vs.map filled)
  | "entries" => newIterator "Array Iterator" (← vs.zipIdx.mapM fun (v, i) => newPair (numberOf i) (filled v))
  | "at" =>
    let n := intOfFloat (← toNumber a)
    let i := if n < 0 then (size : Int) + n else n
    return if i < 0 then .undefined else filled (vs.getD i.toNat .undefined)
  | "sort" =>
    setItems id (← sortedByText vs)
    return this
  | "toSorted" => Work.newList (← sortedByText (vs.map filled))
  | _ => typeError ("list." ++ name ++ " is not a function")

end ScriptHost.Braced
