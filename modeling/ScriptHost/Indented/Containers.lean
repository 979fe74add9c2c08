import ScriptHost.Indented.Texts

/-!
What lists, dictionaries and sets can do, and how values are brought into their order.
-/
namespace ScriptHost.Indented

open Snippet

/-! ## Order -/

/-- Merges two ordered lists; of equal ones, those of the first list come first. -/
def mergeBy {α : Type} (less : α → α → Work Bool) : Nat → List α → List α → Work (List α)
  | fuel + 1, a :: as, b :: bs => do
    if ← less b a then return b :: (← mergeBy less fuel (a :: as) bs)
    else return a :: (← mergeBy less fuel as (b :: bs))
  | _, as, bs => return as ++ bs

def sortBy {α : Type} (less : α → α → Work Bool) : Nat → List α → Work (List α)
  | fuel + 1, a :: b :: r => do
    let all := a :: b :: r
    let half := all.length / 2
    let left ← sortBy less fuel (all.take half)
    let right ← sortBy less fuel (all.drop half)
    mergeBy less (all.length + 1) left right
  | _, all => return all

def sortPairs (pairs : List (Value × Value)) (backward : Bool) : Work (List Value) := do
  let less (a b : Value × Value) : Work Bool := ordered "<" a.1 b.1
  let pairs := if backward then pairs.reverse else pairs
  let sorted ← sortBy less 64 pairs
  let sorted := if backward then sorted.reverse else sorted
  return sorted.map (·.2)

def extreme (op : String) (pairs : List (Value × Value)) : Work (Option Value) := do
  match pairs with
  | [] => return none
  | p :: ps =>
    let best ← ps.foldlM (fun (b : Value × Value) a => do
      if ← ordered op a.1 b.1 then return a else return b) p
    return some best.2

/-! ## Lists -/

def listMethods : List String :=
  ["append", "extend", "insert", "remove", "pop", "clear", "index", "count", "sort", "reverse", "copy",
    "appendleft", "popleft", "extendleft", "rotate"]

def tupleMethods : List String := ["index", "count"]

def findValue (vs : List Value) (v : Value) : Work (Option Nat) := do
  for (x, i) in vs.zipIdx do
    if ← equalWith 1000 x v then return some i
  return none

def setItems (id : Nat) (vs : List Value) : Work Value := do
  Work.modifyThing id fun t => { t with items := vs.toArray }
  return .nothing

def insertPlace (n : Int) (size : Nat) : Nat :=
  (max 0 (min (size : Int) (if n < 0 then n + size else n))).toNat

def callList (name : String) (id : Nat) (args : List Value) (named : List (String × Value)) :
    Work Value := do
  let t ← Work.thing id
  let vs := t.items.toList
  let self := Value.ref id
  match name with
  | "append" =>
    let xs ← given "list.append()" ["object"] 1 args named
    Work.modifyThing id fun t => { t with items := t.items.push (arg xs 0) }
    return .nothing
  | "appendleft" => setItems id (args ++ vs)
  | "popleft" =>
    match vs with
    | v :: rest =>
      let _ ← setItems id rest
      return v
    | [] => raise "IndexError" "pop from an empty deque"
  | "extend" =>
    let (more, _) ← listed (.bound "list.extend" self) args named
    Work.modifyThing id fun t => { t with items := t.items ++ more.toArray }
    return .nothing
  | "extendleft" =>
    let (more, _) ← listed (.bound "list.extendleft" self) args named
    setItems id (more.reverse ++ vs)
  | "extended" =>
    let (more, _) ← listed (.bound "list.extended" self) args named
    Work.modifyThing id fun t => { t with items := t.items ++ more.toArray }
    return self
  | "rotate" =>
    let n ← intOr 1 (arg args 0)
    if vs.isEmpty then return .nothing
    let k := (n % (vs.length : Int)).toNat
    setItems id (vs.drop (vs.length - k) ++ vs.take (vs.length - k))
  | "insert" =>
    let xs ← given "insert" ["index", "object"] 2 args named
    let i := insertPlace (← needInt (arg xs 0)) vs.length
    setItems id (vs.take i ++ arg xs 1 :: vs.drop i)
  | "remove" =>
    let xs ← given "list.remove()" ["value"] 1 args named
    match ← findValue vs (arg xs 0) with
    | some i => setItems id (vs.take i ++ vs.drop (i + 1))
    | none => valueError "list.remove(x): x not in list"
  | "pop" =>
    let xs ← given "pop" ["index"] 0 args named
    if vs.isEmpty then
      raise "IndexError" (if t.name = "deque" then "pop from an empty deque" else "pop from empty list")
    match position? (← intOr (-1) (arg xs 0)) vs.length with
    | some i =>
      let _ ← setItems id (vs.take i ++ vs.drop (i + 1))
      return vs.getD i .nothing
    | none => raise "IndexError" "pop index out of range"
  | "clear" => setItems id []
  | "index" =>
    let xs ← given "index" ["value", "start", "stop"] 1 args named
    let i := insertPlace (← intOr 0 (arg xs 1)) vs.length
    let j := insertPlace (← intOr vs.length (arg xs 2)) vs.length
    match ← findValue ((vs.take j).drop i) (arg xs 0) with
    | some k => return .int (k + i)
    | none =>
      if t.shape == .tuple then valueError "tuple.index(x): x not in tuple"
      else valueError ((← reprText (arg xs 0)) ++ " is not in list")
  | "count" =>
    let xs ← given "count" ["value"] 1 args named
    let hits ← vs.filterM fun v => equalWith 1000 v (arg xs 0)
    return .int hits.length
  | "sort" =>
    if !args.isEmpty then typeError "sort() takes no positional arguments"
    let xs ← given "sort" ["key", "reverse"] 0 args named
    if isNone (arg xs 0) then
      setItems id (← sortPairs (vs.map fun v => (v, v)) (← truthy (arg xs 1)))
    else
      throw (.callThen (.native "mapped") .absent [arg xs 0, ← newList vs] "sort" [self, arg xs 1])
  | "reverse" => setItems id vs.reverse
  | "copy" => Work.new { t with members := #[] }
  | _ => raise "AttributeError" ("'list' object has no attribute '" ++ name ++ "'")

/-! ## Dictionaries -/

def dictMethods : List String :=
  ["keys", "values", "items", "get", "setdefault", "update", "pop", "popitem", "clear", "copy", "fromkeys",
    "move_to_end", "most_common", "elements", "subtract", "total"]

def setEntriesOf (id : Nat) (entries : Array Entry) : Work Value := do
  Work.modifyThing id fun t => { t with entries }
  return .nothing

def pairOf (v : Value) (i : Nat) : Work (Value × Value) := do
  match ← valuesAtHand v with
  | some [k, x] => return (k, x)
  | some vs =>
    valueError ("dictionary update sequence element #" ++ toString i ++ " has length "
      ++ toString vs.length ++ "; 2 is required")
  | none =>
    typeError ("cannot convert dictionary update sequence element #" ++ toString i ++ " to a sequence")

def putPairs (entries : Array Entry) (pairs : List (Value × Value)) : Work (Array Entry) :=
  pairs.foldlM (fun es (p : Value × Value) => do return putEntry es (← mark p.1) p.1 p.2) entries

def pairsGiven (f : Value) (args : List Value) (named : List (String × Value)) :
    Work (List (Value × Value)) := do
  let byName := named.map fun (n, v) => ((.str n : Value), v)
  match args with
  | [] => return byName
  | v :: _ =>
    if isNone v then return byName
    let dict? ← match ← Work.thing? v with
      | some t => pure (if t.shape == .dict then some t else none)
      | none => pure none
    match dict? with
    | some t => return t.entries.toList.map (fun e => (e.key, e.value)) ++ byName
    | none =>
      let (vs, _) ← listed f args named
      return (← vs.zipIdx.mapM fun (v, i) => pairOf v i) ++ byName

def addCounts (entries : Array Entry) (pairs : List (Value × Int)) : Work (Array Entry) :=
  pairs.foldlM (fun es (p : Value × Int) => do
    let m ← mark p.1
    let old := match findEntry es m with
      | some e => (match e.value with
        | .int n => n
        | _ => 0)
      | none => 0
    return putEntry es m p.1 (.int (old + p.2))) entries

def countsGiven (f : Value) (args : List Value) (named : List (String × Value)) :
    Work (List (Value × Int)) := do
  let byName := named.map fun (n, v) => ((.str n : Value), (match v with
    | .int k => k
    | _ => 0))
  match args with
  | [] => return byName
  | v :: _ =>
    match ← Work.thing? v with
    | some t =>
      if t.shape == .dict then
        return t.entries.toList.map (fun e => (e.key, match e.value with
          | .int n => n
          | _ => 0)) ++ byName
    | none => pure ()
    let (vs, _) ← listed f args named
    return vs.map (fun v => (v, 1)) ++ byName

def callDict (name : String) (id : Nat) (args : List Value) (named : List (String × Value)) :
    Work Value := do
  let t ← Work.thing id
  let self := Value.ref id
  let es := t.entries.toList
  match name with
  | "keys" => Work.new { shape := .list, name := "dict_keys", items := (es.map (·.key)).toArray }
  | "values" => Work.new { shape := .list, name := "dict_values", items := (es.map (·.value)).toArray }
  | "items" =>
    let pairs ← es.mapM fun e => newTuple [e.key, e.value]
    Work.new { shape := .list, name := "dict_items", items := pairs.toArray }
  | "get" =>
    let xs ← given "get" ["key", "default"] 1 args named
    match findEntry t.entries (← mark (arg xs 0)) with
    | some e => return e.value
    | none => return if isNone (arg xs 1) then .nothing else arg xs 1
  | "setdefault" =>
    let xs ← given "setdefault" ["key", "default"] 1 args named
    let m ← mark (arg xs 0)
    match findEntry t.entries m with
    | some e => return e.value
    | none =>
      let v := if isNone (arg xs 1) then .nothing else arg xs 1
      Work.modifyThing id fun t => { t with entries := putEntry t.entries m (arg xs 0) v }
      return v
  | "update" =>
    if t.name == "collections.Counter" then
      setEntriesOf id (← addCounts t.entries (← countsGiven (.bound "dict.update" self) args named))
    else
      setEntriesOf id (← putPairs t.entries (← pairsGiven (.bound "dict.update" self) args named))
  | "subtract" =>
    let counts ← countsGiven (.bound "dict.subtract" self) args named
    setEntriesOf id (← addCounts t.entries (counts.map fun (v, n) => (v, -n)))
  | "pop" =>
    let xs ← given "pop" ["key", "default"] 1 args named
    let m ← mark (arg xs 0)
    match findEntry t.entries m, (arg xs 1).isAbsent with
    | some e, _ =>
      let _ ← setEntriesOf id (dropEntry t.entries m)
      return e.value
    | none, false => return arg xs 1
    | none, true => keyError (arg xs 0)
  | "popitem" =>
    match (if ← truthy (((named.find? (·.1 == "last")).map (·.2)).getD (.truth true)) then es.getLast? else es.head?) with
    | some e =>
      let _ ← setEntriesOf id (dropEntry t.entries e.mark)
      newTuple [e.key, e.value]
    | none => keyError (.str "popitem(): dictionary is empty")
  | "clear" => setEntriesOf id #[]
  | "copy" => Work.new t
  | "move_to_end" =>
    let xs ← given "move_to_end" ["key", "last"] 1 args named
    let m ← mark (arg xs 0)
    match findEntry t.entries m with
    | some e =>
      let rest := dropEntry t.entries m
      let atEnd ← if (arg xs 1).isAbsent then pure true else truthy (arg xs 1)
      setEntriesOf id (if atEnd then rest.push e else #[e] ++ rest)
    | none => keyError (arg xs 0)
  | "most_common" =>
    let sorted ← sortPairs (← es.mapM fun e => do return (e.value, ← newTuple [e.key, e.value])) true
    let n ← intOr es.length (arg args 0)
    newList (sorted.take n.toNat)
  | "elements" =>
    newIterator "itertools.chain" (es.flatMap fun e => match e.value with
      | .int n => List.replicate n.toNat e.key
      | _ => [])
  | "total" =>
    return .int ((es.filterMap fun e => match e.value with
      | .int n => some n
      | _ => none).foldl (· + ·) 0)
  | "fromkeys" =>
    let (vs, rest) ← listed (.bound "dict.fromkeys" self) args named
    let v := if rest.isEmpty then .nothing else arg rest 0
    newDict (vs.map fun k => (k, v))
  | _ => raise "AttributeError" ("'dict' object has no attribute '" ++ name ++ "'")

/-! ## Sets -/

def setMethods : List String :=
  ["add", "discard", "remove", "pop", "clear", "copy", "union", "intersection", "difference",
    "symmetric_difference", "update", "issubset", "issuperset", "isdisjoint", "intersection_update",
    "difference_update"]

def setOf (f : Value) (args : List Value) : Work (Array Entry) := do
  let (vs, _) ← listed f args []
  match ← newSet vs with
  | .ref id => return (← Work.thing id).entries
  | _ => return #[]

def callSet (name : String) (id : Nat) (args : List Value) : Work Value := do
  let t ← Work.thing id
  let self := Value.ref id
  let es := t.entries
  let join (op : String) (change : Bool) : Work Value := do
    match args with
    | [] => if change then return .nothing else Work.new t
    | _ =>
      let others ← setOf (.bound ("set." ++ name) self) (args.take 1)
      let result := setEntries op es others
      if change then setEntriesOf id result else Work.new { t with entries := result }
  match name with
  | "add" =>
    let v := arg args 0
    let m ← mark v
    if (findEntry es m).isSome then return .nothing
    Work.modifyThing id fun t => { t with entries := t.entries.push ⟨m, v, .absent⟩ }
    return .nothing
  | "discard" => setEntriesOf id (dropEntry es (← mark (arg args 0)))
  | "remove" =>
    let m ← mark (arg args 0)
    if (findEntry es m).isNone then keyError (arg args 0)
    setEntriesOf id (dropEntry es m)
  | "pop" =>
    match (setOrder (keysOf t)).head? with
    | some v =>
      let _ ← setEntriesOf id (dropEntry es (← mark v))
      return v
    | none => keyError (.str "pop from an empty set")
  | "clear" => setEntriesOf id #[]
  | "copy" => Work.new t
  | "union" => join "|" false
  | "intersection" => join "&" false
  | "difference" => join "-" false
  | "symmetric_difference" => join "^" false
  | "update" => join "|" true
  | "intersection_update" => join "&" true
  | "difference_update" => join "-" true
  | "issubset" =>
    let others ← setOf (.bound "set.issubset" self) args
    return .truth (es.all fun e => others.any fun f => e.mark == f.mark)
  | "issuperset" =>
    let others ← setOf (.bound "set.issuperset" self) args
    return .truth (others.all fun e => es.any fun f => e.mark == f.mark)
  | "isdisjoint" =>
    let others ← setOf (.bound "set.isdisjoint" self) args
    return .truth (!es.any fun e => others.any fun f => e.mark == f.mark)
  | _ => raise "AttributeError" ("'set' object has no attribute '" ++ name ++ "'")

end ScriptHost.Indented
