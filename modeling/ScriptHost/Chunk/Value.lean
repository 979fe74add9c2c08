import ScriptHost.Chunk.Tree

/-!
The values of a running chunk. Tables, functions and variables live in a heap and are named by
number; two values that name the same one are the same value.
-/
namespace ScriptHost.Chunk

inductive Builtin where
  | log
  | error | assert | pcall | tostring | tonumber | type
  | ipairs | ipairsNext | pairs | next | select | rawEqual | rawLen | rawGet | rawSet
  | format | len | sub | upper | lower | rep | reverse | byte | char
  | insert | remove | concat | unpack
  | floor | ceil | abs | max | min | mathType | toInteger | sqrt
  deriving DecidableEq, Repr

inductive Value where
  | nil
  | bool (b : Bool)
  | number (n : Number)
  | str (s : Bytes)
  /-- What JSON's `null` becomes; it is neither `nil` nor false. -/
  | null
  | table (id : Nat)
  | closure (id : Nat)
  | builtin (b : Builtin)

instance : Inhabited Value := ⟨.nil⟩

namespace Value

def int (n : Int) : Value := .number (.int n)

def float (x : Float) : Value := .number (.float x)

def text (s : String) : Value := .str (bytes s)

def truthy : Value → Bool
  | .nil | .bool false => false
  | _ => true

def isNil : Value → Bool
  | .nil => true
  | _ => false

def typeName : Value → String
  | .nil => "nil"
  | .bool _ => "boolean"
  | .number _ => "number"
  | .str _ => "string"
  | .null => "userdata"
  | .table _ => "table"
  | .closure _ | .builtin _ => "function"

end Value

def Number.equal : Number → Number → Bool
  | .int a, .int b => a == b
  | .float x, .float y => x == y
  | .int a, .float y => Decimal.intEqual a y
  | .float x, .int b => Decimal.intEqual b x

def Value.equal : Value → Value → Bool
  | .nil, .nil | .null, .null => true
  | .bool a, .bool b => a == b
  | .number a, .number b => a.equal b
  | .str a, .str b => a == b
  | .table a, .table b => a == b
  | .closure a, .closure b => a == b
  | .builtin a, .builtin b => a == b
  | _, _ => false

/-- A table keeps the values of the keys from one on in a row, the others behind it in the order in
which they came. -/
structure Table where
  items : Array Value := #[]
  others : List (Value × Value) := []
  /-- Whether the table stands for a JSON list even when it is empty. -/
  isList : Bool := false

namespace Table

def position? (t : Table) : Value → Option Nat
  | .number n =>
    match n.int? with
    | some i => if 1 ≤ i && i ≤ t.items.size then some (i.toNat - 1) else none
    | none => none
  | _ => none

def get (t : Table) (key : Value) : Value :=
  match t.position? key with
  | some i => t.items.getD i .nil
  | none => ((t.others.find? fun (k, _) => k.equal key).map (·.2)).getD .nil

def absorb : Nat → Table → Table
  | 0, t => t
  | fuel + 1, t =>
    let next := Value.int (t.items.size + 1)
    match t.others.find? fun (k, _) => k.equal next with
    | some (_, v) =>
      absorb fuel { t with
        items := t.items.push v
        others := t.others.filter fun (k, _) => !k.equal next }
    | none => t

def normal : Value → Value
  | .number n => (n.int?.map Value.int).getD (.number n)
  | v => v

def setOther (key v : Value) : List (Value × Value) → List (Value × Value)
  | [] => if v.isNil then [] else [(key, v)]
  | (k, w) :: rest =>
    if k.equal key then (if v.isNil then rest else (k, v) :: rest)
    else (k, w) :: setOther key v rest

def set (t : Table) (key v : Value) : Table :=
  match t.position? key with
  | some i => { t with items := t.items.setIfInBounds i v }
  | none =>
    if !v.isNil && key.equal (.int (t.items.size + 1)) then
      absorb t.others.length { t with
        items := t.items.push v
        others := t.others.filter fun (k, _) => !k.equal key }
    else { t with others := setOther (normal key) v t.others }

/-- A place in the row with a value in front of one without; `i` has a value or is zero. -/
def border (t : Table) : Nat → Nat → Nat → Nat
  | 0, i, _ => i
  | fuel + 1, i, j =>
    if j ≤ i + 1 then i
    else
      let m := (i + j) / 2
      if (t.items.getD (m - 1) .nil).isNil then border t fuel i m else border t fuel m j

def length (t : Table) : Nat :=
  let n := t.items.size
  if n = 0 then 0
  else if !(t.items.getD (n - 1) .nil).isNil then n
  else if 2 ≤ n && !(t.items.getD (n - 2) .nil).isNil then n - 1
  else t.border n 0 n

def pairs (t : Table) : List (Value × Value) :=
  let row := t.items.toList.zipIdx.map fun (v, i) => (Value.int (i + 1), v)
  (row.filter fun (_, v) => !v.isNil) ++ t.others

def sequence (t : Table) : List Value := t.items.toList.takeWhile fun v => !v.isNil

end Table

structure Binding where
  name : Bytes
  cell : Nat
  level : Nat

abbrev Env := List Binding

structure Closure where
  func : Func
  env : Env
  level : Nat

instance : Inhabited Closure := ⟨⟨default, [], 0⟩⟩

structure Heap where
  cells : Array Value
  tables : Array Table
  closures : Array Closure

namespace Heap

def globals : Nat := 0

def strings : Nat := 1

def newTable (t : Table) (h : Heap) : Nat × Heap :=
  (h.tables.size, { h with tables := h.tables.push t })

def table (id : Nat) (h : Heap) : Table := h.tables.getD id {}

def setTable (id : Nat) (t : Table) (h : Heap) : Heap :=
  { h with tables := h.tables.setIfInBounds id t }

def newCell (v : Value) (h : Heap) : Nat × Heap :=
  (h.cells.size, { h with cells := h.cells.push v })

def cell (id : Nat) (h : Heap) : Value := h.cells.getD id .nil

def setCell (id : Nat) (v : Value) (h : Heap) : Heap :=
  { h with cells := h.cells.setIfInBounds id v }

def newClosure (c : Closure) (h : Heap) : Nat × Heap :=
  (h.closures.size, { h with closures := h.closures.push c })

end Heap

end ScriptHost.Chunk
