import ScriptHost.Chunk.Value
import ScriptHost.Json.Value

/-!
Values of a chunk from JSON and back. What JSON cannot say is refused with a reason.
-/
namespace ScriptHost.Chunk

mutual

/-- The value of a JSON value. Numbers that no integer can hold are floating-point ones. -/
def Value.ofJson (h : Heap) : Json → Value × Heap
  | .null => (.null, h)
  | .bool b => (.bool b, h)
  | .int n => (if fitsInt n then .int n else .float (toFloat n), h)
  | .float x => (.float x, h)
  | .str s => (.text s, h)
  | .arr items =>
    let (t, h) := itemsOfJson h { isList := true } items
    let (id, h) := h.newTable t
    (.table id, h)
  | .obj members =>
    let (t, h) := membersOfJson h {} members
    let (id, h) := h.newTable t
    (.table id, h)

def itemsOfJson (h : Heap) (t : Table) : List Json → Table × Heap
  | [] => (t, h)
  | j :: js =>
    let (v, h) := Value.ofJson h j
    itemsOfJson h (t.set (.int (t.items.size + 1)) v) js

def membersOfJson (h : Heap) (t : Table) : List (String × Json) → Table × Heap
  | [] => (t, h)
  | (k, j) :: ms =>
    let (v, h) := Value.ofJson h j
    membersOfJson h (t.set (.text k) v) ms

end

inductive ExchangeFault where
  | notText
  | notKey (shown : String) (first : Bool)
  | keyNotText (first : Bool)
  | unsupported (typeName : String)
  | cycle
  deriving DecidableEq, Repr

namespace ExchangeFault

def reason : ExchangeFault → String
  | .notText => "invalid type: byte array, expected any valid JSON value"
  | .notKey shown first =>
    "invalid type: " ++ shown ++ ", expected " ++ (if first then "a string key" else "a string")
  | .keyNotText true => "invalid type: byte array, expected a string key"
  | .keyNotText false => "invalid value: byte array, expected a string"
  | .unsupported typeName => "unsupported value type `" ++ typeName ++ "`"
  | .cycle => "recursive table detected"

def message (f : ExchangeFault) : String := "deserialize error: " ++ f.reason

end ExchangeFault

def keyLayout : Decimal.Layout := ⟨-400, 400, true, "e", false, 1⟩

def keyFloat (x : Float) : String :=
  match Decimal.kind x with
  | .nan => "NaN"
  | .infinite negative => if negative then "-inf" else "inf"
  | .finite negative v => (Decimal.shortest negative v).render keyLayout

/-- The key of a member; the first key of a table is judged a little differently. -/
def keyText (first : Bool) : Value → Except ExchangeFault String
  | .str s =>
    match Text.Utf8.text? s with
    | some k => .ok k
    | none => .error (.keyNotText first)
  | .bool b => .error (.notKey ("boolean `" ++ (if b then "true" else "false") ++ "`") first)
  | .number (.int n) => .error (.notKey ("integer `" ++ toString n ++ "`") first)
  | .number (.float x) =>
    .error (.notKey ("floating point `" ++ keyFloat x ++ "`") first)
  | .nil | .null => .error (.notKey "unit value" first)
  | .table _ => .error (.notKey "map" first)
  | .closure _ | .builtin _ => .error (.unsupported "function")

/-- The JSON value of a value. Tables with a length, and those that came from lists, are lists up to
the first value that is missing; the others are objects. `path` names the tables around the value,
and each of them is left only once, so there are no more of them than tables. -/
def toJson (h : Heap) : Nat → List Nat → Value → Except ExchangeFault Json
  | 0, _, _ => .error .cycle
  | fuel + 1, path, v =>
    match v with
    | .nil | .null => .ok .null
    | .bool b => .ok (.bool b)
    | .number (.int n) => .ok (.int n)
    | .number (.float x) => .ok (if x.isFinite then .float x else .null)
    | .str s =>
      match Text.Utf8.text? s with
      | some t => .ok (.str t)
      | none => .error .notText
    | .closure _ | .builtin _ => .error (.unsupported "function")
    | .table id =>
      if path.contains id then .error .cycle
      else
        let t := h.table id
        if t.isList || 0 < t.length then do
          return .arr (← t.sequence.mapM (toJson h fuel (id :: path)))
        else do
          let members ← t.pairs.zipIdx.mapM fun ((k, w), i) => do
            let key ← keyText (i = 0) k
            return (key, ← toJson h fuel (id :: path) w)
          return Json.object members

def Value.toJson (h : Heap) (v : Value) : Except ExchangeFault Json :=
  Chunk.toJson h (h.tables.size + 1) [] v

end ScriptHost.Chunk
