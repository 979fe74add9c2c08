import ScriptHost.Snippet.State

/-!
The kinds of values and of failures in a script whose blocks are indented, what keys are compared by,
and how failures are raised.
-/
namespace ScriptHost.Indented

open Snippet

def failureKinds : List (String × String) :=
  [("BaseException", "object"), ("Exception", "BaseException"), ("SystemExit", "BaseException"),
    ("KeyboardInterrupt", "BaseException"), ("GeneratorExit", "BaseException"),
    ("ArithmeticError", "Exception"), ("ZeroDivisionError", "ArithmeticError"),
    ("OverflowError", "ArithmeticError"), ("FloatingPointError", "ArithmeticError"),
    ("AssertionError", "Exception"), ("AttributeError", "Exception"), ("BufferError", "Exception"),
    ("EOFError", "Exception"), ("ImportError", "Exception"), ("ModuleNotFoundError", "ImportError"),
    ("LookupError", "Exception"), ("IndexError", "LookupError"), ("KeyError", "LookupError"),
    ("MemoryError", "Exception"), ("NameError", "Exception"), ("UnboundLocalError", "NameError"),
    ("OSError", "Exception"), ("FileNotFoundError", "OSError"), ("PermissionError", "OSError"),
    ("FileExistsError", "OSError"), ("IsADirectoryError", "OSError"),
    ("NotADirectoryError", "OSError"), ("TimeoutError", "OSError"), ("ConnectionError", "OSError"),
    ("BrokenPipeError", "ConnectionError"), ("ConnectionRefusedError", "ConnectionError"),
    ("RuntimeError", "Exception"), ("NotImplementedError", "RuntimeError"),
    ("RecursionError", "RuntimeError"), ("StopIteration", "Exception"),
    ("StopAsyncIteration", "Exception"), ("SyntaxError", "Exception"),
    ("IndentationError", "SyntaxError"), ("TabError", "IndentationError"),
    ("SystemError", "Exception"), ("TypeError", "Exception"), ("ValueError", "Exception"),
    ("UnicodeError", "ValueError"), ("UnicodeDecodeError", "UnicodeError"),
    ("UnicodeEncodeError", "UnicodeError"), ("json.JSONDecodeError", "ValueError"),
    ("Warning", "Exception"), ("UserWarning", "Warning"), ("DeprecationWarning", "Warning"),
    ("RuntimeWarning", "Warning")]

def isFailureKind (n : String) : Bool := failureKinds.any (·.1 == n)

def typeNames : List String :=
  ["object", "int", "float", "bool", "str", "bytes", "list", "tuple", "dict", "set", "frozenset",
    "type", "range", "enumerate", "zip", "map", "filter", "reversed", "property", "staticmethod",
    "classmethod", "bytearray", "complex", "slice", "super"]

def namelessTypes : List String :=
  ["NoneType", "function", "method", "builtin_function_or_method", "generator", "module", "coroutine",
    "list_iterator", "dict_keys", "dict_values", "dict_items", "re.Pattern", "re.Match",
    "_io.TextIOWrapper", "collections.Counter", "collections.defaultdict", "collections.OrderedDict",
    "collections.deque", "ellipsis"]

def isType (n : String) : Bool := typeNames.contains n || isFailureKind n || namelessTypes.contains n

def isUnder : Nat → String → String → Bool
  | 0, _, _ => false
  | fuel + 1, a, b =>
    a == b || b == "object" || (a == "bool" && b == "int")
      || (match failureKinds.find? (·.1 == a) with
        | some (_, p) => isUnder fuel p b
        | none => a == "collections.defaultdict" && b == "dict" || a == "collections.Counter" && b == "dict"
            || a == "collections.OrderedDict" && b == "dict")

def isUnderKind (a b : String) : Bool := isUnder 12 a b

def shortName (n : String) : String := (n.splitOn ".").getLastD n

def shapeName (t : Thing) : String :=
  match t.shape with
  | .list => if t.name.isEmpty then "list" else t.name
  | .tuple => if t.name.isEmpty then "tuple" else t.name
  | .set => if t.name.isEmpty then "set" else t.name
  | .dict => if t.name.isEmpty then "dict" else t.name
  | .func => if t.parent.isAbsent then "function" else "method"
  | .classOf => "type"
  | .generator => "generator"
  | .iterator => if t.name.isEmpty then "list_iterator" else t.name
  | .module => "module"
  | .pattern => "re.Pattern"
  | .file => "_io.TextIOWrapper"
  | .accessor => "property"
  | .promise => "coroutine"
  | .object => if t.name.isEmpty then "object" else t.name
  | .instanceOf | .error => "object"

def kindOf (v : Value) : Work Value := do
  match v with
  | .absent | .undefined | .nothing => return .native "NoneType"
  | .truth _ => return .native "bool"
  | .int _ => return .native "int"
  | .float _ => return .native "float"
  | .str _ => return .native "str"
  | .bytes _ => return .native "bytes"
  | .native n => return .native (if isType n then "type" else "builtin_function_or_method")
  | .bound .. => return .native "builtin_function_or_method"
  | .ref id =>
    let t ← Work.thing id
    match t.shape, t.parent with
    | .instanceOf, p => return p
    | _, _ => return .native (shapeName t)

def kindName (kind : Value) : Work String := do
  match kind with
  | .native n => return shortName n
  | .ref id => return (← Work.thing id).name
  | _ => return "object"

def typeName (v : Value) : Work String := do kindName (← kindOf v)

def kindUnder : Nat → Value → Value → Work Bool
  | 0, _, _ => return false
  | fuel + 1, a, b => do
    match a, b with
    | .native x, .native y => return isUnderKind x y
    | .ref x, b =>
      if b.same (.ref x) || b.same (.native "object") then return true
      for p in (← Work.thing x).items do
        if ← kindUnder fuel p b then return true
      return false
    | _, _ => return false

def isInstance (v kind : Value) : Work Bool := do kindUnder 20 (← kindOf v) kind

/-! ## Failures -/

def newFailure (kind : Value) (args : List Value) : Work Value :=
  Work.new { shape := .instanceOf, parent := kind, items := args.toArray }

def raise {α : Type} (kind message : String) : Work α := do
  throw (.raise (← newFailure (.native kind) [.str message]))

def typeError {α : Type} (message : String) : Work α := raise "TypeError" message

def valueError {α : Type} (message : String) : Work α := raise "ValueError" message

def isFailure (v : Value) : Work Bool := isInstance v (.native "BaseException")

/-! ## Members -/

/-- What a class or the classes it goes back to know under a name. -/
def classMember : Nat → Value → String → Work (Option Value)
  | 0, _, _ => return none
  | fuel + 1, c, name => do
    match c with
    | .ref id =>
      let t ← Work.thing id
      match t.member? name with
      | some v => return some v
      | none =>
        for p in t.items do
          if let some v ← classMember fuel p name then return some v
        return none
    | _ => return none

def special (v : Value) (name : String) : Work (Option Value) := do
  match v with
  | .ref id =>
    let t ← Work.thing id
    if t.shape != .instanceOf then return none
    match ← classMember 20 t.parent name with
    | some (.ref f) =>
      let g ← Work.thing f
      return some (← Work.new { g with parent := v })
    | m => return m
  | _ => return none

/-! ## Keys -/

/-- What a value is compared by when it is a key. -/
def markWith : Nat → Value → Work String
  | 0, _ => return ""
  | fuel + 1, v => do
    match v with
    | .absent | .undefined | .nothing => return "n"
    | .truth b => return if b then "i1" else "i0"
    | .int n => return "i" ++ toString n
    | .float x =>
      match Decimal.integer? x with
      | some n => return "i" ++ toString n
      | none => return "f" ++ toString x.toBits
    | .str s => return "s" ++ s
    | .bytes b => return "b" ++ String.ofList (b.map fun x => Char.ofNat x.toNat)
    | .native n => return "N" ++ n
    | .bound n self => return "B" ++ n ++ (← markWith fuel self)
    | .ref id =>
      let t ← Work.thing id
      match t.shape with
      | .list | .dict => typeError ("unhashable type: '" ++ shapeName t ++ "'")
      | .set =>
        if t.name != "frozenset" then typeError "unhashable type: 'set'"
        return "F" ++ ",".intercalate (t.entries.toList.map (·.mark))
      | .tuple =>
        let marks ← t.items.toList.mapM (markWith fuel)
        return "t(" ++ ",".intercalate (marks.map fun m => toString m.length ++ m) ++ ")"
      | _ => return "r" ++ toString id

def mark (v : Value) : Work String := markWith 40 v

def newDict (pairs : List (Value × Value)) : Work Value := do
  let mut entries : Array Entry := #[]
  for (k, v) in pairs do
    entries := putEntry entries (← mark k) k v
  Work.new { shape := .dict, entries }

def newSet (vs : List Value) : Work Value := do
  let mut entries : Array Entry := #[]
  for v in vs do
    entries := putEntry entries (← mark v) v .absent
  Work.new { shape := .set, entries }

def keysOf (t : Thing) : List Value := t.entries.toList.map (·.key)

def valuesAtHand (v : Value) : Work (Option (List Value)) := do
  match v with
  | .str s => return some (s.toList.map fun c => .str c.toString)
  | .bytes b => return some (b.map fun x => .int x.toNat)
  | .ref id =>
    let t ← Work.thing id
    match t.shape with
    | .list | .tuple => return some t.items.toList
    | .set | .dict => return some (keysOf t)
    | .iterator =>
      Work.modifyThing id fun t => { t with items := #[] }
      return some t.items.toList
    | _ => return none
  | _ => return none

/-- How a loop goes through a value. -/
def sourceOf (v : Value) : Work Source := do
  match v with
  | .ref id =>
    let t ← Work.thing id
    match t.shape with
    | .list => return .list id 0
    | .generator => return .generator id
    | .iterator => return .generator id
    | .object =>
      match t.name, t.items.toList with
      | "range", [.int i, .int stop, .int step] =>
        let n := if 0 < step then (stop - i + step - 1) / step else (i - stop + -step - 1) / -step
        return .range i step n.toNat
      | _, _ => typeError ("'" ++ (← typeName v) ++ "' object is not iterable")
    | .file =>
      let w ← get
      let text := Bytes.lossy w.stdin
      set { w with stdin := [] }
      let pieces := text.splitOn "\n"
      let whole := pieces.dropLast.map fun l => Value.str (l ++ "\n")
      let last := pieces.getLastD ""
      return .items (whole ++ if last.isEmpty then [] else [.str last])
    | .instanceOf =>
      match ← special v "__iter__" with
      | some f => throw (.call f .absent [] [])
      | none => typeError ("'" ++ (← typeName v) ++ "' object is not iterable")
    | _ =>
      match ← valuesAtHand v with
      | some vs => return .items vs
      | none => typeError ("'" ++ (← typeName v) ++ "' object is not iterable")
  | v =>
    match ← valuesAtHand v with
    | some vs => return .items vs
    | none => typeError ("'" ++ (← typeName v) ++ "' object is not iterable")

end ScriptHost.Indented
