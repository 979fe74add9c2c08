import ScriptHost.Indented.Containers
import ScriptHost.Indented.Modules

/-!
What stands behind the point: methods of the values of the library, members of instances and of their
classes, and the functions of modules.
-/
namespace ScriptHost.Indented

open Snippet

def generatorMethods : List String := ["send", "close", "throw", "__next__", "__iter__"]

def fileMethods : List String :=
  ["read", "readline", "readlines", "write", "writelines", "flush", "close", "fileno", "isatty", "reconfigure",
    "__iter__", "__enter__", "__exit__"]

def matchMethods : List String :=
  ["group", "groups", "groupdict", "start", "end", "span"]

def patternMethods : List String :=
  ["match", "search", "fullmatch", "findall", "finditer", "sub", "subn", "split"]

def intMethods : List String := ["bit_length", "to_bytes", "conjugate", "bit_count", "is_integer"]

def floatMethods : List String := ["is_integer", "hex", "conjugate"]

def methodsOf (kind : String) : List String :=
  match kind with
  | "str" => textMethods
  | "bytes" => byteMethods
  | "list" => listMethods.take 11
  | "collections.deque" => listMethods
  | "tuple" => tupleMethods
  | "dict" | "os.environ" | "collections.Counter" | "collections.defaultdict" | "collections.OrderedDict" => dictMethods
  | "set" | "frozenset" => setMethods
  | "int" | "bool" => intMethods
  | "float" => floatMethods
  | _ => []

def noAttribute {α : Type} (v : Value) (name : String) : Work α := do
  let owner ← match v with
    | .native n => pure (if isType n then "type object '" ++ shortName n ++ "'"
        else "'builtin_function_or_method' object")
    | .ref id =>
      let t ← Work.thing id
      pure (match t.shape with
        | .module => "module '" ++ t.name ++ "'"
        | .classOf => "type object '" ++ t.name ++ "'"
        | _ => "")
    | _ => pure ""
  let kind ← typeName v
  let owner := if owner.isEmpty then "'" ++ kind ++ "' object" else owner
  raise "AttributeError" (owner ++ " has no attribute '" ++ name ++ "'")

/-- A member of a class as it is seen from an object, or from the class itself. -/
def memberFor (m self kind : Value) : Work Value := do
  match m with
  | .ref f =>
    let t ← Work.thing f
    match t.shape with
    | .func =>
      if t.parent.isAbsent && !self.isAbsent then Work.new { t with parent := self } else return m
    | .accessor =>
      let g := t.items.getD 0 .nothing
      match t.name with
      | "staticmethod" => return g
      | "classmethod" =>
        match g with
        | .ref gid => Work.new { (← Work.thing gid) with parent := kind }
        | g => return g
      | _ => if self.isAbsent then return m else throw (.call g .absent [self] [])
    | _ => return m
  | m => return m

def failureMember (v : Value) (t : Thing) (name : String) : Work (Option Value) := do
  match name with
  | "args" => return some (← newTuple t.items.toList)
  | "with_traceback" | "add_note" => return some (.bound ("failure." ++ name) v)
  | "__traceback__" | "__cause__" | "__context__" => return some ((t.member? name).getD .nothing)
  | "code" =>
    if ← isInstance v (.native "SystemExit") then return some (t.items.getD 0 .nothing) else return none
  | "value" =>
    if ← isInstance v (.native "StopIteration") then return some (t.items.getD 0 .nothing) else return none
  | "errno" | "strerror" | "filename" =>
    if ← isInstance v (.native "OSError") then
      return some (t.items.getD (if name = "errno" then 0 else if name = "strerror" then 1 else 2) .nothing)
    else return none
  | _ => return none

def classAttr (v : Value) (id : Nat) (name : String) : Work Value := do
  let t ← Work.thing id
  match name with
  | "__name__" | "__qualname__" => return .str t.name
  | "__module__" => return .str "__main__"
  | "__bases__" =>
    newTuple (if t.items.isEmpty then [.native "object"] else t.items.toList)
  | "__class__" => return .native "type"
  | _ =>
    match ← classMember 20 v name with
    | some m => memberFor m .absent v
    | none =>
      match name with
      | "__init__" => return .native "plainMaker"
      | "__dict__" => newDict (t.members.toList.map fun e => (.str e.mark, e.value))
      | "__doc__" => return .nothing
      | _ => noAttribute v name

def instanceAttr (v : Value) (t : Thing) (name : String) : Work Value := do
  let shared ← classMember 20 t.parent name
  let accessor? ← match shared with
    | some m => pure ((← Work.shape? m) == some .accessor)
    | none => pure false
  if accessor? then
    if let some m := shared then return ← memberFor m v t.parent
  if let some m := t.member? name then return m
  if let some m := shared then return ← memberFor m v t.parent
  match name with
  | "__class__" => return t.parent
  | "__dict__" => newDict (t.members.toList.map fun e => (.str e.mark, e.value))
  | "__doc__" => return .nothing
  | "__init__" => return .bound "plainMaker" v
  | _ =>
    if ← isFailure v then
      if let some m ← failureMember v t name then return m
    match ← special v "__getattr__" with
    | some f => throw (.call f .absent [.str name] [])
    | none => noAttribute v name

def superAttr (kind self : Value) (name : String) : Work Value := do
  let parents := match ← Work.thing? kind with
    | some t => t.items.toList
    | none => []
  for p in parents do
    if let some m ← classMember 20 p name then return ← memberFor m self kind
  match name with
  | "__init__" => return .bound "plainMaker" self
  | "__str__" | "__repr__" => return .bound ("plain" ++ name) self
  | "__setattr__" => return .bound "plain__setattr__" self
  | _ => noAttribute self name

def funcAttr (v : Value) (t : Thing) (name : String) : Work Value := do
  if let some m := t.member? name then return m
  match name with
  | "__name__" | "__qualname__" => return .str t.name
  | "__doc__" => return .nothing
  | "__module__" => return .str "__main__"
  | "__self__" => if t.parent.isAbsent then noAttribute v name else return t.parent
  | "__dict__" => newDict []
  | _ => noAttribute v name

def objectAttr (v : Value) (t : Thing) (name : String) : Work Value := do
  match t.name with
  | "super" => superAttr (t.items.getD 0 .nothing) (t.items.getD 1 .nothing) name
  | "re.Match" =>
    if matchMethods.contains name then return .bound ("match." ++ name) v
    match t.member? name with
    | some m => return m
    | none => noAttribute v name
  | "range" =>
    match name with
    | "start" => return t.items.getD 0 .nothing
    | "stop" => return t.items.getD 1 .nothing
    | "step" => return t.items.getD 2 .nothing
    | _ => noAttribute v name
  | "logger" => return .native ("logging." ++ name)
  | _ =>
    match t.member? name with
    | some m => return m
    | none => noAttribute v name

def thingAttr (v : Value) (id : Nat) (name : String) : Work Value := do
  let t ← Work.thing id
  match t.shape with
  | .instanceOf => instanceAttr v t name
  | .classOf => classAttr v id name
  | .module =>
    match ← moduleMember? t.name name with
    | some m => return m
    | none => if name = "__name__" then return .str t.name else noAttribute v name
  | .func => funcAttr v t name
  | .generator =>
    if generatorMethods.contains name then return .bound ("generator." ++ name) v
    noAttribute v name
  | .iterator =>
    if name = "__next__" || name = "__iter__" then return .bound ("iterator." ++ name) v
    noAttribute v name
  | .file =>
    if fileMethods.contains name then return .bound ("file." ++ name) v
    match name with
    | "buffer" => newStream (t.name ++ " buffer")
    | "name" => return .str t.name
    | "encoding" => return .str "utf-8"
    | "closed" => return .truth false
    | _ => noAttribute v name
  | .pattern =>
    if patternMethods.contains name then return .bound ("pattern." ++ name) v
    if name = "pattern" then return .str t.name
    noAttribute v name
  | .accessor =>
    if name = "setter" || name = "getter" || name = "deleter" then return .bound ("property." ++ name) v
    noAttribute v name
  | .object => objectAttr v t name
  | _ =>
    let kind := match t.shape with
      | .list => if t.name = "deque" then "collections.deque" else "list"
      | _ => shapeName t
    if (methodsOf kind).contains name then
      let owner := if kind = "collections.deque" then "list"
        else match t.shape with
          | .tuple => "list"
          | .dict => "dict"
          | .set => "set"
          | _ => "list"
      return .bound (owner ++ "." ++ name) v
    match t.member? name with
    | some m => return m
    | none => noAttribute v name

def kindAttr (n name : String) (v : Value) : Work Value := do
  match name with
  | "__name__" | "__qualname__" => return .str (shortName n)
  | "__module__" => return .str "builtins"
  | "__doc__" => return .nothing
  | "__init__" => return .native "plainMaker"
  | "__class__" => kindOf v
  | _ =>
    if n = "dict" && name = "fromkeys" then return .native "fromkeys"
    if n = "str" && name = "maketrans" then return .bound "str.maketrans" (.str "")
    if n = "bytes" && name = "fromhex" then return .native "fromhex"
    if n = "itertools.chain" && name = "from_iterable" then return .native "chained"
    if n = "int" && name = "from_bytes" then return .native "fromBytes"
    if n = "object" && ["__setattr__", "__getattribute__", "__new__"].contains name then
      return .native ("plain" ++ name)
    if (methodsOf n).contains name then return .bound "unbound" (.str name)
    noAttribute v name

def getAttr (v : Value) (name : String) : Work Value := do
  match v with
  | .ref id =>
    if name = "__class__" then kindOf v else thingAttr v id name
  | .native n => kindAttr n name v
  | v =>
    let kind := match v with
      | .str _ => "str"
      | .bytes _ => "bytes"
      | .int _ => "int"
      | .truth _ => "bool"
      | .float _ => "float"
      | _ => ""
    if (methodsOf kind).contains name then
      return .bound ((if kind = "bool" then "int" else kind) ++ "." ++ name) v
    match v, name with
    | v, "__class__" => kindOf v
    | _, "__doc__" => return .nothing
    | .int n, "real" | .int n, "numerator" => return .int n
    | .int _, "imag" => return .int 0
    | .int _, "denominator" => return .int 1
    | .float x, "real" => return .float x
    | .bound n _, "__name__" => return .str (shortName n)
    | v, name =>
      if name.startsWith "__" && name.endsWith "__" then return .bound ("special." ++ name) v
      noAttribute v name

def setAttr (o : Value) (name : String) (x : Value) : Work Unit := do
  match o with
  | .ref id =>
    let t ← Work.thing id
    match t.shape with
    | .instanceOf =>
      if let some m ← classMember 20 t.parent name then
        if let some a ← Work.thing? m then
          if a.shape == .accessor && a.name == "property" then
            match a.items[1]? with
            | some g => throw (.call g .absent [o, x] [])
            | none =>
              raise "AttributeError" ("property '" ++ name ++ "' of '" ++ (← typeName o) ++ "' object has no setter")
      if let some f ← special o "__setattr__" then throw (.call f .absent [.str name, x] [])
      Work.setThing id (t.putMember name x)
    | .classOf =>
      if name = "__name__" then
        match x with
        | .str s => Work.setThing id { t with name := s }
        | _ => pure ()
      else Work.setThing id (t.putMember name x)
    | .func =>
      match name, x with
      | "__name__", .str s => Work.setThing id { t with name := s }
      | _, x => Work.setThing id (t.putMember name x)
    | .module | .object => Work.setThing id (t.putMember name x)
    | _ =>
      raise "AttributeError" ("'" ++ (← typeName o) ++ "' object has no attribute '" ++ name ++ "'")
  | .native n => typeError ("cannot set '" ++ name ++ "' attribute of immutable type '" ++ shortName n ++ "'")
  | o => raise "AttributeError" ("'" ++ (← typeName o) ++ "' object has no attribute '" ++ name ++ "'")

def dropAttr (o : Value) (name : String) : Work Value := do
  match o with
  | .ref id =>
    let t ← Work.thing id
    if (t.member? name).isSome then
      Work.setThing id { t with members := dropEntry t.members name }
      return .nothing
    noAttribute o name
  | o => noAttribute o name

end ScriptHost.Indented
