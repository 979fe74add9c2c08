import ScriptHost.Indented.Builtins
import ScriptHost.Indented.Prelude
import ScriptHost.Text.Base64

/-!
All functions of the library by name: those of the modules, the methods of the values, and those that
go on when a function of the script has given its result.
-/
namespace ScriptHost.Indented

open Snippet

/-! ## JSON -/

def plainParts : Nat → Value → Work Value
  | 0, v => return v
  | fuel + 1, v => do
    match v with
    | .ref id =>
      let t ← Work.thing id
      match t.shape with
      | .list | .tuple =>
        newList (← t.items.toList.mapM (plainParts fuel))
      | .dict =>
        let entries ← t.entries.mapM fun e => do return { e with value := ← plainParts fuel e.value }
        Work.new { t with entries }
      | _ => return .str (← textOf v)
    | .bytes b => return .str (quotedBytes b)
    | v => return v

def jsonStyleOf (named : List (String × Value)) : Work JsonStyle := do
  let named? (n : String) : Value := ((named.find? (·.1 == n)).map (·.2)).getD .absent
  let indent ← match named? "indent" with
    | .int n => pure (some (String.ofList (List.replicate n.toNat ' ')))
    | .str s => pure (some s)
    | _ => pure none
  let (itemSep, keySep) ← match ← valuesAtHand (named? "separators") with
    | some [.str a, .str b] => pure (a, b)
    | _ => pure (if indent.isSome then "," else ", ", ": ")
  let asciiOnly ← if (named? "ensure_ascii").isAbsent then pure true else truthy (named? "ensure_ascii")
  return { indent, itemSep, keySep, sortKeys := ← truthy (named? "sort_keys"), asciiOnly }

def callJson (name : String) (args : List Value) (named : List (String × Value)) : Work Value := do
  match name with
  | "loads" =>
    match arg args 0 with
    | .str s => JsonText.read s
    | .bytes b => JsonText.read (Bytes.lossy b)
    | v => typeError ("the JSON object must be str, bytes or bytearray, not " ++ (← typeName v))
  | "load" =>
    match ← Work.thing? (arg args 0) with
    | some t =>
      if t.shape == .file then JsonText.read (Bytes.lossy (← readAll))
      else noAttribute (arg args 0) "read"
    | none => noAttribute (arg args 0) "read"
  | "dumps" | "dump" =>
    let style ← jsonStyleOf named
    let plain := match (named.find? (·.1 == "default")).map (·.2) with
      | some (.native n) => n == "str" || n == "repr"
      | _ => false
    let v ← if plain then plainParts 200 (arg args 0) else pure (arg args 0)
    let s ← toJson style v
    if name = "dumps" then return .str s
    writeTo (arg args 1) s
    return .nothing
  | _ => raise "AttributeError" ("module 'json' has no attribute '" ++ name ++ "'")

/-! ## The system -/

def callSystem (name : String) (args : List Value) : Work Value := do
  let a := arg args 0
  match name with
  | "sys.exit" => throw (.raise (← newFailure (.native "SystemExit") args))
  | "sys.getrecursionlimit" => return .int 1000
  | "sys.getdefaultencoding" => return .str "utf-8"
  | "sys.getsizeof" => return .int 56
  | "sys.exc_info" => newTuple [.nothing, .nothing, .nothing]
  | "sys.intern" => return a
  | "os.getenv" =>
    let key ← needText "getenv()" a
    match (← get).env.find? (·.1 == key) with
    | some (_, v) => return .str v
    | none => return if args.length < 2 then .nothing else arg args 1
  | "os.getpid" => return .int 1000
  | "os.getcwd" => return .str "/"
  | "os._exit" => throw (.finish (.exited ((← needInt a) % 256).toNat))
  | "os.abort" => throw (.finish .killed)
  | "os.kill" =>
    if (← needInt (arg args 1)) = 0 then return .nothing
    throw (.finish .killed)
  | "os.listdir" => newList []
  | "os.urandom" => return .bytes (List.replicate (← needInt a).toNat 0)
  | _ => return .nothing

def pathText (v : Value) : Work (List Char) := do return (← needText "path" v).toList

def splitPath (p : List Char) : List Char × List Char :=
  let base := (p.reverse.takeWhile (· ≠ '/')).reverse
  let dir := p.take (p.length - base.length)
  let trimmed := (dir.reverse.dropWhile (· = '/')).reverse
  (if trimmed.isEmpty then dir else trimmed, base)

def callPath (name : String) (args : List Value) : Work Value := do
  let p ← pathText (arg args 0)
  match name with
  | "join" =>
    let rest ← (args.drop 1).mapM pathText
    return textValue (rest.foldl (fun acc q =>
      if q.head? = some '/' || acc.isEmpty then q
      else if acc.getLast? = some '/' then acc ++ q
      else acc ++ '/' :: q) p)
  | "basename" => return textValue (splitPath p).2
  | "dirname" => return textValue (splitPath p).1
  | "split" => newTuple [textValue (splitPath p).1, textValue (splitPath p).2]
  | "splitext" =>
    let base := (splitPath p).2
    match findLast ['.'] base with
    | some i =>
      if (base.take i).all (· = '.') then newTuple [textValue p, .str ""]
      else
        let cut := p.length - base.length + i
        newTuple [textValue (p.take cut), textValue (p.drop cut)]
    | none => newTuple [textValue p, .str ""]
  | "exists" => return .truth (["/", "/tmp", "/dev/null", "/dev/stdin", "/etc/passwd"].contains (String.ofList p))
  | "isdir" => return .truth (["/", "/tmp", "/dev", "/etc"].contains (String.ofList p))
  | "isfile" => return .truth (String.ofList p = "/etc/passwd")
  | _ => return textValue p

def callTime (name : String) (args : List Value) : Work Value := do
  match name with
  | "sleep" =>
    let x ← needFloat (arg args 0)
    if x < 0 then valueError "sleep length must be non-negative"
    let ms := match Decimal.floor? (x * 1000) with
      | some n => n.toNat
      | none => tenTo 12
    modify fun w => { w with ms := w.ms + ms + 1 }
    return .nothing
  | "time_ns" => return .int (1700000000000000000 + (← get).ms * 1000000)
  | _ => return .float (1700000000.0 + Float.ofNat (← get).ms / 1000)

def callBase64 (name : String) (args : List Value) : Work Value := do
  let b ← match arg args 0 with
    | .bytes b => pure b
    | .str s =>
      if name = "b64decode" then pure (bytes s)
      else typeError "a bytes-like object is required, not 'str'"
    | v => typeError ("a bytes-like object is required, not '" ++ (← typeName v) ++ "'")
  match name with
  | "b64encode" => return .bytes (bytes (String.ofList (Text.Base64.encode b)))
  | _ =>
    match Text.Base64.decode? (Bytes.lossy b).toList with
    | some x => return .bytes x
    | none => valueError "Incorrect padding"

/-- Lines of a log have a level and go to the second output; the lower levels are left out. -/
def callLogging (name : String) (args : List Value) : Work Value := do
  match name with
  | "warning" | "error" | "critical" | "exception" =>
    let s ← match args with
      | [v] => textOf v
      | v :: vs => do
        match ← percentFormat (← textOf v) (← newTuple vs) with
        | .str s => pure s
        | _ => pure ""
      | [] => pure ""
    let level := if name = "exception" then "ERROR" else name.toUpper
    Work.writeErr (bytes (level ++ ":root:" ++ s ++ "\n"))
    return .nothing
  | "getLogger" => newObject "logger" [] []
  | _ => return .nothing

def callParse (args : List Value) : Work Value := do
  let source ← needText "parse()" (arg args 0)
  let file := match arg args 1 with
    | .str f => f
    | _ => "<unknown>"
  if source.toList.contains '\x00' then valueError "source code string cannot contain null bytes"
  match parse source with
  | .ok _ => newObject "ast" [] []
  | .error (line, message) =>
    let e ← newFailure (.native "SyntaxError") [.str message]
    if let .ref id := e then
      Work.modifyThing id fun t =>
        (((t.putMember "filename" (.str file)).putMember "lineno" (.int line)).putMember "msg" (.str message))
    throw (.raise e)

/-- A copy of a value, with copies of its parts when it is a deep one. -/
def copied (deep : Bool) : Nat → Value → Work Value
  | 0, v => return v
  | fuel + 1, v => do
    match v with
    | .ref id =>
      let t ← Work.thing id
      match t.shape with
      | .list | .tuple | .dict | .set | .instanceOf =>
        if deep then
          let items ← t.items.mapM (copied true fuel)
          let entries ← t.entries.mapM fun e => do return { e with value := ← copied true fuel e.value }
          let members ← t.members.mapM fun e => do return { e with value := ← copied true fuel e.value }
          Work.new { t with items, entries, members }
        else Work.new t
      | _ => return v
    | v => return v

/-! ## Methods -/

def callGenerator (name : String) (self : Value) (args : List Value) : Work Value := do
  match self with
  | .ref id =>
    match name with
    | "send" => throw (.ask id (arg args 0) .absent)
    | "__next__" => throw (.ask id .nothing .absent)
    | "__iter__" => return self
    | "throw" =>
      Work.modifyThing id fun t => { t with done := true }
      throw (.raise (arg args 0))
    | _ =>
      Work.modifyThing id fun t => { t with done := true, saved := [] }
      return .nothing
  | _ => return .nothing

def callFailureMethod (name : String) (self : Value) (args : List Value) : Work Value := do
  match name, self, args with
  | "with_traceback", _, _ => return self
  | _, _, _ => return .nothing

def bitLength (n : Int) : Nat := if n = 0 then 0 else Nat.log2 n.natAbs + 1

def callNumber (name : String) (self : Value) (args : List Value) (named : List (String × Value)) :
    Work Value := do
  match self, name with
  | .float x, "is_integer" => return .truth (Decimal.integer? x).isSome
  | _, "is_integer" => return .truth true
  | _, "conjugate" => return self
  | v, "bit_length" => return .int (bitLength (← needInt v))
  | v, "bit_count" =>
    return .int (((Nat.toDigits 2 (← needInt v).natAbs).filter (· = '1')).length : Nat)
  | v, "to_bytes" =>
    let vs ← given "to_bytes" ["length", "byteorder", "signed"] 0 args named
    let n ← needInt v
    let size := (← intOr 1 (arg vs 0)).toNat
    let little := match arg vs 1 with
      | .str s => s == "little"
      | _ => false
    if n < 0 || twoTo (8 * size) ≤ n.toNat then raise "OverflowError" "int too big to convert"
    let digits := (List.range size).map fun i => UInt8.ofNat (n.toNat / twoTo (8 * i) % 256)
    return .bytes (if little then digits else digits.reverse)
  | _, _ => noAttribute self name

def callSpecial (name : String) (self : Value) (args : List Value) : Work Value := do
  match name with
  | "__str__" => return .str (← textOf self)
  | "__repr__" => return .str (← reprText self)
  | "__len__" => callLen self
  | "__eq__" => binary "==" self (arg args 0)
  | "__add__" => binary "+" self (arg args 0)
  | "__contains__" => binary "in" (arg args 0) self
  | "__hash__" => return .int (← hashOf self)
  | "__iter__" => callIter self
  | "__format__" => return .str (← formatValue self (← needText name (arg args 0)))
  | _ => noAttribute self name

def callPlain (name : String) (args : List Value) : Work Value := do
  match name, args with
  | "plainMaker", .ref id :: rest =>
    Work.modifyThing id fun t => { t with items := rest.toArray }
    return .nothing
  | "plain__str__", v :: _ => if ← isFailure v then return .str (← failureText v) else return .str (← reprWith 200 [] v)
  | "plain__repr__", v :: _ => return .str (← reprWith 200 [] v)
  | "plain__setattr__", [.ref id, .str n, x] =>
    Work.modifyThing id fun t => t.putMember n x
    return .nothing
  | "plain__getattribute__", [v, .str n] => getAttr v n
  | _, _ => return .nothing

def callMethod (owner name : String) (self : Value) (args : List Value) (named : List (String × Value)) :
    Work Value := do
  match owner, self with
  | "str", .str s => callText getAttr name s args named
  | "bytes", .bytes b => callBytes getAttr name b args named
  | "list", .ref id => callList name id args named
  | "dict", .ref id => callDict name id args named
  | "set", .ref id => callSet name id args
  | "int", _ | "float", _ => callNumber name self args named
  | "file", .ref id => callFile name (← Work.thing id) self args
  | "generator", _ => callGenerator name self args
  | "iterator", _ => if name = "__next__" then callNext [self] else return self
  | "match", .ref id => callMatch name (← Work.thing id) args
  | "pattern", _ =>
    let count := ((named.find? fun (n, _) => n == "count" || n == "maxsplit").map (·.2)).toList
    searchWith name self .absent (args ++ count)
  | "property", .ref id =>
    let t ← Work.thing id
    Work.new { t with items := t.items.extract 0 1 ++ args.toArray }
  | "failure", _ => callFailureMethod name self args
  | "special", _ => callSpecial name self args
  | _, _ => noAttribute self name

def callModule (module name : String) (args : List Value) (named : List (String × Value)) : Work Value := do
  match module with
  | "json" => callJson name args named
  | "sys" | "os" => callSystem (module ++ "." ++ name) args
  | "os.path" => callPath name args
  | "time" => callTime name args
  | "math" => callMath name args named
  | "re" => callPattern name args named
  | "base64" => callBase64 name args
  | "logging" => callLogging name args
  | "ast" => callParse args
  | "copy" => copied (name = "deepcopy") 200 (arg args 0)
  | "operator" =>
    arithmetic (match name with
      | "add" => "+"
      | "sub" => "-"
      | _ => "*") (arg args 0) (arg args 1)
  | "asyncio" =>
    match name, arg args 0 with
    | "run", .ref id => throw (.ask id .nothing (.native "asyncio.run"))
    | "sleep", v => callTime "sleep" [v]
    | _, _ => return .nothing
  | "typing" => return arg args (if name = "cast" then 1 else 0)
  | _ => return .nothing

def preludeIndex? (name : String) : Option Nat :=
  match Prelude.aliases.find? (·.1 == name) with
  | some (_, own) => if name = "enumerate" || name = "zip" then none else Prelude.index? own
  | none =>
    if name.toList.contains '.' then
      let top := (name.splitOn ".").headD ""
      if ["functools", "itertools", "operator", "collections", "asyncio"].contains top then
        Prelude.index? (shortName name)
      else none
    else Prelude.index? name

def ownerOf (name : String) : String × String :=
  let short := shortName name
  ((name.dropEnd (short.length + 1)).toString, short)

def isPlain (name : String) : Bool := name.startsWith "plain"

def call (name : String) (self : Value) (args : List Value) (named : List (String × Value)) : Work Value := do
  match name with
  | "initializer" =>
    match ← special self "__init__" with
    | some f => return f
    | none => return .absent
  | "initialize" =>
    if ← isFailure self then return self
    typeError ((← typeName self) ++ "() takes no arguments")
  | "enter" =>
    match ← special self "__enter__" with
    | some f => throw (.call f .absent [] [])
    | none =>
      match ← Work.shape? self with
      | some .file => return self
      | _ => typeError ("'" ++ (← typeName self) ++ "' object does not support the context manager protocol")
  | "exit" =>
    if self.isAbsent then return ← callBuiltin name args named
    match ← special self "__exit__" with
    | some f =>
      let e := arg args 0
      let kind ← if isNone e then pure .nothing else kindOf e
      throw (.call f .absent [kind, e, .nothing] [])
    | none => return .truth false
  | "unhandled" | "ending" => return .absent
  | "unbound" =>
    match self with
    | .str m =>
      let v := arg args 0
      match ← getAttr v m with
      | .bound n s => throw (.call (.bound n s) .absent (args.drop 1) named)
      | f => throw (.call f .absent (args.drop 1) named)
    | _ => return .nothing
  | "fromkeys" =>
    let v ← newDict []
    match v with
    | .ref id => callDict "fromkeys" id args named
    | v => return v
  | "fromhex" =>
    let s ← needText name (arg args 0)
    let ds := s.toList.filter (· ≠ ' ')
    let rec pairs : List Char → List UInt8
      | a :: b :: r => UInt8.ofNat ((valueIn? 16 [a, b]).getD 0) :: pairs r
      | _ => []
    return .bytes (pairs ds)
  | "fromBytes" =>
    let b := match arg args 0 with
      | .bytes b => b
      | _ => []
    let little := match arg args 1 with
      | .str s => s == "little"
      | _ => false
    return .int ((if little then b.reverse else b).foldl (fun n x => n * 256 + x.toNat) 0 : Nat)
  | _ =>
    if isPlain name then
      return ← callPlain name (match self with
        | .absent => args
        | .ref id => if args.length > 0 && (args.headD .absent).same (.ref id) then args else .ref id :: args
        | _ => args)
    if let some i := preludeIndex? name then throw (.call (.ref i) .absent args named)
    if isType name || name.startsWith "collections." then return ← callKind name args named
    if builtinNames.contains name then return ← callBuiltin name args named
    let (owner, short) := ownerOf name
    if isModule owner || owner = "ast" then callModule owner short args named
    else callMethod owner short self args named

def callOther (f this : Value) (args : List Value) (named : List (String × Value)) : Work Value := do
  let _ := this
  match ← special f "__call__" with
  | some g => throw (.call g .absent args named)
  | none =>
    match ← Work.thing? f with
    | some t =>
      if t.shape == .accessor then throw (.call (t.items.getD 0 .nothing) .absent args named)
    | none => pure ()
    typeError ("'" ++ (← typeName f) ++ "' object is not callable")

/-- Goes on with the result of another function. -/
def step (name : String) (data : List Value) (v : Value) : Work Value := do
  let d (i : Nat) : Value := data.getD i .absent
  match name with
  | "asked" => return v
  | "ended" =>
    match d 0 with
    | .absent => throw (.raise (← newFailure (.native "StopIteration") (if isNone v then [] else [v])))
    | .native "asyncio.run" => return if isNone v then .nothing else v
    | x => return x
  | "not" => return .truth (!(← truthy v))
  | "percent" => arithmetic "%" (d 0) v
  | "truth" => return .truth (← truthy v)
  | "default" =>
    setIndex (d 0) (d 1) v
    return v
  | "iterated" =>
    let names := match ← Work.thing? (d 1) with
      | some t => namedEntries t
      | none => []
    throw (.call (d 0) .absent (v :: data.drop 2) names)
  | "texted" =>
    let names := match ← Work.thing? (d 1) with
      | some t => namedEntries t
      | none => []
    match d 2 with
    | .int i => throw (.call (d 0) .absent ((data.drop 3).set i.toNat v) names)
    | _ => return .nothing
  | "sorted" | "sort" | "extreme" =>
    let keys ← valuesAtHand v
    let listed := match name with
      | "sorted" => d 0
      | "sort" => d 0
      | _ => d 1
    let vs ← valuesAtHand listed
    let pairs := (keys.getD []).zip (vs.getD [])
    match name, d 0 with
    | "extreme", .str which => return (← extreme (if which = "min" then "<" else ">") pairs).getD .nothing
    | "sort", .ref id => setItems id (← sortPairs pairs (← truthy (d 1)))
    | _, _ => newList (← sortPairs pairs (← truthy (d 1)))
  | "substituted" =>
    substituted (d 0) ((← valuesAtHand (d 1)).getD []) ((← valuesAtHand v).getD [])
  | _ => return v

end ScriptHost.Indented
