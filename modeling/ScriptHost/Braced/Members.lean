import ScriptHost.Braced.Kinds
import ScriptHost.Snippet.Calls

/-!
The members of values: those of a thing itself, those that it takes from elsewhere, and what the
library has under its names.
-/
namespace ScriptHost.Braced

open Snippet

/-! ## Names of the library -/

def sharedMembers : List (String × List String) :=
  [("Object", ["hasOwnProperty", "toString", "valueOf", "isPrototypeOf", "propertyIsEnumerable",
      "toLocaleString"]),
    ("Function", ["call", "apply", "bind", "toString"]),
    ("Array", ["push", "pop", "shift", "unshift", "slice", "splice", "concat", "join", "reverse", "indexOf",
      "lastIndexOf", "includes", "fill", "flat", "keys", "values", "entries", "at", "map", "filter",
      "forEach", "reduce", "reduceRight", "some", "every", "find", "findIndex", "findLast",
      "findLastIndex", "flatMap", "sort", "toSorted", "toReversed", "toSpliced", "with", "toString"]),
    ("String", ["charAt", "charCodeAt", "codePointAt", "at", "indexOf", "lastIndexOf", "includes",
      "startsWith", "endsWith", "slice", "substring", "substr", "toUpperCase", "toLowerCase", "trim",
      "trimStart", "trimEnd", "padStart", "padEnd", "repeat", "split", "concat", "replace", "replaceAll",
      "match", "matchAll", "search", "localeCompare", "normalize", "toString", "valueOf",
      "toLocaleUpperCase", "toLocaleLowerCase"]),
    ("Number", ["toFixed", "toString", "toPrecision", "toExponential", "toLocaleString", "valueOf"]),
    ("Boolean", ["toString", "valueOf"]), ("BigInt", ["toString", "valueOf", "toLocaleString"]),
    ("Symbol", ["toString", "valueOf"]),
    ("RegExp", ["test", "exec", "toString"]), ("Error", ["toString"]),
    ("Map", ["get", "set", "has", "delete", "clear", "forEach", "keys", "values", "entries"]),
    ("Set", ["add", "has", "delete", "clear", "forEach", "keys", "values", "entries"]),
    ("WeakMap", ["get", "set", "has", "delete"]), ("WeakSet", ["add", "has", "delete"]),
    ("Promise", ["then", "catch", "finally"]),
    ("Generator", ["next", "return", "throw"]), ("Iterator", ["next"]),
    ("Date", ["getTime", "valueOf", "toISOString", "toJSON", "getFullYear", "getMonth", "getDate",
      "getDay", "getHours", "getMinutes", "getSeconds", "getMilliseconds", "getUTCFullYear", "getUTCMonth",
      "getUTCDate", "getUTCDay", "getUTCHours", "getUTCMinutes", "getUTCSeconds",
      "getUTCMilliseconds", "getTimezoneOffset", "toString"]),
    ("Buffer", ["toString"]),
    ("EventEmitter", ["on", "once", "off", "emit", "addListener", "removeListener", "listenerCount",
      "removeAllListeners"]),
    ("Timeout", ["ref", "unref", "hasRef"])]

def ownMembers : List (String × List String) :=
  [("Object", ["keys", "values", "entries", "assign", "freeze", "isFrozen", "seal", "create",
      "getPrototypeOf", "setPrototypeOf", "defineProperty", "getOwnPropertyNames", "fromEntries", "is",
      "hasOwn", "groupBy", "preventExtensions", "isSealed", "isExtensible", "getOwnPropertyDescriptor",
      "defineProperties", "getOwnPropertySymbols"]),
    ("Array", ["isArray", "from", "of"]),
    ("Number", ["isInteger", "isFinite", "isNaN", "isSafeInteger", "parseInt", "parseFloat"]),
    ("String", ["fromCharCode", "fromCodePoint", "raw"]),
    ("Math", ["abs", "floor", "ceil", "round", "trunc", "sign", "sqrt", "cbrt", "pow", "max", "min", "random",
      "sin", "cos", "tan", "asin", "acos", "atan", "atan2", "exp", "log", "log2", "log10", "log1p", "expm1",
      "hypot", "fround", "clz32", "imul", "sinh", "cosh", "tanh"]),
    ("JSON", ["parse", "stringify"]),
    ("Promise", ["resolve", "reject", "all", "allSettled", "race", "any", "withResolvers"]),
    ("Date", ["now", "UTC", "parse"]), ("Symbol", ["for"]), ("BigInt", ["asIntN", "asUintN"]),
    ("Reflect", ["ownKeys", "has", "get", "set", "getPrototypeOf", "deleteProperty", "apply"]),
    ("Buffer", ["from", "isBuffer", "byteLength", "concat", "alloc"]),
    ("console", ["log", "error", "warn", "info", "debug", "trace", "dir", "assert", "count", "group",
      "groupEnd", "time", "timeEnd"]),
    ("process", ["exit", "cwd", "on", "once", "nextTick", "hrtime", "uptime", "memoryUsage", "kill", "abort",
      "emitWarning"]),
    ("process.stdout", ["write", "on", "once", "end"]), ("process.stderr", ["write", "on", "once", "end"]),
    ("process.stdin", ["on", "once", "setEncoding", "resume", "pause", "read", "pipe"]),
    ("process.hrtime", ["bigint"]),
    ("fs", ["readFileSync", "existsSync", "writeFileSync", "writeSync", "readSync"]),
    ("path", ["join", "basename", "dirname", "extname", "resolve"]), ("os", ["platform", "hostname", "tmpdir"]),
    ("util", ["inspect", "format", "promisify", "isDeepStrictEqual"]), ("vm", ["Script"]),
    ("performance", ["now"]), ("Error", ["captureStackTrace"]),
    ("assert", ["ok", "equal", "notEqual", "strictEqual", "notStrictEqual", "deepStrictEqual", "deepEqual", "fail"]),
    ("timers/promises", ["setTimeout", "setImmediate"]), ("readline", ["createInterface"]),
    ("readline.Interface", ["on", "once", "close", "setPrompt", "prompt"])]

def hasName (table : List (String × List String)) (owner name : String) : Bool :=
  match table.find? (·.1 == owner) with
  | some (_, names) => names.contains name
  | none => false

def globalNames : List String :=
  ["Object", "Array", "String", "Number", "Boolean", "Symbol", "BigInt", "Function", "Map", "Set", "WeakMap",
    "WeakSet", "Promise", "RegExp", "Date", "Math", "JSON", "Reflect", "console", "process", "globalThis",
    "parseInt", "parseFloat", "isNaN", "isFinite", "setTimeout", "setInterval", "setImmediate",
    "clearTimeout", "clearInterval", "clearImmediate", "queueMicrotask", "structuredClone", "require",
    "encodeURIComponent", "decodeURIComponent", "encodeURI", "decodeURI", "btoa", "atob", "Buffer", "performance", "fs", "path", "os",
    "util", "vm", "assert", "eval"] ++ errorKinds

def constant? (owner name : String) : Option Value :=
  match owner, name with
  | "Math", "PI" => some (.float 3.141592653589793)
  | "Math", "E" => some (.float 2.718281828459045)
  | "Math", "LN2" => some (.float 0.6931471805599453)
  | "Math", "LN10" => some (.float 2.302585092994046)
  | "Math", "SQRT2" => some (.float 1.4142135623730951)
  | "Math", "LOG2E" => some (.float 1.4426950408889634)
  | "Math", "LOG10E" => some (.float 0.4342944819032518)
  | "Math", "SQRT1_2" => some (.float 0.7071067811865476)
  | "Number", "MAX_SAFE_INTEGER" => some (.float 9007199254740991)
  | "Number", "MIN_SAFE_INTEGER" => some (.float (-9007199254740991))
  | "Number", "MAX_VALUE" => some (.float 1.7976931348623157e308)
  | "Number", "MIN_VALUE" => some (.float 5e-324)
  | "Number", "EPSILON" => some (.float 2.220446049250313e-16)
  | "Number", "POSITIVE_INFINITY" => some (.float infinity)
  | "Number", "NEGATIVE_INFINITY" => some (.float (-infinity))
  | "Number", "NaN" => some (.float nan)
  | "process", "platform" => some (.str "linux")
  | "process", "version" => some (.str "v22.0.0")
  | "process", "pid" => some (.float 1000)
  | "process", "ppid" => some (.float 999)
  | "process", "arch" => some (.str "x64")
  | "process", "execPath" => some (.str "/usr/bin/node")
  | "process", "title" => some (.str "node")
  | "process.stdin", "fd" => some (.float 0)
  | "process.stdout", "fd" => some (.float 1)
  | "process.stderr", "fd" => some (.float 2)
  | "process.stdin", "isTTY" | "process.stdout", "isTTY" => some .undefined
  | "os", "EOL" => some (.str "\n")
  | "path", "sep" => some (.str "/")
  | _, _ => none

/-! ## Where things of the world stand -/

def envPlace : Nat := 0

def extraPlace : Nat := 1

/-- Where the functions begin that are written in the notation of the scripts. -/
def preludePlace : Nat := 2

def extra? (owner name : String) : Work (Option Value) := do
  return (← Work.thing extraPlace).member? (owner ++ "." ++ name)

/-! ## Looking up -/

def isShared (kind key : String) : Bool := hasName sharedMembers kind key

def sharedMember? (kind key : String) : Work (Option Value) := do
  if let some v ← extra? (kind ++ ".prototype") key then return some v
  if key == "constructor" then return some (.native kind)
  if key == "@@iterator" then
    match kind with
    | "Array" | "Set" => return some (.native (kind ++ ".prototype.values"))
    | "Map" => return some (.native "Map.prototype.entries")
    | "String" => return some (.native "String.prototype.@@iterator")
    | "Generator" | "Iterator" => return some (.native "Object.prototype.valueOf")
    | _ => return none
  if errorKinds.contains kind then
    if key == "name" then return some (.str kind)
    if key == "message" then return some (.str "")
    if key == "toString" then return some (.native "Error.prototype.toString")
  if isShared kind key then return some (.native (kind ++ ".prototype." ++ key))
  if isShared "Object" key then return some (.native ("Object.prototype." ++ key))
  return none

def shortName (n : String) : String := (n.splitOn ".").getLastD n

def nativeMember? (n key : String) : Work (Option Value) := do
  if let some v ← extra? n key then return some v
  if let some v := constant? n key then return some v
  match n, key with
  | "process", "env" => return some (.ref envPlace)
  | "process", "exitCode" => return some (numberOf (← get).exitCode)
  | "process", "argv" => return some (← Work.newList ((← get).args.map .str))
  | "process", "execArgv" => return some (← Work.newList [])
  | "process", "versions" =>
    return some (← Work.new { shape := .object, members := #[⟨"node", .str "node", .str "22.0.0"⟩] })
  | "process", "stdin" | "process", "stdout" | "process", "stderr" => return some (.native (n ++ "." ++ key))
  | "perf_hooks", "performance" => return some (.native "performance")
  | "buffer", "Buffer" => return some (.native "Buffer")
  | "EventEmitter", "EventEmitter" => return some (.native n)
  | "globalThis", key =>
    if globalNames.contains key then return some (.native key)
    match State.find? (← get) key 0 with
    | some place => return some (State.variableAt (← get) place).value
    | none => return ← sharedMember? "Object" key
  | _, _ =>
    if hasName ownMembers n key then return some (.native (n ++ "." ++ key))
    if n == "Symbol" && symbolNames.contains key then return some (.native ("Symbol." ++ key))
    if key == "prototype" && !isPlainNative n then return some (.native (n ++ ".prototype"))
    if n.endsWith ".prototype" then return ← sharedMember? ((n.dropEnd 10).toString) key
    if key == "description" && isSymbol (.native n) then return some (.str n)
    if isPlainNative n then return ← sharedMember? "Object" key
    match key with
    | "name" => return some (.str (shortName n))
    | "length" => return some (.float 1)
    | _ => sharedMember? "Function" key

def paramCount (c : Code) : Nat :=
  (c.params.takeWhile fun p => p.text.isEmpty && (p.part 1).isAbsent).length

def ownMember? (id : Nat) (t : Thing) (key : String) : Work (Option Value) := do
  if let some v := t.member? key then return some v
  match t.shape with
  | .list =>
    if key == "length" then return some (numberOf t.items.size)
    match indexOf? key with
    | some i =>
      match t.items[i]? with
      | some .absent => return none
      | v => return v
    | none => return none
  | .func | .classOf =>
    match key with
    | "name" => return some (.str t.name)
    | "length" => return some (numberOf (match t.code with
        | some c => paramCount c
        | none => 0))
    | "prototype" =>
      match t.code with
      | some c =>
        if t.shape == .func && (c.is "arrow" || c.is "method" || c.is "async") then return none
        return some (← State.prototypeOf id)
      | none =>
        if t.shape == .classOf then return some (← State.prototypeOf id)
        return none
    | _ => return none
  | .pattern =>
    let flags := match t.items.getD 0 .undefined with
      | .str f => f
      | _ => ""
    match key with
    | "source" => return some (.str t.name)
    | "flags" => return some (.str flags)
    | "global" => return some (.truth (flags.toList.contains 'g'))
    | "ignoreCase" => return some (.truth (flags.toList.contains 'i'))
    | "multiline" => return some (.truth (flags.toList.contains 'm'))
    | "sticky" => return some (.truth (flags.toList.contains 'y'))
    | "unicode" => return some (.truth (flags.toList.contains 'u'))
    | "dotAll" => return some (.truth (flags.toList.contains 's'))
    | _ => return none
  | .dict | .set => return if key == "size" then some (numberOf t.entries.size) else none
  | _ => return none

def memberFrom : Nat → Value → String → Work (Option Value)
  | 0, _, _ => return none
  | fuel + 1, v, key => do
    match v with
    | .ref id =>
      let t ← Work.thing id
      match ← ownMember? id t key with
      | some x => return some x
      | none =>
        if key == "__proto__" then return some (match protoOf t with
          | .native n => .native (n ++ ".prototype")
          | p => p)
        match protoOf t, t.shape with
        | .native n, .classOf =>
          if t.parent.isAbsent then sharedMember? "Function" key
          else
            match ← nativeMember? n key with
            | some x => return some x
            | none => sharedMember? "Function" key
        | .native n, _ => sharedMember? n key
        | p, _ => memberFrom fuel p key
    | .native n => nativeMember? n key
    | _ => return none

/-- The member of a thing as it stands, an accessor unopened. -/
def rawMember? (v : Value) (key : String) : Work (Option Value) := memberFrom 100 v key

def primitiveKind : Value → String
  | .str _ => "String"
  | .float _ => "Number"
  | .truth _ => "Boolean"
  | .int _ => "BigInt"
  | .bytes _ => "Buffer"
  | .bound "symbol" _ => "Symbol"
  | _ => "Function"

def primitiveMember? (v : Value) (key : String) : Work (Option Value) := do
  match v, key with
  | .str s, "length" => return some (numberOf (unitCount s))
  | .bytes b, "length" => return some (numberOf b.length)
  | .bound "symbol" _, "description" => return some (.str (symbolText v))
  | .str s, key =>
    match indexOf? key with
    | some i =>
      match (unitsOf s)[i]? with
      | some u => return some (.str (textOfUnits [u]))
      | none => return none
    | none => sharedMember? "String" key
  | .bytes b, key =>
    match indexOf? key with
    | some i => return (b[i]?).map fun x => numberOf x.toNat
    | none => sharedMember? "Buffer" key
  | .bound n _, "name" => return some (.str (shortName n))
  | v, key => sharedMember? (primitiveKind v) key

def accessorPart (v : Value) (i : Nat) : Work (Option Value) := do
  match ← Work.thing? v with
  | some t => return if t.shape == .accessor then some (t.items.getD i .undefined) else none
  | none => return none

def shownNullish (v : Value) : String :=
  match v with
  | .nothing => "null"
  | _ => "undefined"

def shownKey (key : String) : String :=
  if isSymbolKey key then "Symbol(Symbol." ++ (key.drop 2).toString ++ ")" else key

def getMember (v : Value) (key : String) : Work Value := do
  if isNullish v then
    typeError ("Cannot read properties of " ++ shownNullish v ++ " (reading '" ++ shownKey key ++ "')")
  let found ← match v with
    | .ref _ | .native _ => rawMember? v key
    | v => primitiveMember? v key
  match found with
  | some x =>
    match ← accessorPart x 0 with
    | some g => if isNullish g then return .undefined else throw (.call g v [] [])
    | none => return x
  | none => return .undefined

/-! ## Changing members -/

def isFrozen (t : Thing) : Bool := t.done && t.shape != .generator

def setLength (id : Nat) (n : Nat) : Work Unit :=
  Work.modifyThing id fun t =>
    { t with items := t.items.extract 0 n ++ (List.replicate (n - t.items.size) Value.absent).toArray }

def gapLimit : Nat := 10000000

def setItem (id : Nat) (i : Nat) (v : Value) : Work Unit := do
  if gapLimit < i then rangeError "Invalid array length"
  Work.modifyThing id fun t =>
    if i < t.items.size then { t with items := t.items.setIfInBounds i v }
    else { t with items := (t.items ++ (List.replicate (i - t.items.size) Value.absent).toArray).push v }

def setMember (o : Value) (key : String) (v : Value) : Work Unit := do
  match o with
  | .ref id =>
    let t ← Work.thing id
    if isFrozen t then return ()
    if let some m ← rawMember? o key then
      if let some f ← accessorPart m 1 then
        if isNullish f then
          typeError ("Cannot set property " ++ key ++ " of #<Object> which has only a getter")
        throw (.call f o [v] [])
    match t.shape, indexOf? key with
    | .list, some i => setItem id i v
    | .list, none =>
      if key == "length" then
        match v with
        | .float x =>
          match Decimal.integer? x with
          | some n => if 0 ≤ n && n ≤ gapLimit then setLength id n.toNat else rangeError "Invalid array length"
          | none => rangeError "Invalid array length"
        | _ => rangeError "Invalid array length"
      else Work.modifyThing id fun t => t.putMember key v
    | .object, _ =>
      if key == "__proto__" then Work.modifyThing id fun t => { t with parent := v }
      else Work.modifyThing id fun t => t.putMember key v
    | _, _ => Work.modifyThing id fun t => t.putMember key v
  | .native "process" =>
    match key, v with
    | "exitCode", .float x =>
      modify fun w => { w with exitCode := ((wholePart? x).getD 0 % 256).toNat }
    | _, _ => Work.modifyThing extraPlace fun t => t.putMember ("process." ++ key) v
  | .native "globalThis" => modify fun w => State.define w 0 key v false
  | .native n => Work.modifyThing extraPlace fun t => t.putMember (n ++ "." ++ key) v
  | o =>
    if isNullish o then
      typeError ("Cannot set properties of " ++ shownNullish o ++ " (setting '" ++ shownKey key ++ "')")

def dropMember (o : Value) (key : String) : Work Value := do
  match o with
  | .ref id =>
    let t ← Work.thing id
    if isFrozen t then return .truth false
    match t.shape, indexOf? key with
    | .list, some i => Work.setThing id { t with items := t.items.setIfInBounds i .absent }
    | _, _ => Work.setThing id { t with members := dropEntry t.members key }
    return .truth true
  | o =>
    if isNullish o then typeError "Cannot convert undefined or null to object"
    return .truth true

def defineMember (o : Value) (key what : String) (v : Value) : Work Unit := do
  match o with
  | .ref id =>
    let t ← Work.thing id
    if what == "get" || what == "set" then
      let old ← match t.member? key with
        | some m => pure (((← Work.thing? m).filter fun a => a.shape == .accessor).map (·.items))
        | none => pure none
      let parts := old.getD #[.undefined, .undefined]
      let parts := parts.setIfInBounds (if what == "get" then 0 else 1) v
      let a ← Work.new { shape := .accessor, name := what, items := parts }
      Work.modifyThing id fun t => t.putMember key a
    else
      match t.shape, indexOf? key with
      | .list, some i => setItem id i v
      | _, _ => Work.modifyThing id fun t => t.putMember key v
  | _ => return ()

/-! ## Keys -/

def keysOf (v : Value) : Work (List String) := do
  match v with
  | .str s => return (List.range (unitCount s)).map toString
  | .ref id =>
    let t ← Work.thing id
    let hidden : List String := match t.shape with
      | .error => ["message", "stack", "cause", "errors"]
      | .func | .classOf => ["prototype", "name"]
      | .pattern => ["lastIndex"]
      | _ => []
    let own := t.members.toList.filterMap fun e =>
      if e.key.isAbsent || isHiddenKey e.mark || hidden.contains e.mark then none else some e.mark
    let positions := if t.shape == .list then
        (t.items.toList.zipIdx.filter fun (x, _) => !x.isAbsent).map fun (_, i) => toString i
      else []
    return positions ++ orderedKeys own
  | _ => return []

/-- The class that a thing was made by, as its name; what a class shares was not made by it. -/
def makerName (v : Value) : Work (Option String) := do
  let own := match ← Work.thing? v with
    | some t => (t.member? "constructor").isSome
    | none => false
  let from' ← match ← Work.thing? v with
    | some t => pure (if own then protoOf t else v)
    | none => pure v
  match from' with
  | .native n => return some n
  | _ =>
    match ← rawMember? from' "constructor" with
    | some (.native n) => return some n
    | some (.ref c) => return some (← Work.thing c).name
    | _ => return none

end ScriptHost.Braced
