import ScriptHost.Indented.Attribute
import ScriptHost.Indented.Patterns
import ScriptHost.Indented.Numbers
import ScriptHost.Indented.JsonText

/-!
Functions that scripts find without loading anything: they show values, make new ones, go through
them, and ask what they are.
-/
namespace ScriptHost.Indented

open Snippet

def builtinNames : List String :=
  ["print", "len", "sum", "min", "max", "abs", "round", "sorted", "isinstance", "issubclass", "callable",
    "hasattr", "getattr", "setattr", "delattr", "iter", "next", "input", "open", "repr", "ascii", "chr",
    "ord", "hex", "oct", "bin", "divmod", "pow", "hash", "id", "vars", "dir", "format", "exit", "quit",
    "any", "all", "__import__"]

/-! ## Texts of arguments -/

def writeTo (file : Value) (s : String) : Work Unit := do
  match ← Work.thing? file with
  | some t =>
    if t.name.startsWith "<stderr>" then Work.writeErr (bytes s) else Work.writeOut (bytes s)
  | none => Work.writeOut (bytes s)

def callPrint (args : List Value) (named : List (String × Value)) : Work Value := do
  for (n, _) in named do
    if !(["sep", "end", "file", "flush"].contains n) then
      typeError ("'" ++ n ++ "' is an invalid keyword argument for print()")
  textsFirst (.native "print") args named
  let named? (n : String) : Value := ((named.find? (·.1 == n)).map (·.2)).getD .absent
  let textOr (default : String) (what : String) (v : Value) : Work String := do
    if isNone v then return default
    match v with
    | .str s => return s
    | v => typeError (what ++ " must be None or a string, not " ++ (← typeName v))
  let sep ← textOr " " "sep" (named? "sep")
  let ending ← textOr "\n" "end" (named? "end")
  let texts ← args.mapM textOf
  let line := sep.intercalate texts ++ ending
  match ← special (named? "file") "write" with
  | some f => throw (.call f .absent [.str line] [])
  | none =>
    writeTo (named? "file") line
    return .nothing

/-! ## Reading -/

def readAll : Work Bytes := do
  let w ← get
  set { w with stdin := [] }
  return w.stdin

def readLine : Work Bytes := do
  let w ← get
  let line := w.stdin.takeWhile (· ≠ 0x0A)
  let rest := w.stdin.drop line.length
  set { w with stdin := rest.drop 1 }
  return line ++ rest.take 1

def callInput (args : List Value) : Work Value := do
  if let v :: _ := args then Work.writeOut (bytes (← textOf v))
  let line ← readLine
  if line.isEmpty then raise "EOFError" "EOF when reading a line"
  let s := Bytes.lossy line
  return .str (if s.endsWith "\n" then (s.dropEnd 1).toString else s)

def openFile (v mode : Value) : Work Value := do
  let stream (n : String) := newStream (match mode with
    | .str m => if Text.contains m "b" then n ++ " buffer" else n
    | _ => n)
  match v with
  | .int 0 | .str "/dev/stdin" => stream "<stdin>"
  | .int 1 | .str "/dev/stdout" => stream "<stdout>"
  | .int 2 | .str "/dev/stderr" => stream "<stderr>"
  | v =>
    throw (.raise (← newFailure (.native "FileNotFoundError")
      [.int 2, .str "No such file or directory", v]))

def callFile (name : String) (t : Thing) (self : Value) (args : List Value) : Work Value := do
  let binary := t.name.endsWith "buffer"
  let asValue (b : Bytes) : Value := if binary then .bytes b else .str (Bytes.lossy b)
  match name with
  | "read" =>
    let n ← intOr (-1) (arg args 0)
    if n < 0 then return asValue (← readAll)
    if binary then
      let w ← get
      set { w with stdin := w.stdin.drop n.toNat }
      return .bytes (w.stdin.take n.toNat)
    let s := Bytes.lossy (← readAll)
    let front := (s.take n.toNat).toString
    modify fun w => { w with stdin := bytes (s.drop n.toNat).toString }
    return .str front
  | "readline" => return asValue (← readLine)
  | "readlines" | "__iter__" =>
    let lines := linesOf true [] (Bytes.lossy (← readAll)).toList
    newList (lines.map fun l => if binary then .bytes (bytes (String.ofList l)) else textValue l)
  | "write" =>
    match arg args 0 with
    | .str s =>
      writeTo self s
      return .int s.length
    | .bytes b =>
      if t.name.startsWith "<stderr>" then Work.writeErr b else Work.writeOut b
      return .int b.length
    | v => typeError ("write() argument must be str, not " ++ (← typeName v))
  | "writelines" =>
    let (vs, _) ← listed (.bound "file.writelines" self) args []
    for v in vs do
      writeTo self (← textOf v)
    return .nothing
  | "fileno" =>
    return .int (if t.name.startsWith "<stdin>" then 0 else if t.name.startsWith "<stdout>" then 1 else 2)
  | "isatty" => return .truth false
  | "__enter__" => return self
  | _ => return .nothing

/-! ## Going through values -/

def callLen (v : Value) : Work Value := do
  match v with
  | .str s => return .int s.length
  | .bytes b => return .int b.length
  | .ref id =>
    let t ← Work.thing id
    match t.shape with
    | .list | .tuple => return .int t.items.size
    | .dict | .set => return .int t.entries.size
    | .object =>
      match t.name, t.items.toList with
      | "range", [.int i, .int stop, .int step] =>
        return .int ((if 0 < step then (stop - i + step - 1) / step else (i - stop + -step - 1) / -step).toNat : Nat)
      | _, _ => typeError ("object of type '" ++ (← typeName v) ++ "' has no len()")
    | _ =>
      match ← special v "__len__" with
      | some f => throw (.call f .absent [] [])
      | none => typeError ("object of type '" ++ (← typeName v) ++ "' has no len()")
  | v => typeError ("object of type '" ++ (← typeName v) ++ "' has no len()")

def callSum (args : List Value) (named : List (String × Value)) : Work Value := do
  let (vs, rest) ← listed (.native "sum") args named
  let start := match rest with
    | v :: _ => v
    | [] => ((named.find? (·.1 == "start")).map (·.2)).getD (.int 0)
  if let .str _ := start then typeError "sum() can't sum strings [use ''.join(seq) instead]"
  vs.foldlM (fun acc v => arithmetic "+" acc v) start

def callExtreme (name : String) (args : List Value) (named : List (String × Value)) : Work Value := do
  let key := ((named.find? (·.1 == "key")).map (·.2)).getD .absent
  let default := ((named.find? (·.1 == "default")).map (·.2)).getD .absent
  let vs ← match args with
    | [_] => do pure (← listed (.native name) args named).1
    | [] => typeError (name ++ " expected at least 1 argument, got 0")
    | vs => pure vs
  if vs.isEmpty && default.isAbsent then
    valueError (name ++ "() arg is an empty sequence")
  if isNone key then
    match ← extreme (if name = "min" then "<" else ">") (vs.map fun v => (v, v)) with
    | some v => return v
    | none => return default
  else if vs.isEmpty then return default
  else
    throw (.callThen (.native "mapped") .absent [key, ← newList vs] "extreme" [.str name, ← newList vs])

def callSorted (args : List Value) (named : List (String × Value)) : Work Value := do
  let (vs, rest) ← listed (.native "sorted") args named
  if !rest.isEmpty then typeError "sorted expected 1 argument, got 2"
  let xs ← given "sort" ["key", "reverse"] 0 [] named
  if isNone (arg xs 0) then newList (← sortPairs (vs.map fun v => (v, v)) (← truthy (arg xs 1)))
  else throw (.callThen (.native "mapped") .absent [arg xs 0, ← newList vs] "sorted" [← newList vs, arg xs 1])

def callIter (v : Value) : Work Value := do
  match ← Work.shape? v with
  | some .generator | some .iterator => return v
  | some .instanceOf =>
    match ← special v "__iter__" with
    | some f => throw (.call f .absent [] [])
    | none => typeError ("'" ++ (← typeName v) ++ "' object is not iterable")
  | some .file =>
    match ← sourceOf v with
    | .items vs => newIterator "" vs
    | _ => newIterator "" []
  | _ =>
    let (vs, _) ← listed (.native "iter") [v] []
    newIterator (match v with
      | .str _ => "str_ascii_iterator"
      | _ => "") vs

def callNext (args : List Value) : Work Value := do
  let v := arg args 0
  match v with
  | .ref id =>
    let t ← Work.thing id
    match t.shape with
    | .iterator =>
      match t.items.toList with
      | x :: rest =>
        Work.setThing id { t with items := rest.toArray }
        return x
      | [] =>
        match args with
        | _ :: d :: _ => return d
        | _ => throw (.raise (← newFailure (.native "StopIteration") []))
    | .generator => throw (.ask id .nothing (arg args 1))
    | _ =>
      match ← special v "__next__" with
      | some f => throw (.call f .absent [] [])
      | none => typeError ("'" ++ (← typeName v) ++ "' object is not an iterator")
  | v => typeError ("'" ++ (← typeName v) ++ "' object is not an iterator")

def newRange (args : List Value) : Work Value := do
  let ns ← args.mapM needInt
  let make (a b c : Int) := newObject "range" [] [.int a, .int b, .int c]
  match ns with
  | [b] => make 0 b 1
  | [a, b] => make a b 1
  | [a, b, c] =>
    if c = 0 then valueError "range() arg 3 must not be zero"
    make a b c
  | [] => typeError "range expected at least 1 argument, got 0"
  | ns => typeError ("range expected at most 3 arguments, got " ++ toString ns.length)

/-! ## What values are -/

def kindsOf (v : Value) : Work (List Value) := do
  match ← Work.thing? v with
  | some t => return if t.shape == .tuple then t.items.toList else [v]
  | none => return [v]

def isKind (v kind : Value) : Work Bool := do
  for k in ← kindsOf kind do
    if ← isInstance v k then return true
  return false

def needKind (v : Value) (message : String) : Work Unit := do
  for k in ← kindsOf v do
    match k with
    | .native _ => pure ()
    | .ref id => if (← Work.thing id).shape != .classOf then typeError message
    | _ => typeError message

def memberOrNone (v : Value) (name : String) : Work (Option Value) := do
  let w ← get
  match (getAttr v name).run w with
  | .ok x w => set w; return some x
  | .error (.raise _) _ => return none
  | .error d w => set w; throw d

def isCallable (v : Value) : Work Bool := do
  match v with
  | .native _ | .bound .. => return true
  | .ref id =>
    match (← Work.thing id).shape with
    | .func | .classOf => return true
    | .instanceOf => return (← special v "__call__").isSome
    | _ => return false
  | _ => return false

def hashOf (v : Value) : Work Int := do
  match v with
  | .int n => return n
  | .truth b => return if b then 1 else 0
  | v => return ((← mark v).toList.foldl (fun (h : Nat) c => (h * 31 + c.toNat) % (twoTo 61 - 1)) 7 : Nat)

def memberNames (v : Value) : Work (List String) := do
  match ← Work.thing? v with
  | some t =>
    let own := t.members.toList.map (·.mark)
    let shared ← match ← Work.thing? t.parent with
      | some c => pure (c.members.toList.map (·.mark))
      | none => pure []
    return own ++ shared
  | none => return []

def callOrd (v : Value) : Work Value := do
  match v with
  | .str s =>
    match s.toList with
    | [c] => return .int c.toNat
    | cs => typeError ("ord() expected a character, but string of length " ++ toString cs.length ++ " found")
  | v => typeError ("ord() expected string of length 1, but " ++ (← typeName v) ++ " found")

def callBuiltin (name : String) (args : List Value) (named : List (String × Value)) : Work Value := do
  let a := arg args 0
  let b := arg args 1
  if args.isEmpty && !(["print", "input", "exit", "quit", "vars", "dir", "min", "max", "sorted"].contains name) then
    typeError (name ++ "() takes exactly one argument (0 given)")
  match name with
  | "print" => callPrint args named
  | "len" => callLen a
  | "sum" => callSum args named
  | "min" | "max" => callExtreme name args named
  | "sorted" => callSorted args named
  | "abs" =>
    match number? a with
    | some (.int n) => return .int n.natAbs
    | some (.float x) => return .float x.abs
    | none =>
      if let some f ← special a "__abs__" then throw (.call f .absent [] [])
      typeError ("bad operand type for abs(): '" ++ (← typeName a) ++ "'")
  | "round" =>
    let vs ← given "round" ["number", "ndigits"] 1 args named
    roundValue (arg vs 0) (arg vs 1)
  | "isinstance" =>
    needKind b "isinstance() arg 2 must be a type, a tuple of types, or a union"
    return .truth (← isKind a b)
  | "issubclass" =>
    needKind a "issubclass() arg 1 must be a class"
    for k in ← kindsOf b do
      if ← kindUnder 20 a k then return .truth true
    return .truth false
  | "callable" => return .truth (← isCallable a)
  | "hasattr" => return .truth (← memberOrNone a (← needText name b)).isSome
  | "getattr" =>
    let n ← needText name b
    match args with
    | [_, _] => getAttr a n
    | _ => return (← memberOrNone a n).getD (arg args 2)
  | "setattr" =>
    setAttr a (← needText name b) (arg args 2)
    return .nothing
  | "delattr" => dropAttr a (← needText name b)
  | "iter" =>
    match args with
    | [v] => callIter v
    | _ => throw (.call (.native "untilValue") .absent args [])
  | "next" => callNext args
  | "input" => callInput args
  | "open" => openFile a (if b.isAbsent then ((named.find? (·.1 == "mode")).map (·.2)).getD .absent else b)
  | "repr" => return .str (← reprText a)
  | "ascii" =>
    let s ← reprText a
    return .str (String.join (s.toList.map fun c => if c.toNat < 0x7F then c.toString
      else if c.toNat < 0x100 then "\\x" ++ hexDigits 2 c.toNat
      else if c.toNat < 0x10000 then "\\u" ++ hexDigits 4 c.toNat
      else "\\U" ++ hexDigits 8 c.toNat))
  | "chr" =>
    let n ← needInt a
    if n < 0 || 0x10FFFF < n then valueError "chr() arg not in range(0x110000)"
    return .str (charOf n.toNat).toString
  | "ord" => callOrd a
  | "hex" => return .str (markedDigits 16 "0x" (← needInt a))
  | "oct" => return .str (markedDigits 8 "0o" (← needInt a))
  | "bin" => return .str (markedDigits 2 "0b" (← needInt a))
  | "divmod" => newTuple [← arithmetic "//" a b, ← arithmetic "%" a b]
  | "pow" =>
    match args with
    | [_, _, m] =>
      let m ← needInt m
      if m ≤ 0 then valueError "pow() 3rd argument cannot be 0"
      return .int (powerMod ((← needInt a) % m).toNat (← needInt b).toNat m.toNat)
    | _ => arithmetic "**" a b
  | "hash" =>
    if let some f ← special a "__hash__" then throw (.call f .absent [] [])
    return .int (← hashOf a)
  | "id" =>
    match a with
    | .ref n => return .int (140000000000000 + 64 * n)
    | v => return .int (140000000 + (← hashOf v))
  | "vars" =>
    match ← Work.thing? a with
    | some t => newDict (t.members.toList.map fun e => (.str e.mark, e.value))
    | none => newDict []
  | "dir" =>
    let names := (← memberNames a).eraseDups.mergeSort (· ≤ ·)
    newList (names.map .str)
  | "format" =>
    let spec ← if isNone b then pure "" else needText name b
    return .str (← formatValue a spec)
  | "exit" | "quit" => throw (.raise (← newFailure (.native "SystemExit") args))
  | "__import__" => load (← needText name a)
  | _ => raise "NameError" ("name '" ++ name ++ "' is not defined")

/-! ## New values of the kinds of the library -/

def callKind (name : String) (args : List Value) (named : List (String × Value)) : Work Value := do
  let a := arg args 0
  match name with
  | "int" => toInt args named
  | "float" => toFloat args named
  | "bool" =>
    if let some f ← special a "__bool__" then throw (.callThen f .absent [] "truth" [])
    if let some f ← special a "__len__" then throw (.callThen f .absent [] "truth" [])
    return .truth (← truthy a)
  | "str" =>
    match a, args with
    | .absent, _ => return .str ""
    | .bytes b, _ :: encoding :: _ => decodeBytes b encoding .absent
    | v, _ => return .str (← textOf v)
  | "bytes" | "bytearray" =>
    match a with
    | .absent => return .bytes []
    | .str s => encodeText s (arg args 1) .absent
    | .bytes b => return .bytes b
    | .int n => return .bytes (List.replicate n.toNat 0)
    | _ =>
      let (vs, _) ← listed (.native name) args named
      return .bytes (← vs.mapM fun v => do
        let n ← needInt v
        if n < 0 || 255 < n then valueError "bytes must be in range(0, 256)"
        return UInt8.ofNat n.toNat)
  | "list" | "collections.deque" =>
    let items ← if args.isEmpty then pure [] else do pure (← listed (.native name) args named).1
    Work.new { shape := .list, name := if name = "list" then "" else "deque", items := items.toArray }
  | "tuple" => newTuple (← if args.isEmpty then pure [] else do pure (← listed (.native name) args named).1)
  | "set" | "frozenset" =>
    let vs ← if args.isEmpty then pure [] else do pure (← listed (.native name) args named).1
    let v ← newSet vs
    if name = "frozenset" then
      if let .ref id := v then Work.modifyThing id fun t => { t with name := "frozenset" }
    return v
  | "dict" | "collections.OrderedDict" =>
    let v ← newDict (← pairsGiven (.native name) args named)
    if name ≠ "dict" then
      if let .ref id := v then Work.modifyThing id fun t => { t with name := name }
    return v
  | "collections.defaultdict" =>
    let v ← newDict (← pairsGiven (.native "dict") (args.drop 1) named)
    if let .ref id := v then
      Work.modifyThing id fun t => { t with name := name, parent := if isNone a then .nothing else a }
    return v
  | "collections.Counter" =>
    let entries ← addCounts #[] (← countsGiven (.native name) args named)
    Work.new { shape := .dict, name, entries }
  | "type" =>
    match args with
    | [v] => kindOf v
    | _ => typeError "type() takes 1 or 3 arguments"
  | "object" => Work.new { shape := .object, name := "object" }
  | "range" => newRange args
  | "slice" =>
    newObject "slice" [] (match args with
      | [b] => [Value.nothing, b, Value.nothing]
      | vs => (vs ++ [Value.nothing]).take 3)
  | "reversed" =>
    if let some f ← special a "__reversed__" then throw (.call f .absent [] [])
    let (vs, _) ← listed (.native name) args named
    newIterator "list_reverseiterator" vs.reverse
  | "enumerate" | "zip" =>
    let at? ← args.mapM fun v => do
      match ← Work.shape? v with
      | some .generator | some .iterator | some .instanceOf | some .file => return none
      | some .object => return none
      | _ => valuesAtHand v
    match name, at?.mapM id with
    | "enumerate", some (vs :: _) =>
      let start ← intOr 0 (if args.length = 2 then arg args 1 else ((named.find? (·.1 == "start")).map (·.2)).getD .absent)
      newIterator name (← vs.zipIdx.mapM fun (v, i) => newTuple [.int (start + i), v])
    | "zip", some (vs :: more) =>
      let least := more.foldl (fun n l => min n l.length) vs.length
      newIterator name (← (List.range least).mapM fun i =>
        newTuple ((vs :: more).map fun l => l.getD i .nothing))
    | _, _ => throw (.call (.native (if name = "zip" then "zipped" else "enumerated")) .absent args named)
  | "property" | "staticmethod" | "classmethod" => Work.new { shape := .accessor, name, items := args.toArray }
  | "super" =>
    match args with
    | [_, _] => newObject "super" [] args
    | _ => raise "RuntimeError" "super(): no arguments"
  | _ =>
    if isFailureKind name then newFailure (.native name) args
    else typeError ("cannot create '" ++ name ++ "' instances")

end ScriptHost.Indented
