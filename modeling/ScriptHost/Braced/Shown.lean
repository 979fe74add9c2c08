import ScriptHost.Braced.Members

/-!
How values are written: as texts, and with all that is in them. What is in a thing stands on one line
when it is short and not too deep; long lists of short items stand in columns.
-/
namespace ScriptHost.Braced

open Snippet

/-! ## Texts -/

def hexText (width n : Nat) : String := Decimal.padLeft width (String.ofList (Nat.toDigits 16 n))

def upperHex (width n : Nat) : String := (hexText width n).map Char.toUpper

def dateOf? (t : Thing) : Option Float :=
  match t.shape, t.name, t.items.getD 0 .absent with
  | .object, "Date", .float x => some x
  | _, _, _ => none

def civil (days : Int) : Int × Nat × Nat :=
  let z := days + 719468
  let era := z.fdiv 146097
  let doe := (z - era * 146097).toNat
  let yoe := (doe - doe / 1460 + doe / 36524 - doe / 146096) / 365
  let doy := doe - (365 * yoe + yoe / 4 - yoe / 100)
  let mp := (5 * doy + 2) / 153
  let m := if mp < 10 then mp + 3 else mp - 9
  ((yoe : Int) + era * 400 + (if m ≤ 2 then 1 else 0), m, doy - (153 * mp + 2) / 5 + 1)

def pad2 (n : Nat) : String := Decimal.padLeft 2 (toString n)

def isoDate? (ms : Float) : Option String :=
  match wholePart? ms with
  | none => none
  | some n =>
    let days := n.fdiv 86400000
    let rest := (n - days * 86400000).toNat
    let (y, m, d) := civil days
    let year := if 0 ≤ y && y ≤ 9999 then Decimal.padLeft 4 (toString y)
      else (if y < 0 then "-" else "+") ++ Decimal.padLeft 6 (toString y.natAbs)
    some (year ++ "-" ++ pad2 m ++ "-" ++ pad2 d ++ "T" ++ pad2 (rest / 3600000) ++ ":"
      ++ pad2 (rest / 60000 % 60) ++ ":" ++ pad2 (rest / 1000 % 60) ++ "."
      ++ Decimal.padLeft 3 (toString (rest % 1000)) ++ "Z")

def weekdays : List String := ["Sun", "Mon", "Tue", "Wed", "Thu", "Fri", "Sat"]

def months : List String :=
  ["Jan", "Feb", "Mar", "Apr", "May", "Jun", "Jul", "Aug", "Sep", "Oct", "Nov", "Dec"]

def dateText (ms : Float) : String :=
  match wholePart? ms with
  | none => "Invalid Date"
  | some n =>
    let days := n.fdiv 86400000
    let rest := (n - days * 86400000).toNat
    let (y, m, d) := civil days
    weekdays.getD ((days + 4).fmod 7).toNat "" ++ " " ++ months.getD (m - 1) "" ++ " " ++ pad2 d ++ " "
      ++ Decimal.padLeft 4 (toString y) ++ " " ++ pad2 (rest / 3600000) ++ ":" ++ pad2 (rest / 60000 % 60)
      ++ ":" ++ pad2 (rest / 1000 % 60) ++ " GMT+0000 (Coordinated Universal Time)"

def flagsOf (t : Thing) : String :=
  match t.items.getD 0 .undefined with
  | .str f => f
  | _ => ""

def plainMember (v : Value) (key : String) : Work String := do
  match ← rawMember? v key with
  | some (.str s) => return s
  | _ => return ""

def errorText (v : Value) : Work String := do
  let name ← plainMember v "name"
  let message ← plainMember v "message"
  return if message.isEmpty then name else if name.isEmpty then message else name ++ ": " ++ message

mutual

def textWith : Nat → Value → Work String
  | 0, _ => return ""
  | fuel + 1, v => do
    match v with
    | .absent | .undefined => return "undefined"
    | .nothing => return "null"
    | .truth b => return if b then "true" else "false"
    | .int n => return toString n
    | .float x => return numberText x
    | .str s => return s
    | .bytes b => return Bytes.lossy b
    | .native n =>
      if isSymbol v then typeError "Cannot convert a Symbol value to a string"
      if isPlainNative n then return "[object " ++ (if n == "Math" || n == "JSON" then n else "Object") ++ "]"
      return "function " ++ shortName n ++ "() \x7b [native code] \x7d"
    | .bound "symbol" _ => typeError "Cannot convert a Symbol value to a string"
    | .bound n _ => return "function " ++ shortName n ++ "() \x7b [native code] \x7d"
    | .ref id =>
      let t ← Work.thing id
      match t.shape with
      | .list => return ",".intercalate (← itemTexts fuel t.items.toList)
      | .error => errorText v
      | .func => return "function " ++ t.name ++ "() \x7b [native code] \x7d"
      | .classOf => return "class " ++ t.name ++ " \x7b \x7d"
      | .pattern => return "/" ++ t.name ++ "/" ++ flagsOf t
      | .dict | .set | .promise | .generator => return "[object " ++ shapeKind t ++ "]"
      | _ =>
        match dateOf? t with
        | some ms => return dateText ms
        | none =>
          if (← rawMember? v "name").isSome && (← rawMember? v "stack").isSome then errorText v
          else return "[object Object]"

def itemTexts : Nat → List Value → Work (List String)
  | 0, _ | _, [] => return []
  | fuel + 1, v :: vs => do
    let s ← if isNullish v then pure "" else textWith fuel v
    return s :: (← itemTexts fuel vs)

end

def textOf (v : Value) : Work String := textWith 20000 v

/-! ## Quotes -/

def quotedChar (quote c : Char) : String :=
  let n := c.toNat
  if c = quote then "\\" ++ c.toString
  else if c = '\\' then "\\\\"
  else if c = '\n' then "\\n"
  else if c = '\t' then "\\t"
  else if c = '\r' then "\\r"
  else if c = '\x08' then "\\b"
  else if c = '\x0c' then "\\f"
  else if n < 0x20 || (0x7F ≤ n && n ≤ 0x9F) then "\\x" ++ upperHex 2 n
  else c.toString

/-- A text in the quotes that spare the most signs in front of others. -/
def quotedText (s : String) : String :=
  let cs := s.toList
  let has (c : Char) := cs.contains c
  let quote :=
    if !has '\x27' then '\x27'
    else if !has '\x22' then '\x22'
    else if !has '\x60' && !Text.contains s "$\x7b" then '\x60'
    else '\x27'
  quote.toString ++ String.join (cs.map (quotedChar quote)) ++ quote.toString

def isPlainKey (k : String) : Bool :=
  match k.toList with
  | c :: r => (c.isAlpha || c = '_') && r.all fun d => d.isAlphanum || d = '_'
  | [] => false

def keyText (k : String) : String :=
  if isSymbolKey k then
    let rest := (k.drop 2).toString
    if rest.toList.contains ':' then "[Symbol(" ++ ":".intercalate ((rest.splitOn ":").drop 1) ++ ")]"
    else "[Symbol(Symbol." ++ rest ++ ")]"
  else if isPlainKey k then k
  else quotedText k

/-! ## Layout -/

def lineLength : Nat := 80

def itemLimit : Nat := 100

def columnsFor (count indentation longest total : Nat) : Nat :=
  let actual := longest + 2
  let bias := (Float.ofNat actual - Float.ofNat total / Float.ofNat count).sqrt
  let biased := let b := Float.ofNat actual - 3 - bias; if b < 1 then 1 else b
  let ideal := (2.5 * biased * Float.ofNat count).sqrt / biased
  let rounded := (ideal + 0.5).floor.toUInt64.toNat
  min (min rounded ((lineLength - indentation) / actual)) (min 12 15)

/-- Puts many short items into columns; numbers stand to the right. -/
def inColumns (indentation : Nat) (numbers : Bool) (more : Bool) (output : List String) : List String :=
  let items := if more then output.dropLast else output
  let lengths := items.map unitCount
  let total := lengths.foldl (fun n l => n + l + 2) 0
  let longest := lengths.foldl max 0
  let actual := longest + 2
  if !(actual * 3 + indentation < lineLength
      && (5 * actual < total || longest ≤ 6)) then output
  else
    let columns := columnsFor output.length indentation longest total
    if columns ≤ 1 then output
    else
      let widths := (List.range columns).map fun i =>
        2 + (lengths.zipIdx.foldl (fun w (l, j) => if j % columns = i then max w l else w) 0)
      let rec rows : Nat → List String → List String
        | 0, _ => []
        | _, [] => []
        | fuel + 1, cells =>
          let row := cells.take columns
          let last := row.length - 1
          let texts := row.zipIdx.map fun (s, i) =>
            let width := widths.getD i 0
            let spaces (n : Nat) := String.ofList (List.replicate n ' ')
            if i < last then
              let cell := s ++ ", "
              if numbers then spaces (width - unitCount cell) ++ cell else cell ++ spaces (width - unitCount cell)
            else if numbers then spaces (width - 2 - unitCount s) ++ s
            else s
          String.join texts :: rows fuel (cells.drop columns)
      rows (items.length + 1) items ++ (if more then output.drop (output.length - 1) else [])

/-- What is in a thing, on one line or on several. `deeper` tells how many levels are below. -/
def arranged (indentation deeper : Nat) (isList numbers more : Bool) (head opening closing : String)
    (output : List String) : String :=
  let entries := output.length
  let output := if isList && 6 < entries then inColumns indentation numbers more output else output
  let front := if head.isEmpty then "" else head ++ " "
  let start := output.length + indentation + unitCount opening + unitCount head + 10
  let total := output.foldl (fun n s => n + unitCount s) (output.length + start)
  let joined := ", ".intercalate output
  if deeper < 3 && entries = output.length && total ≤ lineLength && !joined.toList.contains '\n'
      && !head.toList.contains '\n' then
    front ++ opening ++ " " ++ joined ++ " " ++ closing
  else
    let gap := "\n" ++ String.ofList (List.replicate indentation ' ')
    front ++ opening ++ gap ++ "  " ++ (("," ++ gap ++ "  ").intercalate output) ++ gap ++ closing

/-- A text inside a thing; a long one is cut behind its line ends. -/
def innerText (indentation : Nat) (s : String) : String :=
  if 16 < unitCount s && lineLength < unitCount s + indentation + 4 && s.toList.contains '\n' then
    let pieces := s.splitOn "\n"
    let last := pieces.getLastD ""
    let whole := (pieces.dropLast.map fun l => l ++ "\n") ++ (if last.isEmpty then [] else [last])
    (" +\n" ++ String.ofList (List.replicate (indentation + 2) ' ')).intercalate (whole.map quotedText)
  else quotedText s

inductive Item where
  | gap (n : Nat)
  | item (v : Value)

def withGaps : List Value → List Item
  | [] => []
  | v :: vs =>
    match v, withGaps vs with
    | .absent, .gap n :: r => .gap (n + 1) :: r
    | .absent, r => .gap 1 :: r
    | v, r => .item v :: r

def functionHead (t : Thing) : Work String := do
  let named (kind : String) : String :=
    "[" ++ kind ++ (if t.name.isEmpty then " (anonymous)]" else ": " ++ t.name ++ "]")
  match t.shape, t.code with
  | .classOf, _ =>
    let above ← match t.parent with
      | .ref p => do pure (" extends " ++ (← Work.thing p).name)
      | .native n => pure (" extends " ++ n)
      | _ => pure ""
    return "[class " ++ (if t.name.isEmpty then "(anonymous)" else t.name) ++ above ++ "]"
  | _, some c =>
    return named ((if c.is "async" then "Async" else "")
      ++ (if c.is "generator" then "Generator" else "") ++ "Function")
  | _, none => return named "Function"

structure Showing where
  depth : Nat := 0
  circles : List Nat := []

abbrev Show := StateT Showing Work

mutual

def showWith : Nat → Nat → Nat → List Nat → Value → Show String
  | 0, _, _, _, _ => return "[Object]"
  | fuel + 1, indentation, level, seen, v => do
    match v with
    | .absent | .undefined => return "undefined"
    | .nothing => return "null"
    | .truth b => return if b then "true" else "false"
    | .int n => return toString n ++ "n"
    | .float x =>
      match Decimal.kind x with
      | .finite true _ => return if x == 0 then "-0" else numberText x
      | _ => return numberText x
    | .str s => return innerText indentation s
    | .bytes b =>
      let shown := (b.take 50).map fun x => hexText 2 x.toNat
      let more := if 50 < b.length then " ... " ++ toString (b.length - 50) ++ " more bytes" else ""
      return "<Buffer" ++ String.join (shown.map fun h => " " ++ h) ++ more ++ ">"
    | .native n =>
      if isSymbol v then return "Symbol(" ++ n ++ ")"
      if isPlainNative n then
        return if n == "Math" || n == "JSON" then "Object [" ++ n ++ "] \x7b\x7d" else "Object \x7b\x7d"
      return "[Function: " ++ shortName n ++ "]"
    | .bound "symbol" _ => return "Symbol(" ++ symbolText v ++ ")"
    | .bound n _ => return "[Function: " ++ shortName n ++ "]"
    | .ref id =>
      if seen.contains id then
        let s ← get
        let circles := if s.circles.contains id then s.circles else s.circles ++ [id]
        set { s with circles }
        return "[Circular *" ++ toString (circles.idxOf id + 1) ++ "]"
      let t ← (Work.thing id : Work Thing)
      let name ← (makerName v : Work (Option String))
      let text ← showThing fuel indentation level (id :: seen) id t name
      let s ← get
      if s.circles.contains id then
        return "<ref *" ++ toString (s.circles.idxOf id + 1) ++ "> " ++ text
      return text

def showThing : Nat → Nat → Nat → List Nat → Nat → Thing → Option String → Show String
  | 0, _, _, _, _, _, _ => return "[Object]"
  | fuel + 1, indentation, level, seen, id, t, name => do
    let keys ← (keysOf (.ref id) : Work (List String))
    let keys := (keys.filter fun k => !(t.shape == .list && (indexOf? k).isSome))
      ++ (t.members.toList.filterMap fun e => if isSymbolKey e.mark then some e.mark else none)
    let own := name.getD ""
    let nameless := match t.parent with
      | .nothing => true
      | _ => false
    let label (usual : String) : String :=
      if nameless then "[" ++ usual ++ ": null prototype]" else if own.isEmpty then usual else own
    let tagged (size : String) : String :=
      let kind := shapeKind t
      label kind ++ size ++ (if label kind == kind then " " else " [" ++ kind ++ "] ")
    let hasItems := match t.shape with
      | .list => !t.items.isEmpty || !keys.isEmpty
      | .dict | .set => !t.entries.isEmpty
      | .object | .instanceOf => !keys.isEmpty && (dateOf? t).isNone
      | .promise => true
      | _ => false
    if 2 < level && hasItems then
      return "[" ++ label (if t.shape == .list then "Array" else shapeKind t) ++ "]"
    if hasItems || !keys.isEmpty then modify fun s => { s with depth := level }
    match t.shape with
    | .list =>
      let shown := withGaps (t.items.toList.take itemLimit)
      let more := t.items.size - itemLimit
      let output ← showItems fuel (indentation + 2) (level + 1) seen shown
      let output := if more = 0 then output
        else output ++ ["... " ++ toString more ++ " more item" ++ (if more = 1 then "" else "s")]
      let output := output ++ (← showMembers fuel indentation (level + 1) seen id t keys)
      let head := if label "Array" == "Array" then "" else label "Array" ++ "(" ++ toString t.items.size ++ ")"
      if output.isEmpty then return (if head.isEmpty then "" else head ++ " ") ++ "[]"
      let numbers := t.items.toList.all fun x => match x with
        | .float _ | .int _ => true
        | _ => false
      let numbers := numbers && keys.isEmpty
      let opening := if head.isEmpty then "[" else head ++ " ["
      return arranged indentation ((← get).depth - level) true numbers (0 < more) "" opening "]" output
    | .func | .classOf =>
      let head ← (functionHead t : Work String)
      if keys.isEmpty then return head
      let output ← showMembers fuel indentation (level + 1) seen id t keys
      return arranged indentation ((← get).depth - level) false false false head "\x7b" "\x7d" output
    | .error =>
      let stack ← (plainMember (.ref id) "stack" : Work String)
      let stack ← if stack.isEmpty then do pure ("[" ++ (← (errorText (.ref id) : Work String)) ++ "]")
        else pure stack
      let lines := (("\n" ++ String.ofList (List.replicate indentation ' ')).intercalate (stack.splitOn "\n"))
      if keys.isEmpty then return lines
      let output ← showMembers fuel indentation (level + 1) seen id t keys
      return arranged indentation ((← get).depth - level) false false false lines "\x7b" "\x7d" output
    | .pattern => return "/" ++ t.name ++ "/" ++ flagsOf t
    | .promise =>
      let inner ← match t.name with
        | "pending" => pure "<pending>"
        | "rejected" => do
          pure ("<rejected> " ++ (← showWith fuel (indentation + 2) (level + 1) seen (t.items.getD 0 .undefined)))
        | _ => showWith fuel (indentation + 2) (level + 1) seen (t.items.getD 0 .undefined)
      return arranged indentation ((← get).depth - level) false false false "" (tagged "" ++ "\x7b") "\x7d" [inner]
    | .generator => return "Object [Generator] \x7b\x7d"
    | .iterator =>
      if !(t.name.startsWith "Map" || t.name.startsWith "Set") then
        return "Object [" ++ t.name ++ "] \x7b\x7d"
      let output ← showItems fuel (indentation + 2) (level + 1) seen (t.items.toList.map .item)
      return arranged indentation ((← get).depth - level) false false false "" ("[" ++ t.name ++ "] \x7b") "\x7d" output
    | .set =>
      if t.name.startsWith "Weak" then return t.name ++ " \x7b <items unknown> \x7d"
      let output ← showItems fuel (indentation + 2) (level + 1) seen (t.entries.toList.map fun e => .item e.key)
      let opening := tagged ("(" ++ toString t.entries.size ++ ")") ++ "\x7b"
      if output.isEmpty then return opening ++ "\x7d"
      return arranged indentation ((← get).depth - level) false false false "" opening "\x7d" output
    | .dict =>
      if t.name.startsWith "Weak" then return t.name ++ " \x7b <items unknown> \x7d"
      let output ← showPairs fuel (indentation + 2) (level + 1) seen t.entries.toList
      let opening := tagged ("(" ++ toString t.entries.size ++ ")") ++ "\x7b"
      if output.isEmpty then return opening ++ "\x7d"
      return arranged indentation ((← get).depth - level) false false false "" opening "\x7d" output
    | _ =>
      match dateOf? t with
      | some ms => return (isoDate? ms).getD "Invalid Date"
      | none =>
        let opening := if label "Object" == "Object" then "\x7b" else label "Object" ++ " \x7b"
        if keys.isEmpty then return opening ++ "\x7d"
        let output ← showMembers fuel indentation (level + 1) seen id t keys
        return arranged indentation ((← get).depth - level) false false false "" opening "\x7d" output

def showItems : Nat → Nat → Nat → List Nat → List Item → Show (List String)
  | 0, _, _, _, _ | _, _, _, _, [] => return []
  | fuel + 1, indentation, level, seen, x :: xs => do
    let s ← match x with
      | .gap n => pure ("<" ++ toString n ++ " empty item" ++ (if n = 1 then ">" else "s>"))
      | .item v => showWith fuel indentation level seen v
    return s :: (← showItems fuel indentation level seen xs)

def showPairs : Nat → Nat → Nat → List Nat → List Entry → Show (List String)
  | 0, _, _, _, _ | _, _, _, _, [] => return []
  | fuel + 1, indentation, level, seen, e :: es => do
    let k ← showWith fuel indentation level seen e.key
    let v ← showWith fuel indentation level seen e.value
    return (k ++ " => " ++ v) :: (← showPairs fuel indentation level seen es)

def showMembers : Nat → Nat → Nat → List Nat → Nat → Thing → List String → Show (List String)
  | 0, _, _, _, _, _, _ | _, _, _, _, _, _, [] => return []
  | fuel + 1, indentation, level, seen, id, t, k :: ks => do
    let v := (t.member? k).getD .undefined
    let parts ← (do
      match ← Work.thing? v with
      | some a => return if a.shape == .accessor then some a.items else none
      | none => return none : Work (Option (Array Value)))
    let s ← match parts with
      | some items =>
        pure (match isNullish (items.getD 0 .undefined), isNullish (items.getD 1 .undefined) with
          | false, false => "[Getter/Setter]"
          | false, true => "[Getter]"
          | _, _ => "[Setter]")
      | none => showWith fuel (indentation + 2) level seen v
    return (keyText k ++ ": " ++ s) :: (← showMembers fuel indentation level seen id t ks)

end

def inspect (v : Value) : Work String := do
  return ((← (showWith 20000 0 0 [] v).run {}).1)

end ScriptHost.Braced
