import ScriptHost.Indented.Kinds
import ScriptHost.Snippet.Letter
import ScriptHost.Text.Field

/-!
How values are written: as texts, as they would stand in a script, in fields of a format, and as JSON.
-/
namespace ScriptHost.Indented

open Snippet

/-- Numbers up to sixteen digits are written without an exponent; a whole one keeps a zero behind its
point. -/
def floatLayout : Decimal.Layout := ⟨-3, 16, true, "e", true, 2⟩

def floatText (x : Float) : String :=
  match Decimal.kind x with
  | .nan => "nan"
  | .infinite negative => if negative then "-inf" else "inf"
  | .finite negative v => (Decimal.shortest negative v).render floatLayout

def hexDigits (width n : Nat) : String := Decimal.padLeft width (String.ofList (Nat.toDigits 16 n))

def isPrintable (c : Char) : Bool :=
  let n := c.toNat
  !(n < 0x20 || (0x7F ≤ n && n ≤ 0xA0) || n == 0xAD || (0x2000 ≤ n && n ≤ 0x200F)
    || (0x2028 ≤ n && n ≤ 0x202F) || (0x205F ≤ n && n ≤ 0x206F) || n == 0x3000
    || (0xD800 ≤ n && n ≤ 0xF8FF) || n == 0xFEFF || (0xFFF0 ≤ n && n ≤ 0xFFFB) || n == 0xFFFE
    || n == 0xFFFF || 0xE0000 ≤ n)

def escapedChar (quote c : Char) : String :=
  if c = quote || c = '\\' then "\\" ++ c.toString
  else if c = '\n' then "\\n"
  else if c = '\r' then "\\r"
  else if c = '\t' then "\\t"
  else if isPrintable c then c.toString
  else if c.toNat < 0x100 then "\\x" ++ hexDigits 2 c.toNat
  else if c.toNat < 0x10000 then "\\u" ++ hexDigits 4 c.toNat
  else "\\U" ++ hexDigits 8 c.toNat

/-- A text in quotes; double ones only where that spares single ones. -/
def quotedText (s : String) : String :=
  let cs := s.toList
  let quote := if cs.contains '\'' && !cs.contains '"' then '"' else '\''
  quote.toString ++ String.join (cs.map (escapedChar quote)) ++ quote.toString

def quotedBytes (b : Bytes) : String :=
  let cs := b.map fun x => Char.ofNat x.toNat
  let quote := if cs.contains '\'' && !cs.contains '"' then '"' else '\''
  let one (c : Char) : String :=
    if 0x7E < c.toNat then "\\x" ++ hexDigits 2 c.toNat else escapedChar quote c
  "b" ++ quote.toString ++ String.join (cs.map one) ++ quote.toString

def setOrder (vs : List Value) : List Value :=
  let ints := vs.filterMap fun v =>
    match v with
    | .int n => if 0 ≤ n then some n else none
    | _ => none
  if ints.length = vs.length then (ints.mergeSort (· ≤ ·)).map .int else vs

def ownText (v : Value) (names : List String) : Work Unit := do
  for n in names do
    if let some f ← special v n then throw (.call f .absent [] [])

mutual

def reprWith : Nat → List Nat → Value → Work String
  | 0, _, _ => return "..."
  | fuel + 1, seen, v => do
    match v with
    | .absent | .undefined | .nothing => return "None"
    | .truth b => return if b then "True" else "False"
    | .int n => return toString n
    | .float x => return floatText x
    | .str s => return quotedText s
    | .bytes b => return quotedBytes b
    | .native n =>
      if isType n then return "<class '" ++ n ++ "'>"
      return "<built-in function " ++ shortName n ++ ">"
    | .bound n _ => return "<built-in method " ++ shortName n ++ ">"
    | .ref id =>
      let t ← Work.thing id
      if seen.contains id then
        return match t.shape with
          | .list => "[...]"
          | .dict => "\x7b...\x7d"
          | _ => "(...)"
      let seen := id :: seen
      let items ← reprAll fuel seen (match t.shape with
        | .list | .tuple | .object => t.items.toList
        | .set => setOrder (keysOf t)
        | _ => [])
      match t.shape with
      | .list =>
        let body := "[" ++ ", ".intercalate items ++ "]"
        return if t.name.isEmpty then body else t.name ++ "(" ++ body ++ ")"
      | .tuple =>
        match items with
        | [a] => return "(" ++ a ++ ",)"
        | items => return "(" ++ ", ".intercalate items ++ ")"
      | .set =>
        if items.isEmpty then return (if t.name.isEmpty then "set" else t.name) ++ "()"
        let body := "\x7b" ++ ", ".intercalate items ++ "\x7d"
        return if t.name.isEmpty then body else t.name ++ "(" ++ body ++ ")"
      | .dict =>
        let body := "\x7b" ++ ", ".intercalate (← reprEntries fuel seen t.entries.toList) ++ "\x7d"
        match t.name with
        | "" => return body
        | "collections.OrderedDict" =>
          let pairs ← reprPairs fuel seen t.entries.toList
          return "OrderedDict(" ++ (if pairs.isEmpty then "" else "[" ++ ", ".intercalate pairs ++ "]") ++ ")"
        | "collections.defaultdict" =>
          return "defaultdict(" ++ (← reprWith fuel seen t.parent) ++ ", " ++ body ++ ")"
        | n => return shortName n ++ "(" ++ (if t.entries.isEmpty then "" else body) ++ ")"
      | .object =>
        if t.name == "range" then
          let items := if items.getLast? == some "1" then items.dropLast else items
          return "range(" ++ ", ".intercalate items ++ ")"
        return "<object object at 0x7f0000000000>"
      | .func =>
        let what := if t.parent.isAbsent then "function " else "bound method "
        return "<" ++ what ++ t.name ++ " at 0x7f0000000000>"
      | .classOf => return "<class '__main__." ++ t.name ++ "'>"
      | .module => return "<module '" ++ t.name ++ "'>"
      | .generator => return "<generator object " ++ t.name ++ " at 0x7f0000000000>"
      | .file => return "<_io.TextIOWrapper name='" ++ t.name ++ "' mode='r' encoding='utf-8'>"
      | .instanceOf =>
        if ← isFailure v then
          let args ← reprAll fuel seen t.items.toList
          return (← kindName t.parent) ++ "(" ++ ", ".intercalate args ++ ")"
        return "<__main__." ++ (← kindName t.parent) ++ " object at 0x7f0000000000>"
      | _ => return "<" ++ (← typeName v) ++ " object at 0x7f0000000000>"

def reprAll : Nat → List Nat → List Value → Work (List String)
  | _, _, [] => return []
  | fuel, seen, v :: vs => do
    match fuel with
    | 0 => return ["..."]
    | fuel + 1 => return (← reprWith fuel seen v) :: (← reprAll (fuel + 1) seen vs)

def reprEntries : Nat → List Nat → List Entry → Work (List String)
  | _, _, [] => return []
  | fuel, seen, e :: es => do
    match fuel with
    | 0 => return ["..."]
    | fuel + 1 =>
      let k ← reprWith fuel seen e.key
      let v ← reprWith fuel seen e.value
      return (k ++ ": " ++ v) :: (← reprEntries (fuel + 1) seen es)

def reprPairs : Nat → List Nat → List Entry → Work (List String)
  | _, _, [] => return []
  | fuel, seen, e :: es => do
    match fuel with
    | 0 => return ["..."]
    | fuel + 1 =>
      let k ← reprWith fuel seen e.key
      let v ← reprWith fuel seen e.value
      return ("(" ++ k ++ ", " ++ v ++ ")") :: (← reprPairs (fuel + 1) seen es)

end

def reprText (v : Value) : Work String := do
  ownText v ["__repr__"]
  reprWith 200 [] v

def failureText (v : Value) : Work String := do
  match v with
  | .ref id =>
    let t ← Work.thing id
    match t.items.toList with
    | [] => return ""
    | [a] =>
      if ← isInstance v (.native "KeyError") then reprWith 200 [] a
      else match a with
        | .str s => return s
        | a => reprWith 200 [] a
    | items =>
      if ← isInstance v (.native "OSError") then
        let parts ← reprAll 200 [] items
        let reason := match items.getD 1 .absent with
          | .str s => s
          | _ => parts.getD 1 ""
        let place := if parts.length < 3 then "" else ": " ++ parts.getD 2 ""
        return "[Errno " ++ parts.getD 0 "" ++ "] " ++ reason ++ place
      return "(" ++ ", ".intercalate (← reprAll 200 [] items) ++ ")"
  | _ => return ""

def textOf (v : Value) : Work String := do
  match v with
  | .str s => return s
  | .ref _ =>
    ownText v ["__str__", "__repr__"]
    if ← isFailure v then failureText v else reprWith 200 [] v
  | v => reprWith 200 [] v

/-! ## Fields -/

/-- What stands behind the colon of a field. -/
structure Spec where
  fill : Char := ' '
  align : Option Char := none
  sign : Char := '-'
  alternate : Bool := false
  zero : Bool := false
  width : Nat := 0
  comma : Option Char := none
  precision : Option Nat := none
  letter : Option Char := none

def isAlign (c : Char) : Bool := c = '<' || c = '>' || c = '^' || c = '='

def digitsFront (s : List Char) : Nat × List Char :=
  let ds := s.takeWhile isDigit
  ((valueIn? 10 ds).getD 0, s.drop ds.length)

def Spec.read (s : List Char) : Option Spec := do
  let (fill, align, s) := match s with
    | c :: a :: r => if isAlign a then (c, some a, r) else if isAlign c then (' ', some c, a :: r) else (' ', none, s)
    | [c] => if isAlign c then (' ', some c, []) else (' ', none, s)
    | [] => (' ', none, [])
  let (sign, s) := match s with
    | c :: r => if c = '+' || c = '-' || c = ' ' then (c, r) else ('-', s)
    | [] => ('-', [])
  let (alternate, s) := match s with
    | '#' :: r => (true, r)
    | s => (false, s)
  let (zero, s) := match s with
    | '0' :: r => (true, r)
    | s => (false, s)
  let (width, s) := digitsFront s
  let (comma, s) := match s with
    | ',' :: r => (some ',', r)
    | '_' :: r => (some '_', r)
    | s => (none, s)
  let (precision, s) ← match s with
    | '.' :: r =>
      let (n, t) := digitsFront r
      if t.length = r.length then none else some (some n, t)
    | s => some (none, s)
  match s with
  | [] => return ⟨fill, align, sign, alternate, zero, width, comma, precision, none⟩
  | [c] => return ⟨fill, align, sign, alternate, zero, width, comma, precision, some c⟩
  | _ => none

def Spec.pad (f : Spec) (usual : Char) (s : String) : String :=
  let missing := f.width - s.length
  let align := f.align.getD (if f.zero && usual = '>' then '=' else usual)
  let fill := if f.zero && f.align.isNone && f.fill = ' ' then '0' else f.fill
  let run (n : Nat) := String.ofList (List.replicate n fill)
  match align with
  | '<' => s ++ run missing
  | '^' => run (missing / 2) ++ s ++ run (missing - missing / 2)
  | '=' =>
    match s.toList with
    | c :: r =>
      if c = '-' || c = '+' || c = ' ' then c.toString ++ run missing ++ String.ofList r
      else run missing ++ s
    | [] => run missing
  | _ => run missing ++ s

def grouped (sep : Option Char) (size : Nat) (digits : String) : String :=
  match sep with
  | none => digits
  | some c =>
    let rev := digits.toList.reverse
    let rec go : Nat → List Char → List Char
      | 0, cs => cs
      | n + 1, cs =>
        if cs.length ≤ size then cs else cs.take size ++ c :: go n (cs.drop size)
    String.ofList (go rev.length rev).reverse

def Spec.signed (f : Spec) (negative : Bool) (s : String) : String :=
  if negative then "-" ++ s
  else if f.sign = '+' then "+" ++ s
  else if f.sign = ' ' then " " ++ s
  else s

def upperDigits (s : String) : String := s.map Char.toUpper

def Spec.integer (f : Spec) (n : Int) : Option String :=
  let m := n.natAbs
  let digitsIn (base : Nat) := String.ofList (Nat.toDigits base m)
  let body (s mark : String) (size : Nat) :=
    some (f.pad '>' (f.signed (n < 0) ((if f.alternate then mark else "") ++ grouped f.comma size s)))
  match f.letter with
  | none | some 'd' | some 'n' => body (toString m) "" 3
  | some 'x' => body (digitsIn 16) "0x" 4
  | some 'X' => body (upperDigits (digitsIn 16)) "0X" 4
  | some 'o' => body (digitsIn 8) "0o" 4
  | some 'b' => body (digitsIn 2) "0b" 4
  | some 'c' => some (f.pad '<' (charOf m).toString)
  | _ => none

def groupedNumber (sep : Option Char) (s : String) : String :=
  let whole := s.toList.takeWhile isDigit
  grouped sep 3 (String.ofList whole) ++ String.ofList (s.toList.drop whole.length)

def generalDigits (alternate : Bool) (places : Nat) (v : Decimal.Binary) (pointZero : Bool) : String :=
  let _ := alternate
  (Decimal.toDigits (max 1 places) false v).render ⟨-3, max 1 places, pointZero, "e", true, 2⟩

def Spec.float (f : Spec) (x : Float) : Option String :=
  match Decimal.kind x with
  | .nan => some (f.pad '>' (f.signed false "nan"))
  | .infinite negative => some (f.pad '>' (f.signed negative "inf"))
  | .finite negative v =>
    let places := f.precision.getD 6
    let scientific (upper : Bool) : String :=
      let short := Decimal.toDigits (places + 1) false v
      let missing := places + 1 - (toString short.digits).length
      let s := Text.Field.scientific (short.digits * tenTo missing) places (short.exponent - missing + places)
      if upper then upperDigits s else s
    let body := match f.letter with
      | some 'f' | some 'F' => some (Text.Field.fixed places v)
      | some 'e' => some (scientific false)
      | some 'E' => some (scientific true)
      | some 'g' => some (generalDigits f.alternate (f.precision.getD 6) v false)
      | some 'G' => some (upperDigits (generalDigits f.alternate (f.precision.getD 6) v false))
      | some 'n' => some (generalDigits f.alternate (f.precision.getD 6) v false)
      | some '%' =>
        match Decimal.kind (x * 100) with
        | .finite _ w => some (Text.Field.fixed places w ++ "%")
        | _ => some "inf%"
      | none =>
        match f.precision with
        | none => some ((Decimal.shortest false v).render floatLayout)
        | some p => some ((Decimal.toDigits (max 1 p) false v).render ⟨-3, max 1 p, true, "e", true, 2⟩)
      | _ => none
    body.map fun s => f.pad '>' (f.signed negative (groupedNumber f.comma s))

def formatValue (v : Value) (spec : String) : Work String := do
  if spec.isEmpty then return ← textOf v
  match Spec.read spec.toList with
  | none => valueError "Invalid format specifier"
  | some f =>
    let bad {α : Type} (type : String) : Work α :=
      valueError ("Unknown format code '" ++ (f.letter.map (·.toString)).getD "" ++ "' for object of type '"
        ++ type ++ "'")
    let floats : Bool := match f.letter with
      | some c => "eEfFgG%".toList.contains c
      | none => false
    match v with
    | .int n =>
      if floats then return (f.float (Float.ofInt n)).getD ""
      match f.integer n with
      | some s => return s
      | none => bad "int"
    | .truth b =>
      if f.letter.isNone then return f.pad '<' (if b then "True" else "False")
      match if floats then f.float (if b then 1 else 0) else f.integer (if b then 1 else 0) with
      | some s => return s
      | none => bad "bool"
    | .float x =>
      match f.float x with
      | some s => return s
      | none => bad "float"
    | .str s =>
      if f.letter.isSome && f.letter != some 's' then bad "str"
      let s := match f.precision with
        | some p => (s.take p).toString
        | none => s
      return { f with zero := false, fill := if f.zero then '0' else f.fill }.pad '<' s
    | v =>
      match ← special v "__format__" with
      | some g => throw (.call g .absent [.str spec] [])
      | none => typeError ("unsupported format string passed to " ++ (← typeName v) ++ ".__format__")

def percentField (f : Text.Field) (letter : Char) (v : Value) : Work String := do
  let spec : Spec :=
    { width := f.width, precision := f.precision, zero := f.zero && !f.left
      align := if f.left then some '<' else none
      sign := if f.plus then '+' else if f.space then ' ' else '-', alternate := f.alternate }
  let needNumber {α : Type} (what : String) : Work α := do
    typeError ("%" ++ letter.toString ++ " format: a " ++ what ++ " is required, not " ++ (← typeName v))
  let cut (s : String) : String := match f.precision with
    | some p => (s.take p).toString
    | none => s
  let text (s : String) : String :=
    { spec with zero := false, precision := none, align := if f.left then some '<' else some '>' }.pad '>' (cut s)
  let digits (n : Int) (c : Char) : String :=
    ({ spec with letter := some c, precision := none }.integer n).getD ""
  match letter with
  | 's' => return text (← textOf v)
  | 'r' | 'a' => return text (← reprText v)
  | 'd' | 'i' | 'u' =>
    match v with
    | .int n => return digits n 'd'
    | .truth b => return digits (if b then 1 else 0) 'd'
    | .float x =>
      match Decimal.integer? (if x < 0 then x.ceil else x.floor) with
      | some n => return digits n 'd'
      | none => valueError "cannot convert float NaN to integer"
    | _ => needNumber "real number"
  | 'x' | 'X' | 'o' =>
    match v with
    | .int n => return digits n letter
    | .truth b => return digits (if b then 1 else 0) letter
    | _ => needNumber "integer"
  | 'c' =>
    match v with
    | .int n => return text (charOf n.toNat).toString
    | .str s => return text s
    | _ => typeError "%c requires int or char"
  | 'f' | 'F' | 'e' | 'E' | 'g' | 'G' =>
    match v with
    | .int n => return ({ spec with letter := some letter }.float (Float.ofInt n)).getD ""
    | .truth b => return ({ spec with letter := some letter }.float (if b then 1 else 0)).getD ""
    | .float x => return ({ spec with letter := some letter }.float x).getD ""
    | _ => typeError ("must be real number, not " ++ (← typeName v))
  | c => valueError ("unsupported format character '" ++ c.toString ++ "'")

def percentWith : Nat → Bytes → List Value → Value → List String → Work (List String × List Value)
  | 0, _, vs, _, acc => return (acc.reverse, vs)
  | fuel + 1, s, vs, whole, acc => do
    let text := s.takeWhile (· ≠ 0x25)
    let acc := if text.isEmpty then acc else Bytes.lossy text :: acc
    match s.drop text.length with
    | [] => return (acc.reverse, vs)
    | _ :: 0x25 :: r => percentWith fuel r vs whole ("%" :: acc)
    | _ :: r =>
      let (key, r) := match r with
        | 0x28 :: t =>
          let k := t.takeWhile (· ≠ 0x29)
          (some (Bytes.lossy k), t.drop (k.length + 1))
        | r => (none, r)
      let (f, r) := Text.Field.read 9 r
      match r with
      | [] => valueError "incomplete format"
      | c :: r =>
        let letter := Char.ofNat c.toNat
        match key with
        | some k =>
          match ← Work.thing? whole with
          | some t =>
            match findEntry t.entries ("s" ++ k) with
            | some e => percentWith fuel r vs whole ((← percentField f letter e.value) :: acc)
            | none => throw (.raise (← newFailure (.native "KeyError") [.str k]))
          | none => typeError "format requires a mapping"
        | none =>
          match vs with
          | v :: vs => percentWith fuel r vs whole ((← percentField f letter v) :: acc)
          | [] => typeError "not enough arguments for format string"

def percentFormat (s : String) (v : Value) : Work Value := do
  let t ← Work.thing? v
  let (vs, isMapping) := match t with
    | some t => if t.shape = .tuple then (t.items.toList, false) else ([v], t.shape = .dict)
    | none => ([v], false)
  let b := bytes s
  let (parts, left) ← percentWith (b.length + 2) b vs v []
  if !left.isEmpty && !isMapping then typeError "not all arguments converted during string formatting"
  return .str (String.join parts)

/-! ## JSON -/

structure JsonStyle where
  indent : Option String := none
  itemSep : String := ", "
  keySep : String := ": "
  sortKeys : Bool := false
  asciiOnly : Bool := true

def jsonChar (asciiOnly : Bool) (c : Char) : String :=
  match c with
  | '"' => "\\\x22"
  | '\\' => "\\\\"
  | '\n' => "\\n"
  | '\r' => "\\r"
  | '\t' => "\\t"
  | '\x08' => "\\b"
  | '\x0c' => "\\f"
  | c =>
    if c.toNat < 0x20 || (asciiOnly && 0x7E < c.toNat && c.toNat < 0x10000) then "\\u" ++ hexDigits 4 c.toNat
    else if asciiOnly && 0xFFFF < c.toNat then
      let n := c.toNat - 0x10000
      "\\u" ++ hexDigits 4 (0xD800 + n / 0x400) ++ "\\u" ++ hexDigits 4 (0xDC00 + n % 0x400)
    else c.toString

def jsonText (style : JsonStyle) (s : String) : String :=
  "\x22" ++ String.join (s.toList.map (jsonChar style.asciiOnly)) ++ "\x22"

def jsonFloat (x : Float) : String :=
  match Decimal.kind x with
  | .nan => "NaN"
  | .infinite negative => if negative then "-Infinity" else "Infinity"
  | _ => floatText x

def jsonKey (v : Value) : Work String := do
  match v with
  | .str s => return s
  | .truth b => return if b then "true" else "false"
  | .nothing => return "null"
  | .int n => return toString n
  | .float x => return jsonFloat x
  | v => typeError ("keys must be str, int, float, bool or None, not " ++ (← typeName v))

def jsonBlock (style : JsonStyle) (depth : Nat) (opening closing : String) (parts : List String) : String :=
  if parts.isEmpty then opening ++ closing
  else match style.indent with
    | none => opening ++ style.itemSep.intercalate parts ++ closing
    | some unit =>
      let line (n : Nat) := "\n" ++ String.join (List.replicate n unit)
      opening ++ line (depth + 1) ++ (style.itemSep ++ line (depth + 1)).intercalate parts
        ++ line depth ++ closing

mutual

def jsonWith (style : JsonStyle) : Nat → Nat → Value → Work String
  | 0, _, _ => valueError "Circular reference detected"
  | fuel + 1, depth, v => do
    match v with
    | .absent | .undefined | .nothing => return "null"
    | .truth b => return if b then "true" else "false"
    | .int n => return toString n
    | .float x => return jsonFloat x
    | .str s => return jsonText style s
    | .ref id =>
      let t ← Work.thing id
      match t.shape with
      | .list | .tuple =>
        if t.shape == .list && !t.name.isEmpty then
          typeError ("Object of type " ++ t.name ++ " is not JSON serializable")
        return jsonBlock style depth "[" "]" (← jsonAll style fuel (depth + 1) t.items.toList)
      | .dict =>
        let entries := t.entries.toList
        let entries := if style.sortKeys then
            entries.mergeSort fun a b => match a.key, b.key with
              | .str x, .str y => x ≤ y
              | .int x, .int y => x ≤ y
              | _, _ => true
          else entries
        return jsonBlock style depth "\x7b" "\x7d" (← jsonEntries style fuel (depth + 1) entries)
      | _ => typeError ("Object of type " ++ (← typeName v) ++ " is not JSON serializable")
    | v => typeError ("Object of type " ++ (← typeName v) ++ " is not JSON serializable")

def jsonAll (style : JsonStyle) : Nat → Nat → List Value → Work (List String)
  | _, _, [] => return []
  | fuel, depth, v :: vs => do
    match fuel with
    | 0 => valueError "Circular reference detected"
    | fuel + 1 => return (← jsonWith style fuel depth v) :: (← jsonAll style (fuel + 1) depth vs)

def jsonEntries (style : JsonStyle) : Nat → Nat → List Entry → Work (List String)
  | _, _, [] => return []
  | fuel, depth, e :: es => do
    match fuel with
    | 0 => valueError "Circular reference detected"
    | fuel + 1 =>
      let k ← jsonKey e.key
      let v ← jsonWith style fuel depth e.value
      return (jsonText style k ++ style.keySep ++ v) :: (← jsonEntries style (fuel + 1) depth es)

end

def toJson (style : JsonStyle) (v : Value) : Work String := jsonWith style 600 0 v

end ScriptHost.Indented
