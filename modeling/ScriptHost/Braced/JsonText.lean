import ScriptHost.Braced.Collections

/-!
JSON as the values of a script: read from a text, with what is wrong and where, and written on one
line or with an indentation.
-/
namespace ScriptHost.Braced.JsonText

open Snippet

/-! ## Reading -/

def misread {α : Type} (message : String) : Work α := raise "SyntaxError" message

def faultAt {α : Type} (doc rest : List Char) (message : String) : Work α := do
  let before := doc.take (doc.length - rest.length)
  let line := before.count '\n' + 1
  let column := (before.reverse.takeWhile (· ≠ '\n')).length + 1
  misread (message ++ " at position " ++ toString before.length ++ " (line " ++ toString line
    ++ " column " ++ toString column ++ ")")

def fault {α : Type} (doc rest : List Char) (message : String) : Work α :=
  faultAt doc rest (message ++ " in JSON")

def contextSize : Nat := 10

def unexpected {α : Type} (doc rest : List Char) : Work α := do
  let whole := String.ofList doc
  if ["undefined", "NaN", "Infinity", "[object Object]"].contains whole then
    misread ("\x22" ++ whole ++ "\x22 is not valid JSON")
  match rest with
  | [] => misread "Unexpected end of JSON input"
  | c :: _ =>
    if isDigit c || c = '-' then fault doc rest "Unexpected number"
    else if c = '\x22' then fault doc rest "Unexpected string"
    else
      let size := doc.length
      let position := size - rest.length
      let quote (i j : Nat) := "\x22" ++ String.ofList ((doc.take j).drop i) ++ "\x22"
      let shown :=
        if size ≤ 2 * contextSize then quote 0 size
        else if position < contextSize then quote 0 (position + contextSize) ++ "..."
        else if position < size - contextSize then
          "..." ++ quote (position - contextSize) (position + contextSize) ++ "..."
        else "..." ++ quote (position - contextSize) size
      misread ("Unexpected token '" ++ c.toString ++ "', " ++ shown ++ " is not valid JSON")

def skipSpace (s : List Char) : List Char :=
  s.dropWhile fun c => c = ' ' || c = '\n' || c = '\t' || c = '\r'

def fourHex (s : List Char) : Except (List Char) (Nat × List Char) :=
  let ds := (s.take 4).takeWhile isHex
  match ds.length, valueIn? 16 ds with
  | 4, some n => .ok (n, s.drop 4)
  | k, _ => .error (s.drop k)

def textFrom (doc : List Char) : Nat → List Char → List Char → Work (String × List Char)
  | 0, _, _ => misread "Unexpected end of JSON input"
  | fuel + 1, acc, s => do
    match s with
    | [] => fault doc s "Unterminated string"
    | '\x22' :: r => return (String.ofList acc.reverse, r)
    | '\\' :: 'u' :: r =>
      match fourHex r with
      | .error at' => fault doc at' "Bad Unicode escape"
      | .ok (n, r) =>
        let low := match r with
          | '\\' :: 'u' :: t => (fourHex t).toOption
          | _ => none
        match low with
        | some (m, t) =>
          if 0xD800 ≤ n && n ≤ 0xDBFF && 0xDC00 ≤ m && m ≤ 0xDFFF then
            textFrom doc fuel (charOf (0x10000 + (n - 0xD800) * 0x400 + (m - 0xDC00)) :: acc) t
          else textFrom doc fuel (charOf n :: acc) r
        | none => textFrom doc fuel (charOf n :: acc) r
    | '\\' :: c :: r =>
      let plain := match c with
        | 'n' => some '\n'
        | 't' => some '\t'
        | 'r' => some '\r'
        | 'b' => some '\x08'
        | 'f' => some '\x0c'
        | '\x22' | '\\' | '/' => some c
        | _ => none
      match plain with
      | some c => textFrom doc fuel (c :: acc) r
      | none => fault doc (c :: r) "Bad escaped character"
    | ['\\'] => misread "Unexpected end of JSON input"
    | c :: r =>
      if c.toNat < 0x20 then fault doc s "Bad control character in string literal"
      else textFrom doc fuel (c :: acc) r

def number (doc s : List Char) : Work (Value × List Char) := do
  let (negative, r) := match s with
    | '-' :: r => (true, r)
    | r => (false, r)
  let whole := match r with
    | '0' :: _ => ['0']
    | r => r.takeWhile isDigit
  if whole.isEmpty then fault doc r "No number after minus sign"
  let behind := r.drop whole.length
  match whole, behind with
  | ['0'], c :: _ => if isDigit c then fault doc behind "Unexpected number"
  | _, _ => pure ()
  let (fraction, t) ← match behind with
    | '.' :: t => do
      let ds := t.takeWhile isDigit
      if ds.isEmpty then fault doc t "Unterminated fractional number"
      pure (ds, t.drop ds.length)
    | t => pure ([], t)
  let (power, rest) := powerFront t
  if rest.length = t.length then
    match t with
    | e :: u =>
      if e = 'e' || e = 'E' then
        let u := match u with
          | '+' :: v | '-' :: v => v
          | u => u
        fault doc u "Exponent part is missing a number"
    | [] => pure ()
  let x := scaledFloat ((valueIn? 10 (whole ++ fraction)).getD 0) (power - fraction.length)
  return (.float (if negative then -x else x), rest)

def word (doc : List Char) (v : Value) : List Char → List Char → Work (Value × List Char)
  | [], s => return (v, s)
  | w :: ws, c :: s => if c = w then word doc v ws s else unexpected doc (c :: s)
  | _, [] => unexpected doc []

def newObject (pairs : List (String × Value)) : Work Value :=
  Work.new { shape := .object, members := pairs.foldl (fun es (k, v) => putEntry es k (.str k) v) #[] }

mutual

def value (doc : List Char) : Nat → List Char → Work (Value × List Char)
  | 0, _ => rangeError "Maximum call stack size exceeded"
  | fuel + 1, s => do
    match s with
    | '\x22' :: r =>
      let (t, rest) ← textFrom doc (r.length + 1) [] r
      return (.str t, rest)
    | '[' :: r =>
      match skipSpace r with
      | ']' :: rest => return (← Work.newList [], rest)
      | r =>
        let (vs, rest) ← items doc fuel r
        return (← Work.newList vs, rest)
    | '\x7b' :: r =>
      match skipSpace r with
      | '\x7d' :: rest => return (← newObject [], rest)
      | r =>
        let (pairs, rest) ← members doc fuel "Expected property name or '\x7d'" r
        return (← newObject pairs, rest)
    | 'n' :: _ => word doc .nothing "null".toList s
    | 't' :: _ => word doc (.truth true) "true".toList s
    | 'f' :: _ => word doc (.truth false) "false".toList s
    | c :: _ => if c = '-' || isDigit c then number doc s else unexpected doc s
    | [] => unexpected doc s

def items (doc : List Char) : Nat → List Char → Work (List Value × List Char)
  | 0, _ => rangeError "Maximum call stack size exceeded"
  | fuel + 1, s => do
    let (v, r) ← value doc fuel s
    match skipSpace r with
    | ']' :: rest => return ([v], rest)
    | ',' :: rest =>
      let (vs, rest) ← items doc fuel (skipSpace rest)
      return (v :: vs, rest)
    | r => fault doc r "Expected ',' or ']' after array element"

def members (doc : List Char) :
    Nat → String → List Char → Work (List (String × Value) × List Char)
  | 0, _, _ => rangeError "Maximum call stack size exceeded"
  | fuel + 1, wanted, s => do
    match s with
    | '\x22' :: r =>
      let (k, r) ← textFrom doc (r.length + 1) [] r
      match skipSpace r with
      | ':' :: r =>
        let (v, r) ← value doc fuel (skipSpace r)
        match skipSpace r with
        | '\x7d' :: rest => return ([(k, v)], rest)
        | ',' :: rest =>
          let (pairs, rest) ← members doc fuel "Expected double-quoted property name" (skipSpace rest)
          return ((k, v) :: pairs, rest)
        | r => fault doc r "Expected ',' or '\x7d' after property value"
      | r => fault doc r "Expected ':' after property name"
    | s => fault doc s wanted

end

def read (text : String) : Work Value := do
  let doc := text.toList
  let (v, rest) ← value doc (2 * doc.length + 2) (skipSpace doc)
  match skipSpace rest with
  | [] => return v
  | r => faultAt doc r "Unexpected non-whitespace character after JSON"

/-! ## Writing -/

def quotedChar (c : Char) : String :=
  let n := c.toNat
  if c = '\x22' then "\\\x22"
  else if c = '\\' then "\\\\"
  else if c = '\n' then "\\n"
  else if c = '\t' then "\\t"
  else if c = '\r' then "\\r"
  else if c = '\x08' then "\\b"
  else if c = '\x0c' then "\\f"
  else if n < 0x20 then "\\u" ++ hexText 4 n
  else c.toString

def quoted (s : String) : String := "\x22" ++ String.join (s.toList.map quotedChar) ++ "\x22"

structure Style where
  indent : String := ""
  keys : Option (List String) := none

/-- Items between two brackets, each on a line of its own when there is an indentation. -/
def bracketed (style : Style) (level : Nat) (opening closing : String) (parts : List String) : String :=
  if parts.isEmpty then opening ++ closing
  else if style.indent.isEmpty then opening ++ ",".intercalate parts ++ closing
  else
    let gap (n : Nat) := "\n" ++ String.join (List.replicate n style.indent)
    opening ++ gap (level + 1) ++ ("," ++ gap (level + 1)).intercalate parts ++ gap level ++ closing

/-- What a circle of things looks like: the things on the way with the keys that lead on. -/
def circle {α : Type} (path : List (Nat × String)) (id : Nat) (key : String) : Work α := do
  let around := path.reverse.dropWhile fun p => p.1 ≠ id
  let named (i : Nat) : Work String := do
    return "object with constructor '" ++ ((← makerName (.ref i)).getD "Object") ++ "'"
  let keyed (k : String) : String := if (indexOf? k).isSome then "index " ++ k else "property '" ++ k ++ "'"
  let first ← named id
  let inner := around.drop 1
  let step (p : Nat × String) : Work String := do
    return "\n    |     " ++ keyed p.2 ++ " -> " ++ (← named p.1)
  let middle ← match inner with
    | [] => pure ""
    | [p] => step p
    | p :: ps => do
      let last ← step (ps.getLastD p)
      pure ((← step p) ++ (if ps.length < 2 then "" else "\n    |     ...") ++ last)
  typeError ("Converting circular structure to JSON\n    --> starting at " ++ first ++ middle
    ++ "\n    --- " ++ keyed key ++ " closes the circle")

mutual

def write (style : Style) : Nat → Nat → List (Nat × String) → String → Value → Work (Option String)
  | 0, _, _, _, _ => return some "null"
  | fuel + 1, level, path, key, v => do
    match v with
    | .absent | .undefined => return none
    | .nothing => return some "null"
    | .truth b => return some (if b then "true" else "false")
    | .int _ => typeError "Do not know how to serialize a BigInt"
    | .float x => return some (if x.isFinite then numberText x else "null")
    | .str s => return some (quoted s)
    | .bytes b =>
      let data := bracketed style (level + 1) "[" "]" (b.map fun x => toString x.toNat)
      let colon := if style.indent.isEmpty then ":" else ": "
      return some (bracketed style level "\x7b" "\x7d"
        ["\x22type\x22" ++ colon ++ "\x22Buffer\x22", "\x22data\x22" ++ colon ++ data])
    | .native n =>
      if isPlainNative n then return some "\x7b\x7d"
      return none
    | .bound .. => return none
    | .ref id =>
      let t ← Work.thing id
      match t.shape with
      | .func | .classOf => return none
      | .list =>
        if path.any fun p => p.1 == id then circle path id key
        let parts ← writeItems style fuel (level + 1) ((id, key) :: path) 0 t.items.toList
        return some (bracketed style level "[" "]" parts)
      | _ =>
        match dateOf? t with
        | some ms =>
          return some (match isoDate? ms with
            | some s => quoted s
            | none => "null")
        | none =>
          if path.any fun p => p.1 == id then circle path id key
          let keys ← keysOf v
          let keys := match style.keys with
            | some ks => ks.filter keys.contains
            | none => keys
          let parts ← writeMembers style fuel (level + 1) ((id, key) :: path) t keys
          return some (bracketed style level "\x7b" "\x7d" parts)

def writeItems (style : Style) :
    Nat → Nat → List (Nat × String) → Nat → List Value → Work (List String)
  | 0, _, _, _, _ | _, _, _, _, [] => return []
  | fuel + 1, level, path, i, v :: vs => do
    let s ← write style fuel level path (toString i) v
    return s.getD "null" :: (← writeItems style fuel level path (i + 1) vs)

def writeMembers (style : Style) :
    Nat → Nat → List (Nat × String) → Thing → List String → Work (List String)
  | 0, _, _, _, _ | _, _, _, _, [] => return []
  | fuel + 1, level, path, t, k :: ks => do
    let s ← write style fuel level path k ((t.member? k).getD .undefined)
    let rest ← writeMembers style fuel level path t ks
    match s with
    | some s => return (quoted k ++ (if style.indent.isEmpty then ":" else ": ") ++ s) :: rest
    | none => return rest

end

def depth : Nat := 1000000

mutual

/-- Whether the script itself takes part in the writing of a value. -/
def asksScript : Nat → List Nat → Value → Work Bool
  | 0, _, _ => return false
  | fuel + 1, seen, v => do
    match v with
    | .ref id =>
      if seen.contains id then return false
      let t ← Work.thing id
      match t.shape with
      | .func | .classOf => return false
      | .list => anyAsks fuel (id :: seen) t.items.toList
      | .object | .instanceOf | .error =>
        if let some (.ref f) ← rawMember? v "toJSON" then
          if (← Work.thing f).shape == .func then return true
        anyAsks fuel (id :: seen) (t.members.toList.map (·.value))
      | .accessor => return true
      | _ => return false
    | _ => return false

def anyAsks : Nat → List Nat → List Value → Work Bool
  | 0, _, _ | _, _, [] => return false
  | fuel + 1, seen, v :: vs => do
    if ← asksScript fuel seen v then return true
    anyAsks fuel seen vs

end

def styleOf (replacer indent : Value) : Work Style := do
  let keys ← match ← Work.thing? replacer with
    | some t => if t.shape == .list then pure (some (← t.items.toList.mapM keyText')) else pure none
    | none => pure none
  let indent ← match indent with
    | .float x => pure (String.ofList (List.replicate (min 10 (intOfFloat x).toNat) ' '))
    | .str s => pure (s.take 10).toString
    | _ => pure ""
  return { indent, keys }

def stringify (v replacer indent : Value) : Work Value := do
  let style ← styleOf replacer indent
  let fn ← isFunction replacer
  if fn || (← asksScript 5000 [] v) then
    let holder ← newObject [("", v)]
    let f := (Prelude.function? "prepared").getD .undefined
    throw (.callThen f .undefined [holder, .str "", if fn then replacer else .undefined] "written" [indent, replacer])
  match ← write style depth 0 [] "" v with
  | some s => return .str s
  | none => return .undefined

end ScriptHost.Braced.JsonText
