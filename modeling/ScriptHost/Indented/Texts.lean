import ScriptHost.Indented.Given
import ScriptHost.Snippet.Regex
import ScriptHost.Text.Case

/-!
What texts and byte strings can do: taking them apart, putting them together, looking into them, and
filling the fields of a format.
-/
namespace ScriptHost.Indented

open Snippet

def isGap (c : Char) : Bool := Regex.isSpace c || (0x1C ≤ c.toNat && c.toNat ≤ 0x1F) || c = '\x85'

def findFrom (part : List Char) : Nat → List Char → Option Nat
  | i, cs =>
    if part.isPrefixOf cs then some i
    else match cs with
      | [] => none
      | _ :: r => findFrom part (i + 1) r

def findLast (part whole : List Char) : Option Nat :=
  (findFrom part.reverse 0 whole.reverse).map fun i => whole.length - i - part.length

def splitAtMost (sep : List Char) : Nat → Nat → List Char → List (List Char)
  | 0, _, cs => [cs]
  | _, 0, cs => [cs]
  | fuel + 1, n + 1, cs =>
    match findFrom sep 0 cs with
    | some i => cs.take i :: splitAtMost sep fuel n (cs.drop (i + sep.length))
    | none => [cs]

def wordsAtMost : Nat → Nat → List Char → List (List Char)
  | 0, _, _ => []
  | fuel + 1, n, cs =>
    match cs.dropWhile isGap with
    | [] => []
    | cs =>
      match n with
      | 0 => [cs]
      | n + 1 =>
        let word := cs.takeWhile fun c => !isGap c
        word :: wordsAtMost fuel n (cs.drop word.length)

def textValue (cs : List Char) : Value := .str (String.ofList cs)

def textList (pieces : List (List Char)) : Work Value := newList (pieces.map textValue)

def splitText (cs : List Char) (sep : Value) (n : Int) : Work (List (List Char)) := do
  let most := if n < 0 then cs.length + 1 else n.toNat
  if isNone sep then return wordsAtMost (cs.length + 1) most cs
  let s ← needText "split()" sep
  if s.isEmpty then valueError "empty separator"
  return splitAtMost s.toList (cs.length + 1) most cs

def splitTextBack (cs : List Char) (sep : Value) (n : Int) : Work (List (List Char)) := do
  let sep := match sep with
    | .str s => .str (String.ofList s.toList.reverse)
    | v => v
  return ((← splitText cs.reverse sep n).map List.reverse).reverse

def isLineEnd (c : Char) : Bool :=
  c = '\n' || c = '\r' || c = '\x0b' || c = '\x0c' || (0x1C ≤ c.toNat && c.toNat ≤ 0x1E) || c = '\x85'
    || c = '\u2028' || c = '\u2029'

def linesOf (keep : Bool) : List Char → List Char → List (List Char)
  | acc, [] => if acc.isEmpty then [] else [acc.reverse]
  | acc, '\r' :: '\n' :: r =>
    (if keep then acc.reverse ++ ['\r', '\n'] else acc.reverse) :: linesOf keep [] r
  | acc, c :: r =>
    if isLineEnd c then (if keep then (c :: acc).reverse else acc.reverse) :: linesOf keep [] r
    else linesOf keep (c :: acc) r

def capitalized (cs : List Char) : List Char :=
  match cs with
  | [] => []
  | c :: r => Text.capitalOf c :: r.map Text.smallOf

def titled : Bool → List Char → List Char
  | _, [] => []
  | inWord, c :: r =>
    let cased := Text.isCapital c || Text.isSmall c
    (if inWord then Text.smallOf c else Text.capitalOf c) :: titled cased r

def swapCase (c : Char) : Char := if Text.isCapital c then Text.smallOf c else Text.capitalOf c

def expandTabs (size : Nat) : Nat → List Char → List Char
  | _, [] => []
  | column, c :: r =>
    if c = '\t' then
      let n := if size = 0 then 0 else size - column % size
      List.replicate n ' ' ++ expandTabs size (column + n) r
    else c :: expandTabs size (if c = '\n' || c = '\r' then 0 else column + 1) r

def windowOf (cs : List Char) (start stop : Value) : Work (Nat × List Char) := do
  let n : Int := cs.length
  let clamp (i : Int) : Nat := (max 0 (min n (if i < 0 then i + n else i))).toNat
  let a ← intOr 0 start
  let b ← intOr n stop
  return (clamp a, (cs.take (clamp b)).drop (clamp a))

def countIn (part : List Char) (cs : List Char) : Nat :=
  if part.isEmpty then cs.length + 1 else (splitAtMost part (cs.length + 1) (cs.length + 1) cs).length - 1

def stripSet (v : Value) : Work (Char → Bool) := do
  if isNone v then return isGap
  let s ← needText "strip()" v
  return fun c => s.toList.contains c

def candidates (f : String) (v : Value) : Work (List String) := do
  match v with
  | .str s => return [s]
  | .ref id =>
    let t ← Work.thing id
    if t.shape == .tuple then t.items.toList.mapM (needText f)
    else typeError (f ++ " first arg must be str or a tuple of str, not " ++ (← typeName v))
  | v => typeError (f ++ " first arg must be str or a tuple of str, not " ++ (← typeName v))

/-! ## Formats -/

structure Filling where
  args : List Value
  named : List (String × Value)
  attr : Value → String → Work Value

def fieldEnd : Nat → List Char → List Char → Option (List Char × List Char)
  | _, _, [] => none
  | depth, acc, c :: r =>
    if c = '\x7b' then fieldEnd (depth + 1) (c :: acc) r
    else if c = '\x7d' then
      match depth with
      | 0 => some (acc.reverse, r)
      | depth + 1 => fieldEnd depth (c :: acc) r
    else fieldEnd depth (c :: acc) r

def Filling.follow (f : Filling) : Nat → Value → List Char → Work Value
  | fuel + 1, v, '.' :: r => do
    let name := r.takeWhile fun c => c ≠ '.' && c ≠ '['
    f.follow fuel (← f.attr v (String.ofList name)) (r.drop name.length)
  | fuel + 1, v, '[' :: r => do
    let key := r.takeWhile (· ≠ ']')
    let k := match if key.all isDigit then valueIn? 10 key else none with
      | some n => if key.isEmpty then textValue key else .int n
      | none => textValue key
    f.follow fuel (← getIndex v k) (r.drop (key.length + 1))
  | _, v, _ => return v

def Filling.value (f : Filling) (name : List Char) (next : Nat) : Work (Value × Nat) := do
  let head := name.takeWhile fun c => c ≠ '.' && c ≠ '['
  let rest := name.drop head.length
  let atPosition (i : Nat) : Work Value :=
    match f.args[i]? with
    | some v => return v
    | none => raise "IndexError" ("Replacement index " ++ toString i ++ " out of range for positional args tuple")
  let (v, next) ← if head.isEmpty then pure (← atPosition next, next + 1)
    else match if head.all isDigit then valueIn? 10 head else none with
      | some i => pure (← atPosition i, next)
      | none =>
        let n := String.ofList head
        match f.named.find? (·.1 == n) with
        | some (_, v) => pure (v, next)
        | none => keyError (.str n)
  return (← f.follow (rest.length + 1) v rest, next)

def converted (letter : Char) (v : Value) : Work Value := do
  match letter with
  | 'r' | 'a' => return .str (← reprText v)
  | _ => return .str (← textOf v)

def Filling.fill (f : Filling) : Nat → Nat → Nat → List Char → List Char → Work (List Char × Nat)
  | 0, _, next, acc, _ => return (acc.reverse, next)
  | fuel + 1, depth, next, acc, cs => do
    match cs with
    | [] => return (acc.reverse, next)
    | '\x7b' :: '\x7b' :: r => f.fill fuel depth next ('\x7b' :: acc) r
    | '\x7d' :: '\x7d' :: r => f.fill fuel depth next ('\x7d' :: acc) r
    | '\x7d' :: _ => valueError "Single '\x7d' encountered in format string"
    | '\x7b' :: r =>
      match fieldEnd 0 [] r with
      | none => valueError (if r.isEmpty then "Single '\x7b' encountered in format string"
          else "expected '\x7d' before end of string")
      | some (field, r) =>
        let name := field.takeWhile fun c => c ≠ '!' && c ≠ ':'
        let rest := field.drop name.length
        let (conversion, spec) := match rest with
          | '!' :: c :: ':' :: s => (some c, s)
          | '!' :: c :: _ => (some c, [])
          | ':' :: s => (none, s)
          | _ => (none, [])
        let (v, next) ← f.value name next
        let v ← match conversion with
          | some c => converted c v
          | none => pure v
        let (spec, next) ← match depth with
          | 0 => pure (spec, next)
          | depth + 1 => f.fill fuel depth next [] spec
        let s ← formatValue v (String.ofList spec)
        f.fill fuel depth next (s.toList.reverse ++ acc) r
    | c :: r => f.fill fuel depth next (c :: acc) r

def formatText (f : Filling) (s : String) : Work Value := do
  let cs := s.toList
  return textValue (← f.fill (cs.length * 4 + 8) 1 0 [] cs).1

/-! ## Methods -/

def textMethods : List String :=
  ["upper", "lower", "title", "capitalize", "swapcase", "casefold", "strip", "lstrip", "rstrip", "split",
    "rsplit", "splitlines", "join", "replace", "startswith", "endswith", "find", "rfind", "index", "rindex",
    "count", "isdigit", "isalpha", "isalnum", "isspace", "isupper", "islower", "isnumeric", "isdecimal",
    "isidentifier", "istitle", "isascii", "isprintable", "center", "ljust", "rjust", "zfill", "format",
    "format_map", "encode", "partition", "rpartition", "removeprefix", "removesuffix", "expandtabs",
    "translate", "maketrans"]

def testsOfText (name : String) (cs : List Char) : Option Bool :=
  let every (p : Char → Bool) := some (!cs.isEmpty && cs.all p)
  let digit (c : Char) := isDigit c || (0x660 ≤ c.toNat && c.toNat ≤ 0x669)
  match name with
  | "isdigit" => every fun c => digit c || c = '\u00B2' || c = '\u00B3' || c = '\u00B9'
  | "isdecimal" => every digit
  | "isnumeric" => every digit
  | "isalpha" => every fun c => isLetter c && c ≠ '_'
  | "isalnum" => every fun c => isNamePart c && c ≠ '_'
  | "isspace" => every isGap
  | "isascii" => some (cs.all fun c => c.toNat < 0x80)
  | "isprintable" => some (cs.all fun c => c = ' ' || isPrintable c)
  | "isupper" => some (cs.any Text.isCapital && !cs.any Text.isSmall)
  | "islower" => some (cs.any Text.isSmall && !cs.any Text.isCapital)
  | "istitle" => some (cs.any Text.isCapital && titled false cs == cs)
  | "isidentifier" =>
    match cs with
    | c :: r => some (isLetter c && r.all isNamePart)
    | [] => some false
  | _ => none

def changeOfText (name : String) (s : String) : Option String :=
  let cs := s.toList
  match name with
  | "upper" => some (Text.inCapitals s)
  | "lower" => some (Text.inSmall s)
  | "casefold" => some ((Text.inSmall s).replace "\u00DF" "ss")
  | "title" => some (String.ofList (titled false cs))
  | "capitalize" => some (String.ofList (capitalized cs))
  | "swapcase" => some (String.ofList (cs.map swapCase))
  | _ => none

def joinTexts (sep : String) (vs : List Value) : Work Value := do
  let parts ← vs.zipIdx.mapM fun (v, i) =>
    match v with
    | .str s => pure s
    | v => do
      typeError ("sequence item " ++ toString i ++ ": expected str instance, " ++ (← typeName v) ++ " found")
  return .str (sep.intercalate parts)

def fillCharOf (v : Value) : Work Char := do
  if isNone v then return ' '
  match v with
  | .str s =>
    match s.toList with
    | [c] => return c
    | _ => typeError "The fill character must be exactly one character long"
  | v => typeError ("The fill character must be a unicode character, not " ++ (← typeName v))

def padText (name : String) (cs : List Char) (width : Nat) (fill : Char) : List Char :=
  let missing := width - cs.length
  let run (n : Nat) := List.replicate n fill
  match name with
  | "ljust" => cs ++ run missing
  | "rjust" => run missing ++ cs
  | _ =>
    let left := missing / 2 + (if missing % 2 = 1 && width % 2 = 1 then 1 else 0)
    run left ++ cs ++ run (missing - left)

def zeroFilled (cs : List Char) (width : Nat) : List Char :=
  let zeros := List.replicate (width - cs.length) '0'
  match cs with
  | c :: r => if c = '-' || c = '+' then c :: zeros ++ r else zeros ++ cs
  | [] => zeros

def translated (table : Thing) (cs : List Char) : List Char :=
  cs.flatMap fun c =>
    match findEntry table.entries ("i" ++ toString c.toNat) with
    | some e =>
      match e.value with
      | .str s => s.toList
      | .int n => [charOf n.toNat]
      | _ => []
    | none => [c]

def translationTable (vs : List Value) : Work Value := do
  match vs with
  | [.ref id] =>
    let t ← Work.thing id
    newDict (t.entries.toList.map fun e =>
      match e.key with
      | .str k => (.int (k.toList.headD ' ').toNat, e.value)
      | k => (k, e.value))
  | .str a :: .str b :: more =>
    let dropped := match more with
      | [.str c] => c.toList.map fun c => ((.int c.toNat : Value), (.nothing : Value))
      | _ => []
    newDict ((a.toList.zip b.toList).map (fun (x, y) => (.int x.toNat, .int y.toNat)) ++ dropped)
  | _ => typeError "maketrans() argument must be a dict"

def encodeText (s : String) (encoding errors : Value) : Work Value := do
  let name := match encoding with
    | .str e => ((e.toList.filter fun c => c ≠ '-' && c ≠ '_').map Char.toLower |> String.ofList)
    | _ => "utf8"
  match name with
  | "utf8" | "" => return .bytes (bytes s)
  | "ascii" | "latin1" | "iso88591" =>
    let limit := if name = "ascii" then 0x80 else 0x100
    match s.toList.zipIdx.find? fun (c, _) => limit ≤ c.toNat with
    | some (c, i) =>
      match errors with
      | .str "ignore" => return .bytes ((s.toList.filter (·.toNat < limit)).map fun c => UInt8.ofNat c.toNat)
      | .str "replace" =>
        return .bytes (s.toList.map fun c => if c.toNat < limit then UInt8.ofNat c.toNat else 0x3F)
      | _ =>
        raise "UnicodeEncodeError" ("'" ++ (if name = "ascii" then "ascii" else "latin-1")
          ++ "' codec can't encode character " ++ quotedText (escapedChar ' ' c) ++ " in position "
          ++ toString i ++ ": ordinal not in range(" ++ toString limit ++ ")")
    | none => return .bytes (s.toList.map fun c => UInt8.ofNat c.toNat)
  | _ => raise "LookupError" ("unknown encoding: " ++ name)

def callText (attr : Value → String → Work Value) (name : String) (s : String) (args : List Value)
    (named : List (String × Value)) : Work Value := do
  let cs := s.toList
  if let some r := changeOfText name s then
    let _ ← given name [] 0 args named
    return .str r
  if let some b := testsOfText name cs then
    let _ ← given name [] 0 args named
    return .truth b
  match name with
  | "strip" | "lstrip" | "rstrip" =>
    let p ← stripSet (arg (← given name ["chars"] 0 args named) 0)
    let cs := if name = "rstrip" then cs else cs.dropWhile p
    return textValue (if name = "lstrip" then cs else (cs.reverse.dropWhile p).reverse)
  | "split" | "rsplit" =>
    let vs ← given name ["sep", "maxsplit"] 0 args named
    let n ← intOr (-1) (arg vs 1)
    textList (← if name = "split" then splitText cs (arg vs 0) n else splitTextBack cs (arg vs 0) n)
  | "splitlines" =>
    let vs ← given name ["keepends"] 0 args named
    textList (linesOf (← truthy (arg vs 0)) [] cs)
  | "join" =>
    let (vs, _) ← listed (.bound "str.join" (.str s)) args named
    joinTexts s vs
  | "replace" =>
    let vs ← given name ["old", "new", "count"] 2 args named
    let old ← needText "replace()" (arg vs 0)
    let new ← needText "replace()" (arg vs 1)
    let n ← intOr (-1) (arg vs 2)
    let most := if n < 0 then cs.length + 2 else n.toNat
    if old.isEmpty then
      let spaced := cs.zipIdx.flatMap fun (c, i) => if i < most then new.toList ++ [c] else [c]
      return textValue (if cs.length < most then spaced ++ new.toList else spaced)
    return .str (new.intercalate ((splitAtMost old.toList (cs.length + 1) most cs).map String.ofList))
  | "startswith" | "endswith" =>
    let vs ← given name ["prefix", "start", "end"] 1 args named
    let options ← candidates name (arg vs 0)
    let (_, w) ← windowOf cs (arg vs 1) (arg vs 2)
    return .truth (options.any fun o =>
      if name = "startswith" then o.toList.isPrefixOf w else o.toList.isSuffixOf w)
  | "find" | "rfind" | "index" | "rindex" | "count" =>
    let vs ← given name ["sub", "start", "end"] 1 args named
    let part ← needText (name ++ "()") (arg vs 0)
    let (from', w) ← windowOf cs (arg vs 1) (arg vs 2)
    if name = "count" then return .int (countIn part.toList w)
    let found := if name.startsWith "r" then findLast part.toList w else findFrom part.toList 0 w
    match found with
    | some i => return .int (from' + i)
    | none =>
      if name.endsWith "index" then valueError "substring not found"
      return .int (-1)
  | "center" | "ljust" | "rjust" =>
    let vs ← given name ["width", "fillchar"] 1 args named
    return textValue (padText name cs (← needInt (arg vs 0)).toNat (← fillCharOf (arg vs 1)))
  | "zfill" =>
    let vs ← given name ["width"] 1 args named
    return textValue (zeroFilled cs (← needInt (arg vs 0)).toNat)
  | "format" =>
    if !cs.contains '.' && !cs.contains '[' then textsFirst (.bound "str.format" (.str s)) args named
    formatText ⟨args, named, attr⟩ s
  | "format_map" =>
    let t ← Work.thing? (arg args 0)
    formatText ⟨[], (t.map namedEntries).getD [], attr⟩ s
  | "encode" =>
    let vs ← given name ["encoding", "errors"] 0 args named
    encodeText s (arg vs 0) (arg vs 1)
  | "partition" | "rpartition" =>
    let vs ← given name ["sep"] 1 args named
    let sep ← needText (name ++ "()") (arg vs 0)
    let found := if name = "partition" then findFrom sep.toList 0 cs else findLast sep.toList cs
    match found with
    | some i => newTuple [textValue (cs.take i), .str sep, textValue (cs.drop (i + sep.length))]
    | none => newTuple (if name = "partition" then [.str s, .str "", .str ""] else [.str "", .str "", .str s])
  | "removeprefix" | "removesuffix" =>
    let part ← needText (name ++ "()") (arg (← given name ["prefix"] 1 args named) 0)
    let p := part.toList
    if name = "removeprefix" then
      return textValue (if p.isPrefixOf cs then cs.drop p.length else cs)
    return textValue (if p.isSuffixOf cs then cs.take (cs.length - p.length) else cs)
  | "expandtabs" =>
    let vs ← given name ["tabsize"] 0 args named
    return textValue (expandTabs (← intOr 8 (arg vs 0)).toNat 0 cs)
  | "translate" =>
    match ← Work.thing? (arg args 0) with
    | some t => return textValue (translated t cs)
    | none => return .str s
  | "maketrans" => translationTable args
  | _ => raise "AttributeError" ("'str' object has no attribute '" ++ name ++ "'")

/-! ## Byte strings -/

def byteMethods : List String :=
  ["decode", "hex", "upper", "lower", "strip", "split", "startswith", "endswith", "join", "find", "replace",
    "count"]

def decodeBytes (b : Bytes) (encoding errors : Value) : Work Value := do
  let name := match encoding with
    | .str e => ((e.toList.filter fun c => c ≠ '-' && c ≠ '_').map Char.toLower |> String.ofList)
    | _ => "utf8"
  if name = "latin1" || name = "iso88591" then return textValue (b.map fun x => Char.ofNat x.toNat)
  match Text.Utf8.text? b, errors with
  | some s, _ => return .str s
  | none, .str "ignore" => return .str ((Bytes.lossy b).replace "\uFFFD" "")
  | none, .str _ => return .str (Bytes.lossy b)
  | none, _ =>
    let fine := ((Text.Utf8.pieces b).takeWhile (·.isSome)).filterMap id
    let i := (Text.Utf8.encode fine).length
    raise "UnicodeDecodeError" ("'utf-8' codec can't decode byte 0x" ++ hexDigits 2 (b.getD i 0).toNat
      ++ " in position " ++ toString i ++ ": invalid start byte")

def callBytes (attr : Value → String → Work Value) (name : String) (b : Bytes) (args : List Value)
    (named : List (String × Value)) : Work Value := do
  let narrow (v : Value) : Value := match v with
    | .str s => .bytes (s.toList.map fun c => UInt8.ofNat c.toNat)
    | v => v
  let widen (v : Value) : Value := match v with
    | .bytes x => textValue (x.map fun c => Char.ofNat c.toNat)
    | v => v
  match name with
  | "decode" =>
    let vs ← given name ["encoding", "errors"] 0 args named
    decodeBytes b (arg vs 0) (arg vs 1)
  | "hex" => return .str (String.join (b.map fun x => hexDigits 2 x.toNat))
  | "join" =>
    let (vs, _) ← listed (.bound "bytes.join" (.bytes b)) args named
    return narrow (← joinTexts (String.ofList (b.map fun x => Char.ofNat x.toNat)) (vs.map widen))
  | _ =>
    let r ← callText attr name (String.ofList (b.map fun x => Char.ofNat x.toNat)) (args.map widen) named
    match r with
    | .ref id =>
      Work.modifyThing id fun t => { t with items := t.items.map narrow }
      return r
    | r => return narrow r

end ScriptHost.Indented
