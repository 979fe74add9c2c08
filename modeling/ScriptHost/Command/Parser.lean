import ScriptHost.Command.Tree
import ScriptHost.Program.Printing

/-!
Reading the commands of a shell. Words and commands are read together, since a word may hold
commands and what ends a word depends on where it stands.
-/
namespace ScriptHost.Command

structure Reader where
  rest : List Char
  line : Nat
  fresh : Bool := true
  /-- Lines of texts in place that have been taken out behind the line under way. -/
  owed : Nat := 0
  /-- Texts in place without an end: the lines of their ends and beginnings, and the ends. -/
  endless : List (Nat × Nat × String) := []

inductive Malformation where
  | unexpected (token : String)
  | ended
  | unclosed (closing : Char)

structure Malformed where
  line : Nat
  why : Malformation

abbrev Parse := EStateM Malformed Reader

namespace Parse

def peek : Parse (List Char) := return (← get).rest

def drop (n : Nat) : Parse Unit := modify fun r =>
  let taken := r.rest.take n
  let lines := taken.count '\n'
  let r := { r with
    rest := r.rest.drop n
    fresh := match taken.getLast? with
      | some c => c = '\n'
      | none => r.fresh }
  if lines = 0 then r else { r with line := r.line + lines + r.owed, owed := 0 }

def isMeta (c : Char) : Bool := " \t\n;&|<>()".toList.contains c

def isNameStart (c : Char) : Bool := c.isAlpha || c = '_'

def isNameChar (c : Char) : Bool := c.isAlphanum || c = '_'

def operators : List String :=
  ["&>>", ";;&", "<<<", "<<-", "&&", "||", ";;", ";&", "|&", "<<", "<&", "<>", ">>", ">&", ">|",
    "&>", "<", ">", "|", "&", ";", "(", ")"]

def tokenOf (cs : List Char) : String :=
  match cs with
  | [] | '\n' :: _ => "newline"
  | cs =>
    (operators.find? fun s => s.toList.isPrefixOf cs).getD
      (String.ofList (cs.takeWhile fun c => !isMeta c))

def fail {α : Type} : Parse α := do
  let r ← get
  if r.rest.isEmpty then throw ⟨if r.fresh then r.line else r.line + 1, .ended⟩
  else throw ⟨r.line, .unexpected (tokenOf r.rest)⟩

def failHere {α : Type} : Parse α := do
  let r ← get
  throw ⟨r.line, .unexpected (tokenOf r.rest)⟩

def failOpen {α : Type} (line : Nat) (closing : Char) : Parse α := throw ⟨line, .unclosed closing⟩

def opened {α : Type} (closing : Char) (early : Bool) (p : Parse α) : Parse α := do
  let line := (← get).line
  try p catch e =>
    match e.why with
    | .ended => failOpen (if early then line else e.line) closing
    | _ => throw e

def blankLength : Nat → List Char → Nat
  | 0, _ => 0
  | fuel + 1, cs =>
    match cs with
    | ' ' :: r | '\t' :: r => 1 + blankLength fuel r
    | '\\' :: '\n' :: r => 2 + blankLength fuel r
    | '#' :: r => 1 + (r.takeWhile (· ≠ '\n')).length
    | _ => 0

def blanks : Parse Unit := do
  let cs ← peek
  drop (blankLength (cs.length + 1) cs)

def newlines : Nat → Parse Unit
  | 0 => return ()
  | fuel + 1 => do
    blanks
    match ← peek with
    | '\n' :: _ => drop 1; newlines fuel
    | _ => return ()

def accept (s : String) : Parse Bool := do
  if s.toList.isPrefixOf (← peek) then drop s.length; return true
  return false

def expect (s : String) : Parse Unit := do
  if !(← accept s) then fail

/-- The word that stands next when it has no quotes and no expansions. -/
def plainWord? (cs : List Char) : Option String :=
  let w := cs.takeWhile fun c => !isMeta c && !"'\x22\\$`".toList.contains c
  match cs.drop w.length with
  | c :: _ => if isMeta c && !w.isEmpty then some (String.ofList w) else none
  | [] => if w.isEmpty then none else some (String.ofList w)

def acceptWord (s : String) : Parse Bool := do
  blanks
  if plainWord? (← peek) = some s then drop s.length; return true
  return false

def expectWord (s : String) : Parse Unit := do
  if !(← acceptWord s) then fail

def pushChar (c : Char) (quoted : Bool) : List Piece → List Piece
  | .text b q :: r =>
    if q = quoted then .text (b ++ bytes c.toString) q :: r
    else .text (bytes c.toString) quoted :: .text b q :: r
  | r => .text (bytes c.toString) quoted :: r

/-- Quotes make a field even of an empty text; only all arguments together may be none at all. -/
def quotedWord (inside : List Piece) : List Piece :=
  match inside with
  | [.param "@" .plain true] => inside
  | inside => .text [] true :: inside

def sumText : Nat → List Char → List Char → Option (List Char × Nat)
  | _, _, [] => none
  | 0, acc, ')' :: ')' :: _ => some (acc.reverse, acc.length + 2)
  | 0, _, ')' :: _ => none
  | depth, acc, c :: r =>
    sumText (if c = '(' then depth + 1 else if c = ')' then depth - 1 else depth) (c :: acc) r

def quotedText (quote : Char) : Nat → List Char → List Char → Option (List Char × Nat)
  | _, _, [] => none
  | n, acc, '\\' :: c :: r => quotedText quote (n + 2) (c :: '\\' :: acc) r
  | n, acc, c :: r => if c = quote then some (acc.reverse, n + 1) else quotedText quote (n + 1) (c :: acc) r

def cText : Nat → Bytes → Bytes
  | 0, _ => []
  | fuel + 1, s =>
    match s with
    | 0x5C :: r =>
      match Program.escape .shell r with
      | .text out r => out ++ cText fuel r
      | _ => []
    | b :: r => b :: cText fuel r
    | [] => []

def withoutBackslashes : List Char → List Char
  | '\\' :: c :: r =>
    if c = '`' || c = '$' || c = '\\' then c :: withoutBackslashes r
    else '\\' :: c :: withoutBackslashes r
  | c :: r => c :: withoutBackslashes r
  | [] => []

def docLines (delimiter : List Char) (strip : Bool) : Nat → List Char → List Char × Nat × Bool
  | 0, _ => ([], 0, false)
  | _ + 1, [] => ([], 0, false)
  | fuel + 1, cs =>
    let whole := cs.takeWhile (· ≠ '\n')
    let taken := whole.length + (if whole.length < cs.length then 1 else 0)
    let line := if strip then whole.dropWhile (· = '\t') else whole
    if line = delimiter then ([], taken, true)
    else
      let (more, n, closed) := docLines delimiter strip fuel (cs.drop taken)
      (line ++ '\n' :: more, taken + n, closed)

inductive Mode where
  | bare
  | double
  | doc
  | brace (quoted slash : Bool)

def Mode.quoted : Mode → Bool
  | .bare => false
  | .double | .doc => true
  | .brace quoted _ => quoted

def Mode.stops (m : Mode) (c : Char) : Bool :=
  match m with
  | .bare => isMeta c
  | .double => c = '\x22'
  | .doc => false
  | .brace _ slash => c = '\x7d' || (slash && c = '/')

def Mode.open : Mode → Bool
  | .bare | .doc => true
  | _ => false

def within {α : Type} (cs : List Char) (p : Parse α) (otherwise : α) : Parse α := do
  let saved ← get
  set { saved with rest := cs }
  let a ← try p catch _ => pure otherwise
  set saved
  return a

def special (c : Char) : Bool := c.isDigit || "@*#?$!-".toList.contains c

def declarators : List String := ["declare", "typeset", "local", "export", "readonly", "let",
  "alias", "eval"]

def assignment? (cs : List Char) : Option (String × Nat) :=
  let name := cs.takeWhile isNameChar
  if !(name.head?.any isNameStart) then none
  else
    let r := cs.drop name.length
    let index := match r with
      | '[' :: t =>
        let inside := t.takeWhile fun c => c ≠ ']' && !isMeta c
        if (t.drop inside.length).head? = some ']' then inside.length + 2 else 0
      | _ => 0
    match r.drop index with
    | '=' :: _ => some (String.ofList name, name.length + index + 1)
    | '+' :: '=' :: _ => some (String.ofList name, name.length + index + 2)
    | _ => none

def closing : List String := ["then", "elif", "else", "fi", "do", "done", "esac", "\x7d"]

def turns : List (String × Nat × Turn) :=
  [("<<<", 0, .text), ("<&", 0, .copy), ("<>", 0, .read), ("<", 0, .read), (">>", 1, .append),
    (">&", 1, .copy), (">|", 1, .write), (">", 1, .write)]

def atClose (closers : List String) (cs : List Char) : Bool :=
  match cs with
  | [] | ')' :: _ | ';' :: ';' :: _ | ';' :: '&' :: _ => true
  | cs => (plainWord? cs).any closers.contains

def isUnaryTest (s : String) : Bool :=
  match s.toList with
  | ['-', c] => "abcdefghknoprstuvwxzGLNORS".toList.contains c
  | _ => false

def isBinaryTest (s : String) : Bool :=
  ["=", "==", "!=", "=~", "-eq", "-ne", "-lt", "-le", "-gt", "-ge", "-nt", "-ot", "-ef"].contains s

mutual

def pieces (fuel : Nat) (mode : Mode) (acc : List Piece) : Parse (List Piece) := match fuel with
  | 0 => fail
  | fuel + 1 => do
    match ← peek with
    | [] => if mode.open then return acc.reverse else fail
    | c :: r =>
      if mode.stops c then return acc.reverse
      else match c with
      | '\\' =>
        match r with
        | [] => drop 1; pieces fuel mode (pushChar '\\' true acc)
        | '\n' :: _ => drop 2; pieces fuel mode acc
        | d :: _ =>
          drop 2
          if mode.quoted && !"$`\\\x22\x7d".toList.contains d then
            pieces fuel mode (pushChar d true (pushChar '\\' true acc))
          else pieces fuel mode (pushChar d true acc)
      | '\x27' =>
        if mode.quoted then do
          drop 1
          pieces fuel mode (pushChar c true acc)
        else do
          let inside := r.takeWhile (· ≠ '\x27')
          if inside.length = r.length then failOpen (← get).line '\x27'
          drop (inside.length + 2)
          pieces fuel mode (.text (bytes (String.ofList inside)) true :: acc)
      | '\x22' =>
        match mode with
        | .doc => drop 1; pieces fuel mode (pushChar c true acc)
        | _ =>
          drop 1
          let inside ← opened '\x22' true (pieces fuel .double [])
          expect "\x22"
          pieces fuel mode ((quotedWord inside).reverse ++ acc)
      | '`' =>
        match quotedText '`' 0 [] r with
        | some (inside, n) =>
          drop (n + 1)
          let body ← within (withoutBackslashes inside) (items fuel []) []
          pieces fuel mode (.output body mode.quoted :: acc)
        | none => failOpen (← get).line '\x60'
      | '$' =>
        drop 1
        let p ← dollar fuel mode.quoted
        pieces fuel mode (p.reverse ++ acc)
      | c =>
        drop 1
        pieces fuel mode (pushChar c mode.quoted acc)

def dollar (fuel : Nat) (quoted : Bool) : Parse (List Piece) := match fuel with
  | 0 => fail
  | fuel + 1 => do
    match ← peek with
    | '(' :: '(' :: r =>
      match sumText 0 [] r with
      | some (e, n) => drop (n + 2); return [.sum e quoted]
      | none => drop 1; return [← opened ')' true (commandOutput fuel quoted)]
    | '(' :: _ => drop 1; return [← opened ')' false (commandOutput fuel quoted)]
    | '\x7b' :: _ => drop 1; return [← opened '\x7d' true (braced fuel quoted)]
    | '[' :: r =>
      let e := r.takeWhile (· ≠ ']')
      if e.length = r.length then failOpen (← get).line ']'
      drop (e.length + 2)
      return [.sum e quoted]
    | '\x27' :: r =>
      if quoted then return [.text (bytes "$") true]
      else match quotedText '\x27' 0 [] r with
        | some (inside, n) =>
          drop (n + 1)
          let b := bytes (String.ofList inside)
          return [.text (cText (b.length + 1) b) true]
        | none => failOpen (← get).line '\x27'
    | '\x22' :: _ =>
      if quoted then return [.text (bytes "$") true]
      else
        drop 1
        let inside ← opened '\x22' true (pieces fuel .double [])
        expect "\x22"
        return quotedWord inside
    | c :: r =>
      if isNameStart c then
        let name := (c :: r).takeWhile isNameChar
        drop name.length
        return [.param (String.ofList name) .plain quoted]
      else if special c then drop 1; return [.param c.toString .plain quoted]
      else return [.text (bytes "$") quoted]
    | [] => return [.text (bytes "$") quoted]

def commandOutput (fuel : Nat) (quoted : Bool) : Parse Piece := match fuel with
  | 0 => fail
  | fuel + 1 => do
    let body ← items fuel []
    expect ")"
    return .output body quoted

/-- A parameter in braces. One that makes no sense is refused when it is used. -/
def braced (fuel : Nat) (quoted : Bool) : Parse Piece := match fuel with
  | 0 => fail
  | fuel + 1 => do
    let cs ← peek
    let start := cs
    let counted := match cs with
      | '#' :: c :: _ => isNameChar c || c = '@' || c = '*'
      | _ => false
    if counted then drop 1
    let cs ← peek
    let name := match cs with
      | c :: _ =>
        if isNameStart c then cs.takeWhile isNameChar
        else if c.isDigit then cs.takeWhile Char.isDigit
        else if special c then [c]
        else []
      | [] => []
    drop name.length
    match ← peek with
    | '[' :: r =>
      let inside := r.takeWhile fun c => c ≠ ']' && c ≠ '\x7d'
      drop (inside.length + 2)
    | _ => pure ()
    let form ← formOf fuel quoted
    expect "\x7d"
    let text := String.ofList (start.take (start.length - (← peek).length))
    match form with
    | some f =>
      if name.isEmpty then return .param "" (.senseless ("$\x7b" ++ text)) quoted
      return .param (String.ofList name) (if counted then .length else f) quoted
    | none => return .param "" (.senseless ("$\x7b" ++ text)) quoted

def formOf (fuel : Nat) (quoted : Bool) : Parse (Option Form) := match fuel with
  | 0 => fail
  | fuel + 1 => do
    let word : Parse (List Piece) := pieces fuel (.brace quoted false) []
    match ← peek with
    | '\x7d' :: _ => return some .plain
    | ':' :: c :: _ =>
      if "-=+?".toList.contains c then
        drop 2
        return some (.instead c true (← word))
      else
        drop 1
        let cs ← peek
        let inside := cs.takeWhile (· ≠ '\x7d')
        drop inside.length
        let start := inside.takeWhile (· ≠ ':')
        let more := inside.drop start.length
        return some (.slice start (if more.isEmpty then none else some (more.drop 1)))
    | '#' :: '#' :: _ => drop 2; return some (.trim .longFront (← word))
    | '#' :: _ => drop 1; return some (.trim .shortFront (← word))
    | '%' :: '%' :: _ => drop 2; return some (.trim .longBack (← word))
    | '%' :: _ => drop 1; return some (.trim .shortBack (← word))
    | '^' :: '^' :: _ => drop 2; let _ ← word; return some (.casing true true)
    | '^' :: _ => drop 1; let _ ← word; return some (.casing true false)
    | ',' :: ',' :: _ => drop 2; let _ ← word; return some (.casing false true)
    | ',' :: _ => drop 1; let _ ← word; return some (.casing false false)
    | '/' :: r =>
      let every := r.head? = some '/'
      drop (if every then 2 else 1)
      let pattern ← pieces fuel (.brace quoted true) []
      let replacement ← if ← accept "/" then word else pure []
      return some (.replace every pattern replacement)
    | c :: _ =>
      if "-=+?".toList.contains c then
        drop 1
        return some (.instead c false (← word))
      else
        let _ ← word
        return none
    | [] => fail

def word (fuel : Nat) : Parse (List Piece) := match fuel with
  | 0 => fail
  | fuel + 1 => do
    match ← peek with
    | '<' :: '(' :: _ | '>' :: '(' :: _ =>
      drop 2
      let _ ← items fuel []
      expect ")"
      return [.text (bytes "/dev/fd/63") true]
    | cs =>
      let w ← pieces fuel .bare []
      if (← peek).length = cs.length then failHere
      return w

def nextWord (fuel : Nat) : Parse (List Piece) := match fuel with
  | 0 => fail
  | fuel + 1 => do
    blanks
    word fuel

def listWords (fuel : Nat) : Parse (List (List Piece)) := match fuel with
  | 0 => fail
  | fuel + 1 => do
    newlines fuel
    if ← accept ")" then return []
    if (← peek).isEmpty then fail
    let w ← word fuel
    return w :: (← listWords fuel)

def redirect? (fuel : Nat) : Parse (Option Redirect) := match fuel with
  | 0 => fail
  | fuel + 1 => do
    let cs ← peek
    let digits := cs.takeWhile Char.isDigit
    let r := cs.drop digits.length
    if "&>".toList.isPrefixOf cs then
      drop (if "&>>".toList.isPrefixOf cs then 3 else 2)
      return some (.mk 1 .both (← nextWord fuel))
    else if !(r.head? = some '<' || r.head? = some '>') then return none
    else if digits.isEmpty && (r.drop 1).head? = some '(' then return none
    else
      drop digits.length
      let stream (d : Nat) : Nat :=
        if digits.isEmpty then d else (String.ofList digits).toNat?.getD d
      if "<<".toList.isPrefixOf r && !"<<<".toList.isPrefixOf r then
        drop 2
        let strip ← accept "-"
        blanks
        let before ← peek
        let w ← word fuel
        let shown := before.take (before.length - (← peek).length)
        let quoted := shown.any fun c => c = '\x27' || c = '\x22' || c = '\\'
        let delimiter := shown.filter fun c => c ≠ '\x27' && c ≠ '\x22' && c ≠ '\\'
        let _ := w
        let cs ← peek
        let here := cs.takeWhile (· ≠ '\n')
        let after := cs.drop (here.length + 1)
        let (text, n, closed) := docLines delimiter strip (after.length + 1) after
        let left := after.drop n
        let joined := if here.length < cs.length then here ++ '\n' :: left else here
        modify fun r =>
          let owed := r.owed + (after.take n).count '\n'
          let last := r.line + owed + (if here.length < cs.length then 1 else 0)
          let bare := (after.take n).getLast?.all (· = '\n')
          { r with
            rest := joined, owed
            endless := if closed then r.endless
              else
                (if bare then last - 1 else last, r.line, String.ofList delimiter) :: r.endless }
        let plain : List Piece := [.text (bytes (String.ofList text)) true]
        let body ← if quoted then pure plain else within text (pieces fuel .doc []) plain
        return some (.mk (stream 0) .text body)
      else
        match turns.find? fun (s, _) => s.toList.isPrefixOf r with
        | some (s, d, turn) =>
          drop s.length
          let w ← nextWord fuel
          let w := if turn matches .text then w ++ [.text [0x0A] true] else w
          return some (.mk (stream d) turn w)
        | none => fail

def redirects (fuel : Nat) : Parse (List Redirect) := match fuel with
  | 0 => fail
  | fuel + 1 => do
    blanks
    match ← redirect? fuel with
    | some r => return r :: (← redirects fuel)
    | none => return []

def valueWord (fuel : Nat) : Parse (List Piece) := match fuel with
  | 0 => fail
  | fuel + 1 => do
    if ← accept "(" then
      let ws ← opened ')' true (listWords fuel)
      return ws.headD []
    match ← peek with
    | [] => return []
    | c :: _ => if isMeta c then return [] else word fuel

def simple (fuel : Nat) (assigns : List (String × List Piece)) (words : List (List Piece))
    (rs : List Redirect) (line : Nat) : Parse Com := match fuel with
  | 0 => fail
  | fuel + 1 => do
    blanks
    match ← redirect? fuel with
    | some r => simple fuel assigns words (r :: rs) line
    | none =>
      let cs ← peek
      let declares := (words.getLast?.bind plain?).any declarators.contains
      match cs, assignment? cs with
      | _ :: _, some (name, n) =>
        if words.isEmpty then
          drop n
          let v ← valueWord fuel
          simple fuel ((name, v) :: assigns) words rs line
        else if declares then
          drop n
          let v ← valueWord fuel
          simple fuel assigns ((.text (bytes (name ++ "=")) true :: v) :: words) rs line
        else
          let w ← word fuel
          simple fuel assigns (w :: words) rs line
      | c :: r, none =>
        let substitution := (c = '<' || c = '>') && r.head? = some '('
        if isMeta c && !substitution then finish
        else
          let w ← word fuel
          simple fuel assigns (w :: words) rs line
      | [], _ => finish
  where
    finish : Parse Com := do
      if assigns.isEmpty && words.isEmpty && rs.isEmpty then fail
      return .simple assigns.reverse words.reverse rs.reverse line

def body (fuel : Nat) (closers : List String) : Parse (List Item) := match fuel with
  | 0 => fail
  | fuel + 1 => do
    let is ← items fuel closers
    if is.isEmpty then fail
    return is

def doBody (fuel : Nat) : Parse (List Item) := match fuel with
  | 0 => fail
  | fuel + 1 => do
    if ← acceptWord "\x7b" then
      let is ← body fuel ["\x7d"]
      expectWord "\x7d"
      return is
    expectWord "do"
    let is ← body fuel ["done"]
    expectWord "done"
    return is

def arms (fuel : Nat) : Parse (List Arm × List Item) := match fuel with
  | 0 => fail
  | fuel + 1 => do
    let c ← body fuel ["then"]
    expectWord "then"
    let b ← body fuel ["elif", "else", "fi"]
    if ← acceptWord "elif" then
      let (more, otherwise) ← arms fuel
      return (.mk c b :: more, otherwise)
    let otherwise ← if ← acceptWord "else" then body fuel ["fi"] else pure []
    expectWord "fi"
    return ([.mk c b], otherwise)

def patterns (fuel : Nat) : Parse (List (List Piece)) := match fuel with
  | 0 => fail
  | fuel + 1 => do
    let p ← nextWord fuel
    blanks
    if ← accept "|" then return p :: (← patterns fuel)
    if !(← accept ")") then failHere
    return [p]

def cases (fuel : Nat) : Parse (List Case) := match fuel with
  | 0 => fail
  | fuel + 1 => do
    newlines fuel
    if ← acceptWord "esac" then return []
    if (← peek).isEmpty then fail
    let _ ← accept "("
    let ps ← patterns fuel
    let b ← items fuel ["esac"]
    blanks
    if (← accept ";;&") || (← accept ";;") || (← accept ";&") then
      return .mk ps b :: (← cases fuel)
    expectWord "esac"
    return [.mk ps b]

def eachLoop (fuel : Nat) : Parse Com := match fuel with
  | 0 => fail
  | fuel + 1 => do
    blanks
    if ← accept "((" then
      match sumText 0 [] (← peek) with
      | some (e, n) =>
        drop n
        let start := e.takeWhile (· ≠ ';')
        let r := (e.drop start.length).drop 1
        let test := r.takeWhile (· ≠ ';')
        let next := (r.drop test.length).drop 1
        if (e.filter (· = ';')).length ≠ 2 then fail
        blanks
        let _ ← accept ";"
        newlines fuel
        let b ← doBody fuel
        return .count start test next b (← redirects fuel)
      | none => fail
    let name ← nextWord fuel
    match plain? name with
    | none => fail
    | some name =>
      blanks
      let early ← accept ";"
      newlines fuel
      let words ← if !early && (← acceptWord "in") then do
          let ws ← wordsHere fuel
          blanks
          if !(← accept ";") && (← peek).head?.any (· ≠ '\n') then fail
          pure (some ws)
        else pure none
      newlines fuel
      let b ← doBody fuel
      return .each name words b (← redirects fuel)

def wordsHere (fuel : Nat) : Parse (List (List Piece)) := match fuel with
  | 0 => fail
  | fuel + 1 => do
    blanks
    match ← peek with
    | [] => return []
    | c :: _ =>
      if isMeta c then return []
      let w ← word fuel
      return w :: (← wordsHere fuel)

def condition (fuel : Nat) : Parse (List (List Piece)) := match fuel with
  | 0 => fail
  | fuel + 1 => do
    let t ← conditionTerm fuel
    newlines fuel
    if ← accept "&&" then
      return t ++ [.text (bytes "&&") false] :: (← condition fuel)
    if ← accept "||" then
      return t ++ [.text (bytes "||") false] :: (← condition fuel)
    return t

def conditionTerm (fuel : Nat) : Parse (List (List Piece)) := match fuel with
  | 0 => fail
  | fuel + 1 => do
    newlines fuel
    if ← accept "(" then
      let c ← condition fuel
      expect ")"
      return [.text (bytes "(") false] :: c ++ [[.text (bytes ")") false]]
    let first := plainWord? (← peek)
    if first = some "]]" then fail
    if first = some "!" then
      drop 1
      return [.text (bytes "!") false] :: (← conditionTerm fuel)
    let w ← word fuel
    blanks
    let next := plainWord? (← peek)
    if first.any isUnaryTest then
      if next = some "]]" then fail
      return [w, ← word fuel]
    if next.any isBinaryTest then
      let op ← word fuel
      blanks
      let regex := next = some "=~"
      let right ← if regex then regexWord fuel [] else word fuel
      return [w, op, right]
    match ← peek with
    | c :: _ =>
      if c = '<' || c = '>' then
        drop 1
        blanks
        return [w, [.text (bytes c.toString) false], ← word fuel]
      return [w]
    | [] => fail

def regexWord (fuel : Nat) (acc : List Piece) : Parse (List Piece) := match fuel with
  | 0 => fail
  | fuel + 1 => do
    match ← peek with
    | [] => return acc.reverse
    | c :: r =>
      if c = ' ' || c = '\n' || c = '\t' then return acc.reverse
      else if isMeta c then
        drop 1
        regexWord fuel (pushChar c false acc)
      else
        let w ← pieces fuel .bare []
        if (← peek).length = r.length + 1 then fail
        regexWord fuel (w.reverse ++ acc)

def compound? (fuel : Nat) : Parse (Option Com) := match fuel with
  | 0 => fail
  | fuel + 1 => do
    blanks
    match ← peek with
    | '(' :: '(' :: r =>
      match sumText 0 [] r with
      | some (e, n) =>
        drop (n + 2)
        return some (.sum e (← redirects fuel))
      | none => return some (← opened ')' true (inParens fuel))
    | '(' :: _ => return some (← inParens fuel)
    | cs =>
      match plainWord? cs with
      | some "\x7b" =>
        drop 1
        let b ← body fuel ["\x7d"]
        expectWord "\x7d"
        return some (.group b (← redirects fuel))
      | some "if" =>
        drop 2
        let (as, otherwise) ← arms fuel
        return some (.cond as otherwise (← redirects fuel))
      | some "while" =>
        drop 5
        let c ← body fuel ["do"]
        let b ← doBody fuel
        return some (.loop false c b (← redirects fuel))
      | some "until" =>
        drop 5
        let c ← body fuel ["do"]
        let b ← doBody fuel
        return some (.loop true c b (← redirects fuel))
      | some "for" => drop 3; return some (← eachLoop fuel)
      | some "select" => drop 6; return some (← eachLoop fuel)
      | some "case" =>
        drop 4
        let w ← nextWord fuel
        newlines fuel
        expectWord "in"
        let cs ← cases fuel
        return some (.choose w cs (← redirects fuel))
      | some "[[" =>
        drop 2
        let c ← condition fuel
        newlines fuel
        expectWord "]]"
        return some (.test c (← redirects fuel))
      | _ => return none

def inParens (fuel : Nat) : Parse Com := match fuel with
  | 0 => fail
  | fuel + 1 => do
    drop 1
    let b ← body fuel []
    expect ")"
    return .subshell b (← redirects fuel)

def function (fuel : Nat) (name : String) : Parse Com := match fuel with
  | 0 => fail
  | fuel + 1 => do
    newlines fuel
    match ← compound? fuel with
    | some c => return .func name c
    | none => fail

def command (fuel : Nat) : Parse Com := match fuel with
  | 0 => fail
  | fuel + 1 => do
    match ← compound? fuel with
    | some c => return c
    | none =>
      let cs ← peek
      let line := (← get).line
      match plainWord? cs with
      | some "function" =>
        drop 8
        let name ← nextWord fuel
        blanks
        if ← accept "(" then
          blanks
          expect ")"
        function fuel (((plain? name)).getD "")
      | some "coproc" =>
        drop 6
        blanks
        match ← compound? fuel with
        | some c => return c
        | none =>
          let _ ← word fuel
          match ← compound? fuel with
          | some c => return c
          | none => simple fuel [] [[.text (bytes "coproc") false]] [] line
      | some w =>
        if reserved.contains w && w ≠ "]]" then fail
        else
          let r := cs.drop w.length
          let r := r.drop (blankLength (r.length + 1) r)
          if r.head? = some '(' && (assignment? cs).isNone then
            drop w.length
            blanks
            drop 1
            blanks
            if !(← accept ")") then failHere
            function fuel w
          else simple fuel [] [] [] line
      | none => simple fuel [] [] [] line

def pipeline (fuel : Nat) (negated : Bool) : Parse Pipeline := match fuel with
  | 0 => fail
  | fuel + 1 => do
    if ← acceptWord "!" then
      if ← atEnd then return .mk (!negated) []
      pipeline fuel (!negated)
    else if ← acceptWord "time" then
      let _ ← acceptWord "-p"
      if ← atEnd then return .mk negated []
      pipeline fuel negated
    else
      return .mk negated (← piped fuel)
  where
    atEnd : Parse Bool := do
      blanks
      match ← peek with
      | [] | '\n' :: _ | ';' :: _ => return true
      | _ => return false

def piped (fuel : Nat) : Parse (List Com) := match fuel with
  | 0 => fail
  | fuel + 1 => do
    let c ← command fuel
    blanks
    match ← peek with
    | '|' :: '|' :: _ => return [c]
    | '|' :: r =>
      drop (if r.head? = some '&' then 2 else 1)
      newlines fuel
      return c :: (← piped fuel)
    | _ => return [c]

def andOr (fuel : Nat) (link : Link) : Parse (List Part) := match fuel with
  | 0 => fail
  | fuel + 1 => do
    let p ← pipeline fuel false
    blanks
    if ← accept "&&" then
      newlines fuel
      return .mk link p :: (← andOr fuel .onSuccess)
    if ← accept "||" then
      newlines fuel
      return .mk link p :: (← andOr fuel .onFailure)
    return [.mk link p]

/-- One item of a list; what ends it is taken, a closing word or parenthesis apart. -/
def item (fuel : Nat) : Parse Item := match fuel with
  | 0 => fail
  | fuel + 1 => do
    let ps ← andOr fuel .always
    blanks
    match ← peek with
    | ';' :: ';' :: _ | ';' :: '&' :: _ | ')' :: _ | '\n' :: _ | [] => return .mk ps false
    | ';' :: _ => drop 1; return .mk ps false
    | '&' :: _ => drop 1; return .mk ps true
    | cs => if (plainWord? cs).any closing.contains then return .mk ps false else fail

def items (fuel : Nat) (closers : List String) : Parse (List Item) := match fuel with
  | 0 => fail
  | fuel + 1 => do
    newlines fuel
    if atClose closers (← peek) then return []
    let i ← item fuel
    return i :: (← items fuel closers)

def lineItems (fuel : Nat) : Parse (List Item) := match fuel with
  | 0 => fail
  | fuel + 1 => do
    blanks
    match ← peek with
    | [] => return []
    | '\n' :: _ => drop 1; return []
    | _ =>
      let i ← item fuel
      return i :: (← lineItems fuel)

end

end Parse

def fuelFor (cs : List Char) : Nat := 20 * cs.length + 200

def readLine (r : Reader) : Except Malformed (List Item × Reader) :=
  match Parse.lineItems (fuelFor r.rest) r with
  | .ok is r => .ok (is, r)
  | .error e _ => .error e

/-- What keeps a text from being well formed; nothing of it is run. -/
def malformed? (cs : List Char) : Option Malformed × Reader :=
  match Parse.items (fuelFor cs) [] { rest := cs, line := 1 } with
  | .ok _ r =>
    (if r.rest.isEmpty then none else some ⟨r.line, .unexpected (Parse.tokenOf r.rest)⟩, r)
  | .error e r => (some e, r)

structure Script where
  place : String
  text : List Char
  first : Nat := 1

def Reader.warnings (shell : String) (r : Reader) : String :=
  String.join (r.endless.reverse.map fun (last, first, delimiter) =>
    shell ++ ": line " ++ toString last ++ ": warning: here-document at line " ++ toString first
      ++ " delimited by end-of-file (wanted \x60" ++ delimiter ++ "')\n")

def Malformed.message (shell : String) (t : Script) (e : Malformed) : String :=
  let front := shell ++ ": " ++ t.place ++ "line " ++ toString e.line ++ ": "
  match e.why with
  | .ended => front ++ "syntax error: unexpected end of file\n"
  | .unclosed c => front ++ "unexpected EOF while looking for matching \x60" ++ c.toString ++ "'\n"
  | .unexpected token =>
    let line := String.ofList ((Text.splitChars '\n' t.text).getD (e.line - t.first) [])
    front ++ "syntax error near unexpected token \x60" ++ token ++ "'\n"
      ++ front ++ "\x60" ++ line ++ "'\n"

end ScriptHost.Command
