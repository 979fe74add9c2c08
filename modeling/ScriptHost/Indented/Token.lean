import ScriptHost.Snippet.Letter

/-!
The tokens of a script whose blocks are indented. Line breaks count outside of brackets; deeper and
shallower lines give tokens of their own.
-/
namespace ScriptHost.Indented

open Snippet

inductive Token where
  | name (text : String)
  | int (n : Nat)
  /-- The digits as they were written, without low lines. -/
  | float (text : String)
  | imaginary
  | str (content : String)
  | byteStr (content : String)
  | format (raw : Bool) (body : List Char)
  | op (text : String)
  | newline
  | indent
  | dedent
  | eof
  deriving DecidableEq, Repr

structure Lexeme where
  token : Token
  line : Nat
  deriving Repr

def keywords : List String :=
  ["False", "None", "True", "and", "as", "assert", "async", "await", "break", "class", "continue",
    "def", "del", "elif", "else", "except", "finally", "for", "from", "global", "if", "import", "in",
    "is", "lambda", "nonlocal", "not", "or", "pass", "raise", "return", "try", "while", "with",
    "yield"]

/-! ## Numbers -/

/-- A number may run into a word that cannot belong to it. -/
def mayFollowNumber (s : List Char) : Bool :=
  match s with
  | [] => true
  | c :: _ =>
    !isNamePart c
      || ["and", "else", "for", "if", "in", "is", "or", "not"].any fun w => (after? w.toList s).isSome

def endNumber (t : Token) (s : List Char) : Except String (Token × List Char) :=
  if mayFollowNumber s then .ok (t, s) else .error "invalid decimal literal"

def based (base : Nat) (s : List Char) : Except String (Token × List Char) :=
  let s := match s with
    | '_' :: r => r
    | s => s
  let (ds, rest) := spacedDigits isHex s
  let (ds, rest) := if base = 16 then (ds, rest) else spacedDigits isDigit s
  match ds, valueIn? base ds with
  | _ :: _, some n => endNumber (.int n) rest
  | _, _ => .error "invalid number literal"

def exponent? (s : List Char) : Option (List Char × List Char) :=
  let (sign, r) := match s with
    | '-' :: r => (['-'], r)
    | '+' :: r => ([], r)
    | r => ([], r)
  match spacedDigits isDigit r with
  | ([], _) => none
  | (ds, rest) => some (sign ++ ds, rest)

def afterWhole (ds s : List Char) : Except String (Token × List Char) :=
  let (fraction, isFloat, r) := match s with
    | '.' :: r =>
      let (fs, r) := spacedDigits isDigit r
      (fs, true, r)
    | r => ([], false, r)
  let exponent := match r with
    | 'e' :: t | 'E' :: t => exponent? t
    | _ => none
  let (power, isFloat, r) := match exponent with
    | some (e, t) => ('e' :: e, true, t)
    | none => ([], isFloat, r)
  let imaginary := match r with
    | 'j' :: t | 'J' :: t => some t
    | _ => none
  match imaginary with
  | some t => endNumber .imaginary t
  | none =>
    if isFloat then endNumber (.float (String.ofList (ds ++ '.' :: fraction ++ power))) r
    else if ds.head? = some '0' && ds.any (· ≠ '0') then
      .error "leading zeros in decimal integer literals are not permitted"
    else if 4300 < ds.length then .error "Exceeds the limit (4300 digits) for integer string conversion"
    else endNumber (.int ((valueIn? 10 ds).getD 0)) r

def number (s : List Char) : Except String (Token × List Char) :=
  match s with
  | '0' :: 'x' :: r | '0' :: 'X' :: r => based 16 r
  | '0' :: 'o' :: r | '0' :: 'O' :: r => based 8 r
  | '0' :: 'b' :: r | '0' :: 'B' :: r => based 2 r
  | s =>
    let (ds, r) := spacedDigits isDigit s
    afterWhole ds r

/-! ## Strings -/

def hexEscape (count : Nat) (s : List Char) : Option (Nat × List Char) :=
  let ds := s.take count
  if ds.length = count && ds.all isHex then (valueIn? 16 ds).map fun n => (n, s.drop count)
  else none

def shortEscape? : Char → Option Char
  | '\\' => some '\\'
  | '\'' => some '\''
  | '"' => some '"'
  | 'a' => some '\x07'
  | 'b' => some '\x08'
  | 'f' => some '\x0c'
  | 'n' => some '\n'
  | 'r' => some '\r'
  | 't' => some '\t'
  | 'v' => some '\x0b'
  | _ => none

def isOctal (c : Char) : Bool := '0' ≤ c && c ≤ '7'

def unescapeWith (bytes : Bool) : Nat → List Char → Except String (List Char)
  | 0, _ => .ok []
  | fuel + 1, s =>
    let go := unescapeWith bytes fuel
    let code (count : Nat) (r : List Char) := match hexEscape count r with
      | some (n, t) =>
        if 0x10FFFF < n then .error "illegal Unicode character"
        else (go t).map (charOf n :: ·)
      | none => .error "truncated escape"
    match s with
    | [] => .ok []
    | ['\\'] => .ok ['\\']
    | '\\' :: c :: r =>
      match shortEscape? c with
      | some d => (go r).map (d :: ·)
      | none =>
        if c = '\n' then go r
        else if isOctal c then
          let ds := (c :: r).take 3 |>.takeWhile isOctal
          (go ((c :: r).drop ds.length)).map
            (charOf ((valueIn? 8 ds).getD 0 % (if bytes then 256 else 512)) :: ·)
        else if c = 'x' then code 2 r
        else if !bytes && c = 'u' then code 4 r
        else if !bytes && c = 'U' then code 8 r
        else if !bytes && c = 'N' then
          match r with
          | '\x7b' :: t =>
            let name := t.takeWhile (· ≠ '\x7d')
            if name.isEmpty || name.length = t.length then .error "malformed character escape"
            else (go (t.drop (name.length + 1))).map ('\uFFFD' :: ·)
          | _ => .error "malformed character escape"
        else (go r).map fun t => '\\' :: c :: t
    | c :: r =>
      if bytes && 0x80 ≤ c.toNat then .error "bytes can only contain ASCII literal characters"
      else (go r).map (c :: ·)

def unescape (bytes : Bool) (s : List Char) : Except String (List Char) :=
  unescapeWith bytes (s.length + 1) s

def stringBody (quote : Char) (triple : Bool) (line : Nat) (acc : List Char) :
    List Char → Except String (List Char × List Char × Nat)
  | [] => .error "unterminated string literal"
  | '\\' :: c :: r =>
    stringBody quote triple (if c = '\n' then line + 1 else line) (c :: '\\' :: acc) r
  | c :: r =>
    if c = quote then
      if !triple then .ok (acc.reverse, r, line)
      else match r with
        | a :: b :: t =>
          if a = quote && b = quote then .ok (acc.reverse, t, line)
          else stringBody quote triple line (c :: acc) (a :: b :: t)
        | r => stringBody quote triple line (c :: acc) r
    else if c = '\n' then
      if triple then stringBody quote triple (line + 1) (c :: acc) r
      else .error "unterminated string literal"
    else stringBody quote triple line (c :: acc) r

def stringToken (letters : String) (quote : Char) (r : List Char) (line : Nat) :
    Except String (Token × List Char × Nat) := do
  let (triple, r) := match r with
    | a :: b :: t => if a = quote && b = quote then (true, t) else (false, r)
    | r => (false, r)
  let (body, rest, line) ← stringBody quote triple line [] r
  let has (c : Char) := letters.toList.contains c
  if has 'f' then return (.format (has 'r') body, rest, line)
  let content ← if has 'r' then
      if has 'b' && body.any (0x80 ≤ ·.toNat) then
        .error "bytes can only contain ASCII literal characters"
      else pure body
    else unescape (has 'b') body
  let content := String.ofList content
  return (if has 'b' then .byteStr content else .str content, rest, line)

/-! ## Lines -/

structure Scanner where
  rest : List Char
  line : Nat := 1
  opened : List Char := []
  /-- Widths of the indentations that are open, with tabs of eight columns and of one. -/
  indents : List (Nat × Nat) := [(0, 0)]
  lineStart : Bool := true
  tokens : List Lexeme := []
  done : Bool := false

namespace Scanner

def add (t : Token) (s : Scanner) : Scanner := { s with tokens := ⟨t, s.line⟩ :: s.tokens }

def indentation : Nat → Nat → List Char → Nat × Nat × List Char
  | col, alt, ' ' :: r => indentation (col + 1) (alt + 1) r
  | col, alt, '\t' :: r => indentation ((col / 8 + 1) * 8) (alt + 1) r
  | _, _, '\x0c' :: r => indentation 0 0 r
  | col, alt, r => (col, alt, r)

def mixedTabs : String := "inconsistent use of tabs and spaces in indentation"

def closeTo (col alt : Nat) : List (Nat × Nat) → Scanner → Except String Scanner
  | (c, a) :: indents, s =>
    if col < c then closeTo col alt indents (s.add .dedent)
    else if col = c then
      if alt = a then .ok { s with indents := (c, a) :: indents } else .error mixedTabs
    else .error "unindent does not match any outer indentation level"
  | [], s => .ok s

/-- Compares the indentation of a line with those that are open. -/
def place (col alt : Nat) (s : Scanner) : Except String Scanner :=
  match s.indents with
  | (c, a) :: _ =>
    if c < col then
      if alt ≤ a then .error mixedTabs
      else if 100 ≤ s.indents.length then .error "too many levels of indentation"
      else .ok { s.add .indent with indents := (col, alt) :: s.indents }
    else closeTo col alt s.indents s
  | [] => .ok s

def skipComment (s : List Char) : List Char := s.dropWhile (· ≠ '\n')

def startLine (s : Scanner) : Except String Scanner := do
  let (col, alt, r) := indentation 0 0 s.rest
  match r with
  | [] => return { s with rest := [], lineStart := false }
  | '\n' :: r => return { s with rest := r, line := s.line + 1 }
  | '#' :: _ => return { s with rest := skipComment r }
  | r =>
    let s ← s.place col alt
    return { s with rest := r, lineStart := false }

def finish (s : Scanner) : Except String Scanner :=
  match s.opened with
  | c :: _ => .error ("'" ++ c.toString ++ "' was never closed")
  | [] =>
    let s := match s.tokens with
      | ⟨.newline, _⟩ :: _ | [] => s
      | _ => s.add .newline
    let s := (s.indents.drop 1).foldl (fun s _ => s.add .dedent) s
    .ok { s.add .eof with done := true }

def operators : List String :=
  ["**=", "//=", ">>=", "<<=", "...", "!=", "->", ":=", "**", "//", ">>", "<<", "<=", ">=", "==",
    "+=", "-=", "*=", "/=", "%=", "&=", "|=", "^=", "@=", "+", "-", "*", "/", "%", "@", "&", "|", "^",
    "~", "<", ">", "(", ")", "[", "]", "\x7b", "\x7d", ",", ":", ".", ";", "="]

def closerOf : Char → Char
  | '(' => ')'
  | '[' => ']'
  | _ => '\x7d'

def bracket (op : String) (s : Scanner) : Except String Scanner :=
  if ["(", "[", "\x7b"].contains op then
    if 200 ≤ s.opened.length then .error "too many nested parentheses"
    else .ok { s with opened := op.toList.headD '(' :: s.opened }
  else if [")", "]", "\x7d"].contains op then
    match s.opened with
    | c :: opened =>
      if [closerOf c] = op.toList then .ok { s with opened }
      else .error ("closing parenthesis '" ++ op ++ "' does not match opening parenthesis '"
        ++ c.toString ++ "'")
    | [] => .error ("unmatched '" ++ op ++ "'")
  else .ok s

def operator (s : Scanner) : Except String Scanner :=
  match operators.findSome? fun op => (after? op.toList s.rest).map fun r => (op, r) with
  | some (op, r) => do
    let s ← s.bracket op
    return { s.add (.op op) with rest := r }
  | none => .error "invalid character"

def isPrefixed (word : String) (r : List Char) : Bool :=
  (r.head? = some '"' || r.head? = some '\'')
    && ["r", "b", "u", "f", "br", "rb", "fr", "rf"].contains (word.map Char.toLower)

def text (letters : String) (quote : Char) (r : List Char) (s : Scanner) : Except String Scanner := do
  let (t, rest, line) ← stringToken letters quote r s.line
  return { s.add t with rest, line }

def word (s : Scanner) : Except String Scanner :=
  let cs := s.rest.takeWhile isNamePart
  let r := s.rest.drop cs.length
  let w := String.ofList cs
  if isPrefixed w r then s.text (w.map Char.toLower) (r.headD '"') (r.drop 1)
  else .ok { s.add (.name w) with rest := r }

def step (s : Scanner) : Except String Scanner :=
  if s.lineStart && s.opened.isEmpty then s.startLine
  else match s.rest with
    | [] => s.finish
    | '\n' :: r =>
      let t := { s with rest := r, line := s.line + 1 }
      .ok (if s.opened.isEmpty then { t with tokens := ⟨.newline, s.line⟩ :: s.tokens, lineStart := true }
        else t)
    | '#' :: r => .ok { s with rest := skipComment r }
    | '\\' :: '\n' :: r =>
      if r.isEmpty then .error "unexpected EOF while parsing"
      else .ok { s with rest := r, line := s.line + 1 }
    | '\\' :: _ => .error "unexpected character after line continuation character"
    | c :: r =>
      if c = ' ' || c = '\t' || c = '\x0c' then .ok { s with rest := r }
      else if isDigit c || (c = '.' && (r.head?.map isDigit).getD false) then do
        let (t, rest) ← number s.rest
        return { s.add t with rest }
      else if isLetter c then s.word
      else if c = '"' || c = '\'' then s.text "" c r
      else s.operator

def run : Nat → Scanner → Except (Nat × String) (List Lexeme)
  | 0, s => .error (s.line, "unexpected end")
  | fuel + 1, s =>
    if s.done then .ok s.tokens.reverse
    else match s.step with
      | .ok t => run fuel t
      | .error e => .error (s.line, e)

end Scanner

def oneBreak : List Char → List Char
  | '\r' :: '\n' :: r => '\n' :: oneBreak r
  | '\r' :: r => '\n' :: oneBreak r
  | c :: r => c :: oneBreak r
  | [] => []

/-- The tokens of a script, or the line of the first mistake and what is wrong there. -/
def tokens (source : List Char) : Except (Nat × String) (List Lexeme) :=
  let s := oneBreak source
  Scanner.run (2 * s.length + 8) { rest := s }

end ScriptHost.Indented
