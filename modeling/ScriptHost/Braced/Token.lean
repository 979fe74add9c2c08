import ScriptHost.Snippet.Letter

/-!
The tokens of a script whose blocks stand in braces, one at a time: what a slash or a closing brace
begins depends on what has been read before it.
-/
namespace ScriptHost.Braced

open Snippet

inductive Token where
  /-- A name or a word; with an escape in it, it is never a word. -/
  | name (text : String) (escaped : Bool)
  | privateName (text : String)
  /-- A number in decimal digits; `legacy` when strict scripts do not allow its form. -/
  | number (text : String) (legacy : Bool)
  | big (text : String)
  | str (content : String) (legacy : Bool)
  /-- A piece of a template; nothing stands for a broken escape. -/
  | template (cooked : Option String) (raw : String) (last : Bool)
  | regex (body flags : String)
  | op (text : String)
  | eof
  deriving DecidableEq, Repr

structure Scan where
  token : Token
  line : Nat
  rest : List Char

def isBreak (c : Char) : Bool := c = '\n' || c = '\r' || c = '\u2028' || c = '\u2029'

def isSpace (c : Char) : Bool :=
  let n := c.toNat
  n == 0x09 || n == 0x0B || n == 0x0C || n == 0x20 || n == 0xA0 || n == 0xFEFF || n == 0x1680
    || (0x2000 ≤ n && n ≤ 0x200A) || n == 0x202F || n == 0x205F || n == 0x3000

def isStart (c : Char) : Bool := isLetter c || c = '$'

def isPart (c : Char) : Bool := isNamePart c || c = '$' || c = '\u200C' || c = '\u200D'

/-! ## Space and comments -/

inductive Gap where
  | found (broken : Bool) (line : Nat) (rest : List Char)
  | unclosed

inductive Passing where
  | space
  | lineComment
  | blockComment

def gap : Passing → Bool → Nat → List Char → Gap
  | .space, broken, line, '/' :: '/' :: r => gap .lineComment broken line r
  | .space, broken, line, '/' :: '*' :: r => gap .blockComment broken line r
  | .space, broken, line, '<' :: '!' :: '-' :: '-' :: r => gap .lineComment broken line r
  | .space, _, line, '\r' :: '\n' :: r => gap .space true (line + 1) r
  | .space, broken, line, c :: r =>
    if isBreak c then gap .space true (line + 1) r
    else if isSpace c then gap .space broken line r
    else match broken, c, r with
      | true, '-', '-' :: '>' :: t => gap .lineComment true line t
      | _, c, r => .found broken line (c :: r)
  | .lineComment, broken, line, c :: r =>
    if isBreak c then gap .space true (line + if c = '\r' && r.head? = some '\n' then 0 else 1) r
    else gap .lineComment broken line r
  | .blockComment, broken, line, '*' :: '/' :: r => gap .space broken line r
  | .blockComment, broken, line, c :: r =>
    if isBreak c then
      gap .blockComment true (line + if c = '\r' && r.head? = some '\n' then 0 else 1) r
    else gap .blockComment broken line r
  | .blockComment, _, _, [] => .unclosed
  | _, broken, line, [] => .found broken line []

/-! ## Escapes -/

def codeEscape (s : List Char) : Option (Nat × List Char) :=
  match s with
  | '\x7b' :: r =>
    let ds := r.takeWhile isHex
    match ds, r.drop ds.length, valueIn? 16 ds with
    | _ :: _, '\x7d' :: t, some n => if n ≤ 0x10FFFF then some (n, t) else none
    | _, _, _ => none
  | s =>
    let ds := s.take 4
    if ds.length = 4 then (valueIn? 16 ds).map fun n => (n, s.drop 4) else none

/-- Two halves of a pair that are written one after the other are one character. -/
def pairEscape (s : List Char) : Option (Char × List Char) :=
  match codeEscape s with
  | some (n, '\\' :: 'u' :: t) =>
    match decide (0xD800 ≤ n ∧ n < 0xDC00), codeEscape t with
    | true, some (m, t') =>
      if 0xDC00 ≤ m && m < 0xE000 then
        some (charOf (0x10000 + (n - 0xD800) * 0x400 + (m - 0xDC00)), t')
      else some (charOf n, '\\' :: 'u' :: t)
    | _, _ => some (charOf n, '\\' :: 'u' :: t)
  | some (n, t) => some (charOf n, t)
  | none => none

def simpleEscape (c : Char) : Char :=
  match c with
  | 'n' => '\n'
  | 't' => '\t'
  | 'r' => '\r'
  | 'b' => '\x08'
  | 'f' => '\x0c'
  | 'v' => '\x0b'
  | c => c

def escape (s : List Char) : Option (Option Char × Bool × List Char) :=
  match s with
  | [] => none
  | 'x' :: r =>
    let ds := r.take 2
    if ds.length = 2 then (valueIn? 16 ds).map fun n => (some (charOf n), false, r.drop 2) else none
  | 'u' :: r => (pairEscape r).map fun (c, t) => (some c, false, t)
  | '\r' :: '\n' :: r => some (none, false, r)
  | c :: r =>
    if isBreak c then some (none, false, r)
    else if c = '0' && !(r.head?.map isDigit).getD false then some (some '\x00', false, r)
    else if '0' ≤ c && c ≤ '7' then
      let most := if c ≤ '3' then 3 else 2
      let ds := ((c :: r).take most).takeWhile fun d => '0' ≤ d && d ≤ '7'
      some (some (charOf ((valueIn? 8 ds).getD 0)), true, (c :: r).drop ds.length)
    else if c = '8' || c = '9' then some (some c, true, r)
    else some (some (simpleEscape c), false, r)

/-! ## Tokens -/

def stringFrom (quote : Char) : Nat → Nat → Bool → List Char → List Char → Option Scan
  | 0, _, _, _, _ => none
  | fuel + 1, line, legacy, acc, s =>
    match s with
    | [] => none
    | '\\' :: r =>
      match escape r with
      | some (c, old, t) =>
        stringFrom quote fuel (line + if c.isNone then 1 else 0) (legacy || old) (c.toList ++ acc) t
      | none => none
    | c :: r =>
      if c = quote then some ⟨.str (String.ofList acc.reverse) legacy, line, r⟩
      else if c = '\n' || c = '\r' then none
      else stringFrom quote fuel line legacy (c :: acc) r

def templateFrom : Nat → Nat → Option (List Char) → List Char → List Char → Option Scan
  | 0, _, _, _, _ => none
  | fuel + 1, line, cooked, raw, s =>
    let done (last : Bool) (r : List Char) : Option Scan :=
      some ⟨.template (cooked.map fun cs => String.ofList cs.reverse) (String.ofList raw.reverse) last,
        line, r⟩
    match s with
    | [] => none
    | '\x60' :: r => done true r
    | '$' :: '\x7b' :: r => done false r
    | '\\' :: r =>
      match escape r with
      | some (c, old, t) =>
        let passed := r.take (r.length - t.length)
        templateFrom fuel (line + if c.isNone then 1 else 0)
          (if old then none else cooked.map (c.toList ++ ·)) (passed.reverse ++ '\\' :: raw) t
      | none =>
        match r with
        | [] => none
        | d :: t => templateFrom fuel line none (d :: '\\' :: raw) t
    | '\r' :: '\n' :: r => templateFrom fuel (line + 1) (cooked.map ('\n' :: ·)) ('\n' :: raw) r
    | c :: r =>
      let d := if c = '\r' then '\n' else c
      templateFrom fuel (line + if isBreak c then 1 else 0) (cooked.map (d :: ·)) (d :: raw) r

def template (line : Nat) (s : List Char) : Option Scan :=
  templateFrom (s.length + 1) line (some []) [] s

def regexBody (inClass : Bool) : List Char → List Char → Option (List Char × List Char)
  | _, [] => none
  | acc, '\\' :: c :: r => if isBreak c then none else regexBody inClass (c :: '\\' :: acc) r
  | acc, c :: r =>
    if isBreak c then none
    else if c = '/' && !inClass then some (acc.reverse, r)
    else regexBody (if c = '[' then true else if c = ']' then false else inClass) (c :: acc) r

def regex (line : Nat) (s : List Char) : Option Scan :=
  (regexBody false [] s).map fun (body, r) =>
    let flags := r.takeWhile isPart
    ⟨.regex (String.ofList body) (String.ofList flags), line, r.drop flags.length⟩

def nameFrom : Nat → Bool → List Char → List Char → Option (List Char × Bool × List Char)
  | 0, _, _, _ => none
  | fuel + 1, escaped, acc, s =>
    let fits (c : Char) := if acc.isEmpty then isStart c else isPart c
    match s with
    | '\\' :: 'u' :: r =>
      match pairEscape r with
      | some (c, t) => if fits c then nameFrom fuel true (c :: acc) t else none
      | none => none
    | '\\' :: _ => none
    | c :: r =>
      if fits c then nameFrom fuel escaped (c :: acc) r else some (acc.reverse, escaped, s)
    | [] => some (acc.reverse, escaped, [])

def endNumber (t : Token) (line : Nat) (s : List Char) : Option Scan :=
  match s with
  | c :: _ => if isStart c || isDigit c || c = '\\' then none else some ⟨t, line, s⟩
  | [] => some ⟨t, line, s⟩

def endInteger (n : Nat) (line : Nat) (s : List Char) : Option Scan :=
  match s with
  | 'n' :: r => endNumber (.big (toString n)) line r
  | s => endNumber (.number (toString n) false) line s

def based (base line : Nat) (s : List Char) : Option Scan :=
  let (ds, rest) := spacedDigits isHex s
  match ds, valueIn? base ds with
  | _ :: _, some n => endInteger n line rest
  | _, _ => none

def fractionFrom (ds : List Char) (legacy : Bool) (line : Nat) (s : List Char) : Option Scan := do
  let (fraction, r) := match s with
    | '.' :: r => spacedDigits isDigit r
    | r => ([], r)
  if ds.isEmpty && fraction.isEmpty then none
  let (power, r) ← match r with
    | e :: r =>
      if e = 'e' || e = 'E' then
        let (sign, t) := match r with
          | '-' :: t => (['-'], t)
          | '+' :: t => ([], t)
          | t => ([], t)
        match spacedDigits isDigit t with
        | ([], _) => none
        | (es, t) => some ('e' :: (sign ++ es), t)
      else some ([], e :: r)
    | [] => some ([], [])
  endNumber (.number (String.ofList (ds ++ (if fraction.isEmpty then [] else '.' :: fraction) ++ power))
    legacy) line r

def number (line : Nat) (s : List Char) : Option Scan :=
  match s with
  | '0' :: 'x' :: r | '0' :: 'X' :: r => based 16 line r
  | '0' :: 'o' :: r | '0' :: 'O' :: r => based 8 line r
  | '0' :: 'b' :: r | '0' :: 'B' :: r => based 2 line r
  | '0' :: '_' :: _ => none
  | '0' :: d :: r =>
    if isDigit d then
      let ds := (d :: r).takeWhile isDigit
      let rest := (d :: r).drop ds.length
      match valueIn? 8 ds with
      | some n => endNumber (.number (toString n) true) line rest
      | none => fractionFrom ds true line rest
    else if d = 'n' then endInteger 0 line (d :: r)
    else fractionFrom ['0'] false line (d :: r)
  | s =>
    let (ds, r) := spacedDigits isDigit s
    match ds, r with
    | _ :: _, 'n' :: _ => endInteger ((valueIn? 10 ds).getD 0) line r
    | ds, r => fractionFrom ds false line r

def operators : List String :=
  [">>>=", "...", "===", "!==", "**=", "<<=", ">>=", ">>>", "&&=", "||=", "??=", "=>", "==", "!=",
    "<=", ">=", "&&", "||", "??", "?.", "++", "--", "+=", "-=", "*=", "/=", "%=", "&=", "|=", "^=",
    "<<", ">>", "**", "\x7b", "\x7d", "(", ")", "[", "]", ";", ",", "<", ">", "+", "-", "*", "/", "%",
    "&", "|", "^", "!", "~", "?", ":", "=", ".", "@"]

def operator (line : Nat) (s : List Char) : Option Scan :=
  (operators.findSome? fun op =>
    match after? op.toList s with
    | some r =>
      if op = "?." && (r.head?.map isDigit).getD false then none else some (op, r)
    | none => none).map fun (op, r) => ⟨.op op, line, r⟩

def scan (line : Nat) (s : List Char) : Option Scan :=
  match s with
  | [] => some ⟨.eof, line, []⟩
  | c :: r =>
    if isDigit c || (c = '.' && (r.head?.map isDigit).getD false) then number line s
    else if c = '"' || c = '\'' then stringFrom c (r.length + 1) line false [] r
    else if c = '\x60' then template line r
    else if isStart c || c = '\\' then
      (nameFrom (s.length + 1) false [] s).map fun (cs, escaped, rest) =>
        ⟨.name (String.ofList cs) escaped, line, rest⟩
    else if c = '#' then
      match nameFrom (s.length + 1) false [] r with
      | some (d :: cs, _, rest) => some ⟨.privateName (String.ofList (d :: cs)), line, rest⟩
      | _ => none
    else operator line s

end ScriptHost.Braced
