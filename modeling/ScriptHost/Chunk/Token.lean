import ScriptHost.Chunk.Number

/-!
The tokens of a chunk. Scanning never fails as a whole: what cannot be a token is a fault in the
list of what was scanned, and it matters only to a reader who comes that far.
-/
namespace ScriptHost.Chunk

inductive Token where
  | name (text : Bytes)
  | str (content shown : Bytes)
  | number (value : Number) (shown : Bytes)
  | fixed (text : String)
  | byte (b : UInt8)
  | eof

namespace Token

def quoted (b : Bytes) : Bytes := [0x27] ++ b ++ [0x27]

def isPrintable (b : UInt8) : Bool := 0x20 ≤ b && b < 0x7F

def shown : Token → Bytes
  | .name text => quoted (Bytes.untilNul text)
  | .str _ text => quoted (Bytes.untilNul text)
  | .number _ text => quoted (Bytes.untilNul text)
  | .fixed text => quoted (bytes text)
  | .byte b => if isPrintable b then quoted [b] else quoted (bytes "<\\" ++ Bytes.ofNat b.toNat ++ [0x3E])
  | .eof => bytes "<eof>"

def reserved : List String :=
  ["and", "break", "do", "else", "elseif", "end", "false", "for", "function", "goto", "if", "in",
    "local", "nil", "not", "or", "repeat", "return", "then", "true", "until", "while"]

end Token

inductive Scan where
  | token (t : Token) (line : Nat)
  | fault (message : Bytes) (near : Bytes) (line : Nat)

namespace Scan

def isLetter (b : UInt8) : Bool :=
  (0x61 ≤ b && b ≤ 0x7A) || (0x41 ≤ b && b ≤ 0x5A) || b == 0x5F

def isNewline (b : UInt8) : Bool := b == 0x0A || b == 0x0D

/-- The rest after a line break; a pair of different break characters is one line break. -/
def afterBreak : Bytes → Bytes
  | a :: b :: r => if isNewline b && a != b then r else b :: r
  | _ => []

def longBracket? (bracket : UInt8) (s : Bytes) : Option (Nat × Bytes) :=
  let marks := s.takeWhile (· == 0x3D)
  match s.drop marks.length with
  | b :: r => if b == bracket then some (marks.length, r) else none
  | [] => none

inductive Piece where
  | done (content : Bytes) (line : Nat) (rest : Bytes)
  | bad (message : Bytes) (near : Bytes) (line : Nat)

def longString (what : String) (level start : Nat) : Nat → Nat → Bytes → Bytes → Piece
  | 0, line, _, _ => .bad [] [] line
  | fuel + 1, line, acc, s =>
    match s with
    | [] => .bad (bytes ("unfinished long " ++ what ++ " (starting at line " ++ toString start ++ ")"))
        Token.eof.shown line
    | b :: r =>
      if b == 0x5D then
        match longBracket? 0x5D r with
        | some (n, rest) =>
          if n = level then .done acc.reverse line rest
          else longString what level start fuel line (b :: acc) r
        | none => longString what level start fuel line (b :: acc) r
      else if isNewline b then
        longString what level start fuel (line + 1) (0x0A :: acc) (afterBreak s)
      else longString what level start fuel line (b :: acc) r

def longFrom (what : String) (level line : Nat) (s : Bytes) : Piece :=
  match s with
  | b :: _ =>
    if isNewline b then longString what level line (s.length + 1) (line + 1) [] (afterBreak s)
    else longString what level line (s.length + 1) line [] s
  | [] => longString what level line 1 line [] []

def badEscape (shown : Bytes) (next : Bytes) (message : String) (line : Nat) : Piece :=
  .bad (bytes message) (Token.quoted (Bytes.untilNul (shown.reverse ++ next.take 1))) line

/-- The bytes of a character number up to 2^31, in the extended form of UTF-8. -/
def wideChar (n : Nat) : Bytes :=
  if n < 0x80 then [UInt8.ofNat n]
  else
    let rec go (fuel n limit : Nat) (acc : Bytes) : Bytes :=
      match fuel with
      | 0 => acc
      | fuel + 1 =>
        if n < limit then UInt8.ofNat (256 - 2 * limit + n) :: acc
        else go fuel (n / 64) (limit / 2) (UInt8.ofNat (0x80 + n % 64) :: acc)
    go 6 (n / 64) 32 [UInt8.ofNat (0x80 + n % 64)]

def escape (shown : Bytes) (line : Nat) (s : Bytes) : Piece :=
  let shown := 0x5C :: shown
  let plain (b : UInt8) (r : Bytes) : Piece := .done [b] line r
  match s with
  | [] => .done [] line []
  | b :: r =>
    if b == 0x61 then plain 0x07 r
    else if b == 0x62 then plain 0x08 r
    else if b == 0x66 then plain 0x0C r
    else if b == 0x6E then plain 0x0A r
    else if b == 0x72 then plain 0x0D r
    else if b == 0x74 then plain 0x09 r
    else if b == 0x76 then plain 0x0B r
    else if b == 0x5C || b == 0x22 || b == 0x27 then plain b r
    else if isNewline b then .done [0x0A] (line + 1) (afterBreak s)
    else if b == 0x78 then
      match r with
      | [] => badEscape (b :: shown) [] "hexadecimal digit expected" line
      | x :: r' =>
        match hexValue? x, r' with
        | none, _ => badEscape (b :: shown) [x] "hexadecimal digit expected" line
        | some _, [] => badEscape (x :: b :: shown) [] "hexadecimal digit expected" line
        | some h, y :: rest =>
          match hexValue? y with
          | some l => plain (UInt8.ofNat (16 * h + l)) rest
          | none => badEscape (x :: b :: shown) [y] "hexadecimal digit expected" line
    else if b == 0x7A then
      let blank := r.takeWhile isSpace
      let rec skip (fuel line : Nat) (s : Bytes) : Nat × Bytes :=
        match fuel, s with
        | fuel + 1, c :: t =>
          if isNewline c then skip fuel (line + 1) (afterBreak s)
          else if isSpace c then skip fuel line t else (line, s)
        | _, s => (line, s)
      let (line, rest) := skip (blank.length + 1) line r
      .done [] line rest
    else if isDigit b then
      let ds := (s.take 3).takeWhile isDigit
      let n := decimalValue ds
      let rest := s.drop ds.length
      if n ≤ 255 then plain (UInt8.ofNat n) rest
      else badEscape (ds.reverse ++ shown) rest "decimal escape too large" line
    else if b == 0x75 then
      let shown := b :: shown
      match r with
      | 0x7B :: r =>
        let shown := 0x7B :: shown
        let ds := r.takeWhile isHexDigit
        match ds, r.drop ds.length with
        | [], rest => badEscape shown rest "hexadecimal digit expected" line
        | ds, rest =>
          if twoTo 31 ≤ hexDigitsValue ds then
            badEscape (ds.reverse ++ shown) rest "UTF-8 value too large" line
          else match rest with
            | 0x7D :: rest => .done (wideChar (hexDigitsValue ds)) line rest
            | rest => badEscape (ds.reverse ++ shown) rest "missing '\x7d' in \\u\x7bxxxx\x7d" line
      | rest => badEscape shown rest "missing '\x7b' in \\u\x7bxxxx\x7d" line
    else badEscape shown [b] "invalid escape sequence" line

def shortString (quote : UInt8) : Nat → Nat → Bytes → Bytes → Piece
  | 0, line, _, _ => .bad [] [] line
  | fuel + 1, line, acc, s =>
    match s with
    | [] => .bad (bytes "unfinished string") Token.eof.shown line
    | b :: r =>
      if b == quote then .done acc.reverse line r
      else if isNewline b then
        .bad (bytes "unfinished string") (Token.quoted (Bytes.untilNul (quote :: acc.reverse))) line
      else if b == 0x5C then
        match escape (acc ++ [quote]) line r with
        | .done content line rest => shortString quote fuel line (content.reverse ++ acc) rest
        | bad => bad
      else shortString quote fuel line (b :: acc) r

def numeralChars (exponents : List UInt8) : Bytes → Bytes
  | [] => []
  | b :: r =>
    if exponents.contains b then
      match r with
      | 0x2B :: t => b :: 0x2B :: numeralChars exponents t
      | 0x2D :: t => b :: 0x2D :: numeralChars exponents t
      | r => b :: numeralChars exponents r
    else if isHexDigit b || b == 0x2E then b :: numeralChars exponents r
    else []

def numeral (front : Bytes) (line : Nat) (s : Bytes) : Scan × Bytes :=
  let text := match s with
    | 0x30 :: 0x78 :: r => [0x30, 0x78] ++ numeralChars [0x70, 0x50] r
    | 0x30 :: 0x58 :: r => [0x30, 0x58] ++ numeralChars [0x70, 0x50] r
    | s => numeralChars [0x65, 0x45] s
  let rest := s.drop text.length
  let text := front ++ text
  match rest with
  | b :: r =>
    if isLetter b then
      (.fault (bytes "malformed number") (Token.quoted (text ++ [b])) line, r)
    else match number? text with
      | some n => (.token (.number n text) line, rest)
      | none => (.fault (bytes "malformed number") (Token.quoted text) line, rest)
  | [] =>
    match number? text with
    | some n => (.token (.number n text) line, rest)
    | none => (.fault (bytes "malformed number") (Token.quoted text) line, rest)

def symbols : List String :=
  ["...", "..", "==", "<=", ">=", "~=", "<<", ">>", "//", "::"]

def symbol? (s : Bytes) : Option String := symbols.find? fun t => (bytes t).isPrefixOf s

def word (text : Bytes) : Token :=
  match Token.reserved.find? fun w => bytes w == text with
  | some w => .fixed w
  | none => .name text

def comment (line : Nat) (s : Bytes) : Piece :=
  let short : Piece := .done [] line (s.dropWhile fun b => !isNewline b)
  match s with
  | 0x5B :: r =>
    match longBracket? 0x5B r with
    | some (level, rest) => longFrom "comment" level line rest
    | none => short
  | _ => short

def brackets (level : Nat) (bracket : UInt8) : Bytes :=
  bracket :: (List.replicate level 0x3D ++ [bracket])

/-- The token at the start of a text that does not begin with white space. -/
def one (line : Nat) (b : UInt8) (r : Bytes) : Scan × Nat × Bytes :=
  let s := b :: r
  if b == 0x22 || b == 0x27 then
    match shortString b (r.length + 1) line [] r with
    | .done content line rest => (.token (.str content (b :: (content ++ [b]))) line, line, rest)
    | .bad message near line => (.fault message near line, line, [])
  else if b == 0x5B then
    match longBracket? 0x5B r with
    | some (level, rest) =>
      match longFrom "string" level line rest with
      | .done content line rest =>
        (.token (.str content (brackets level 0x5B ++ content ++ brackets level 0x5D)) line,
          line, rest)
      | .bad message near line => (.fault message near line, line, [])
    | none =>
      match r with
      | 0x3D :: _ =>
        (.fault (bytes "invalid long string delimiter")
          (Token.quoted (b :: r.takeWhile (· == 0x3D))) line, line, [])
      | _ => (.token (.byte b) line, line, r)
  else if isDigit b then
    let (t, rest) := numeral [] line s
    (t, line, rest)
  else if b == 0x2E && (r.head?.map isDigit).getD false then
    let (t, rest) := numeral [b] line r
    (t, line, rest)
  else if isLetter b then
    let text := s.takeWhile fun c => isLetter c || isDigit c
    (.token (word text) line, line, s.drop text.length)
  else match symbol? s with
    | some t => (.token (.fixed t) line, line, s.drop t.length)
    | none => (.token (.byte b) line, line, r)

def allFrom : Nat → Nat → Bytes → List Scan
  | 0, _, _ => []
  | fuel + 1, line, s =>
    match s with
    | [] => [.token .eof line]
    | b :: r =>
      if isNewline b then allFrom fuel (line + 1) (afterBreak s)
      else if isSpace b then allFrom fuel line r
      else match s with
        | 0x2D :: 0x2D :: rest =>
          match comment line rest with
          | .done _ line rest => allFrom fuel line rest
          | .bad message near line => [.fault message near line]
        | _ =>
          match one line b r with
          | (.token t l, line, rest) => .token t l :: allFrom fuel line rest
          | (broken, _, _) => [broken]

def all (s : Bytes) : List Scan := allFrom (s.length + 1) 1 s

end Scan

end ScriptHost.Chunk
