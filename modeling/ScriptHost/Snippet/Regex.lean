import ScriptHost.Snippet.Letter

/-!
Patterns that texts are searched for: how they are read, and where they match. A match is looked for
by trying one way after the other; what has been captured is given back when a way fails.
-/
namespace ScriptHost.Snippet.Regex

inductive Member where
  | range (low high : Nat)
  | digit (negated : Bool)
  | wordPart (negated : Bool)
  | space (negated : Bool)
  | property (name : String) (negated : Bool)

inductive Pattern where
  | empty
  | char (c : Char)
  | any
  | oneOf (negated : Bool) (members : List Member)
  | seq (a b : Pattern)
  | alt (a b : Pattern)
  | group (index : Nat) (p : Pattern)
  | repeated (p : Pattern) (least : Nat) (most : Option Nat) (greedy : Bool) (groups : List Nat)
  | back (index : Nat)
  | backNamed (name : String)
  | look (behind negated : Bool) (p : Pattern)
  | start
  | stop
  | textStop
  | textStart
  | wordEdge (negated : Bool)

structure Options where
  ignoreCase : Bool := false
  multiline : Bool := false
  dotAll : Bool := false
  /-- Every escape has to mean something, and no sign may stand for itself by accident. -/
  strict : Bool := false
  lettered : Bool := false

structure Reading where
  rest : List Char
  groups : Nat := 0
  names : List (String × Nat) := []
  wanted : List String := []
  total : Nat
  anyNames : Bool
  bound : Nat
  options : Options

abbrev Read := EStateM String Reading

structure Compiled where
  pattern : Pattern
  groups : Nat
  names : List (String × Nat)
  options : Options

/-! ## Reading -/

namespace Read

def fail {α : Type} (message : String) : Read α := throw message

def opts : Read Options := do return (← get).options

def peek : Read (Option Char) := do return (← get).rest.head?

def drop (n : Nat) : Read Unit := modify fun r => { r with rest := r.rest.drop n }

def take (text : String) : Read Bool := do
  match after? text.toList (← get).rest with
  | some rest => modify fun r => { r with rest }; return true
  | none => return false

def isAt (text : String) : Read Bool := do return (after? text.toList (← get).rest).isSome

def groupName (closing : Char) : Read String := do
  let cs := (← get).rest.takeWhile (· ≠ closing)
  let n := String.ofList cs
  match cs with
  | c :: r =>
    if !((isLetter c || c = '$') && r.all fun d => isNamePart d || d = '$') then
      fail "Invalid capture group name"
  | [] => fail "Invalid capture group name"
  if (← get).rest.length = cs.length then fail "Invalid capture group name"
  drop (cs.length + 1)
  return n

def newGroup : Read Nat := do
  let n := (← get).groups + 1
  modify fun r => { r with groups := n }
  return n

def number? (s : List Char) : Option (Nat × List Char) :=
  let ds := s.takeWhile isDigit
  if ds.isEmpty then none else (valueIn? 10 ds).map fun n => (n, s.drop ds.length)

def counts? (lettered : Bool) (s : List Char) : Option (Nat × Option Nat × List Char) :=
  match number? s with
  | some (n, '\x7d' :: r) => some (n, some n, r)
  | some (n, ',' :: '\x7d' :: r) => some (n, none, r)
  | some (n, ',' :: r) =>
    match number? r with
    | some (m, '\x7d' :: t) => some (n, some m, t)
    | _ => none
  | some _ => none
  | none =>
    match lettered, s with
    | true, ',' :: r =>
      match number? r with
      | some (m, '\x7d' :: t) => some (0, some m, t)
      | _ => none
    | _, _ => none

def quantifier? : Read (Option (Nat × Option Nat)) := do
  let r ← get
  match r.rest with
  | '*' :: t => set { r with rest := t }; return some (0, none)
  | '+' :: t => set { r with rest := t }; return some (1, none)
  | '?' :: t => set { r with rest := t }; return some (0, some 1)
  | '\x7b' :: t =>
    match counts? r.options.lettered t with
    | some (n, m, t) =>
      if (m.map fun m => decide (m < n)).getD false then fail "numbers out of order in \x7b\x7d quantifier"
      set { r with rest := t }
      return some (n, m)
    | none =>
      if r.options.strict then fail "Incomplete quantifier"
      return none
  | _ => return none

def code? (count : Nat) (s : List Char) : Option (Nat × List Char) :=
  let ds := s.take count
  if ds.length = count && count ≠ 0 then (valueIn? 16 ds).map fun n => (n, s.drop count) else none

def braceCode? (s : List Char) : Option (Nat × List Char) :=
  match s with
  | '\x7b' :: r =>
    let ds := r.takeWhile isHex
    match ds, r.drop ds.length, valueIn? 16 ds with
    | _ :: _, '\x7d' :: t, some n => if n ≤ 0x10FFFF then some (n, t) else none
    | _, _, _ => none
  | _ => none

def charEscape : Read Char := do
  let r ← get
  let o := r.options
  match r.rest with
  | [] => fail "\\ at end of pattern"
  | c :: t =>
    drop 1
    match c with
    | 'n' => return '\n'
    | 't' => return '\t'
    | 'r' => return '\r'
    | 'f' => return '\x0c'
    | 'v' => return '\x0b'
    | 'a' => if o.lettered then return '\x07' else if o.strict then fail "Invalid escape" else return 'a'
    | 'x' =>
      match code? 2 t with
      | some (n, t) => set { r with rest := t }; return charOf n
      | none => if o.strict || o.lettered then fail "Invalid escape" else return 'x'
    | 'u' =>
      match if o.strict then (braceCode? t).orElse fun _ => code? 4 t else code? 4 t with
      | some (n, t) => set { r with rest := t }; return charOf n
      | none => if o.strict || o.lettered then fail "Invalid Unicode escape" else return 'u'
    | 'c' =>
      match t with
      | d :: t' =>
        if d.isAlpha && !o.lettered then
          set { r with rest := t' }
          return Char.ofNat (d.toNat % 32)
      | [] => pure ()
      if o.strict then fail "Invalid Unicode escape"
      set { r with rest := 'c' :: t }
      return '\\'
    | '0' =>
      if o.strict && (t.head?.map isDigit).getD false then fail "Invalid decimal escape"
      let ds := (t.take 2).takeWhile fun d => '0' ≤ d && d ≤ '7'
      drop ds.length
      return charOf ((valueIn? 8 ds).getD 0)
    | c =>
      if o.strict then
        if "^$\\.*+?()[]\x7b\x7d|/".toList.contains c then return c
        fail "Invalid escape"
      if o.lettered && (c.isAlpha || isDigit c) then fail ("bad escape \\" ++ c.toString)
      if '1' ≤ c && c ≤ '7' then
        let ds := ((c :: t).take 3).takeWhile fun d => '0' ≤ d && d ≤ '7'
        let ds := if 255 < (valueIn? 8 ds).getD 0 then ds.take 2 else ds
        set { r with rest := (c :: t).drop ds.length }
        return charOf ((valueIn? 8 ds).getD 0)
      return c

def knownProperties : List String :=
  ["L", "Lu", "Ll", "Lt", "Lm", "Lo", "N", "Nd", "Nl", "No", "P", "Pc", "Pd", "Ps", "Pe", "S", "Sc",
    "Sm", "Z", "Zs", "M", "Mn", "C", "Cc", "Letter", "Uppercase_Letter", "Lowercase_Letter", "Number",
    "Decimal_Number", "Punctuation", "Symbol", "Separator", "Alphabetic", "Uppercase", "Lowercase",
    "White_Space", "Any", "ASCII", "Emoji", "Emoji_Presentation", "Extended_Pictographic",
    "ID_Start", "ID_Continue", "ASCII_Hex_Digit", "Hex_Digit"]

def isProperty (n : String) : Bool :=
  knownProperties.contains n || n.startsWith "Script=" || n.startsWith "sc="
    || n.startsWith "Script_Extensions=" || n.startsWith "scx="
    || ((n.startsWith "General_Category=" || n.startsWith "gc=")
      && knownProperties.contains ((n.dropWhile (· ≠ '=')).drop 1).toString)

def classEscape? : Read (Option Member) := do
  let r ← get
  match r.rest with
  | c :: t =>
    let found (m : Member) : Read (Option Member) := do
      drop 1
      return some m
    match c with
    | 'd' => found (.digit false)
    | 'D' => found (.digit true)
    | 'w' => found (.wordPart false)
    | 'W' => found (.wordPart true)
    | 's' => found (.space false)
    | 'S' => found (.space true)
    | _ =>
      if r.options.strict && (c = 'p' || c = 'P') then
        match t with
        | '\x7b' :: t =>
          let n := t.takeWhile (· ≠ '\x7d')
          if !isProperty (String.ofList n) || n.length = t.length then fail "Invalid property name"
          set { r with rest := t.drop (n.length + 1) }
          return some (.property (String.ofList n) (c = 'P'))
        | _ => fail "Invalid property name"
      else return none
  | [] => return none

def classAtom : Read (Char ⊕ Member) := do
  let r ← get
  match r.rest with
  | [] => fail "Unterminated character class"
  | '\\' :: t =>
    set { r with rest := t }
    match ← classEscape? with
    | some m => return .inr m
    | none =>
      match t with
      | 'b' :: _ => drop 1; return .inl '\x08'
      | '-' :: _ => drop 1; return .inl '-'
      | _ => return .inl (← charEscape)
  | c :: _ => drop 1; return .inl c

def single : Char ⊕ Member → Member
  | .inl c => .range c.toNat c.toNat
  | .inr m => m

def classFrom : Nat → List Member → Read (List Member)
  | 0, acc => return acc.reverse
  | n + 1, acc => do
    if ← take "]" then return acc.reverse
    let a ← classAtom
    let r ← get
    match r.rest with
    | '-' :: ']' :: _ | ['-'] => classFrom n (single a :: acc)
    | '-' :: t =>
      set { r with rest := t }
      let b ← classAtom
      match a, b with
      | .inl x, .inl y =>
        if y.toNat < x.toNat then fail "Range out of order in character class"
        classFrom n (.range x.toNat y.toNat :: acc)
      | a, b =>
        if r.options.strict || r.options.lettered then fail "Invalid character class"
        classFrom n (single b :: .range 0x2D 0x2D :: single a :: acc)
    | _ => classFrom n (single a :: acc)

def charClass : Read Pattern := do
  let negated ← take "^"
  let literal ← if (← opts).lettered then take "]" else pure false
  let acc := if literal then [Member.range 0x5D 0x5D] else []
  return .oneOf negated (← classFrom (← get).bound acc)

def escapedAtom : Read Pattern := do
  let r ← get
  let o := r.options
  match r.rest with
  | 'b' :: _ => drop 1; return .wordEdge false
  | 'B' :: _ => drop 1; return .wordEdge true
  | c :: t =>
    if o.lettered && c = 'A' then drop 1; return .textStart
    if o.lettered && c = 'Z' then drop 1; return .textStop
    if c = 'k' && !o.lettered && (o.strict || r.anyNames) then
      match t with
      | '<' :: _ =>
        drop 2
        let n ← groupName '>'
        modify fun r => { r with wanted := n :: r.wanted }
        return .backNamed n
      | _ => fail "Invalid named reference"
    if '1' ≤ c && c ≤ '9' then
      match number? r.rest with
      | some (n, rest) =>
        if n ≤ r.total || o.lettered then
          if r.total < n then fail ("invalid group reference " ++ toString n)
          set { r with rest }
          return .back n
        if o.strict then fail "Invalid escape"
      | none => pure ()
    match ← classEscape? with
    | some m => return .oneOf false [m]
    | none => return .char (← charEscape)
  | [] => fail "\\ at end of pattern"

def groupAtom (inner : Read Pattern) : Read (Pattern × Bool × Bool) := do
  let close (p : Pattern) : Read Pattern := do
    if !(← take ")") then fail "Unterminated group"
    return p
  let named (closing : Char) : Read (Pattern × Bool × Bool) := do
    let n ← groupName closing
    if (← get).names.any (·.1 == n) then fail "Duplicate capture group name"
    let i ← newGroup
    modify fun r => { r with names := (n, i) :: r.names }
    return (.group i (← close (← inner)), false, false)
  if ← take "?:" then return (← close (← inner), false, false)
  else if ← take "?=" then return (.look false false (← close (← inner)), true, false)
  else if ← take "?!" then return (.look false true (← close (← inner)), true, false)
  else if ← take "?<=" then return (.look true false (← close (← inner)), true, true)
  else if ← take "?<!" then return (.look true true (← close (← inner)), true, true)
  else
    let lettered := (← opts).lettered
    if lettered && (← isAt "?P<") then drop 3; named '>'
    else if lettered && (← isAt "?P=") then
      drop 3
      let n ← groupName ')'
      if !(← get).names.any (·.1 == n) then fail ("unknown group name '" ++ n ++ "'")
      return (.backNamed n, false, false)
    else if !lettered && (← isAt "?<") then drop 2; named '>'
    else if ← isAt "?" then fail "Invalid group"
    else
      let i ← newGroup
      return (.group i (← close (← inner)), false, false)

/-- An atom, whether it looks around, and whether it looks behind. -/
def atom (inner : Read Pattern) : Read (Pattern × Bool × Bool) := do
  let r ← get
  let plain (p : Pattern) : Read (Pattern × Bool × Bool) := do
    drop 1
    return (p, false, false)
  match r.rest with
  | [] => return (.empty, false, false)
  | c :: t =>
    match c with
    | '.' => plain .any
    | '(' => drop 1; groupAtom inner
    | '[' => drop 1; return (← charClass, false, false)
    | '\\' => drop 1; return (← escapedAtom, false, false)
    | '*' | '+' | '?' => fail "Nothing to repeat"
    | '\x7b' =>
      if (counts? r.options.lettered t).isSome || r.options.strict then fail "Nothing to repeat"
      plain (.char c)
    | '\x7d' | ']' =>
      if r.options.strict then fail "Lone quantifier brackets"
      plain (.char c)
    | c => plain (.char c)

def isEdge (p : Pattern) : Bool :=
  match p with
  | .start | .stop | .wordEdge _ | .textStart | .textStop => true
  | _ => false

def term (inner : Read Pattern) : Read Pattern := do
  if ← take "^" then return .start
  if ← take "$" then return .stop
  let before := (← get).groups
  let (p, looks, behind) ← atom inner
  let r ← get
  match ← quantifier? with
  | none => return p
  | some (least, most) =>
    if isEdge p && !r.options.lettered then fail "Nothing to repeat"
    if behind || (looks && r.options.strict) then fail "Invalid quantifier"
    let greedy := !(← take "?")
    let again ← get
    if again.options.lettered then
      match again.rest with
      | '*' :: _ | '+' :: _ | '?' :: _ => fail "multiple repeat"
      | _ => pure ()
    let groups := (List.range (r.groups - before)).map (· + before + 1)
    return .repeated p least most greedy groups

def sequenceFrom (inner : Read Pattern) : Nat → Pattern → Read Pattern
  | 0, acc => return acc
  | n + 1, acc => do
    match ← peek with
    | none | some '|' | some ')' => return acc
    | _ =>
      let p ← term inner
      sequenceFrom inner n (match acc with
        | .empty => p
        | a => .seq a p)

def alternatives (inner : Read Pattern) : Nat → Read Pattern
  | 0 => return .empty
  | n + 1 => do
    let a ← sequenceFrom inner (← get).bound .empty
    if ← take "|" then return .alt a (← alternatives inner n)
    return a

def pattern : Nat → Read Pattern
  | 0 => fail "Regular expression too large"
  | depth + 1 => do alternatives (pattern depth) (← get).bound

end Read

def countGroups (inClass : Bool) : List Char → Nat × Bool
  | '\\' :: _ :: r => countGroups inClass r
  | '(' :: '?' :: '<' :: c :: r =>
    let (n, named) := countGroups inClass r
    if inClass || c = '=' || c = '!' then (n, named) else (n + 1, true)
  | '(' :: '?' :: 'P' :: '<' :: r =>
    let (n, named) := countGroups inClass r
    if inClass then (n, named) else (n + 1, true)
  | '(' :: '?' :: r => countGroups inClass r
  | '(' :: r =>
    let (n, named) := countGroups inClass r
    (if inClass then n else n + 1, named)
  | '[' :: r => countGroups true r
  | ']' :: r => countGroups false r
  | _ :: r => countGroups inClass r
  | [] => (0, false)

def compile (source : String) (options : Options) : Except String Compiled :=
  let cs := source.toList
  let (total, anyNames) := countGroups false cs
  let start : Reading := ⟨cs, 0, [], [], total, anyNames, cs.length + 2, options⟩
  match (Read.pattern (cs.length + 2)).run start with
  | .error e _ => .error e
  | .ok p r =>
    match r.rest with
    | _ :: _ => .error "Unmatched ')'"
    | [] =>
      if r.wanted.any fun w => !r.names.any (·.1 == w) then
        .error "Invalid named capture referenced"
      else .ok ⟨p, r.groups, r.names.reverse, options⟩

/-! ## Matching -/

def isWordPart (c : Char) : Bool := c.isAlphanum || c = '_'

def isLineBreak (c : Char) : Bool := c = '\n' || c = '\r' || c = '\u2028' || c = '\u2029'

def isSpace (c : Char) : Bool :=
  let n := c.toNat
  (0x09 ≤ n && n ≤ 0x0D) || n == 0x20 || n == 0xA0 || n == 0xFEFF || n == 0x1680
    || (0x2000 ≤ n && n ≤ 0x200A) || n == 0x2028 || n == 0x2029 || n == 0x202F || n == 0x205F
    || n == 0x3000

def hasProperty (name : String) (c : Char) : Bool :=
  let n := ((name.dropWhile (· ≠ '=')).drop 1).toString
  match (if n.isEmpty then name else n) with
  | "Lu" | "Uppercase_Letter" | "Uppercase" => c.isUpper
  | "Ll" | "Lowercase_Letter" | "Lowercase" => c.isLower
  | "N" | "Nd" | "Number" | "Decimal_Number" => isDigit c
  | "P" | "Punctuation" => "!\x22#%&'()*,-./:;?@[\\]_\x7b\x7d".toList.contains c
  | "S" | "Symbol" => "$+<=>^|~\x60".toList.contains c
  | "Z" | "Zs" | "Separator" => c = ' '
  | "White_Space" => isSpace c
  | "Any" => true
  | "ASCII" => c.toNat < 0x80
  | "Emoji" | "Emoji_Presentation" | "Extended_Pictographic" => 0x1F000 ≤ c.toNat
  | _ => isLetter c && c ≠ '_'

def Member.holds (c : Char) : Member → Bool
  | .range a b => a ≤ c.toNat && c.toNat ≤ b
  | .digit negated => isDigit c != negated
  | .wordPart negated => isWordPart c != negated
  | .space negated => isSpace c != negated
  | .property name negated => hasProperty name c != negated

def foldCase (o : Options) (c : Char) : Char := if o.ignoreCase then c.toLower else c

structure Subject where
  text : Array Char
  options : Options
  names : List (String × Nat)

abbrev Captures := Array (Option (Nat × Nat))

namespace Subject

def at? (s : Subject) (i : Nat) : Option Char := s.text[i]?

def isEdge (s : Subject) (i : Nat) : Bool :=
  let before := if i = 0 then false else ((s.at? (i - 1)).map isWordPart).getD false
  let behind := ((s.at? i).map isWordPart).getD false
  before != behind

def classHolds (s : Subject) (negated : Bool) (ms : List Member) (c : Char) : Bool :=
  let holds (d : Char) := ms.any (Member.holds d)
  (holds c || (s.options.ignoreCase && (holds c.toLower || holds c.toUpper))) != negated

def repeatsAt (s : Subject) (a b i : Nat) : Bool :=
  (List.range (b - a)).all fun k =>
    match s.at? (a + k), s.at? (i + k) with
    | some c, some d => foldCase s.options c = foldCase s.options d
    | _, _ => false

def isLineEnd (s : Subject) (i : Nat) : Bool :=
  i = s.text.size || (s.options.lettered && i + 1 = s.text.size && s.at? i = some '\n')
    || (s.options.multiline && ((s.at? i).map isLineBreak).getD false)

def step (s : Subject) (back : Bool) (i : Nat) (ok : Char → Bool) : Option Nat :=
  if back then
    if i = 0 then none
    else match s.at? (i - 1) with
      | some c => if ok c then some (i - 1) else none
      | none => none
  else match s.at? i with
    | some c => if ok c then some (i + 1) else none
    | none => none

end Subject

/-- What is tried when a part has matched. -/
abbrev Next := Nat → Captures → Option (Nat × Captures)

def run (s : Subject) : Nat → Bool → Pattern → Nat → Captures → Next → Option (Nat × Captures)
  | 0, _, _, _, _, _ => none
  | fuel + 1, back, p, i, caps, k =>
    let go := run s fuel back
    let one (ok : Char → Bool) : Option (Nat × Captures) :=
      (s.step back i ok).bind fun j => k j caps
    let same (range : Option (Nat × Nat)) : Option (Nat × Captures) :=
      match range with
      | none => if s.options.lettered then none else k i caps
      | some (a, b) =>
        if back then
          if b - a ≤ i && s.repeatsAt a b (i - (b - a)) then k (i - (b - a)) caps else none
        else if s.repeatsAt a b i then k (i + (b - a)) caps else none
    match p with
    | .empty => k i caps
    | .char c => one fun d => foldCase s.options d = foldCase s.options c
    | .any => one fun d =>
        s.options.dotAll || !(if s.options.lettered then d = '\n' else isLineBreak d)
    | .oneOf negated ms => one (s.classHolds negated ms)
    | .seq a b =>
      if back then go b i caps fun j caps => go a j caps k
      else go a i caps fun j caps => go b j caps k
    | .alt a b => (go a i caps k).or (go b i caps k)
    | .group n q =>
      go q i caps fun j caps => k j (caps.set! n (some (if back then (j, i) else (i, j))))
    | .repeated q least most greedy groups =>
      let cleared := groups.foldl (fun (c : Captures) g => c.set! g none) caps
      let caps' := if s.options.lettered then caps else cleared
      let more : Unit → Option (Nat × Captures) := fun _ =>
        if most = some 0 then none
        else go q i caps' fun j caps =>
          if j = i && least = 0 then none
          else go (.repeated q (least - 1) (most.map (· - 1)) greedy groups) j caps k
      if least ≠ 0 then more ()
      else if greedy then (more ()).or (k i caps)
      else (k i caps).or (more ())
    | .back n => same (caps.getD n none)
    | .backNamed name => same ((s.names.find? (·.1 == name)).bind fun (_, n) => caps.getD n none)
    | .look behind negated q =>
      match run s fuel behind q i caps fun j caps => some (j, caps) with
      | some (_, caps') => if negated then none else k i caps'
      | none => if negated then k i caps else none
    | .start =>
      if i = 0 || (s.options.multiline && ((s.at? (i - 1)).map isLineBreak).getD false) then k i caps
      else none
    | .stop => if s.isLineEnd i then k i caps else none
    | .textStart => if i = 0 then k i caps else none
    | .textStop => if i = s.text.size then k i caps else none
    | .wordEdge negated => if s.isEdge i != negated then k i caps else none

def depth : Nat := 200000

def matchAt (c : Compiled) (text : Array Char) (i : Nat) : Option Captures :=
  let s : Subject := ⟨text, c.options, c.names⟩
  (run s depth false c.pattern i (Array.replicate (c.groups + 1) none) fun j caps => some (j, caps)).map
    fun (j, caps) => caps.set! 0 (some (i, j))

def searchFrom (c : Compiled) (text : Array Char) : Nat → Nat → Option Captures
  | 0, _ => none
  | n + 1, i =>
    if text.size < i then none
    else (matchAt c text i).orElse fun _ => searchFrom c text n (i + 1)

def search (c : Compiled) (text : Array Char) (i : Nat) : Option Captures :=
  searchFrom c text (text.size + 2 - i) i

end ScriptHost.Snippet.Regex
