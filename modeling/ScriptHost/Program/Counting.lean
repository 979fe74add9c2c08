import ScriptHost.Program.Tools

/-!
Programs that show the beginnings of files and count what stands in them.
-/
namespace ScriptHost.Program

/-! ## Beginnings -/

def multiplier? (s : String) : Option Nat :=
  let powers := "KMGTPEZY".toList
  match s.toList with
  | [] => some 1
  | ['b'] => some 512
  | c :: r =>
    match powers.idxOf? (if c = 'k' then 'K' else if c = 'm' then 'M' else c), r with
    | some i, [] | some i, ['i', 'B'] => some (Nat.pow 1024 (i + 1))
    | some i, ['B'] => some (Nat.pow 1000 (i + 1))
    | _, _ => none

def count? (s : Bytes) : Option Nat :=
  let digits := s.takeWhile Text.Field.isDigit
  if digits.isEmpty then none
  else (multiplier? (Bytes.lossy (s.drop digits.length))).map (Text.Field.value digits * ·)

/-- What is asked for of a file: so many bytes or lines from its start, or all but so many. -/
structure Part where
  lines : Bool := true
  allBut : Bool := false
  count : Nat := 10

def firstLines (ending : UInt8) : Nat → Bytes → Bytes
  | 0, _ => []
  | _ + 1, [] => []
  | n + 1, b :: r =>
    if b == ending then b :: firstLines ending n r else b :: firstLines ending (n + 1) r
termination_by _ s => s.length

def lineCount (ending : UInt8) (s : Bytes) : Nat :=
  s.count ending + (if s.isEmpty || s.getLast? = some ending then 0 else 1)

def Part.take (p : Part) (ending : UInt8) (s : Bytes) : Bytes :=
  if p.lines then
    firstLines ending (if p.allBut then lineCount ending s - p.count else p.count) s
  else s.take (if p.allBut then s.length - p.count else p.count)

def partOf (letter : Char) (value : Bytes) : Except String Part :=
  let (allBut, digits) := match value with
    | 0x2D :: r => (true, r)
    | r => (false, r)
  match count? (if digits.head? = some 0x2B then digits.drop 1 else digits) with
  | some n => .ok ⟨letter = 'n', allBut, n⟩
  | none =>
    .error ("invalid number of " ++ (if letter = 'n' then "lines" else "bytes") ++ ": "
      ++ quoted digits)

structure HeadPlea where
  part : Part := {}
  titles : Option Bool := none
  ending : UInt8 := 0x0A

/-- An option with a number of its own counts only as the first one, before any other. -/
def headOption (o : Char × Bytes) (p : HeadPlea) : Except String HeadPlea :=
  match o.1 with
  | 'c' | 'n' => (partOf o.1 o.2).map fun part => { p with part }
  | 'q' => .ok { p with titles := some false }
  | 'v' => .ok { p with titles := some true }
  | 'z' => .ok { p with ending := 0 }
  | c =>
    if c.isDigit then
      .error ("invalid trailing option -- " ++ c.toString
        ++ "\nTry 'head --help' for more information.")
    else .ok p

def headGrammar : Grammar where
  plain := "qvz0123456789"
  valued := "cn"
  long := [("bytes", 'c'), ("lines", 'n'), ("quiet", 'q'), ("silent", 'q'), ("verbose", 'v'),
    ("zero-terminated", 'z')]

def shortForm? (w : Bytes) : Option (Except String HeadPlea) :=
  match w with
  | 0x2D :: r =>
    let digits := r.takeWhile Text.Field.isDigit
    if digits.isEmpty then none
    else
      let start : HeadPlea := { part := { count := Text.Field.value digits } }
      some ((r.drop digits.length).foldlM (fun p b =>
        match Char.ofNat b.toNat with
        | 'c' => .ok { p with part := { p.part with lines := false } }
        | 'b' => .ok { p with part := ⟨false, false, p.part.count * 512⟩ }
        | 'k' => .ok { p with part := ⟨false, false, p.part.count * 1024⟩ }
        | 'm' => .ok { p with part := ⟨false, false, p.part.count * 1048576⟩ }
        | 'l' => .ok { p with part := { p.part with lines := true } }
        | 'q' => .ok { p with titles := some false }
        | 'v' => .ok { p with titles := some true }
        | 'z' => .ok { p with ending := 0 }
        | c => .error ("invalid trailing option -- " ++ c.toString
          ++ "\nTry 'head --help' for more information.")) start)
  | _ => none

def headFiles (p : HeadPlea) (titled : Bool) (stdin : Input) : List Bytes → Ran → Ran
  | [], r => r
  | file :: files, r =>
    let name := if file = [0x2D] then "standard input" else Bytes.lossy file
    let title := if titled then
        bytes ((if r.out.isEmpty then "" else "\n") ++ "==> " ++ name ++ " <==\n")
      else []
    match content (Bytes.lossy file) stdin with
    | .found b =>
      headFiles p titled (unread file stdin) files
        { r with out := r.out ++ title ++ p.part.take p.ending b }
    | .zeros =>
      if p.part.lines || p.part.allBut then .endless
      else headFiles p titled stdin files
        { r with out := r.out ++ title ++ List.replicate p.part.count 0 }
    | .missing reason =>
      if reason = "Is a directory" then
        headFiles p titled stdin files
          ({ r with out := r.out ++ title }.complain
            ("head: error reading " ++ shellQuoted file ++ ": " ++ reason))
      else
        headFiles p titled stdin files
          (r.complain ("head: cannot open " ++ shellQuoted file ++ " for reading: " ++ reason))

def head (args : List Bytes) (stdin : Input) : Ran :=
  let (first, args) := match args with
    | w :: ws =>
      match shortForm? w with
      | some p => (p, ws)
      | none => (.ok {}, w :: ws)
    | [] => (.ok {}, [])
  let l := headGrammar.read args
  let plea : Except String HeadPlea := do
    let p ← l.options.foldlM (fun p o => headOption o p) (← first)
    match l.fault with
    | some fault => .error (fault ++ "\nTry 'head --help' for more information.")
    | none => return p
  match plea with
  | .error fault => .failed 1 ("head: " ++ fault)
  | .ok p =>
    if l.has helpLetter then {}
    else
      let files := if l.words.isEmpty then [[0x2D]] else l.words
      headFiles p (p.titles.getD (1 < files.length)) stdin files {}

/-! ## Counts -/

def wordCount : Bool → Bytes → Nat
  | inside, [] => if inside then 1 else 0
  | inside, b :: r =>
    if b == 0x20 || (0x09 ≤ b && b ≤ 0x0D) then (if inside then 1 else 0) + wordCount false r
    else wordCount (inside || printable b) r

/-- The width of the widest line: tabs go on to the next multiple of eight. -/
def widest (best here : Nat) : Bytes → Nat
  | [] => max best here
  | b :: r =>
    if b == 0x0A || b == 0x0D || b == 0x0C then widest (max best here) 0 r
    else if b == 0x09 then widest best (here + 8 - here % 8) r
    else widest best (if printable b then here + 1 else here) r

def countsOf (l : Line) (b : Bytes) : List Nat :=
  let all := !"lwcmL".toList.any l.has
  (if all || l.has 'l' then [b.count 0x0A] else [])
    ++ (if all || l.has 'w' then [wordCount false b] else [])
    ++ (if l.has 'm' then [b.length] else [])
    ++ (if all || l.has 'c' then [b.length] else [])
    ++ (if l.has 'L' then [widest 0 0 b] else [])

def wcGrammar : Grammar where
  plain := "clLmw"
  long := [("bytes", 'c'), ("chars", 'm'), ("lines", 'l'), ("words", 'w'), ("max-line-length", 'L')]

def countLine (width : Nat) (counts : List Nat) (label : Option Bytes) : Bytes :=
  let shown := counts.map fun n =>
    let digits := Bytes.ofNat n
    List.replicate (width - digits.length) 0x20 ++ digits
  (shown.intersperse [0x20]).flatten ++ (label.elim [] fun w => 0x20 :: w) ++ [0x0A]

structure Tally where
  ran : Ran := {}
  totals : List Nat := []
  stdin : Input

def addCounts (l : Line) (totals counts : List Nat) : List Nat :=
  if totals.isEmpty then counts
  else
    let sums := (totals.zip counts).map fun (m, n) => m + n
    if l.has 'L' then sums.dropLast ++ [max (totals.getLastD 0) (counts.getLastD 0)] else sums

def wcFile (l : Line) (width : Nat) (label : Option Bytes) (t : Tally) (file : Bytes) : Tally :=
  let counted (b : Bytes) (r : Ran) : Tally :=
    let counts := countsOf l b
    { ran := { r with out := r.out ++ countLine width counts label }
      totals := addCounts l t.totals counts
      stdin := unread file t.stdin }
  if file.isEmpty then { t with ran := t.ran.complain "wc: invalid zero-length file name" }
  else match content (Bytes.lossy file) t.stdin with
    | .found b => counted b t.ran
    | .zeros => { t with ran := .endless }
    | .missing reason =>
      let r := t.ran.complain ("wc: " ++ shellWord file ++ ": " ++ reason)
      if reason = "Is a directory" then counted [] r else { t with ran := r }

def wc (args : List Bytes) (stdin : Input) : Ran :=
  let l := wcGrammar.read args
  match l.fault with
  | some fault => misused "wc" fault
  | none =>
    if l.has helpLetter then {}
    else
      let one := (countsOf l []).length = 1
      let isThere (f : Bytes) : Bool :=
        match content (Bytes.lossy f) stdin with
        | .missing reason => reason = "Is a directory"
        | _ => true
      match l.words with
      | [] => (wcFile l (if one then 1 else 7) none { stdin } [0x2D]).ran
      | files =>
        let width := if one && files.length = 1 then 1 else if files.any isThere then 7 else 1
        let t := files.foldl (fun t f => wcFile l width (some f) t f) { stdin }
        if files.length = 1 || t.ran.ms.isNone then t.ran
        else
          let totals := if t.totals.isEmpty then (countsOf l []).map fun _ => 0 else t.totals
          { t.ran with out := t.ran.out ++ countLine width totals (some (bytes "total")) }

end ScriptHost.Program
