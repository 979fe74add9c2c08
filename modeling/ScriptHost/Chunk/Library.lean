import ScriptHost.Chunk.Arithmetic
import ScriptHost.Text.Field

/-!
The functions that a chunk finds in place. Each answers with values or says what kind of failure it
is; where a failure happened is added by the machine that runs the chunk.
-/
namespace ScriptHost.Chunk

/-- What becomes of a call of a function of the library. -/
inductive Reply where
  | values (vs : List Value) (h : Heap)
  | log (line : String)
  | thrown (v : Value)
  /-- A failure with a text; the level tells whose place is put in front of it. -/
  | failed (message : Bytes) (level : Nat)
  | badArgument (number : Nat) (reason : String)
  | protect (f : Value) (args : List Value)

namespace Library

def textLimit : Nat := twoTo 26

def address (kind : String) (id : Nat) : Bytes :=
  let digits := String.ofList (Nat.toDigits 16 (0x100000 + 16 * id))
  bytes (kind ++ ": 0x" ++ String.ofList (List.replicate (14 - digits.length) '0') ++ digits)

def display : Value → Bytes
  | .nil => bytes "nil"
  | .bool b => bytes (if b then "true" else "false")
  | .number n => bytes n.text
  | .str s => s
  | .null => bytes "userdata: (nil)"
  | .table id => address "table" id
  | .closure id => address "function" id
  | .builtin _ => address "function: builtin" 0

/-- A value as it stands in the log: texts and numbers as they are, others with their kind. -/
def logText : Value → String
  | .str s => Bytes.lossy s
  | .number n => n.text
  | .nil => "Nil"
  | .bool b => if b then "Boolean(true)" else "Boolean(false)"
  | .null => "LightUserData(0x0)"
  | .table id => "Table(Ref(" ++ toString id ++ "))"
  | .closure id => "Function(Ref(" ++ toString id ++ "))"
  | .builtin _ => "Function(Ref(0))"

def arg (args : List Value) (n : Nat) : Value := args.getD (n - 1) .nil

def argType (args : List Value) (n : Nat) : String :=
  match args[n - 1]? with
  | some v => v.typeName
  | none => "no value"

def expected (args : List Value) (n : Nat) (what : String) : Reply :=
  .badArgument n (what ++ " expected, got " ++ argType args n)

def withInt (args : List Value) (n : Nat) (k : Int → Reply) : Reply :=
  match (arg args n).number? with
  | some x =>
    match x.int? with
    | some i => k i
    | none => .badArgument n "number has no integer representation"
  | none => expected args n "number"

def withIntOr (args : List Value) (n : Nat) (d : Int) (k : Int → Reply) : Reply :=
  if (arg args n).isNil then k d else withInt args n k

def withNumber (args : List Value) (n : Nat) (k : Number → Reply) : Reply :=
  match (arg args n).number? with
  | some x => k x
  | none => expected args n "number"

def withText (args : List Value) (n : Nat) (k : Bytes → Reply) : Reply :=
  match (arg args n).joinable? with
  | some s => k s
  | none => expected args n "string"

def withTable (args : List Value) (n : Nat) (k : Nat → Reply) : Reply :=
  match arg args n with
  | .table id => k id
  | _ => expected args n "table"

def withAny (args : List Value) (n : Nat) (k : Value → Reply) : Reply :=
  match args[n - 1]? with
  | some v => k v
  | none => .badArgument n "value expected"

def fromEnd (size : Nat) (i : Int) : Int :=
  if 0 ≤ i then i else if (size : Int) < -i then 0 else size + i + 1

def slice (s : Bytes) (i j : Int) : Bytes :=
  let i := max 1 (fromEnd s.length i)
  let j := min (s.length : Int) (fromEnd s.length j)
  if j < i then [] else (s.drop (i - 1).toNat).take (j - i + 1).toNat

def mapBytes (f : UInt8 → UInt8) (s : Bytes) : Value := .str (s.map f)

def upperByte (b : UInt8) : UInt8 := if 0x61 ≤ b && b ≤ 0x7A then b - 0x20 else b

def lowerByte (b : UInt8) : UInt8 := if 0x41 ≤ b && b ≤ 0x5A then b + 0x20 else b

/-! ## Formats -/

def letters : List UInt8 := [0x64, 0x69, 0x78, 0x58, 0x6F, 0x63, 0x66, 0x67, 0x65, 0x73]

def formatOne (f : Text.Field) (letter : UInt8) (args : List Value) (n : Nat)
    (k : Bytes → Reply) : Reply :=
  if [0x64, 0x69, 0x78, 0x58, 0x6F].contains letter then
    withInt args n fun i => k (f.integer letter i)
  else if letter == 0x63 then
    withInt args n fun i => k (f.pad false [UInt8.ofNat (word i % 256)])
  else if [0x66, 0x67, 0x65].contains letter then
    withNumber args n fun x => k (f.float letter x.asFloat)
  else k (f.text (display (arg args n)))

def formatFrom (args : List Value) : Nat → Nat → Bytes → Bytes → Heap → Reply
  | 0, _, acc, _, h => .values [.str acc] h
  | fuel + 1, n, acc, s, h =>
    match s with
    | [] => .values [.str acc] h
    | 0x25 :: 0x25 :: r => formatFrom args fuel n (acc ++ [0x25]) r h
    | 0x25 :: r =>
      if args.length < n then .badArgument n "no value"
      else
        let (f, rest) := Text.Field.read 2 r
        match rest with
        | letter :: rest =>
          if letters.contains letter then
            formatOne f letter args n fun text => formatFrom args fuel (n + 1) (acc ++ text) rest h
          else .failed (bytes "invalid conversion '%" ++ r.take (r.length - rest.length)
            ++ bytes "' to 'format'") 1
        | [] => .failed (bytes "invalid conversion '%" ++ r ++ bytes "' to 'format'") 1
    | b :: r => formatFrom args fuel n (acc ++ [b]) r h

/-! ## Tables -/

/-- The entry behind a key; the start of the table is behind `nil`. -/
def nextEntry (t : Table) (key : Value) : Option (List Value) :=
  let ps := t.pairs
  let behind := match key with
    | .nil => some ps
    | key =>
      match ps.findIdx? fun (p : Value × Value) => p.1.equal key with
      | some i => some (ps.drop (i + 1))
      | none => none
  behind.map fun
    | (k, v) :: _ => [k, v]
    | [] => [.nil]

def shiftUp : Nat → Int → Int → Table → Table
  | 0, _, _, t => t
  | fuel + 1, last, i, t =>
    if last < i then t
    else shiftUp fuel (last - 1) i (t.set (.int (last + 1)) (t.get (.int last)))

def shiftDown : Nat → Int → Int → Table → Table
  | 0, _, _, t => t
  | fuel + 1, i, last, t =>
    if last ≤ i then t.set (.int last) .nil
    else shiftDown fuel (i + 1) last (t.set (.int i) (t.get (.int (i + 1))))

def insertInto (args : List Value) (h : Heap) : Reply :=
  withTable args 1 fun id =>
    let t := h.table id
    let n : Int := t.length
    match args.length with
    | 2 => .values [] (h.setTable id (t.set (.int (n + 1)) (arg args 2)))
    | 3 => withInt args 2 fun i =>
      if i < 1 || n + 1 < i then .badArgument 2 "position out of bounds"
      else .values [] (h.setTable id ((shiftUp (t.length + 1) n i t).set (.int i) (arg args 3)))
    | _ => .failed (bytes "wrong number of arguments to 'insert'") 1

def removeFrom (args : List Value) (h : Heap) : Reply :=
  withTable args 1 fun id =>
    let t := h.table id
    let n : Int := t.length
    withIntOr args 2 n fun i =>
      if 2 ≤ args.length && n + 1 ≠ i && (i < 1 || n + 1 < i) && !(n = 0 && i = 0) then
        .badArgument 2 "position out of bounds"
      else .values [t.get (.int i)] (h.setTable id (shiftDown (t.length + 1) i n t))

def joinItems (t : Table) (sep : Bytes) : Nat → Int → Int → Bytes → Except Int Bytes
  | 0, _, _, acc => .ok acc
  | fuel + 1, i, last, acc =>
    if last < i then .ok acc
    else match (t.get (.int i)).joinable? with
      | some s => joinItems t sep fuel (i + 1) last (acc ++ s ++ (if i < last then sep else []))
      | none => .error i

def concatItems (args : List Value) (h : Heap) : Reply :=
  withTable args 1 fun id =>
    let t := h.table id
    let sep := ((arg args 2).joinable?).getD []
    withIntOr args 3 1 fun i =>
    withIntOr args 4 t.length fun j =>
      match joinItems t sep (j - i + 1).toNat i j [] with
      | .ok s => .values [.str s] h
      | .error k => .failed (bytes ("invalid value (at index " ++ toString k
          ++ ") in table for 'concat'")) 1

def unpackItems (args : List Value) (h : Heap) : Reply :=
  withTable args 1 fun id =>
    let t := h.table id
    withIntOr args 2 1 fun i =>
    withIntOr args 3 t.length fun j =>
      if 1000000 ≤ j - i then .failed (bytes "too many results to unpack") 1
      else .values ((List.range (j - i + 1).toNat).map fun (k : Nat) => t.get (.int (i + k))) h

/-! ## Numbers -/

def floatToInt (x : Float) : Value :=
  match (Decimal.integer? x).filter fitsInt with
  | some i => .int i
  | none => .float x

def choose (better : Number → Number → Bool) (args : List Value) (h : Heap) : Reply :=
  withNumber args 1 fun first =>
    match args.zipIdx.find? fun (v, _) => v.number?.isNone with
    | some (_, i) => expected args (i + 1) "number"
    | none =>
      let best := (args.filterMap Value.number?).foldl (fun m n => if better n m then n else m) first
      .values [.number best] h

def inBase (base : Nat) (s : Bytes) : Value :=
  let s := ((s.dropWhile isSpace).reverse.dropWhile isSpace).reverse
  let (negative, ds) := match s with
    | 0x2D :: r => (true, r)
    | s => (false, s)
  let digit (b : UInt8) : Option Nat :=
    if isDigit b then some (b.toNat - 0x30)
    else if 0x61 ≤ b && b ≤ 0x7A then some (b.toNat - 0x57)
    else if 0x41 ≤ b && b ≤ 0x5A then some (b.toNat - 0x37)
    else none
  match ds.mapM digit with
  | some (d :: ds) =>
    if (d :: ds).all (· < base) then
      let n : Int := (d :: ds).foldl (fun (n : Int) (d : Nat) => n * base + d) 0
      .int (wrap (if negative then -n else n))
    else .nil
  | _ => .nil

def selectArgs (args : List Value) (h : Heap) : Reply :=
  match arg args 1 with
  | .str [0x23] => .values [.int (args.length - 1 : Nat)] h
  | _ => withInt args 1 fun i =>
    let rest := args.drop 1
    if 0 < i then .values (rest.drop (i - 1).toNat) h
    else if i = 0 || (rest.length : Int) < -i then .badArgument 1 "index out of range"
    else .values (rest.drop (rest.length - i.natAbs)) h

def repeated (args : List Value) (h : Heap) : Reply :=
  withText args 1 fun s =>
  withInt args 2 fun n =>
    let sep := ((arg args 3).joinable?).getD []
    if (textLimit : Int) < (s.length + sep.length) * n then
      .failed (bytes "resulting string too large") 1
    else .values [.str (((List.replicate n.toNat s).intersperse sep).flatten)] h

def call (b : Builtin) (args : List Value) (h : Heap) : Reply :=
  let one (v : Value) : Reply := .values [v] h
  match b with
  | .log => .log (String.intercalate "\t" (args.map logText))
  | .error =>
    withIntOr args 2 1 fun level =>
      match arg args 1 with
      | .str s => .failed s level.toNat
      | v => .thrown v
  | .assert =>
    withAny args 1 fun v =>
      if v.truthy then .values args h
      else match args with
        | [_] => .failed (bytes "assertion failed!") 1
        | _ =>
          match arg args 2 with
          | .str s => .failed s 1
          | v => .thrown v
  | .pcall =>
    match args with
    | f :: args => .protect f args
    | [] => .thrown (.text "not enough arguments to pcall")
  | .tostring => withAny args 1 fun v => one (.str (display v))
  | .tonumber =>
    if (arg args 2).isNil then
      withAny args 1 fun v => one ((v.number?.map Value.number).getD .nil)
    else withInt args 2 fun base =>
      match arg args 1 with
      | .str s =>
        if 2 ≤ base && base ≤ 36 then one (inBase base.toNat s)
        else .badArgument 2 "base out of range"
      | _ => expected args 1 "string"
  | .type => withAny args 1 fun v => one (.text v.typeName)
  | .ipairs => withAny args 1 fun v => .values [.builtin .ipairsNext, v, .int 0] h
  | .ipairsNext =>
    withInt args 2 fun i =>
      match arg args 1 with
      | .table id =>
        let v := (h.table id).get (.int (i + 1))
        if v.isNil then one .nil else .values [.int (i + 1), v] h
      | v => .failed (bytes ("attempt to index a " ++ v.typeName ++ " value")) 0
  | .pairs => withAny args 1 fun v => .values [.builtin .next, v, .nil] h
  | .next =>
    withTable args 1 fun id =>
      match nextEntry (h.table id) (arg args 2) with
      | some vs => .values vs h
      | none => .failed (bytes "invalid key to 'next'") 1
  | .select => selectArgs args h
  | .rawEqual => one (.bool ((arg args 1).equal (arg args 2)))
  | .rawLen =>
    match arg args 1 with
    | .table id => one (.int (h.table id).length)
    | .str s => one (.int s.length)
    | _ => .badArgument 1 "table or string expected"
  | .rawGet => withTable args 1 fun id => one ((h.table id).get (arg args 2))
  | .rawSet => withTable args 1 fun id =>
    .values [.table id] (h.setTable id ((h.table id).set (arg args 2) (arg args 3)))
  | .format => withText args 1 fun s => formatFrom args (s.length + 1) 2 [] s h
  | .len => withText args 1 fun s => one (.int s.length)
  | .sub => withText args 1 fun s =>
    withInt args 2 fun i => withIntOr args 3 (-1) fun j => one (.str (slice s i j))
  | .upper => withText args 1 fun s => one (mapBytes upperByte s)
  | .lower => withText args 1 fun s => one (mapBytes lowerByte s)
  | .rep => repeated args h
  | .reverse => withText args 1 fun s => one (.str s.reverse)
  | .byte => withText args 1 fun s =>
    withIntOr args 2 1 fun i => withIntOr args 3 i fun j =>
      .values ((slice s i j).map fun b => .int b.toNat) h
  | .char =>
    match args.zipIdx.find? fun (v, _) =>
        ((v.number?.bind Number.int?).filter fun i => 0 ≤ i && i ≤ 255).isNone with
    | some (v, i) =>
      if v.number?.isNone then expected args (i + 1) "number"
      else .badArgument (i + 1) "value out of range"
    | none =>
      one (.str (args.filterMap fun v => (v.number?.bind Number.int?).map fun i =>
        UInt8.ofNat i.toNat))
  | .insert => insertInto args h
  | .remove => removeFrom args h
  | .concat => concatItems args h
  | .unpack => unpackItems args h
  | .floor => withNumber args 1 fun
    | .int n => one (.int n)
    | .float x => one (floatToInt x.floor)
  | .ceil => withNumber args 1 fun
    | .int n => one (.int n)
    | .float x => one (floatToInt x.ceil)
  | .abs => withNumber args 1 fun
    | .int n => one (.int (wrap n.natAbs))
    | .float x => one (.float x.abs)
  | .max => choose (fun n m => m.less n) args h
  | .min => choose (fun n m => n.less m) args h
  | .mathType =>
    withAny args 1 fun
      | .number (.int _) => one (.text "integer")
      | .number (.float _) => one (.text "float")
      | _ => one .nil
  | .toInteger =>
    withAny args 1 fun v =>
      one (((v.number?.bind Number.int?).map Value.int).getD .nil)
  | .sqrt => withNumber args 1 fun n => one (.float n.asFloat.sqrt)

def basic : List (String × Builtin) :=
  [("print", .log), ("log", .log), ("error", .error), ("assert", .assert), ("pcall", .pcall),
    ("tostring", .tostring), ("tonumber", .tonumber), ("type", .type), ("ipairs", .ipairs),
    ("pairs", .pairs), ("next", .next), ("select", .select), ("rawequal", .rawEqual),
    ("rawlen", .rawLen), ("rawget", .rawGet), ("rawset", .rawSet)]

def onStrings : List (String × Builtin) :=
  [("format", .format), ("len", .len), ("sub", .sub), ("upper", .upper), ("lower", .lower),
    ("rep", .rep), ("reverse", .reverse), ("byte", .byte), ("char", .char)]

def onTables : List (String × Builtin) :=
  [("insert", .insert), ("remove", .remove), ("concat", .concat), ("unpack", .unpack)]

def onNumbers : List (String × Builtin) :=
  [("floor", .floor), ("ceil", .ceil), ("abs", .abs), ("max", .max), ("min", .min),
    ("type", .mathType), ("tointeger", .toInteger), ("sqrt", .sqrt)]

def constants : List (String × Value) :=
  [("maxinteger", .int greatestInt), ("mininteger", .int leastInt), ("huge", .float (1.0 / 0.0)),
    ("pi", .float 3.141592653589793)]

def fullName (b : Builtin) : String :=
  let named (front : String) (l : List (String × Builtin)) : List (Builtin × String) :=
    l.map fun (n, b) => (b, front ++ n)
  let all := named "" basic ++ named "string." onStrings ++ named "table." onTables
    ++ named "math." onNumbers
  ((all.find? fun (c, _) => c = b).map (·.2)).getD "?"

def tableOf (entries : List (String × Value)) : Table :=
  entries.foldl (fun t (n, v) => t.set (.text n) v) {}

def start : Heap :=
  let functions (l : List (String × Builtin)) : List (String × Value) :=
    l.map fun (n, b) => (n, .builtin b)
  let globals := tableOf (functions basic ++ [("string", .table 1), ("table", .table 2),
    ("math", .table 3), ("_G", .table 0)])
  ⟨#[], #[globals, tableOf (functions onStrings), tableOf (functions onTables),
    tableOf (functions onNumbers ++ constants)], #[]⟩

end Library

end ScriptHost.Chunk
