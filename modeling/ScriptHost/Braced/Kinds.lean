import ScriptHost.Snippet.State
import ScriptHost.Snippet.Numeral
import ScriptHost.Text.Blank
import ScriptHost.Text.Field

/-!
The kinds of values in a script whose blocks stand in braces: numbers, texts and keys, how one becomes
the other, and how failures are raised. Every number is a floating-point one; an integer value is a
whole number without a bound.
-/
namespace ScriptHost.Braced

open Snippet

def undefined : Value := .undefined

def numberOf (n : Nat) : Value := .float (Float.ofNat n)

def numberOfInt (n : Int) : Value := .float (Float.ofInt n)

/-! ## Numbers as texts -/

/-- Numbers up to 21 digits are written without an exponent. -/
def numberLayout : Decimal.Layout := ⟨-5, 21, false, "e", true, 1⟩

def numberText (x : Float) : String :=
  match Decimal.kind x with
  | .nan => "NaN"
  | .infinite negative => if negative then "-Infinity" else "Infinity"
  | .finite negative v => if x == 0 then "0" else (Decimal.shortest negative v).render numberLayout

/-! ## Texts as units -/

/-- The units of a text: a character beyond 16 bits makes two of them. -/
def unitsOf (s : String) : Array Nat :=
  (s.toList.flatMap fun c =>
    let n := c.toNat
    if n < 0x10000 then [n] else [0xD800 + (n - 0x10000) / 0x400, 0xDC00 + (n - 0x10000) % 0x400]).toArray

/-- A text out of units; half of a pair stands for no character. -/
def charsOfUnits : List Nat → List Char
  | [] => []
  | [n] => [charOf n]
  | a :: b :: r =>
    if 0xD800 ≤ a && a ≤ 0xDBFF && 0xDC00 ≤ b && b ≤ 0xDFFF then
      charOf (0x10000 + (a - 0xD800) * 0x400 + (b - 0xDC00)) :: charsOfUnits r
    else charOf a :: charsOfUnits (b :: r)

def textOfUnits (us : List Nat) : String := String.ofList (charsOfUnits us)

def unitCount (s : String) : Nat :=
  s.foldl (fun n c => if c.toNat < 0x10000 then n + 1 else n + 2) 0

/-! ## Symbols and keys -/

def symbolNames : List String :=
  ["iterator", "asyncIterator", "toPrimitive", "toStringTag", "hasInstance"]

def isSymbol : Value → Bool
  | .native n => n.startsWith "Symbol." && symbolNames.contains (n.drop 7).toString
  | .bound "symbol" _ => true
  | _ => false

def symbolText : Value → String
  | .native n => n
  | .bound _ (.str t) => ((t.splitOn ":").drop 1 |> ":".intercalate)
  | _ => ""

/-- Keys that are symbols begin with two signs that set them apart. -/
def symbolKey : Value → String
  | .native n => "@@" ++ (n.drop 7).toString
  | .bound _ (.str t) => "@@" ++ t
  | _ => ""

def isSymbolKey (k : String) : Bool := k.startsWith "@@"

/-- Members that are not told of: those of symbols, and private ones. -/
def isHiddenKey (k : String) : Bool := isSymbolKey k || k.startsWith "#"

def indexOf? (k : String) : Option Nat :=
  match k.toList with
  | ['0'] => some 0
  | c :: r =>
    if '1' ≤ c && c ≤ '9' && r.all isDigit && r.length < 10 then valueIn? 10 (c :: r) else none
  | [] => none

/-- The keys of an object: positions in their order first. -/
def orderedKeys (keys : List String) : List String :=
  let positions := keys.filter fun k => (indexOf? k).isSome
  let others := keys.filter fun k => (indexOf? k).isNone
  positions.mergeSort (fun a b => (indexOf? a).getD 0 ≤ (indexOf? b).getD 0) ++ others

/-! ## Failures -/

def errorKinds : List String :=
  ["Error", "TypeError", "RangeError", "ReferenceError", "SyntaxError", "EvalError", "URIError",
    "AggregateError"]

def newError (kind message : String) : Work Value :=
  let head := if message.isEmpty then kind else kind ++ ": " ++ message
  Work.new
    { shape := .error, parent := .native kind
      members := #[⟨"message", .str "message", .str message⟩,
        ⟨"stack", .str "stack", .str (head ++ "\n    at [eval]:1:1")⟩] }

def raise {α : Type} (kind message : String) : Work α := do throw (.raise (← newError kind message))

def typeError {α : Type} (message : String) : Work α := raise "TypeError" message

def rangeError {α : Type} (message : String) : Work α := raise "RangeError" message

/-! ## Kinds -/

def plainNatives : List String :=
  ["console", "process", "process.stdin", "process.stdout", "process.stderr", "JSON", "Math", "Reflect",
    "globalThis", "fs", "path", "os", "util", "vm", "crypto", "child_process", "url",
    "perf_hooks", "timers", "timers/promises", "readline", "readline.Interface", "performance", "Intl", "Atomics", "buffer"]

def isPlainNative (n : String) : Bool :=
  plainNatives.contains n || (n.endsWith ".prototype" && n != "Function.prototype")

def typeOf (v : Value) : Work String := do
  match v with
  | .absent | .undefined => return "undefined"
  | .nothing => return "object"
  | .truth _ => return "boolean"
  | .int _ => return "bigint"
  | .float _ => return "number"
  | .str _ => return "string"
  | .bytes _ => return "object"
  | .native n =>
    return if isSymbol v then "symbol" else if isPlainNative n then "object" else "function"
  | .bound "symbol" _ => return "symbol"
  | .bound .. => return "function"
  | .ref id =>
    return match (← Work.thing id).shape with
      | .func | .classOf => "function"
      | _ => "object"

def isFunction (v : Value) : Work Bool := do return (← typeOf v) == "function"

def isNullish : Value → Bool
  | .absent | .undefined | .nothing => true
  | _ => false

def truthy : Value → Bool
  | .absent | .undefined | .nothing => false
  | .truth b => b
  | .int n => n != 0
  | .float x => !(x == 0 || x.isNaN)
  | .str s => !s.isEmpty
  | _ => true

def shapeKind (t : Thing) : String :=
  match t.shape with
  | .list => "Array"
  | .func | .classOf => "Function"
  | .generator => "Generator"
  | .iterator => "Iterator"
  | .promise => "Promise"
  | .pattern => "RegExp"
  | .error => "Error"
  | .dict => if t.name.isEmpty then "Map" else t.name
  | .set => if t.name.isEmpty then "Set" else t.name
  | .object => if t.name.isEmpty then "Object" else t.name
  | _ => "Object"

def protoOf (t : Thing) : Value :=
  match t.parent with
  | .absent => .native (shapeKind t)
  | p => p

/-! ## Numbers out of values -/

def isSpaceChar (c : Char) : Bool :=
  let n := c.toNat
  (0x09 ≤ n && n ≤ 0x0D) || n == 0x20 || n == 0xA0 || n == 0xFEFF || n == 0x1680
    || (0x2000 ≤ n && n ≤ 0x200A) || n == 0x2028 || n == 0x2029 || n == 0x202F || n == 0x205F || n == 0x3000

def trimSpaces (s : List Char) : List Char :=
  ((s.dropWhile isSpaceChar).reverse.dropWhile isSpaceChar).reverse

def nan : Float := 0.0 / 0.0

def infinity : Float := 1.0 / 0.0

def textNumber (s : String) : Float :=
  let based (base : Nat) (ds : List Char) : Float :=
    match ds, valueIn? base ds with
    | _ :: _, some n => Float.ofNat n
    | _, _ => nan
  match trimSpaces s.toList with
  | [] => 0
  | '0' :: 'x' :: r | '0' :: 'X' :: r => based 16 r
  | '0' :: 'o' :: r | '0' :: 'O' :: r => based 8 r
  | '0' :: 'b' :: r | '0' :: 'B' :: r => based 2 r
  | cs =>
    let (negative, r) := match cs with
      | '-' :: r => (true, r)
      | '+' :: r => (false, r)
      | r => (false, r)
    let x := if String.ofList r == "Infinity" then infinity else (float? r).getD nan
    if negative then -x else x

def leadingNumber (s : String) : Float :=
  let cs := s.toList.dropWhile isSpaceChar
  let (negative, r) := match cs with
    | '-' :: r => (true, r)
    | '+' :: r => (false, r)
    | r => (false, r)
  let x := if "Infinity".toList.isPrefixOf r then infinity
    else match floatFront? r with
      | some (x, _) => x
      | none => nan
  if negative then -x else x

def digitIn? (c : Char) : Option Nat :=
  if isDigit c then some (c.toNat - 48)
  else
    let l := c.toLower
    if 'a' ≤ l && l ≤ 'z' then some (l.toNat - 87) else none

def leadingInteger (s : String) (radix : Nat) : Float :=
  let cs := s.toList.dropWhile isSpaceChar
  let (negative, r) := match cs with
    | '-' :: r => (true, r)
    | '+' :: r => (false, r)
    | r => (false, r)
  let (base, r) := match r with
    | '0' :: 'x' :: t | '0' :: 'X' :: t => if radix = 0 || radix = 16 then (16, t) else (radix, r)
    | r => (if radix = 0 then 10 else radix, r)
  let isOwn (c : Char) : Bool := match digitIn? c with
    | some d => d < base
    | none => false
  let ds := r.takeWhile isOwn
  if ds.isEmpty then nan
  else
    let n := ds.foldl (fun n c => n * base + (digitIn? c).getD 0) 0
    let x := Float.ofNat n
    if negative then -x else x

def wholePart? (x : Float) : Option Int := Decimal.integer? (if x < 0 then x.ceil else x.floor)

def wrapped (bits : Nat) (x : Float) : Int :=
  match wholePart? x with
  | some n => n.bmod (twoTo bits)
  | none => 0

def unsigned32 (x : Float) : Nat :=
  match wholePart? x with
  | some n => (n % (twoTo 32)).toNat
  | none => 0

def intOfFloat (x : Float) : Int :=
  match wholePart? x with
  | some n => n
  | none => if x.isNaN then 0 else if x < 0 then -(tenTo 15) else tenTo 15

end ScriptHost.Braced
