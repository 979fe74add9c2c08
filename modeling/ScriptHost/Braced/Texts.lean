import ScriptHost.Braced.Operators
import ScriptHost.Text.Case

/-!
What is asked of a text: positions in it are counted in units of 16 bits.
-/
namespace ScriptHost.Braced

open Snippet

def arg (vs : List Value) (i : Nat) : Value := vs.getD i .undefined

/-- Functions of the script come as things, and so do patterns; all else is plain. -/
def isGiven (v : Value) : Bool :=
  match v with
  | .absent | .undefined => false
  | _ => true

/-- A position out of an argument, counted from the end when it is negative. -/
def relative (v : Value) (size default : Nat) : Work Nat := do
  if !isGiven v then return default
  let n := intOfFloat (← toNumber v)
  return if n < 0 then ((size : Int) + n).toNat else min n.toNat size

def clamped (v : Value) (size default : Nat) : Work Nat := do
  if !isGiven v then return default
  return min (intOfFloat (← toNumber v)).toNat size

def textOr (default : String) (v : Value) : Work String := do
  if isGiven v then textOf v else return default

def countOf (v : Value) (default : Nat) : Work Nat := do
  if !isGiven v then return default
  return (intOfFloat (← toNumber v)).toNat

def unitText (us : Array Nat) (i j : Nat) : Value := .str (textOfUnits (us.extract i j).toList)

def findUnits (needle us : List Nat) (i : Nat) : Option Nat :=
  if needle.isPrefixOf us then some i
  else match us with
    | [] => none
    | _ :: r => findUnits needle r (i + 1)

def findLastUnits (needle us : List Nat) (i : Nat) (found : Option Nat) : Option Nat :=
  let found := if needle.isPrefixOf us then some i else found
  match us with
  | [] => found
  | _ :: r => findLastUnits needle r (i + 1) found

def placeValue : Option Nat → Value
  | some i => numberOf i
  | none => .float (-1)

def filling (size : Nat) (own fill : List Nat) : List Nat :=
  let missing := size - own.length
  if fill.isEmpty then []
  else ((List.replicate (missing / fill.length + 1) fill).flatten).take missing

def longestText : Nat := 536870888

def piecesOf (s separator : String) : List String :=
  if separator.isEmpty then (unitsOf s).toList.map fun u => textOfUnits [u]
  else s.splitOn separator

def newTexts (ss : List String) : Work Value := Work.newList (ss.map .str)

def isPattern (v : Value) : Work Bool := do return (← Work.shape? v) == some .pattern

def plainNeedle (name : String) (v : Value) : Work String := do
  if ← isPattern v then
    typeError ("First argument to String.prototype." ++ name ++ " must not be a regular expression")
  textOf v

def expandText (before found after : String) (groups : List Value) (named : Option (List (String × Value))) :
    Nat → List Char → String
  | 0, _ => ""
  | fuel + 1, cs =>
    let go := expandText before found after groups named fuel
    let group (n : Nat) : String := match groups.getD (n - 1) .undefined with
      | .str s => s
      | _ => ""
    match cs with
    | [] => ""
    | '$' :: '$' :: r => "$" ++ go r
    | '$' :: '&' :: r => found ++ go r
    | '$' :: '\x60' :: r => before ++ go r
    | '$' :: '\x27' :: r => after ++ go r
    | '$' :: '<' :: r =>
      match named with
      | some names =>
        let name := r.takeWhile (· ≠ '>')
        if name.length = r.length then "$<" ++ go r
        else
          let v := ((names.find? (·.1 == String.ofList name)).map (·.2)).getD .undefined
          (match v with
            | .str s => s
            | _ => "") ++ go (r.drop (name.length + 1))
      | none => "$<" ++ go r
    | '$' :: d :: r =>
      if !isDigit d then "$" ++ go (d :: r)
      else
        let one := d.toNat - 48
        let two := match r with
          | e :: _ => if isDigit e then one * 10 + (e.toNat - 48) else 0
          | [] => 0
        if 0 < two && two ≤ groups.length then group two ++ go (r.drop 1)
        else if 0 < one && one ≤ groups.length then group one ++ go r
        else "$" ++ go (d :: r)
    | c :: r => c.toString ++ go r

def replaceText (s needle put : String) (all : Bool) : String :=
  match s.splitOn needle with
  | [] | [_] => if needle.isEmpty then expandText "" "" s [] none (put.length + 1) put.toList ++ s else s
  | first :: rest =>
    let fill (before after : String) := expandText before needle after [] none (put.length + 1) put.toList
    if !all then
      let after := needle.intercalate rest
      first ++ fill first after ++ after
    else
      let rec go (before : String) : List String → String
        | [] => ""
        | p :: ps =>
          fill before (needle.intercalate (p :: ps)) ++ p ++ go (before ++ needle ++ p) ps
      first ++ go first rest

def normalizedOrder (s : String) : List (Nat × Nat) :=
  s.toList.map fun c => ((Text.smallOf c).toNat, if Text.isCapital c then 1 else 0)

/-- The order of words: small and capital letters stand together, a small one first. -/
def wordOrder (a b : String) : Float :=
  let keys (s : String) (i : Nat) : List Nat := (normalizedOrder s).map fun p => if i = 0 then p.1 else p.2
  if unitsLess (keys a 0) (keys b 0) then -1
  else if unitsLess (keys b 0) (keys a 0) then 1
  else if unitsLess (keys a 1) (keys b 1) then -1
  else if unitsLess (keys b 1) (keys a 1) then 1
  else 0

def callText (name : String) (s : String) (args : List Value) : Work Value := do
  let us := unitsOf s
  let a := arg args 0
  match name with
  | "toString" | "valueOf" | "normalize" => return .str s
  | "charAt" =>
    let n := intOfFloat (← toNumber a)
    return if n < 0 then .str "" else unitText us n.toNat (n.toNat + 1)
  | "charCodeAt" =>
    let n := intOfFloat (← toNumber a)
    if n < 0 then return .float nan
    return match us[n.toNat]? with
      | some u => numberOf u
      | none => .float nan
  | "codePointAt" =>
    let n := intOfFloat (← toNumber a)
    if n < 0 || us.size ≤ n.toNat then return .undefined
    match charsOfUnits (us.extract n.toNat (n.toNat + 2)).toList with
    | c :: _ => return numberOf c.toNat
    | [] => return .undefined
  | "at" =>
    let n := intOfFloat (← toNumber a)
    let i := if n < 0 then (us.size : Int) + n else n
    if i < 0 || (us.size : Int) ≤ i then return .undefined
    return unitText us i.toNat (i.toNat + 1)
  | "indexOf" =>
    let from' ← clamped (arg args 1) us.size 0
    return placeValue (findUnits (unitsOf (← textOf a)).toList (us.toList.drop from') from')
  | "lastIndexOf" =>
    let most ← clamped (arg args 1) us.size us.size
    let needle := (unitsOf (← textOf a)).toList
    return placeValue (findLastUnits needle (us.toList.take (most + needle.length)) 0 none)
  | "includes" =>
    let from' ← clamped (arg args 1) us.size 0
    return .truth (findUnits (unitsOf (← plainNeedle name a)).toList (us.toList.drop from') 0).isSome
  | "startsWith" =>
    let from' ← clamped (arg args 1) us.size 0
    return .truth ((unitsOf (← plainNeedle name a)).toList.isPrefixOf (us.toList.drop from'))
  | "endsWith" =>
    let last ← clamped (arg args 1) us.size us.size
    return .truth ((unitsOf (← plainNeedle name a)).toList.isSuffixOf (us.toList.take last))
  | "slice" =>
    return unitText us (← relative a us.size 0) (← relative (arg args 1) us.size us.size)
  | "substring" =>
    let i ← clamped a us.size 0
    let j ← clamped (arg args 1) us.size us.size
    return unitText us (min i j) (max i j)
  | "substr" =>
    let i ← relative a us.size 0
    return unitText us i (i + (← countOf (arg args 1) us.size))
  | "toUpperCase" | "toLocaleUpperCase" => return .str (Text.inCapitals s)
  | "toLowerCase" | "toLocaleLowerCase" => return .str (Text.inSmall s)
  | "trim" => return .str (String.ofList (trimSpaces s.toList))
  | "trimStart" => return .str (String.ofList (s.toList.dropWhile isSpaceChar))
  | "trimEnd" => return .str (String.ofList (s.toList.reverse.dropWhile isSpaceChar).reverse)
  | "padStart" | "padEnd" =>
    let size ← countOf a 0
    if longestText < size then rangeError "Invalid string length"
    let fill := (unitsOf (← textOr " " (arg args 1))).toList
    let extra := textOfUnits (filling size us.toList fill)
    return .str (if name = "padStart" then extra ++ s else s ++ extra)
  | "repeat" =>
    let n := intOfFloat (← toNumber a)
    if n < 0 || tenTo 15 ≤ n then rangeError ("Invalid count value: " ++ (← textOf a))
    if longestText < us.size * n.toNat then rangeError "Invalid string length"
    return .str (String.join (List.replicate n.toNat s))
  | "split" =>
    if !isGiven a then return ← newTexts [s]
    let most ← countOf (arg args 1) 4294967295
    newTexts ((piecesOf s (← textOf a)).take most)
  | "concat" => return .str (s ++ String.join (← args.mapM textOf))
  | "replace" | "replaceAll" =>
    return .str (replaceText s (← textOf a) (← textOf (arg args 1)) (name = "replaceAll"))
  | "localeCompare" => return .float (wordOrder s (← textOf a))
  | "@@iterator" => Work.new { shape := .iterator, name := "String Iterator", items := (s.toList.map fun c => .str c.toString).toArray }
  | _ => typeError ("text." ++ name ++ " is not a function")

def callTexts (name : String) (args : List Value) : Work Value := do
  match name with
  | "fromCharCode" =>
    let us ← args.mapM fun v => do return (wrapped 32 (← toNumber v) % 65536).toNat
    return .str (textOfUnits us)
  | "fromCodePoint" =>
    let cs ← args.mapM fun v => do
      let x ← toNumber v
      match Decimal.integer? x with
      | some n =>
        if 0 ≤ n && n ≤ 0x10FFFF then return charOf n.toNat
        rangeError ("Invalid code point " ++ numberText x)
      | none => rangeError ("Invalid code point " ++ numberText x)
    return .str (String.ofList cs)
  | _ => typeError ("String." ++ name ++ " is not a function")

end ScriptHost.Braced
