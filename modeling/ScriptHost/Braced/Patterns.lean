import ScriptHost.Braced.JsonText
import ScriptHost.Snippet.Regex

/-!
Searching texts for patterns. Places in a text are counted in units; a pattern sees characters.
-/
namespace ScriptHost.Braced

open Snippet

def optionsOf (flags : String) : Regex.Options :=
  let has (c : Char) := flags.toList.contains c
  { ignoreCase := has 'i', multiline := has 'm', dotAll := has 's', strict := has 'u' || has 'v' }

def compiledOf (source flags : String) : Work Regex.Compiled := do
  match Regex.compile source (optionsOf flags) with
  | .ok c => return c
  | .error e =>
    raise "SyntaxError" ("Invalid regular expression: /" ++ source ++ "/" ++ flags ++ ": " ++ e)

def newPattern (source flags : String) : Work Value := do
  let cs := flags.toList
  if cs.any (fun c => !"dgimsuvy".toList.contains c) || cs.length ≠ cs.eraseDups.length then
    raise "SyntaxError" ("Invalid flags supplied to RegExp constructor '" ++ flags ++ "'")
  let _ ← compiledOf source flags
  Work.new
    { shape := .pattern, name := if source.isEmpty then "(?:)" else source, items := #[.str flags]
      members := #[⟨"lastIndex", .str "lastIndex", .float 0⟩] }

structure Searching where
  id : Nat
  pattern : Regex.Compiled
  flags : String

def Searching.has (s : Searching) (c : Char) : Bool := s.flags.toList.contains c

def searching? (v : Value) : Work (Option Searching) := do
  match v with
  | .ref id =>
    let t ← Work.thing id
    if t.shape != .pattern then return none
    return some ⟨id, ← compiledOf t.name (flagsOf t), flagsOf t⟩
  | _ => return none

def unitPlace (text : Array Char) (i : Nat) : Nat :=
  (text.extract 0 i).foldl (fun n c => if c.toNat < 0x10000 then n + 1 else n + 2) 0

def charPlace (text : Array Char) (u : Nat) : Nat :=
  let rec go : List Char → Nat → Nat → Nat
    | [], _, i => i
    | c :: cs, left, i =>
      if left = 0 then i else go cs (left - if c.toNat < 0x10000 then 1 else min 2 left) (i + 1)
  go text.toList u 0

def spanText (text : Array Char) (span : Option (Nat × Nat)) : Value :=
  match span with
  | some (i, j) => .str (String.ofList (text.extract i j).toList)
  | none => .undefined

def groupNames (c : Regex.Compiled) (text : Array Char) (caps : Regex.Captures) : List (String × Value) :=
  c.names.map fun (n, i) => (n, spanText text (caps.getD i none))

def newGroups (c : Regex.Compiled) (text : Array Char) (caps : Regex.Captures) : Work Value := do
  if c.names.isEmpty then return .undefined
  match ← JsonText.newObject (groupNames c text caps) with
  | .ref id =>
    Work.modifyThing id fun t => { t with parent := .nothing }
    return .ref id
  | v => return v

def newMatch (c : Regex.Compiled) (text : Array Char) (caps : Regex.Captures) : Work Value := do
  let start := match caps.getD 0 none with
    | some (i, _) => i
    | none => 0
  let members := [("index", numberOf (unitPlace text start)), ("input", Value.str (String.ofList text.toList)),
    ("groups", ← newGroups c text caps)]
  Work.new
    { shape := .list, items := (caps.toList.map (spanText text)).toArray
      members := (members.map fun (n, v) => (⟨n, .str n, v⟩ : Entry)).toArray }

def matchesFrom (c : Regex.Compiled) (text : Array Char) : Nat → Nat → List Regex.Captures
  | 0, _ => []
  | fuel + 1, i =>
    match Regex.search c text i with
    | some caps =>
      match caps.getD 0 none with
      | some (a, b) => caps :: matchesFrom c text fuel (if b = a then b + 1 else b)
      | none => []
    | none => []

def allMatches (c : Regex.Compiled) (text : Array Char) : List Regex.Captures :=
  matchesFrom c text (text.size + 2) 0

def setLastIndex (id n : Nat) : Work Unit :=
  Work.modifyThing id fun t => t.putMember "lastIndex" (numberOf n)

/-- One match, from where the last one ended when the pattern goes on from there. -/
def nextMatch (s : Searching) (text : Array Char) : Work (Option Regex.Captures) := do
  let goesOn := s.has 'g' || s.has 'y'
  let last := match (← Work.thing s.id).member? "lastIndex" with
    | some (.float x) => (intOfFloat x).toNat
    | _ => 0
  let start := if goesOn then charPlace text last else 0
  let found := if goesOn && unitPlace text text.size < last then none
    else if s.has 'y' then Regex.matchAt s.pattern text start
    else Regex.search s.pattern text start
  match found with
  | some caps =>
    if goesOn then
      match caps.getD 0 none with
      | some (_, j) => setLastIndex s.id (unitPlace text j)
      | none => pure ()
    return some caps
  | none =>
    if goesOn then setLastIndex s.id 0
    return none

def spanOf (caps : Regex.Captures) : Nat × Nat := (caps.getD 0 none).getD (0, 0)

def replaceMatches (s : Searching) (text : Array Char) (found : List Regex.Captures) (put : String) : String :=
  let piece (i j : Nat) : String := String.ofList (text.extract i j).toList
  let (out, last) := found.foldl (fun (acc : String × Nat) caps =>
    let (i, j) := spanOf caps
    let names := if s.pattern.names.isEmpty then none else some (groupNames s.pattern text caps)
    let groups := (caps.toList.drop 1).map (spanText text)
    (acc.1 ++ piece acc.2 i
      ++ expandText (piece 0 i) (piece i j) (piece j text.size) groups names (put.length + 1) put.toList, j))
    ("", 0)
  out ++ piece last text.size

def replacements (s : Searching) (text : Array Char) (found : List Regex.Captures) : Work Value := do
  let rows ← found.mapM fun caps => do
    let (i, j) := spanOf caps
    let start := numberOf (unitPlace text i)
    let whole := Value.str (String.ofList text.toList)
    let names ← newGroups s.pattern text caps
    let args := caps.toList.map (spanText text) ++ [start, whole] ++ (if isGiven names then [names] else [])
    Work.newList [start, numberOf (unitPlace text j), ← Work.newList args]
  Work.newList rows

def splitByPattern (s : Searching) (text : Array Char) : List Value :=
  if text.isEmpty then
    match Regex.matchAt s.pattern text 0 with
    | some _ => []
    | none => [.str ""]
  else
    let rec go : List Regex.Captures → Nat → List Value
      | [], last => [spanText text (some (last, text.size))]
      | caps :: rest, last =>
        let (i, j) := spanOf caps
        if text.size ≤ i || j = last && i = j then go rest last
        else spanText text (some (last, i)) :: (caps.toList.drop 1).map (spanText text) ++ go rest j
    go (allMatches s.pattern text) 0

def callWithPattern (name : String) (s : Searching) (subject : String) (args : List Value) : Work Value := do
  let text := subject.toList.toArray
  let put := arg args 1
  match name with
  | "match" =>
    if s.has 'g' then
      setLastIndex s.id 0
      match allMatches s.pattern text with
      | [] => return .nothing
      | found => Work.newList (found.map fun caps => spanText text (caps.getD 0 none))
    else
      match ← nextMatch s text with
      | some caps => newMatch s.pattern text caps
      | none => return .nothing
  | "matchAll" =>
    if !s.has 'g' then typeError "String.prototype.matchAll called with a non-global RegExp argument"
    newIterator "RegExp String Iterator" (← (allMatches s.pattern text).mapM (newMatch s.pattern text))
  | "search" =>
    match Regex.search s.pattern text 0 with
    | some caps => return numberOf (unitPlace text (spanOf caps).1)
    | none => return .float (-1)
  | "split" =>
    let most ← countOf put 4294967295
    Work.newList ((splitByPattern s text).take most)
  | _ =>
    if name = "replaceAll" && !s.has 'g' then
      typeError "replaceAll must be called with a global RegExp"
    let found ← if s.has 'g' then do
        setLastIndex s.id 0
        pure (allMatches s.pattern text)
      else do pure (← nextMatch s text).toList
    if ← isFunction put then
      throw (.call ((Prelude.function? "replaced").getD .undefined) .undefined
        [.str subject, ← replacements s text found, put] [])
    return .str (replaceMatches s text found (← textOf put))

def textReplacements (subject needle : String) (all : Bool) : Work Value := do
  let us := (unitsOf subject).toList
  let n := (unitsOf needle).toList
  let rec places : Nat → List Nat → Nat → List Nat
    | 0, _, _ => []
    | fuel + 1, us, i =>
      match findUnits n us i with
      | some k => k :: (if all then places fuel (us.drop (k - i + max 1 n.length)) (k + max 1 n.length) else [])
      | none => []
  let rows ← (places (us.length + 1) us 0).mapM fun k => do
    Work.newList [numberOf k, numberOf (k + n.length),
      ← Work.newList [.str needle, numberOf k, .str subject]]
  Work.newList rows

def callTextWith (name : String) (subject : String) (args : List Value) : Work Value := do
  let a := arg args 0
  match ← searching? a with
  | some s =>
    if ["match", "matchAll", "search", "split", "replace", "replaceAll"].contains name then
      callWithPattern name s subject args
    else callText name subject args
  | none =>
    match name with
    | "match" | "matchAll" | "search" =>
      let source ← if isGiven a then textOf a else pure "(?:)"
      match ← searching? (← newPattern source (if name = "matchAll" then "g" else "")) with
      | some s => callWithPattern name s subject args
      | none => return .nothing
    | "replace" | "replaceAll" =>
      if ← isFunction (arg args 1) then
        throw (.call ((Prelude.function? "replaced").getD .undefined) .undefined
          [.str subject, ← textReplacements subject (← textOf a) (name = "replaceAll"), arg args 1] [])
      callText name subject args
    | _ => callText name subject args

def callPattern (name : String) (this : Value) (args : List Value) : Work Value := do
  match ← searching? this with
  | some s =>
    if name = "toString" then return .str (← textOf this)
    let text := (← textOf (arg args 0)).toList.toArray
    match name, ← nextMatch s text with
    | "test", found => return .truth found.isSome
    | _, some caps => newMatch s.pattern text caps
    | _, none => return .nothing
  | none => typeError "Receiver is not a RegExp"

end ScriptHost.Braced
