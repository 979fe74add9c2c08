import ScriptHost.Indented.Texts

/-!
Searching texts for patterns: matches as values, what is found everywhere in a text, and what is put
in place of it.
-/
namespace ScriptHost.Indented

open Snippet

def compilePattern (source : String) (flags : Int) : Work Regex.Compiled := do
  let has (bit : Nat) : Bool := flags.toNat / bit % 2 = 1
  let cs := source.toList
  let inline := match after? "(?i)".toList cs with
    | some r => (true, r)
    | none => (false, cs)
  let options : Regex.Options :=
    { lettered := true, ignoreCase := has 2 || inline.1, multiline := has 8, dotAll := has 16 }
  match Regex.compile (String.ofList inline.2) options with
  | .ok c => return c
  | .error e => raise "ValueError" e

def patternOf (v flags : Value) : Work Regex.Compiled := do
  match v with
  | .str s => compilePattern s (← intOr 0 flags)
  | v =>
    match ← Work.thing? v with
    | some t =>
      if t.shape == .pattern then compilePattern t.name (← intOr 0 (t.items.getD 0 .absent))
      else typeError "first argument must be string or compiled pattern"
    | none => typeError "first argument must be string or compiled pattern"

def pieceOf (text : Array Char) (span : Option (Nat × Nat)) : Value :=
  match span with
  | some (i, j) => textValue (text.extract i j).toList
  | none => .nothing

def newMatch (c : Regex.Compiled) (text : Array Char) (caps : Regex.Captures) : Work Value := do
  let groups := caps.toList.map (pieceOf text)
  let ends := caps.toList.zipIdx.flatMap fun (span, i) =>
    let (a, b) := match span with
      | some (a, b) => ((a : Int), (b : Int))
      | none => (-1, -1)
    [("start " ++ toString i, Value.int a), ("end " ++ toString i, Value.int b)]
  let names := c.names.map fun (n, i) => ("group " ++ n, groups.getD i .nothing)
  newObject "re.Match" (ends ++ names ++ [("string", textValue text.toList)]) groups

def allMatches (c : Regex.Compiled) (text : Array Char) : Nat → Nat → List Regex.Captures
  | 0, _ => []
  | fuel + 1, i =>
    match Regex.search c text i with
    | some caps =>
      match caps.getD 0 none with
      | some (a, b) => caps :: allMatches c text fuel (if b = a then b + 1 else b)
      | none => []
    | none => []

def matchesIn (c : Regex.Compiled) (text : Array Char) : List Regex.Captures :=
  allMatches c text (text.size + 2) 0

def foundValue (text : Array Char) (caps : Regex.Captures) : Work Value := do
  let shown (span : Option (Nat × Nat)) : Value := match pieceOf text span with
    | .nothing => .str ""
    | v => v
  match caps.toList with
  | [whole] => return shown whole
  | [_, g] => return shown g
  | _ :: gs => newTuple (gs.map shown)
  | [] => return .str ""

def expandTemplate (c : Regex.Compiled) (text : Array Char) (caps : Regex.Captures) :
    Nat → List Char → Work (List Char)
  | 0, _ => return []
  | fuel + 1, cs => do
    let group (i : Nat) : List Char := match pieceOf text (caps.getD i none) with
      | .str s => s.toList
      | _ => []
    match cs with
    | [] => return []
    | '\\' :: 'g' :: '<' :: r =>
      let name := r.takeWhile (· ≠ '>')
      let i ← match if name.all isDigit then valueIn? 10 name else none with
        | some i => pure i
        | none =>
          match c.names.find? (·.1 == String.ofList name) with
          | some (_, i) => pure i
          | none => raise "IndexError" ("unknown group name '" ++ String.ofList name ++ "'")
      return group i ++ (← expandTemplate c text caps fuel (r.drop (name.length + 1)))
    | '\\' :: d :: r =>
      if isDigit d then
        let n := d.toNat - 48
        if c.groups < n then valueError ("invalid group reference " ++ toString n)
        return group n ++ (← expandTemplate c text caps fuel r)
      let x := match d with
        | 'n' => ['\n']
        | 't' => ['\t']
        | 'r' => ['\r']
        | '\\' => ['\\']
        | d => ['\\', d]
      return x ++ (← expandTemplate c text caps fuel r)
    | d :: r => return d :: (← expandTemplate c text caps fuel r)

def replaceMatches (c : Regex.Compiled) (template : List Char) (text : Array Char) (most : Nat) :
    Work (List Char × Nat) := do
  let found := (matchesIn c text).take most
  let (out, last) ← found.foldlM (fun (acc : List Char × Nat) caps => do
    match caps.getD 0 none with
    | some (a, b) =>
      let piece ← expandTemplate c text caps (template.length + 1) template
      return (acc.1 ++ (text.extract acc.2 a).toList ++ piece, b)
    | none => return acc) ([], 0)
  return (out ++ (text.extract last text.size).toList, found.length)

def splitByPattern (c : Regex.Compiled) (text : Array Char) (most : Nat) : List Value :=
  let found := (matchesIn c text).take most
  let (out, last) := found.foldl (fun (acc : List Value × Nat) caps =>
    match caps.getD 0 none with
    | some (a, b) =>
      (acc.1 ++ textValue (text.extract acc.2 a).toList :: (caps.toList.drop 1).map (pieceOf text), b)
    | none => acc) ([], 0)
  out ++ [textValue (text.extract last text.size).toList]

def searchWith (name : String) (pattern flags : Value) (args : List Value) : Work Value := do
  let c ← patternOf pattern flags
  let subject (i : Nat) : Work (Array Char) := do
    match arg args i with
    | .str s => return s.toList.toArray
    | v => typeError ("expected string or bytes-like object, got '" ++ (← typeName v) ++ "'")
  let count (i : Nat) : Work Nat := do
    let n ← intOr 0 (arg args i)
    return if n ≤ 0 then 100000000 else n.toNat
  match name with
  | "match" | "search" | "fullmatch" =>
    let text ← subject 0
    let found := match name with
      | "search" => Regex.search c text 0
      | "match" => Regex.matchAt c text 0
      | _ => Regex.matchAt { c with pattern := .seq c.pattern .textStop } text 0
    match found with
    | some caps => newMatch c text caps
    | none => return .nothing
  | "findall" =>
    let text ← subject 0
    newList (← (matchesIn c text).mapM (foundValue text))
  | "finditer" =>
    let text ← subject 0
    newIterator "callable_iterator" (← (matchesIn c text).mapM (newMatch c text))
  | "sub" | "subn" =>
    let text ← subject 1
    match arg args 0 with
    | .str template =>
      let (out, n) ← replaceMatches c template.toList text (← count 2)
      if name = "sub" then return textValue out else newTuple [textValue out, .int n]
    | f =>
      let found ← ((matchesIn c text).take (← count 2)).mapM (newMatch c text)
      throw (.callThen (.native "mapped") .absent [f, ← newList found] "substituted"
        [textValue text.toList, ← newList found])
  | "split" =>
    let text ← subject 0
    newList (splitByPattern c text (← count 1))
  | _ => raise "AttributeError" ("module 're' has no attribute '" ++ name ++ "'")

/-- Puts the results of a function in place of matches. -/
def substituted (text : Value) (found results : List Value) : Work Value := do
  let s ← needText "sub()" text
  let whole := s.toList.toArray
  let place (t : Thing) (name : String) : Nat := match t.member? name with
    | some (.int n) => n.toNat
    | _ => 0
  let (out, last) ← (found.zip results).foldlM (fun (acc : List Char × Nat) (p : Value × Value) => do
    match ← Work.thing? p.1 with
    | some t =>
      let piece ← needText "sub()" p.2
      return (acc.1 ++ (whole.extract acc.2 (place t "start 0")).toList ++ piece.toList, place t "end 0")
    | none => return acc) ([], 0)
  return textValue (out ++ (whole.extract last whole.size).toList)

def isSpecialSign (c : Char) : Bool :=
  "()[]\x7b\x7d?*+-|^$\\.&~# \t\n\r\x0b\x0c".toList.contains c

def callPattern (name : String) (args : List Value) (named : List (String × Value)) : Work Value := do
  let flags := ((named.find? (·.1 == "flags")).map (·.2)).getD .absent
  match name with
  | "compile" =>
    let flags := if flags.isAbsent then arg args 1 else flags
    match arg args 0 with
    | .str s =>
      let _ ← patternOf (.str s) flags
      Work.new { shape := .pattern, name := s, items := #[.int (← intOr 0 flags)] }
    | v => return v
  | "escape" =>
    let s ← needText "escape()" (arg args 0)
    return textValue (s.toList.flatMap fun c => if isSpecialSign c then ['\\', c] else [c])
  | _ =>
    let place := match name with
      | "sub" | "subn" => 4
      | "split" => 3
      | _ => 2
    let flags := if flags.isAbsent then arg args place else flags
    let count := ((named.find? fun (n, _) => n == "count" || n == "maxsplit").map (·.2)).toList
    searchWith name (arg args 0) flags ((args.take place).drop 1 ++ count)

def callMatch (name : String) (t : Thing) (args : List Value) : Work Value := do
  let group (v : Value) : Work Value := do
    match v with
    | .int n =>
      match t.items[n.toNat]? with
      | some x => return x
      | none => raise "IndexError" "no such group"
    | .str s =>
      match t.member? ("group " ++ s) with
      | some x => return x
      | none => raise "IndexError" "no such group"
    | _ => raise "IndexError" "no such group"
  let end' (what : String) (v : Value) : Work Value := do
    return (t.member? (what ++ " " ++ toString (← intOr 0 v))).getD (.int (-1))
  match name, args with
  | "group", [] => group (.int 0)
  | "group", [v] => group v
  | "group", vs => newTuple (← vs.mapM group)
  | "groups", vs =>
    newTuple ((t.items.toList.drop 1).map fun v => if isNone v then (vs.headD .nothing) else v)
  | "groupdict", _ =>
    newDict (t.members.toList.filterMap fun e =>
      (after? "group ".toList e.mark.toList).map fun n => (textValue n, e.value))
  | "span", vs => newTuple [← end' "start" (arg vs 0), ← end' "end" (arg vs 0)]
  | name, vs => end' name (arg vs 0)

end ScriptHost.Indented
