import ScriptHost.Indented.Given
import ScriptHost.Snippet.Numeral

/-!
Reads JSON into the values of a script. Integers keep all their digits, names keep their order, and
a fault is told with the line and the column where it is.
-/
namespace ScriptHost.Indented.JsonText

open Snippet

def fault {α : Type} (doc : List Char) (message : String) (rest : List Char) : Work α := do
  let position := doc.length - rest.length
  let before := doc.take position
  let line := before.count '\n' + 1
  let column := (before.reverse.takeWhile (· ≠ '\n')).length + 1
  let text := message ++ ": line " ++ toString line ++ " column " ++ toString column ++ " (char "
    ++ toString position ++ ")"
  let e ← newFailure (.native "json.JSONDecodeError") [.str text]
  if let .ref id := e then
    Work.modifyThing id fun t =>
      (((((t.putMember "msg" (.str message)).putMember "doc" (.str (String.ofList doc))).putMember "pos"
        (.int position)).putMember "lineno" (.int line)).putMember "colno" (.int column))
  throw (.raise e)

def skipSpace (s : List Char) : List Char :=
  s.dropWhile fun c => c = ' ' || c = '\n' || c = '\t' || c = '\r'

def fourHex? (s : List Char) : Option (Nat × List Char) :=
  let ds := s.take 4
  if ds.length = 4 && ds.all isHex then (valueIn? 16 ds).map fun n => (n, s.drop 4) else none

def textFrom (doc start : List Char) : Nat → List Char → List Char → Work (String × List Char)
  | 0, _, _ => fault doc "Unterminated string starting at" start
  | fuel + 1, acc, s => do
    match s with
    | [] => fault doc "Unterminated string starting at" start
    | '"' :: r => return (String.ofList acc.reverse, r)
    | '\\' :: 'u' :: r =>
      match fourHex? r with
      | none => fault doc "Invalid \\uXXXX escape" r
      | some (n, r) =>
        let low := match r with
          | '\\' :: 'u' :: t => fourHex? t
          | _ => none
        match low with
        | some (m, t) =>
          if 0xD800 ≤ n && n ≤ 0xDBFF && 0xDC00 ≤ m && m ≤ 0xDFFF then
            textFrom doc start fuel (charOf (0x10000 + (n - 0xD800) * 0x400 + (m - 0xDC00)) :: acc) t
          else textFrom doc start fuel (charOf n :: acc) r
        | none => textFrom doc start fuel (charOf n :: acc) r
    | '\\' :: c :: r =>
      let plain := match c with
        | 'n' => some '\n'
        | 't' => some '\t'
        | 'r' => some '\r'
        | 'b' => some '\x08'
        | 'f' => some '\x0c'
        | '"' | '\\' | '/' => some c
        | _ => none
      match plain with
      | some c => textFrom doc start fuel (c :: acc) r
      | none => fault doc ("Invalid \\escape: " ++ reprChar c) s
    | ['\\'] => fault doc "Unterminated string starting at" start
    | c :: r =>
      if c.toNat < 0x20 then fault doc "Invalid control character at" s
      else textFrom doc start fuel (c :: acc) r
where
  reprChar (c : Char) : String := quotedText c.toString

def wordsOfJson : List (String × Value) :=
  [("null", .nothing), ("true", .truth true), ("false", .truth false), ("NaN", .float (0.0 / 0.0)),
    ("Infinity", .float (1.0 / 0.0)), ("-Infinity", .float (-1.0 / 0.0))]

def number? (s : List Char) : Option (Value × List Char) :=
  let (negative, r) := match s with
    | '-' :: r => (true, r)
    | r => (false, r)
  let whole := match r with
    | '0' :: _ => ['0']
    | r => r.takeWhile isDigit
  if whole.isEmpty then none
  else
    let behind := r.drop whole.length
    let fraction := match behind with
      | '.' :: t => t.takeWhile isDigit
      | _ => []
    let t := if fraction.isEmpty then behind else behind.drop (fraction.length + 1)
    let (power, rest) := powerFront t
    let n := (valueIn? 10 (whole ++ fraction)).getD 0
    if fraction.isEmpty && rest.length = t.length then
      some (.int (if negative then -(n : Int) else n), behind)
    else
      let x := scaledFloat n (power - fraction.length)
      some (.float (if negative then -x else x), rest)

mutual

def value (doc : List Char) : Nat → List Char → Work (Value × List Char)
  | 0, s => fault doc "Expecting value" s
  | fuel + 1, s => do
    match s with
    | '"' :: r =>
      let (t, rest) ← textFrom doc s (r.length + 1) [] r
      return (.str t, rest)
    | '[' :: r =>
      match skipSpace r with
      | ']' :: rest => return (← newList [], rest)
      | r =>
        let (vs, rest) ← items doc fuel r
        return (← newList vs, rest)
    | '\x7b' :: r =>
      match skipSpace r with
      | '\x7d' :: rest => return (← newDict [], rest)
      | r =>
        let (pairs, rest) ← members doc fuel r
        return (← newDict pairs, rest)
    | s =>
      match wordsOfJson.findSome? fun (w, v) => (after? w.toList s).map fun r => (v, r) with
      | some found => return found
      | none =>
        match number? s with
        | some found => return found
        | none => fault doc "Expecting value" s

def items (doc : List Char) : Nat → List Char → Work (List Value × List Char)
  | 0, s => fault doc "Expecting value" s
  | fuel + 1, s => do
    let (v, r) ← value doc fuel s
    match skipSpace r with
    | ']' :: rest => return ([v], rest)
    | ',' :: rest =>
      let (vs, rest) ← items doc fuel (skipSpace rest)
      return (v :: vs, rest)
    | r => fault doc "Expecting ',' delimiter" r

def members (doc : List Char) : Nat → List Char → Work (List (Value × Value) × List Char)
  | 0, s => fault doc "Expecting value" s
  | fuel + 1, s => do
    match s with
    | '"' :: r =>
      let (k, r) ← textFrom doc s (r.length + 1) [] r
      match skipSpace r with
      | ':' :: r =>
        let (v, r) ← value doc fuel (skipSpace r)
        match skipSpace r with
        | '\x7d' :: rest => return ([(.str k, v)], rest)
        | ',' :: rest =>
          let (pairs, rest) ← members doc fuel (skipSpace rest)
          return ((.str k, v) :: pairs, rest)
        | r => fault doc "Expecting ',' delimiter" r
      | r => fault doc "Expecting ':' delimiter" r
    | s => fault doc "Expecting property name enclosed in double quotes" s

end

def read (text : String) : Work Value := do
  let doc := text.toList
  let (v, rest) ← value doc (doc.length + 2) (skipSpace doc)
  match skipSpace rest with
  | [] => return v
  | r => fault doc "Extra data" r

end ScriptHost.Indented.JsonText
