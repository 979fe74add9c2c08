import ScriptHost.Json.Reader
import ScriptHost.Json.Printer

/-!
Reading JSON text of an expected shape. What is found instead is named in the failure, at the place
where it was noticed; a record may be written as an object or as a list of its fields in order.
-/
namespace ScriptHost.Json

def shown (s : String) : String :=
  let escapeShown (c : Char) : List Char :=
    if c = '\x22' ∨ c = '\\' then ['\\', c]
    else if c = '\n' then ['\\', 'n']
    else if c = '\r' then ['\\', 'r']
    else if c = '\t' then ['\\', 't']
    else if c = '\x00' then ['\\', '0']
    else if c.toNat < 0x20 ∨ c.toNat = 0x7f then
      "\\u\x7b".toList ++ (Nat.toDigits 16 c.toNat) ++ ['\x7d']
    else [c]
  String.ofList ('\x22' :: (s.toList.flatMap escapeShown ++ ['\x22']))

def kindText : Json → String
  | .null => "null"
  | .bool b => "boolean `" ++ (if b then "true" else "false") ++ "`"
  | .int n => "integer `" ++ toString n ++ "`"
  | .float x => "floating point `" ++ floatText x ++ "`"
  | .str s => "string " ++ shown s
  | .arr _ => "sequence"
  | .obj _ => "map"

def wrongKind (found expected : String) : Cause :=
  .shape ("invalid type: " ++ found ++ ", expected " ++ expected)

def wrongValue (found expected : String) : Cause :=
  .shape ("invalid value: " ++ found ++ ", expected " ++ expected)

/-- The failure of meeting a value that begins with `b` where another kind is expected: a scalar is
read to be named, a list or an object is named at its first byte. -/
def unexpected (expected : String) (b : UInt8) (r : List UInt8) : Fault :=
  if b = 0x5B then .before (wrongKind "sequence" expected) r
  else if b = 0x7B then .before (wrongKind "map" expected) r
  else match readValue 0 (b :: r) with
    | .ok (j, ⟨t, _⟩) => .here (wrongKind j.kindText expected) t
    | .error e => e

def readStringAs {α : Type} (expected : String) (accept : String → Except String α)
    (s : List UInt8) : Read α s :=
  match next? s with
  | none => .error (.here .endOfValue [])
  | some (b, ⟨r, h⟩) =>
    if b = 0x22 then
      match readString r with
      | .error e => .error e
      | .ok (text, ⟨t, ht⟩) =>
        match accept text with
        | .ok a => .ok (a, ⟨t, Left.lt_lt h ht⟩)
        | .error message => .error (.here (.shape message) t)
    else .error (unexpected expected b r)

def readTextValue (s : List UInt8) : Read String s := readStringAs "a string" .ok s

def readBoolValue (s : List UInt8) : Read Bool s :=
  match next? s with
  | none => .error (.here .endOfValue [])
  | some (b, ⟨r, h⟩) =>
    if b = 0x74 then widen h (readLiteral "rue" true r)
    else if b = 0x66 then widen h (readLiteral "alse" false r)
    else .error (unexpected "a boolean" b r)

def readIntValue (expected : String) (fits : Int → Bool) (s : List UInt8) : Read Int s :=
  match next? s with
  | none => .error (.here .endOfValue [])
  | some (b, ⟨r, h⟩) =>
    if b = 0x2D ∨ isDigit b then
      match readNumber b r with
      | .error e => .error e
      | .ok (.int n, ⟨t, ht⟩) =>
        if fits n then .ok (n, ⟨t, Left.lt_le h ht⟩)
        else .error (.here (wrongValue (kindText (.int n)) expected) t)
      | .ok (j, ⟨t, _⟩) => .error (.here (wrongKind j.kindText expected) t)
    else .error (unexpected expected b r)

def readOptional {α : Type} (read : (s : List UInt8) → Read α s) (s : List UInt8) :
    Read (Option α) s :=
  match next? s with
  | some (0x6E, ⟨r, h⟩) => widen h (readLiteral "ull" none r)
  | _ =>
    match read s with
    | .ok (a, r) => .ok (some a, r)
    | .error e => .error e

/-- One of several words, written as a string or as an object whose one key it is. -/
def readWord {α : Type} (accept : String → Except String α) (s : List UInt8) : Read α s :=
  match next? s with
  | none => .error (.here .endOfValue [])
  | some (b, ⟨r, h⟩) =>
    if b = 0x22 then readStringAs "variant identifier" accept s
    else if b = 0x7B then
      match readStringAs "variant identifier" accept r with
      | .error e => .error e
      | .ok (a, ⟨t, ht⟩) =>
        match readColon t with
        | .error e => .error e
        | .ok ⟨u, hu⟩ =>
          match next? u with
          | none => .error (.here .endOfValue [])
          | some (c, ⟨v, hv⟩) =>
            if c = 0x6E then
              match readIdent (letters "ull") v with
              | .error e => .error e
              | .ok ⟨w, hw⟩ =>
                match next? w with
                | none => .error (.here .endOfObject [])
                | some (d, ⟨x, hx⟩) =>
                  if d = 0x7D then .ok (a, ⟨x, by omega⟩)
                  else .error (.before .expectedValue x)
            else .error (unexpected "unit" c v)
    else .error (.here .expectedValue r)

def wordList (words : List String) : String :=
  match words with
  | [a, b] => "`" ++ a ++ "` or `" ++ b ++ "`"
  | ws => "one of " ++ String.intercalate ", " (ws.map fun w => "`" ++ w ++ "`")

def unknownWord (s : String) (words : List String) : String :=
  "unknown variant `" ++ s ++ "`, expected " ++ wordList words

def skipExponent : (s : List UInt8) → Except Fault (NotLonger s)
  | [] => .ok (NotLonger.all [])
  | c :: v =>
    if c = 0x65 ∨ c = 0x45 then
      let ⟨w, hw⟩ : NotLonger v := match v with
        | [] => NotLonger.all []
        | d :: x => if d = 0x2B ∨ d = 0x2D then NotLonger.tail d x else NotLonger.all (d :: x)
      match w, hw with
      | [], _ => .error (.here .invalidNumber [])
      | d :: x, hw =>
        if isDigit d then
          .ok (NotLonger.behind c (NotLonger.within hw (NotLonger.behind d (takeDigits x).2)))
        else .error (.here .invalidNumber x)
    else .ok (NotLonger.all (c :: v))

def skipNumber (b : UInt8) (s : List UInt8) : Except Fault (NotLonger s) :=
  match b, s with
  | 0x2D, [] => .error (.here .invalidNumber [])
  | 0x2D, c :: r =>
    match skipDigits c r with
    | .ok t => .ok (NotLonger.behind c t)
    | .error e => .error e
  | b, s => skipDigits b s
where
  skipDigits (b : UInt8) (s : List UInt8) : Except Fault (NotLonger s) :=
    if !isDigit b then .error (.here .invalidNumber s)
    else
      let ⟨t, h⟩ : NotLonger s := if b = 0x30 then NotLonger.all s else (takeDigits s).2
      match t, h with
      | [], h => .ok ⟨[], h⟩
      | c :: u, h =>
        if b = 0x30 ∧ isDigit c then .error (.here .invalidNumber u)
        else if c = 0x2E then
          match takeDigits u with
          | ([], ⟨v, _⟩) => .error (.here .invalidNumber v.tail)
          | (_, ⟨v, hv⟩) =>
            match skipExponent v with
            | .ok r => .ok (NotLonger.within h (NotLonger.behind c (NotLonger.within hv r)))
            | .error e => .error e
        else match skipExponent (c :: u) with
          | .ok r => .ok (NotLonger.within h r)
          | .error e => .error e

def skipString (s : List UInt8) : Except Fault (Shorter s) :=
  match readBytes [] s with
  | .ok (_, r) => .ok r
  | .error e => .error e

def skipKey (s : List UInt8) : Except Fault (Shorter s) :=
  match next? s with
  | none => .error (.here .endOfObject [])
  | some (b, ⟨r, h⟩) =>
    if b = 0x22 then
      match skipString r with
      | .error f => .error f
      | .ok ⟨t, ht⟩ =>
        match readColon t with
        | .error f => .error f
        | .ok ⟨u, hu⟩ =>
          have hut : u.length < r.length := Left.lt_lt ht hu
          .ok ⟨u, Left.lt_lt h hut⟩
    else .error (.here .keyNotString r)

inductive Enclosing where
  | list
  | object
  deriving DecidableEq, Repr

def Enclosing.close : Enclosing → UInt8
  | .list => 0x5D
  | .object => 0x7D

def Enclosing.unclosed : Enclosing → Cause
  | .list => .endOfList
  | .object => .endOfObject

def Enclosing.noComma : Enclosing → Cause
  | .list => .expectedListComma
  | .object => .expectedObjectComma

def skipScalar (b : UInt8) (s : List UInt8) : Except Fault (NotLonger s) :=
  if b = 0x6E then readIdent (letters "ull") s
  else if b = 0x74 then readIdent (letters "rue") s
  else if b = 0x66 then readIdent (letters "alse") s
  else if b = 0x2D ∨ isDigit b then skipNumber b s
  else if b = 0x22 then
    match skipString s with
    | .ok r => .ok (NotLonger.ofShorter r)
    | .error e => .error e
  else .error (.here .expectedValue s)

/-- Skips values until nothing encloses the place. `started` says that a value of the innermost
enclosing list or object has just been read. -/
def skipFrom (around : List Enclosing) (started : Bool) (s : List UInt8) :
    Except Fault (NotLonger s) :=
  match around, started with
  | [], true => .ok ⟨s, Nat.le_refl _⟩
  | e :: outer, true =>
    match next? s with
    | none => .error (.here e.unclosed [])
    | some (b, ⟨r, h⟩) =>
      if b = e.close then
        match skipFrom outer true r with
        | .error f => .error f
        | .ok ⟨v, hv⟩ => .ok ⟨v, by omega⟩
      else if b = 0x2C then
        match e with
        | .object =>
          match skipKey r with
          | .error f => .error f
          | .ok ⟨u, hu⟩ =>
            match skipFrom (.object :: outer) false u with
            | .error f => .error f
            | .ok ⟨v, hv⟩ => .ok ⟨v, by omega⟩
        | .list =>
          match skipFrom (.list :: outer) false r with
          | .error f => .error f
          | .ok ⟨v, hv⟩ => .ok ⟨v, by omega⟩
      else .error (.here e.noComma r)
  | _, false =>
    match next? s with
    | none => .error (.here .endOfValue [])
    | some (b, ⟨r, h⟩) =>
      if b = 0x5B ∨ b = 0x7B then
        let e : Enclosing := if b = 0x5B then .list else .object
        match next? r with
        | none => .error (.here e.unclosed [])
        | some (c, ⟨t, ht⟩) =>
          if c = e.close then
            match skipFrom around true t with
            | .error f => .error f
            | .ok ⟨u, hu⟩ => .ok ⟨u, by omega⟩
          else match e with
            | .object =>
              match skipKey r with
              | .error f => .error f
              | .ok ⟨u, hu⟩ =>
                match skipFrom (.object :: around) false u with
                | .error f => .error f
                | .ok ⟨v, hv⟩ => .ok ⟨v, by omega⟩
            | .list =>
              match skipFrom (.list :: around) false r with
              | .error f => .error f
              | .ok ⟨v, hv⟩ => .ok ⟨v, by omega⟩
      else
        match skipScalar b r with
        | .error f => .error f
        | .ok ⟨t, ht⟩ =>
          match skipFrom around true t with
          | .error f => .error f
          | .ok ⟨u, hu⟩ => .ok ⟨u, by omega⟩
termination_by s.length

def skipValue (s : List UInt8) : Except Fault (NotLonger s) := skipFrom [] false s

/-- How a record of type `σ` is filled: what a key stands for, how each field is read, and which
field is the first one still missing. -/
structure Record (σ : Type) where
  name : String
  fields : List String
  empty : σ
  has : Nat → σ → Bool
  read : Nat → σ → (s : List UInt8) → Read σ s
  optional : Nat → Bool
  /-- Fields that a list may end before. -/
  omissible : Nat → Bool

/-- A failure without a place of its own is shown behind the closing bracket, if that comes next. -/
def atClose (close : UInt8) (cause : Cause) (s : List UInt8) : Fault :=
  match next? s with
  | some (b, ⟨r, _⟩) => if b = close then .here cause r else .before cause r
  | none => .here cause []

namespace Record

variable {σ : Type}

def missing? (rec : Record σ) (state : σ) : Option String :=
  (rec.fields.zipIdx.find? fun (_, i) => !rec.has i state && !rec.optional i).map (·.1)

def readFields (rec : Record σ) (isFirst : Bool) (state : σ) (s : List UInt8) : Read σ s :=
  match nextKey? isFirst s with
  | .error e => .error e
  | .ok (.inl ⟨r, h⟩) =>
    match rec.missing? state with
    | some field => .error (.here (.shape ("missing field `" ++ field ++ "`")) r)
    | none => .ok (state, ⟨r, h⟩)
  | .ok (.inr ⟨r, h⟩) =>
    match readString r with
    | .error e => .error e
    | .ok (key, ⟨t, ht⟩) =>
      match rec.fields.findIdx? (· = key) with
      | some i =>
        if rec.has i state then
          .error (atClose 0x7D (.shape ("duplicate field `" ++ key ++ "`")) t)
        else match readColon t with
          | .error e => .error e
          | .ok ⟨u, hu⟩ =>
            match rec.read i state u with
            | .error e => .error e
            | .ok (state, ⟨v, hv⟩) =>
              have hts : t.length < s.length := Left.lt_lt h ht
              have hus : u.length < s.length := Left.lt_lt hts hu
              have hlt : v.length < s.length := Left.lt_lt hus hv
              match readFields rec false state v with
              | .error e => .error e
              | .ok (final, ⟨w, hw⟩) => .ok (final, ⟨w, Left.lt_lt hlt hw⟩)
      | none =>
        match readColon t with
        | .error e => .error e
        | .ok ⟨u, hu⟩ =>
          match skipValue u with
          | .error e => .error e
          | .ok ⟨v, hv⟩ =>
            have hts : t.length < s.length := Left.lt_lt h ht
            have hus : u.length < s.length := Left.lt_lt hts hu
            have hlt : v.length < s.length := Left.lt_le hus hv
            match readFields rec false state v with
            | .error e => .error e
            | .ok (final, ⟨w, hw⟩) => .ok (final, ⟨w, Left.lt_lt hlt hw⟩)
termination_by s.length

def tooShort (rec : Record σ) (k : Nat) : Cause :=
  .shape ("invalid length " ++ toString k ++ ", expected struct " ++ rec.name ++ " with "
    ++ toString rec.fields.length ++ (if rec.fields.length = 1 then " element" else " elements"))

/-- The items of a list that is a record, the fields from number `i` on. -/
def readElements (rec : Record σ) (i : Nat) (state : σ) (s : List UInt8) : Read σ s :=
  if i < rec.fields.length then
    match nextItem? (i = 0) s with
    | .error e => .error e
    | .ok (.inl ⟨r, h⟩) =>
      match (List.range rec.fields.length).find? fun k => i ≤ k && !rec.omissible k with
      | some k => .error (.here (rec.tooShort k) r)
      | none => .ok (state, ⟨r, h⟩)
    | .ok (.inr ⟨r, h⟩) =>
      match rec.read i state r with
      | .error e => .error e
      | .ok (state, ⟨t, ht⟩) =>
        have hlt : t.length < s.length := Left.le_lt h ht
        match readElements rec (i + 1) state t with
        | .error e => .error e
        | .ok (final, ⟨w, hw⟩) => .ok (final, ⟨w, Left.lt_lt hlt hw⟩)
  else
    match next? s with
    | none => .error (.here .endOfList [])
    | some (b, ⟨r, h⟩) =>
      if b = 0x5D then .ok (state, ⟨r, h⟩)
      else if b = 0x2C then
        match next? r with
        | some (c, ⟨t, _⟩) =>
          .error (.here (if c = 0x5D then .trailingComma else .trailingCharacters) t)
        | none => .error (.here .trailingCharacters [])
      else .error (.here .trailingCharacters r)
termination_by s.length

def readRecord (rec : Record σ) (s : List UInt8) : Read σ s :=
  match next? s with
  | none => .error (.here .endOfValue [])
  | some (b, ⟨r, h⟩) =>
    if b = 0x7B then
      match readFields rec true rec.empty r with
      | .ok (a, ⟨t, ht⟩) => .ok (a, ⟨t, Left.lt_lt h ht⟩)
      | .error e => .error e
    else if b = 0x5B then
      match readElements rec 0 rec.empty r with
      | .ok (a, ⟨t, ht⟩) => .ok (a, ⟨t, Left.lt_lt h ht⟩)
      | .error e => .error e
    else .error (unexpected ("struct " ++ rec.name) b r)

end Record

end ScriptHost.Json
