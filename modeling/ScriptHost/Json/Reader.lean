import ScriptHost.Json.Value
import ScriptHost.Text.Utf8

/-!
Reading JSON text, given as bytes. A failure names its cause and the place where reading stopped.
Reading a value consumes at least one byte, which is why it ends.
-/
namespace ScriptHost.Json

inductive Cause where
  | endOfList
  | endOfObject
  | endOfString
  | endOfValue
  | expectedColon
  | expectedListComma
  | expectedObjectComma
  | expectedIdent
  | expectedValue
  | invalidEscape
  | invalidNumber
  | numberOutOfRange
  | invalidCodePoint
  | controlCharacter
  | keyNotString
  | loneSurrogate
  | trailingComma
  | trailingCharacters
  | endOfHexEscape
  | tooDeep
  | shape (text : String)
  deriving Repr, DecidableEq

def Cause.message : Cause → String
  | .endOfList => "EOF while parsing a list"
  | .endOfObject => "EOF while parsing an object"
  | .endOfString => "EOF while parsing a string"
  | .endOfValue => "EOF while parsing a value"
  | .expectedColon => "expected `:`"
  | .expectedListComma => "expected `,` or `]`"
  | .expectedObjectComma => "expected `,` or `\x7d`"
  | .expectedIdent => "expected ident"
  | .expectedValue => "expected value"
  | .invalidEscape => "invalid escape"
  | .invalidNumber => "invalid number"
  | .numberOutOfRange => "number out of range"
  | .invalidCodePoint => "invalid unicode code point"
  | .controlCharacter => "control character (\\u0000-\\u001F) found while parsing a string"
  | .keyNotString => "key must be a string"
  | .loneSurrogate => "lone leading surrogate in hex escape"
  | .trailingComma => "trailing comma"
  | .trailingCharacters => "trailing characters"
  | .endOfHexEscape => "unexpected end of hex escape"
  | .tooDeep => "recursion limit exceeded"
  | .shape text => text

/-- A failure with the number of bytes that were left when it was noticed. -/
structure Fault where
  cause : Cause
  left : Nat
  deriving Repr, DecidableEq

/-- A failure noticed with these bytes still to come. A failure over a byte counts that byte as
read. -/
def Fault.here (cause : Cause) (rest : List UInt8) : Fault := ⟨cause, rest.length⟩

def Fault.before (cause : Cause) (rest : List UInt8) : Fault := ⟨cause, rest.length + 1⟩

abbrev Shorter (s : List UInt8) := { r : List UInt8 // r.length < s.length }

abbrev NotLonger (s : List UInt8) := { r : List UInt8 // r.length ≤ s.length }

namespace Left

variable {s t u : List UInt8} {b : UInt8}

theorem lt_lt (h : t.length < s.length) (h' : u.length < t.length) : u.length < s.length :=
  Nat.lt_trans h' h

theorem lt_le (h : t.length < s.length) (h' : u.length ≤ t.length) : u.length < s.length :=
  Nat.lt_of_le_of_lt h' h

theorem le_lt (h : t.length ≤ s.length) (h' : u.length < t.length) : u.length < s.length :=
  Nat.lt_of_lt_of_le h' h

end Left

namespace NotLonger

variable {s t : List UInt8}

def all (s : List UInt8) : NotLonger s := ⟨s, Nat.le_refl _⟩

def tail (b : UInt8) (s : List UInt8) : NotLonger (b :: s) := ⟨s, Nat.le_succ _⟩

def behind (b : UInt8) (r : NotLonger s) : NotLonger (b :: s) := ⟨r.1, Nat.le_succ_of_le r.2⟩

def within (h : t.length ≤ s.length) (r : NotLonger t) : NotLonger s :=
  ⟨r.1, Nat.le_trans r.2 h⟩

def ofShorter (r : Shorter s) : NotLonger s := ⟨r.1, Nat.le_of_lt r.2⟩

end NotLonger

abbrev Read (α : Type) (s : List UInt8) := Except Fault (α × Shorter s)

def isSpace (b : UInt8) : Bool := b == 0x20 || b == 0x0A || b == 0x09 || b == 0x0D

def isDigit (b : UInt8) : Bool := 0x30 ≤ b && b ≤ 0x39

def digitOf (b : UInt8) : Nat := b.toNat - 0x30

def next? : (s : List UInt8) → Option (UInt8 × Shorter s)
  | [] => none
  | b :: r =>
    if isSpace b then
      match next? r with
      | some (c, ⟨t, h⟩) => some (c, ⟨t, Nat.lt_succ_of_lt h⟩)
      | none => none
    else some (b, ⟨r, Nat.lt_succ_self _⟩)

def takeDigits : (s : List UInt8) → List Nat × NotLonger s
  | [] => ([], ⟨[], Nat.le_refl _⟩)
  | b :: r =>
    if isDigit b then
      let (ds, ⟨t, h⟩) := takeDigits r
      (digitOf b :: ds, ⟨t, Nat.le_succ_of_le h⟩)
    else ([], ⟨b :: r, Nat.le_refl _⟩)

def readIdent : (letters : List UInt8) → (s : List UInt8) → Except Fault (NotLonger s)
  | [], s => .ok ⟨s, Nat.le_refl _⟩
  | _ :: _, [] => .error (.here .endOfValue [])
  | l :: ls, b :: r =>
    if b = l then
      match readIdent ls r with
      | .ok ⟨t, h⟩ => .ok ⟨t, Nat.le_succ_of_le h⟩
      | .error e => .error e
    else .error (.here .expectedIdent r)

/-- Digits are added to a number as long as it fits an unsigned 64-bit word; the count says how
many were not. -/
def gather : Nat → List Nat → Nat × Nat
  | n, [] => (n, 0)
  | n, d :: ds => if n * 10 + d < twoTo 64 then gather (n * 10 + d) ds else (n, ds.length + 1)

/-- The float nearest to an integer, scaled by a power of ten in one multiplication or division,
two below 10^-308; `none` above the range. -/
def scaled (negative : Bool) (significand : Nat) (exponent : Int) : Option Float :=
  let f := (UInt64.ofNat significand).toFloat
  let ten (n : Int) : Float := Float.ofScientific 1 false n.toNat
  let magnitude : Option Float :=
    if 308 < exponent then (if significand = 0 then some 0.0 else none)
    else if 0 ≤ exponent then
      let x := f * ten exponent
      if x.isInf then none else some x
    else if -308 ≤ exponent then some (f / ten (-exponent))
    else if -616 ≤ exponent then some (f / ten 308 / ten (-exponent - 308))
    else some 0.0
  magnitude.map fun x => if negative then -x else x

def readExponent (negative : Bool) (significand : Nat) (start : Int) (s : List UInt8) :
    Except Fault (Json × NotLonger s) :=
  let (down, ⟨t, ht⟩) : Bool × NotLonger s := match s with
    | 0x2B :: r => (false, ⟨r, Nat.le_succ _⟩)
    | 0x2D :: r => (true, ⟨r, Nat.le_succ _⟩)
    | r => (false, ⟨r, Nat.le_refl _⟩)
  match t, ht with
  | [], _ => .error (.here .endOfValue [])
  | b :: r, ht =>
    if isDigit b then
      let (ds, ⟨u, hu⟩) := takeDigits r
      let size : Nat := (digitOf b :: ds).foldl (fun n d => n * 10 + d) 0
      have hle : u.length ≤ s.length :=
        Nat.le_trans hu (Nat.le_trans (Nat.le_succ _) ht)
      if twoTo 31 ≤ size then
        if significand ≠ 0 ∧ !down then .error (.here .numberOutOfRange u)
        else .ok (.float (if negative then -0.0 else 0.0), ⟨u, hle⟩)
      else
        match scaled negative significand (if down then start - (size : Int) else start + (size : Int)) with
        | some x => .ok (.float x, ⟨u, hle⟩)
        | none => .error (.here .numberOutOfRange u)
    else .error (.here .invalidNumber r)

def readScale (negative : Bool) (significand : Nat) (exponent : Int) (s : List UInt8) :
    Except Fault (Json × NotLonger s) :=
  match s with
  | b :: r =>
    if b = 0x65 ∨ b = 0x45 then
      match readExponent negative significand exponent r with
      | .ok (j, ⟨t, h⟩) => .ok (j, ⟨t, Nat.le_succ_of_le h⟩)
      | .error e => .error e
    else match scaled negative significand exponent with
      | some x => .ok (.float x, ⟨b :: r, Nat.le_refl _⟩)
      | none => .error (.here .numberOutOfRange (b :: r))
  | [] => match scaled negative significand exponent with
    | some x => .ok (.float x, ⟨[], Nat.le_refl _⟩)
    | none => .error (.here .numberOutOfRange [])

def readFraction (negative : Bool) (significand : Nat) (exponent : Int) (s : List UInt8) :
    Except Fault (Json × NotLonger s) :=
  match takeDigits s with
  | ([], ⟨[], _⟩) => .error (.here .endOfValue [])
  | ([], ⟨_ :: r, _⟩) => .error (.here .invalidNumber r)
  | (ds, ⟨t, h⟩) =>
    let (n, unused) := gather significand ds
    match readScale negative n (exponent - (ds.length - unused : Nat)) t with
    | .ok (j, ⟨u, hu⟩) => .ok (j, ⟨u, Nat.le_trans hu h⟩)
    | .error e => .error e

/-- An integer literal; `-0` and what fits neither 64-bit word are floats. -/
def integer (negative : Bool) (n : Nat) : Json :=
  if negative then
    if n = 0 ∨ twoTo 63 < n then .float (-(UInt64.ofNat n).toFloat) else .int (-n)
  else .int n

def readDigits (negative : Bool) (b : UInt8) (s : List UInt8) :
    Except Fault (Json × NotLonger s) :=
  if !isDigit b then .error (.here .invalidNumber s)
  else
    let (ds, ⟨t, h⟩) : List Nat × NotLonger s :=
      if b = 0x30 then ([], ⟨s, Nat.le_refl _⟩) else takeDigits s
    let (n, unused) := gather (digitOf b) ds
    match t, h with
    | [], h =>
      if unused = 0 then .ok (integer negative n, ⟨[], h⟩)
      else match scaled negative n unused with
        | some x => .ok (.float x, ⟨[], h⟩)
        | none => .error (.here .numberOutOfRange [])
    | c :: u, h =>
      if b = 0x30 ∧ isDigit c then .error (.here .invalidNumber u)
      else if c = 0x2E then
        match readFraction negative n unused u with
        | .ok (j, ⟨v, hv⟩) => .ok (j, ⟨v, Nat.le_trans hv (Nat.le_trans (Nat.le_succ _) h)⟩)
        | .error e => .error e
      else if c = 0x65 ∨ c = 0x45 ∨ unused ≠ 0 then
        match readScale negative n unused (c :: u) with
        | .ok (j, ⟨v, hv⟩) => .ok (j, ⟨v, Nat.le_trans hv h⟩)
        | .error e => .error e
      else .ok (integer negative n, ⟨c :: u, h⟩)

def readNumber (b : UInt8) (s : List UInt8) : Except Fault (Json × NotLonger s) :=
  if b = 0x2D then
    match s with
    | [] => .error (.here .endOfValue [])
    | c :: r =>
      match readDigits true c r with
      | .ok (j, ⟨t, h⟩) => .ok (j, ⟨t, Nat.le_succ_of_le h⟩)
      | .error e => .error e
  else readDigits false b s

def hexValue? (b : UInt8) : Option Nat :=
  let n := b.toNat
  if 0x30 ≤ n ∧ n ≤ 0x39 then some (n - 0x30)
  else if 0x61 ≤ n ∧ n ≤ 0x66 then some (n - 0x57)
  else if 0x41 ≤ n ∧ n ≤ 0x46 then some (n - 0x37)
  else none

def readHex : (s : List UInt8) → Except Fault (Nat × NotLonger s)
  | a :: b :: c :: d :: r =>
    match hexValue? a, hexValue? b, hexValue? c, hexValue? d with
    | some a, some b, some c, some d =>
      .ok (((a * 16 + b) * 16 + c) * 16 + d, ⟨r, by simp only [List.length_cons]; omega⟩)
    | _, _, _, _ => .error (.here .invalidEscape r)
  | _ => .error (.here .endOfString [])

/-- A character given by its number; a pair of surrogates is one character. -/
def readUnicode (s : List UInt8) : Except Fault (Char × NotLonger s) :=
  match readHex s with
  | .error e => .error e
  | .ok (n, ⟨r, h⟩) =>
    if 0xDC00 ≤ n ∧ n ≤ 0xDFFF then .error (.here .loneSurrogate r)
    else if n < 0xD800 ∨ 0xDBFF < n then .ok (Char.ofNat n, ⟨r, h⟩)
    else match r with
      | [] => .error (.here .endOfString [])
      | 0x5C :: [] => .error (.here .endOfString [])
      | 0x5C :: 0x75 :: t =>
        match readHex t with
        | .error e => .error e
        | .ok (m, ⟨u, hu⟩) =>
          if m < 0xDC00 ∨ 0xDFFF < m then .error (.here .loneSurrogate u)
          else .ok (Char.ofNat (0x10000 + (n - 0xD800) * 0x400 + (m - 0xDC00)),
            ⟨u, by simp only [List.length_cons] at h; omega⟩)
      | 0x5C :: _ :: t => .error (.here .endOfHexEscape t)
      | _ :: t => .error (.here .endOfHexEscape t)

def simpleEscape? (b : UInt8) : Option UInt8 :=
  if b = 0x22 ∨ b = 0x5C ∨ b = 0x2F then some b
  else if b = 0x62 then some 0x08
  else if b = 0x66 then some 0x0C
  else if b = 0x6E then some 0x0A
  else if b = 0x72 then some 0x0D
  else if b = 0x74 then some 0x09
  else none

def readBytes (acc : List UInt8) : (s : List UInt8) → Read (List UInt8) s
  | [] => .error (.here .endOfString [])
  | b :: r =>
    if b = 0x22 then .ok (acc, ⟨r, Nat.lt_succ_self _⟩)
    else if b = 0x5C then
      match r with
      | [] => .error (.here .endOfString [])
      | e :: t =>
        if e = 0x75 then
          match readUnicode t with
          | .error f => .error f
          | .ok (c, ⟨u, hu⟩) =>
            match readBytes ((Text.Utf8.encodeChar c).reverse ++ acc) u with
            | .ok (bs, ⟨v, hv⟩) => .ok (bs, ⟨v, by simp only [List.length_cons]; omega⟩)
            | .error f => .error f
        else match simpleEscape? e with
          | some x =>
            match readBytes (x :: acc) t with
            | .ok (bs, ⟨v, hv⟩) => .ok (bs, ⟨v, by simp only [List.length_cons]; omega⟩)
            | .error f => .error f
          | none => .error (.here .invalidEscape t)
    else if b < 0x20 then .error (.here .controlCharacter r)
    else
      match readBytes (b :: acc) r with
      | .ok (bs, ⟨v, hv⟩) => .ok (bs, ⟨v, by simp only [List.length_cons]; omega⟩)
      | .error f => .error f
termination_by s => s.length
decreasing_by all_goals simp_all only [List.length_cons]; omega

def readString (s : List UInt8) : Read String s :=
  match readBytes [] s with
  | .error e => .error e
  | .ok (bytes, ⟨r, h⟩) =>
    match Text.Utf8.text? bytes.reverse with
    | some text => .ok (text, ⟨r, h⟩)
    | none => .error (.before .invalidCodePoint r)

def readColon (s : List UInt8) : Except Fault (Shorter s) :=
  match next? s with
  | none => .error (.here .endOfObject [])
  | some (b, r) => if b = 0x3A then .ok r else .error (.here .expectedColon r)

def nextItem? (isFirst : Bool) (s : List UInt8) : Except Fault (Shorter s ⊕ NotLonger s) :=
  match next? s with
  | none => .error (.here .endOfList [])
  | some (b, ⟨r, h⟩) =>
    if b = 0x5D then .ok (.inl ⟨r, h⟩)
    else if isFirst then .ok (.inr ⟨s, Nat.le_refl _⟩)
    else if b = 0x2C then
      match next? r with
      | none => .error (.here .endOfValue [])
      | some (c, ⟨t, _⟩) =>
        if c = 0x5D then .error (.here .trailingComma t)
        else .ok (.inr ⟨r, Nat.le_of_lt h⟩)
    else .error (.here .expectedListComma r)

def nextKey? (isFirst : Bool) (s : List UInt8) : Except Fault (Shorter s ⊕ Shorter s) :=
  match next? s with
  | none => .error (.here .endOfObject [])
  | some (b, ⟨r, h⟩) =>
    if b = 0x7D then .ok (.inl ⟨r, h⟩)
    else if isFirst then
      if b = 0x22 then .ok (.inr ⟨r, h⟩) else .error (.here .keyNotString r)
    else if b = 0x2C then
      match next? r with
      | none => .error (.here .endOfValue [])
      | some (c, ⟨t, ht⟩) =>
        if c = 0x22 then .ok (.inr ⟨t, Nat.lt_trans ht h⟩)
        else if c = 0x7D then .error (.here .trailingComma t)
        else .error (.here .keyNotString t)
    else .error (.here .expectedObjectComma r)

def letters (s : String) : List UInt8 := Text.Utf8.bytesOf s

def depthLimit : Nat := 127

def widen {α : Type} {s t : List UInt8} (h : t.length < s.length) :
    Except Fault (α × NotLonger t) → Read α s
  | .ok (a, ⟨r, hr⟩) => .ok (a, ⟨r, Nat.lt_of_le_of_lt hr h⟩)
  | .error e => .error e

def readLiteral {α : Type} (word : String) (value : α) (s : List UInt8) :
    Except Fault (α × NotLonger s) :=
  match readIdent (letters word) s with
  | .ok r => .ok (value, r)
  | .error e => .error e

mutual

/-- A value, lists and objects in it nested at most `depth` deep. -/
def readValue (depth : Nat) (s : List UInt8) : Read Json s :=
  match next? s with
  | none => .error (.here .endOfValue [])
  | some (b, ⟨r, h⟩) =>
    if b = 0x6E then widen h (readLiteral "ull" .null r)
    else if b = 0x74 then widen h (readLiteral "rue" (.bool true) r)
    else if b = 0x66 then widen h (readLiteral "alse" (.bool false) r)
    else if b = 0x2D ∨ isDigit b then widen h (readNumber b r)
    else if b = 0x22 then
      match readString r with
      | .ok (text, ⟨t, ht⟩) => .ok (.str text, ⟨t, Nat.lt_trans ht h⟩)
      | .error e => .error e
    else if b = 0x5B then
      match depth with
      | 0 => .error (.here .tooDeep r)
      | depth + 1 =>
        match readItems depth true r with
        | .ok (items, ⟨t, ht⟩) => .ok (.arr items, ⟨t, Nat.lt_trans ht h⟩)
        | .error e => .error e
    else if b = 0x7B then
      match depth with
      | 0 => .error (.here .tooDeep r)
      | depth + 1 =>
        match readMembers depth true [] r with
        | .ok (members, ⟨t, ht⟩) => .ok (.obj members, ⟨t, Nat.lt_trans ht h⟩)
        | .error e => .error e
    else .error (.here .expectedValue r)
termination_by (s.length, 0)
decreasing_by all_goals exact Prod.Lex.left _ _ h

def readItems (depth : Nat) (isFirst : Bool) (s : List UInt8) : Read (List Json) s :=
  match nextItem? isFirst s with
  | .error e => .error e
  | .ok (.inl ⟨r, h⟩) => .ok ([], ⟨r, h⟩)
  | .ok (.inr ⟨r, h⟩) =>
    match readValue depth r with
    | .error e => .error e
    | .ok (item, ⟨t, ht⟩) =>
      match readItems depth false t with
      | .error e => .error e
      | .ok (items, ⟨u, hu⟩) =>
        .ok (item :: items, ⟨u, Nat.lt_trans hu (Nat.lt_of_lt_of_le ht h)⟩)
termination_by (s.length, 1)
decreasing_by
  · rcases Nat.lt_or_eq_of_le h with h | h
    · exact Prod.Lex.left _ _ h
    · rw [h]; exact Prod.Lex.right _ (Nat.zero_lt_one)
  · exact Prod.Lex.left _ _ (Nat.lt_of_lt_of_le ht h)

/-- The members of an object up to its closing brace; the last of several with one key stays. -/
def readMembers (depth : Nat) (isFirst : Bool) (before : List (String × Json))
    (s : List UInt8) : Read (List (String × Json)) s :=
  match nextKey? isFirst s with
  | .error e => .error e
  | .ok (.inl ⟨r, h⟩) => .ok (before, ⟨r, h⟩)
  | .ok (.inr ⟨r, h⟩) =>
    match readString r with
    | .error e => .error e
    | .ok (key, ⟨t, ht⟩) =>
      match readColon t with
      | .error e => .error e
      | .ok ⟨u, hu⟩ =>
        match readValue depth u with
        | .error e => .error e
        | .ok (value, ⟨v, hv⟩) =>
          have hlt : v.length < s.length :=
            Nat.lt_trans hv (Nat.lt_trans hu (Nat.lt_trans ht h))
          match readMembers depth false (Named.insert key value before) v with
          | .error e => .error e
          | .ok (members, ⟨w, hw⟩) => .ok (members, ⟨w, Nat.lt_trans hw hlt⟩)
termination_by (s.length, 1)
decreasing_by
  · exact Prod.Lex.left _ _ (Nat.lt_trans hu (Nat.lt_trans ht h))
  · exact Prod.Lex.left _ _ hlt

end

structure ReadError where
  cause : Cause
  line : Nat
  column : Nat
  deriving Repr, DecidableEq

def ReadError.message (e : ReadError) : String :=
  e.cause.message ++ " at line " ++ toString e.line ++ " column " ++ toString e.column

def Fault.locate (text : List UInt8) (f : Fault) : ReadError :=
  let before := text.take (text.length - f.left)
  let lastLine := (before.reverse.takeWhile (· != 0x0A)).length
  ⟨f.cause, before.count 0x0A + 1, lastLine⟩

def readEnd (s : List UInt8) : Except Fault Unit :=
  match next? s with
  | none => .ok ()
  | some (_, r) => .error (.here .trailingCharacters r)

def readAll {α : Type} (read : (s : List UInt8) → Read α s) (text : List UInt8) :
    Except ReadError α :=
  match read text with
  | .error f => .error (f.locate text)
  | .ok (a, ⟨r, _⟩) =>
    match readEnd r with
    | .ok () => .ok a
    | .error f => .error (f.locate text)

def parse (text : List UInt8) : Except ReadError Json := readAll (readValue depthLimit) text

def parseText (s : String) : Except ReadError Json := parse (Text.Utf8.bytesOf s)

end ScriptHost.Json
