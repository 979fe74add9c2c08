import ScriptHost.Text.Blank
import ScriptHost.Time.Instant
import ScriptHost.Power

/-!
Instants as RFC 3339 text. Reading is lenient: white space may stand between the parts, the date and
the time may be parted by a blank or a small letter, and the offset may lack its colon.
-/
namespace ScriptHost.Time

inductive Misread where
  | outOfRange
  | invalid
  | tooShort
  | tooLong
  deriving Repr, DecidableEq

def Misread.message : Misread → String
  | .outOfRange => "input is out of range"
  | .invalid => "input contains invalid characters"
  | .tooShort => "premature end of input"
  | .tooLong => "trailing input"

namespace Rfc3339

def padded (width n : Nat) : String :=
  let s := toString n
  String.ofList (List.replicate (width - s.length) '0') ++ s

def fractionText (nanos : Nat) : String :=
  if nanos = 0 then ""
  else if nanos % 1000000 = 0 then "." ++ padded 3 (nanos / 1000000)
  else if nanos % 1000 = 0 then "." ++ padded 6 (nanos / 1000)
  else "." ++ padded 9 nanos

def yearText (year : Int) : String :=
  if 0 ≤ year ∧ year ≤ 9999 then padded 4 year.toNat
  else if year < 0 then "-" ++ padded 4 year.natAbs
  else "+" ++ padded 4 year.toNat

/-- The instant in UTC with 0, 3, 6 or 9 digits of a second. -/
def render (t : Instant) : String :=
  let date := Date.ofDays (t.seconds / 86400)
  let inDay := (t.seconds % 86400).toNat
  let (second, nanos) :=
    if 1000000000 ≤ t.nanos then (inDay % 60 + 1, t.nanos - 1000000000)
    else (inDay % 60, t.nanos)
  yearText date.year ++ "-" ++ padded 2 date.month ++ "-" ++ padded 2 date.day ++ "T"
    ++ padded 2 (inDay / 3600) ++ ":" ++ padded 2 (inDay / 60 % 60) ++ ":" ++ padded 2 second
    ++ fractionText nanos ++ "Z"

def isDigit (c : Char) : Bool := '0' ≤ c && c ≤ '9'

def digitsValue (ds : List Char) : Nat := ds.foldl (fun n c => n * 10 + (c.toNat - 48)) 0

/-- A number of at most `most` digits, or of any size when there is no bound. -/
def number (most : Option Nat) (s : List Char) : Except Misread (Nat × List Char) :=
  let run := (match most with | some m => s.take m | none => s).takeWhile isDigit
  if run.isEmpty then .error (if s.isEmpty then .tooShort else .invalid)
  else if twoTo 63 ≤ digitsValue run then .error .outOfRange
  else .ok (digitsValue run, s.drop run.length)

def literal (c : Char) (s : List Char) : Except Misread (List Char) :=
  match Text.trimStart s with
  | [] => .error .tooShort
  | d :: rest => if d = c then .ok rest else .error .invalid

def year (s : List Char) : Except Misread (Int × List Char) :=
  match Text.trimStart s with
  | '-' :: rest => do let (n, rest) ← number none rest; return (-(n : Int), rest)
  | '+' :: rest => do let (n, rest) ← number none rest; return ((n : Int), rest)
  | rest => do let (n, rest) ← number (some 4) rest; return ((n : Int), rest)

def bounded (low high : Nat) (s : List Char) : Except Misread (Nat × List Char) := do
  let (n, rest) ← number (some 2) (Text.trimStart s)
  if low ≤ n ∧ n ≤ high then return (n, rest) else throw .outOfRange

/-- Digits after the point; those past the ninth are dropped. -/
def fraction (s : List Char) : Except Misread (Nat × List Char) :=
  match s with
  | '.' :: rest => do
    let (_, _) ← number (some 9) rest
    let run := (rest.take 9).takeWhile isDigit
    return (digitsValue run * tenTo (9 - run.length), rest.dropWhile isDigit)
  | rest => .ok (0, rest)

def separator (s : List Char) : Except Misread (List Char) :=
  match s with
  | [] => .error .tooShort
  | c :: rest => if c = 't' ∨ c = 'T' ∨ c = ' ' then .ok rest else .error .invalid

def offset (s : List Char) : Except Misread (Int × List Char) :=
  let s := Text.trimStart s
  if (s.take 3).map Char.toUpper = ['U', 'T', 'C'] then .ok (0, s.drop 3)
  else match s with
  | [] => .error .tooShort
  | c :: rest =>
    if c = 'Z' ∨ c = 'z' then .ok (0, rest)
    else if c ≠ '+' ∧ c ≠ '-' ∧ c ≠ '−' then .error .invalid
    else match rest with
    | h1 :: h2 :: rest =>
      if isDigit h1 && isDigit h2 then
        match rest.dropWhile (fun c => c = ':' || Text.isBlank c) with
        | m1 :: m2 :: rest =>
          if isDigit m1 && isDigit m2 then
            if '6' ≤ m1 then .error .outOfRange
            else
              let size : Int := digitsValue [h1, h2] * 3600 + digitsValue [m1, m2] * 60
              .ok (if c = '+' then size else -size, rest)
          else .error .invalid
        | _ => .error .tooShort
      else .error .invalid
    | _ => .error .tooShort

def parse (s : String) : Except Misread Instant := do
  let (y, rest) ← year s.toList
  let rest ← literal '-' rest
  let (month, rest) ← bounded 1 12 rest
  let rest ← literal '-' rest
  let (day, rest) ← bounded 1 31 rest
  let rest ← separator rest
  let (hour, rest) ← bounded 0 23 rest
  let rest ← literal ':' rest
  let (minute, rest) ← bounded 0 59 rest
  let rest ← literal ':' rest
  let (second, rest) ← bounded 0 60 rest
  let (nanos, rest) ← fraction rest
  let (east, rest) ← offset rest
  if !(Text.trimStart rest).isEmpty then throw .tooLong
  let date : Date := ⟨y, month, day⟩
  if !date.exists then throw .outOfRange
  if !(-86400 < east && east < 86400) then throw .outOfRange
  let leap := second = 60
  let wholeSecond := if leap then 59 else second
  let seconds : Int :=
    date.toDays * 86400 + hour * 3600 + minute * 60 + wholeSecond - east
  if !(yearInRange (Date.ofDays (seconds / 86400)).year) then throw .outOfRange
  return ⟨seconds, if leap then nanos + 1000000000 else nanos⟩

end Rfc3339

end ScriptHost.Time
