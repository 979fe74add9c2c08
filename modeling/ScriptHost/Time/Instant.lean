/-!
Points in time, in UTC, to the nanosecond. A leap second is the second before it with a billion
nanoseconds or more. Dates are those of the Gregorian calendar, carried on in both directions: day
numbers counted from 1970-01-01.
-/
namespace ScriptHost.Time

structure Date where
  year : Int
  month : Nat
  day : Nat
  deriving Repr, DecidableEq

def isLeap (year : Int) : Bool :=
  year % 4 == 0 && (year % 100 != 0 || year % 400 == 0)

def monthLength (year : Int) (month : Nat) : Nat :=
  match month with
  | 2 => if isLeap year then 29 else 28
  | 4 | 6 | 9 | 11 => 30
  | _ => 31

def yearInRange (year : Int) : Bool := -262143 ≤ year && year ≤ 262142

def Date.exists (d : Date) : Bool :=
  yearInRange d.year && 1 ≤ d.month && d.month ≤ 12 && 1 ≤ d.day
    && d.day ≤ monthLength d.year d.month

def daysBeforeYear (year : Int) : Int := 365 * year + year / 4 - year / 100 + year / 400

/-- Days from 1970-01-01. Years are counted from March, so that the leap day is the last. -/
def Date.toDays (d : Date) : Int :=
  let year := if d.month ≤ 2 then d.year - 1 else d.year
  let month := (d.month + 9) % 12
  daysBeforeYear year + (153 * month + 2) / 5 + d.day - 719469

def Date.ofDays (days : Int) : Date :=
  let z := days + 719468
  let era := z / 146097
  let doe := z % 146097
  let yoe := (doe - doe / 1460 + doe / 36524 - doe / 146096) / 365
  let doy := doe - (365 * yoe + yoe / 4 - yoe / 100)
  let mp := (5 * doy + 2) / 153
  let day := doy - (153 * mp + 2) / 5 + 1
  let month := if mp < 10 then mp + 3 else mp - 9
  let year := yoe + era * 400 + (if month ≤ 2 then 1 else 0)
  ⟨year, month.toNat, day.toNat⟩

structure Instant where
  seconds : Int
  nanos : Nat
  deriving Repr, DecidableEq

namespace Instant

def epoch : Instant := ⟨0, 0⟩

def compare (a b : Instant) : Ordering :=
  (Ord.compare a.seconds b.seconds).then (Ord.compare a.nanos b.nanos)

def before (a b : Instant) : Bool := compare a b == .lt

def totalNanos (t : Instant) : Int := t.seconds * 1000000000 + t.nanos

def ofTotalNanos (n : Int) : Instant := ⟨n / 1000000000, (n % 1000000000).toNat⟩

def addMillis (t : Instant) (ms : Nat) : Instant := ofTotalNanos (t.totalNanos + ms * 1000000)

def columnOrigin : Instant := ⟨946684800, 0⟩

/-- The instant as a column keeps it: whole microseconds, cut toward the origin. -/
def toColumn (t : Instant) : Instant :=
  let micros := Int.tdiv (t.totalNanos - columnOrigin.totalNanos) 1000
  ofTotalNanos (micros * 1000 + columnOrigin.totalNanos)

def wholeMicros (t : Instant) : Prop := t.nanos < 1000000000 ∧ t.nanos % 1000 = 0

instance (t : Instant) : Decidable t.wholeMicros := inferInstanceAs (Decidable (_ ∧ _))

end Instant

end ScriptHost.Time
