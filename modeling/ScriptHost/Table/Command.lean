import Mathlib.Logic.Function.Basic
import ScriptHost.Table.Connection

/-!
The part of SQL that the statements on scripts are written in, as commands: their text, and their
usual meaning over a table that is keyed by the name. Text is compared bytewise, which is the order
of its characters.
-/
namespace ScriptHost.Table

open Time (Instant)

inductive Column where
  | name
  | code
  | lang
  | encoded
  | active
  | version
  | deletedAt
  | createdAt
  | updatedAt
  deriving DecidableEq, Repr

namespace Column

def text : Column → String
  | .name => "name"
  | .code => "code"
  | .lang => "lang"
  | .encoded => "encoded"
  | .active => "active"
  | .version => "version"
  | .deletedAt => "deleted_at"
  | .createdAt => "created_at"
  | .updatedAt => "updated_at"

def all : List Column :=
  [.name, .code, .lang, .encoded, .active, .version, .deletedAt, .createdAt, .updatedAt]

end Column

inductive Source where
  /-- The value that the row to be inserted has in a column. -/
  | excluded (c : Column)
  | null
  | now
  deriving DecidableEq, Repr

inductive Condition where
  | equals (c : Column) (n : Nat)
  | startsWith (c : Column) (n : Nat)
  | isNull (c : Column)
  deriving DecidableEq, Repr

inductive Direction where
  | unmarked
  | ascending
  | descending
  deriving DecidableEq, Repr

inductive Command where
  /-- Inserts the values of the placeholders; where the name is kept already, sets columns of the
  row that is there. Returns the row. -/
  | insert (columns : List Column) (sets : List (Column × Source))
  | select (conditions : List Condition) (order : List (Column × Direction))
      (cut : Option (Nat × Nat))
  | update (sets : List (Column × Source)) (conditions : List Condition)
  | delete (conditions : List Condition)
  deriving DecidableEq, Repr

/-! ### Text -/

def placeholder (n : Nat) : String := "$" ++ toString n

def joined (between : String) : List String → String
  | [] => ""
  | [item] => item
  | item :: rest => item ++ between ++ joined between rest

def commas (items : List String) : String := joined ", " items

def setText (sets : List (Column × Source)) : String :=
  commas (sets.map fun (c, source) => c.text ++ " = " ++ match source with
    | .excluded c => "EXCLUDED." ++ c.text
    | .null => "NULL"
    | .now => "NOW()")

def Condition.text : Condition → String
  | .equals c n => c.text ++ " = " ++ placeholder n
  | .startsWith c n => "starts_with(" ++ c.text ++ ", " ++ placeholder n ++ ")"
  | .isNull c => c.text ++ " IS NULL"

def whereText (conditions : List Condition) : String :=
  if conditions.isEmpty then ""
  else " WHERE " ++ joined " AND " (conditions.map Condition.text)

def orderText (order : List (Column × Direction)) : String :=
  if order.isEmpty then ""
  else " ORDER BY " ++ commas (order.map fun (c, direction) => c.text ++ match direction with
    | .unmarked => ""
    | .ascending => " ASC"
    | .descending => " DESC")

def cutText : Option (Nat × Nat) → String
  | some (limit, offset) => " LIMIT " ++ placeholder limit ++ " OFFSET " ++ placeholder offset
  | none => ""

def Command.text : Command → String
  | .insert columns sets =>
    "INSERT INTO scripts (" ++ commas (columns.map Column.text) ++ ") VALUES ("
      ++ commas ((List.range' 1 columns.length).map placeholder)
      ++ ") ON CONFLICT (" ++ Column.name.text ++ ") DO UPDATE SET " ++ setText sets
      ++ " RETURNING " ++ commas (Column.all.map Column.text)
  | .select conditions order cut =>
    "SELECT " ++ commas (Column.all.map Column.text) ++ " FROM scripts" ++ whereText conditions
      ++ orderText order ++ cutText cut
  | .update sets conditions => "UPDATE scripts SET " ++ setText sets ++ whereText conditions
  | .delete conditions => "DELETE FROM scripts" ++ whereText conditions

/-! ### Meaning -/

abbrev Tuple := Column → Param

abbrev Contents := String → Option Tuple

def bound (params : List Param) : Nat → Param
  | 0 => .null
  | n + 1 => params[n]?.getD .null

namespace Param

def compare : Param → Param → Ordering
  | .text a, .text b => Ord.compare a b
  | .bool a, .bool b => Ord.compare a b
  | .int a, .int b => Ord.compare a b
  | .time a, .time b => a.compare b
  | .null, .null => .eq
  | .null, _ => .gt
  | _, .null => .lt
  | _, _ => .eq

def text? : Param → Option String
  | .text s => some s
  | _ => none

def bool? : Param → Option Bool
  | .bool b => some b
  | _ => none

def int? : Param → Option Int
  | .int n => some n
  | _ => none

def time? : Param → Option Instant
  | .time t => some t
  | _ => none

end Param

/-- Nothing is equal to null, and null starts with nothing. -/
def Condition.holds (params : List Param) (t : Tuple) : Condition → Bool
  | .equals c n => t c != .null && t c == bound params n
  | .startsWith c n =>
    match t c, bound params n with
    | .text s, .text start => Text.startsWith s start
    | _, _ => false
  | .isNull c => t c == .null

namespace Tuple

def raw (t : Tuple) : RawRow :=
  ⟨(t .name).text?, (t .code).text?, (t .lang).text?, (t .encoded).text?, (t .active).bool?,
    (t .version).int?, (t .deletedAt).time?, (t .createdAt).time?, (t .updatedAt).time?⟩

def inserted (columns : List Column) (params : List Param) : Tuple := fun c =>
  if c ∈ columns then bound params (columns.idxOf c + 1) else .null

def set (t : Tuple) (now : Instant) (excluded : Tuple) (sets : List (Column × Source)) : Tuple :=
  fun c =>
    match sets.lookup c with
    | some (.excluded other) => excluded other
    | some .null => .null
    | some .now => .time now
    | none => t c

/-- The checks of the table: the name is not made of spaces only, the version is not negative, and
only two columns may be null. -/
structure Allowed (t : Tuple) : Prop where
  name : ∃ s, t .name = .text s ∧ ∃ ch ∈ s.toList, ch ≠ ' '
  version : ∃ n, t .version = .int n ∧ 0 ≤ n
  present : ∀ c, t c = .null → c = .encoded ∨ c = .deletedAt

end Tuple

def filterConditions (q : Listing) : List (Nat → Condition) :=
  (q.language.toList.map fun _ => .equals .lang)
    ++ (q.active.toList.map fun _ => .equals .active)
    ++ (q.nameStart.toList.map fun _ => .startsWith .name)

def numbered (n : Nat) : List (Nat → Condition) → List Condition
  | [] => []
  | condition :: rest => condition n :: numbered (n + 1) rest

def sortTerms (key : SortKey) (descending : Bool) : List (Column × Direction) :=
  let direction := if descending then Direction.descending else .ascending
  let first : List Column := match key with
    | .name => []
    | .language => [.lang]
    | .updatedAt => [.updatedAt]
    | .version => [.version]
  (first ++ [Column.name]).map fun c => (c, direction)

def writtenColumns : List Column :=
  [.name, .code, .lang, .encoded, .active, .version, .createdAt, .updatedAt]

def overwrites : List (Column × Source) :=
  [(.code, .excluded .code), (.lang, .excluded .lang), (.encoded, .excluded .encoded),
    (.active, .excluded .active), (.version, .excluded .version), (.deletedAt, .null),
    (.createdAt, .excluded .createdAt), (.updatedAt, .excluded .updatedAt)]

/-- The command that a statement on scripts is the text of. -/
def Statement.command? : Statement → Option Command
  | .upsert _ => some (.insert writtenColumns overwrites)
  | .find _ => some (.select [.equals .name 1, .isNull .deletedAt] [] none)
  | .page q =>
    let filters := filterConditions q
    some (.select (.isNull .deletedAt :: numbered 1 filters) (sortTerms q.orderBy q.descending)
      (some (filters.length + 1, filters.length + 2)))
  | .softDelete _ => some (.update [(.deletedAt, .now)] [.equals .name 1, .isNull .deletedAt])
  | .hardDelete _ => some (.delete [.equals .name 1])
  | .loadAll => some (.select [] [(.name, .unmarked)] none)
  | .ping | .createTable => none

end ScriptHost.Table
