import ScriptHost.Archive.Basic
import ScriptHost.Script.Document

/-!
Rows of the table of scripts. Language and encoding are kept as texts there, so a row may fail to be
a record.
-/
namespace ScriptHost.Table

open Time (Instant)

structure Row where
  name : String
  code : String
  lang : String
  encoded : Option String
  active : Bool
  version : Int
  deletedAt : Option Instant
  createdAt : Instant
  updatedAt : Instant
  deriving DecidableEq, Repr

namespace Row

def json (r : Row) : Json :=
  Json.object [("name", .str r.name), ("code", .str r.code), ("lang", .str r.lang),
    ("encoded", Json.ofOption .str r.encoded), ("active", .bool r.active),
    ("version", .int r.version), ("deleted_at", Json.ofOption Time.Instant.json r.deletedAt),
    ("created_at", r.createdAt.json), ("updated_at", r.updatedAt.json)]

def toRecord (r : Row) : Except ArchiveError Record :=
  match Language.named? r.lang with
  | none => .error (.corrupt r.name ("unknown language '" ++ r.lang ++ "'"))
  | some language =>
    let record (encoding : Option Encoding) : Record :=
      ⟨⟨r.name, r.code, language, encoding, r.active, r.version, r.createdAt, r.updatedAt⟩,
        r.deletedAt.isSome⟩
    match r.encoded with
    | none => .ok (record none)
    | some tag =>
      match Encoding.named? tag with
      | some e => .ok (record (some e))
      | none => .error (.corrupt r.name ("unknown encoding '" ++ tag ++ "'"))

def ofScript (s : Script) : Row :=
  ⟨s.name, s.code, s.language.tag, s.encoding.map Encoding.tag, s.active, s.version, none,
    s.createdAt.toColumn, s.updatedAt.toColumn⟩

/-- The records of the rows that stand for one; the others are passed over. -/
def records (rows : List Row) : List Record := rows.filterMap fun r => r.toRecord.toOption

end Row

/-- A row as it comes from the database, where any column may be null. -/
structure RawRow where
  name : Option String
  code : Option String
  lang : Option String
  encoded : Option String
  active : Option Bool
  version : Option Int
  deletedAt : Option Instant
  createdAt : Option Instant
  updatedAt : Option Instant
  deriving Repr

inductive TableError where
  | rejected (text : String)
  | unexpectedNull (column : String)
  | noRow
  | configuration (text : String)
  | communication (text : String)
  deriving DecidableEq, Repr

def TableError.message : TableError → String
  | .rejected text => "error returned from database: " ++ text
  | .unexpectedNull column =>
    "error occurred while decoding column \"" ++ column
      ++ "\": unexpected null; try decoding as an `Option`"
  | .noRow => "no rows returned by a query that expected to return at least one row"
  | .configuration text => "error with configuration: " ++ text
  | .communication text => "error communicating with database: " ++ text

def need {α : Type} (column : String) : Option α → Except TableError α
  | some a => .ok a
  | none => .error (.unexpectedNull column)

/-- The first column that must not be null and is, in the order of the columns, is reported. -/
def RawRow.toRow (r : RawRow) : Except TableError Row := do
  let name ← need "name" r.name
  let code ← need "code" r.code
  let lang ← need "lang" r.lang
  let active ← need "active" r.active
  let version ← need "version" r.version
  let createdAt ← need "created_at" r.createdAt
  let updatedAt ← need "updated_at" r.updatedAt
  return ⟨name, code, lang, r.encoded, active, version, r.deletedAt, createdAt, updatedAt⟩

end ScriptHost.Table
