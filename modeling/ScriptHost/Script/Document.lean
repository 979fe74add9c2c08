import ScriptHost.Json.Shape
import ScriptHost.Time.Rfc3339
import ScriptHost.Script.Basic

/-!
Scripts as JSON documents. Reading is strict: tags are exact, and every field but the encoding must
be there.
-/
namespace ScriptHost

open Time

def Time.Instant.json (t : Instant) : Json := .str (Rfc3339.render t)

namespace Script

def json (s : Script) : Json :=
  Json.object ([("name", .str s.name), ("code", .str s.code), ("lang", .str s.language.tag),
    ("active", .bool s.active), ("version", .int s.version), ("created_at", s.createdAt.json),
    ("updated_at", s.updatedAt.json)] ++ match s.encoding with
      | some e => [("encoded", .str e.tag)]
      | none => [])

/-- The fields of a document as far as they have been read. -/
structure Partial where
  name : Option String
  code : Option String
  language : Option Language
  encoding : Option (Option Encoding)
  active : Option Bool
  version : Option Int
  createdAt : Option Instant
  updatedAt : Option Instant

def acceptLanguage (tag : String) : Except String Language :=
  match Language.ofTag? tag with
  | some l => .ok l
  | none => .error (Json.unknownWord tag (Language.all.map Language.tag))

def acceptEncoding (tag : String) : Except String Encoding :=
  match Encoding.ofTag? tag with
  | some e => .ok e
  | none => .error (Json.unknownWord tag (Encoding.all.map Encoding.tag))

def acceptInstant (text : String) : Except String Instant :=
  match Rfc3339.parse text with
  | .ok t => .ok t
  | .error e => .error e.message

def fitsVersion (n : Int) : Bool := -twoTo 63 ≤ n && n < twoTo 63

def readInstant (s : List UInt8) : Json.Read Instant s :=
  Json.readStringAs "an RFC 3339 formatted date and time string" acceptInstant s

def store {α : Type} {s : List UInt8} (put : α → Partial) : Json.Read α s → Json.Read Partial s
  | .ok (a, r) => .ok (put a, r)
  | .error e => .error e

def document : Json.Record Partial where
  name := "ScriptDocument"
  fields := ["name", "code", "lang", "encoded", "active", "version", "created_at", "updated_at"]
  empty := ⟨none, none, none, none, none, none, none, none⟩
  has i p := match i with
    | 0 => p.name.isSome
    | 1 => p.code.isSome
    | 2 => p.language.isSome
    | 3 => p.encoding.isSome
    | 4 => p.active.isSome
    | 5 => p.version.isSome
    | 6 => p.createdAt.isSome
    | _ => p.updatedAt.isSome
  read i p s := match i with
    | 0 => store (fun a => { p with name := some a }) (Json.readTextValue s)
    | 1 => store (fun a => { p with code := some a }) (Json.readTextValue s)
    | 2 => store (fun a => { p with language := some a }) (Json.readWord acceptLanguage s)
    | 3 => store (fun a => { p with encoding := some a })
        (Json.readOptional (Json.readWord acceptEncoding) s)
    | 4 => store (fun a => { p with active := some a }) (Json.readBoolValue s)
    | 5 => store (fun a => { p with version := some a }) (Json.readIntValue "i64" fitsVersion s)
    | 6 => store (fun a => { p with createdAt := some a }) (readInstant s)
    | _ => store (fun a => { p with updatedAt := some a }) (readInstant s)
  optional i := i == 3
  omissible i := i == 3

def Partial.complete (p : Partial) : Option Script := do
  return ⟨← p.name, ← p.code, ← p.language, p.encoding.getD none, ← p.active, ← p.version,
    ← p.createdAt, ← p.updatedAt⟩

def parse (text : String) : Except Json.ReadError (Option Script) :=
  match Json.readAll document.readRecord (Text.Utf8.bytesOf text) with
  | .ok p => .ok p.complete
  | .error e => .error e

end Script

end ScriptHost
