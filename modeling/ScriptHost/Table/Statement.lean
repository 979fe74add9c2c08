import ScriptHost.Archive.Basic

/-!
The statements that a table of scripts is asked, as SQL text and bound values. No value ever stands
in the text: a statement of one shape has one text.
-/
namespace ScriptHost.Table

open Time (Instant)

inductive Param where
  | null
  | text (s : String)
  | bool (b : Bool)
  | int (n : Int)
  | time (t : Instant)
  deriving DecidableEq, Repr

inductive Statement where
  | upsert (s : Script)
  | find (name : String)
  | page (q : Listing)
  | softDelete (name : String)
  | hardDelete (name : String)
  | loadAll
  | ping
  | createTable
  deriving DecidableEq, Repr

def columns : String :=
  "name, code, lang, encoded, active, version, deleted_at, created_at, updated_at"

def orderClause (key : SortKey) (descending : Bool) : String :=
  match key, descending with
  | .name, false => "name ASC"
  | .name, true => "name DESC"
  | .language, false => "lang ASC, name ASC"
  | .language, true => "lang DESC, name DESC"
  | .updatedAt, false => "updated_at ASC, name ASC"
  | .updatedAt, true => "updated_at DESC, name DESC"
  | .version, false => "version ASC, name ASC"
  | .version, true => "version DESC, name DESC"

inductive Piece where
  | text (s : String)
  | bind (p : Param)
  deriving DecidableEq, Repr

/-- The text of the pieces; placeholders are numbered from `n + 1` on. -/
def piecesText : Nat → List Piece → String
  | _, [] => ""
  | n, .text s :: rest => s ++ piecesText n rest
  | n, .bind _ :: rest => "$" ++ toString (n + 1) ++ piecesText (n + 1) rest

def piecesParams : List Piece → List Param
  | [] => []
  | .text _ :: rest => piecesParams rest
  | .bind p :: rest => p :: piecesParams rest

def scriptParams (s : Script) : List Param :=
  [.text s.name, .text s.code, .text s.language.tag,
    match s.encoding with | some e => .text e.tag | none => .null,
    .bool s.active, .int s.version, .time s.createdAt.toColumn, .time s.updatedAt.toColumn]

def bindAll : List Param → List Piece
  | [] => []
  | [p] => [.bind p]
  | p :: ps => .bind p :: .text ", " :: bindAll ps

def filterPieces (q : Listing) : List Piece :=
  (match q.language with
    | some l => [.text " AND lang = ", .bind (.text l.tag)]
    | none => [])
  ++ (match q.active with
    | some b => [.text " AND active = ", .bind (.bool b)]
    | none => [])
  ++ (match q.nameStart with
    | some s => [.text " AND starts_with(name, ", .bind (.text s), .text ")"]
    | none => [])

def tableDefinition : String :=
  "-- Script documents managed by the registry.\n"
  ++ "--\n"
  ++ "-- Soft-deleted rows keep their name reserved until hard-deleted.\n"
  ++ "\n"
  ++ "CREATE TABLE scripts (\n"
  ++ "    name        TEXT        PRIMARY KEY CHECK (btrim(name) <> ''),\n"
  ++ "    code        TEXT        NOT NULL,\n"
  ++ "    lang        TEXT        NOT NULL,\n"
  ++ "    encoded     TEXT        NULL,\n"
  ++ "    active      BOOLEAN     NOT NULL DEFAULT TRUE,\n"
  ++ "    version     BIGINT      NOT NULL DEFAULT 0 CHECK (version >= 0),\n"
  ++ "    deleted_at  TIMESTAMPTZ NULL,\n"
  ++ "    created_at  TIMESTAMPTZ NOT NULL DEFAULT NOW(),\n"
  ++ "    updated_at  TIMESTAMPTZ NOT NULL DEFAULT NOW()\n"
  ++ ");\n"
  ++ "\n"
  ++ "CREATE INDEX idx_scripts_lang ON scripts (lang) WHERE deleted_at IS NULL;\n"
  ++ "CREATE INDEX idx_scripts_updated_at ON scripts (updated_at) WHERE deleted_at IS NULL;\n"

namespace Statement

def pieces : Statement → List Piece
  | .upsert s =>
    .text ("INSERT INTO scripts "
      ++ "(name, code, lang, encoded, active, version, created_at, updated_at) VALUES (")
      :: bindAll (scriptParams s)
      ++ [.text (") ON CONFLICT (name) DO UPDATE SET code = EXCLUDED.code, lang = EXCLUDED.lang, "
        ++ "encoded = EXCLUDED.encoded, active = EXCLUDED.active, version = EXCLUDED.version, "
        ++ "deleted_at = NULL, created_at = EXCLUDED.created_at, "
        ++ "updated_at = EXCLUDED.updated_at RETURNING " ++ columns)]
  | .find name =>
    [.text ("SELECT " ++ columns ++ " FROM scripts WHERE name = "), .bind (.text name),
      .text " AND deleted_at IS NULL"]
  | .page q =>
    .text ("SELECT " ++ columns ++ " FROM scripts WHERE deleted_at IS NULL")
      :: (filterPieces q
        ++ [.text (" ORDER BY " ++ orderClause q.orderBy q.descending), .text " LIMIT ",
          .bind (.int q.pageSize), .text " OFFSET ", .bind (.int q.pageStart)])
  | .softDelete name =>
    [.text "UPDATE scripts SET deleted_at = NOW() WHERE name = ", .bind (.text name),
      .text " AND deleted_at IS NULL"]
  | .hardDelete name => [.text "DELETE FROM scripts WHERE name = ", .bind (.text name)]
  | .loadAll => [.text ("SELECT " ++ columns ++ " FROM scripts ORDER BY name")]
  | .ping => [.text "SELECT 1"]
  | .createTable => [.text tableDefinition]

def sql (s : Statement) : String := piecesText 0 s.pieces

def params (s : Statement) : List Param := piecesParams s.pieces

end Statement

end ScriptHost.Table
