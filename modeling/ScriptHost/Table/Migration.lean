import ScriptHost.Table.Connection

/-!
Bringing a database up to date. What was applied before is known by version and checksum; it must
agree with the migrations at hand, and what is missing is applied.
-/
namespace ScriptHost.Table

structure Migration where
  version : Int
  checksum : String
  statement : Statement
  deriving Repr

structure Applied where
  version : Int
  checksum : String
  deriving DecidableEq, Repr

inductive MigrationError where
  | dirty (version : Int)
  | missing (version : Int)
  | modified (version : Int)
  | failed (version : Int) (e : TableError)
  deriving Repr

def MigrationError.message : MigrationError → String
  | .dirty v => "migration " ++ toString v
      ++ " is partially applied; fix and remove row from `_sqlx_migrations` table"
  | .missing v => "migration " ++ toString v
      ++ " was previously applied but is missing in the resolved migrations"
  | .modified v => "migration " ++ toString v ++ " was previously applied but has been modified"
  | .failed v e => "while executing migration " ++ toString v ++ ": " ++ e.message

def migrations : List Migration :=
  [⟨20261016000001, "e16918ce22bba9d9d1f7b48b2816870bf314b0cd43467341d111dbdcea52e8fb"
    ++ "73232dd969bd03383ba3ca864d198f27", .createTable⟩]

def applyOne (applied : List Applied) (m : Migration) (c : Connection) :
    Except MigrationError Unit × Connection :=
  match applied.findRev? (·.version = m.version) with
  | some a => (if a.checksum = m.checksum then .ok () else .error (.modified m.version), c)
  | none =>
    match c.ask m.statement with
    | (.ok _, c) => (.ok (), c)
    | (.error e, c) => (.error (.failed m.version e), c)

def applyAll (applied : List Applied) :
    List Migration → Connection → Except MigrationError Unit × Connection
  | [], c => (.ok (), c)
  | m :: ms, c =>
    match applyOne applied m c with
    | (.ok (), c) => applyAll applied ms c
    | (.error e, c) => (.error e, c)

/-- A migration that failed halfway, or one that is not known here, stops everything. -/
def migrate (applied : List Applied) (dirty : Option Int) (c : Connection) :
    Except MigrationError Unit × Connection :=
  match dirty with
  | some v => (.error (.dirty v), c)
  | none =>
    match applied.find? fun a => !migrations.any (·.version = a.version) with
    | some a => (.error (.missing a.version), c)
    | none => applyAll applied migrations c

end ScriptHost.Table
