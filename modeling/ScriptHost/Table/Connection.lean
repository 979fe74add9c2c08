import ScriptHost.Table.Statement
import ScriptHost.Table.Row

/-!
A connection that carries statements to a database whose answers are laid out in advance. It keeps a
record of what was asked. The archive of a table is defined over it.
-/
namespace ScriptHost.Table

/-- An answer laid out in advance. Without rows of its own it fits the statement it meets. -/
structure Reply where
  rejection : Option String := none
  rows : Option (List RawRow) := none
  affected : Nat := 1
  deriving Repr

structure Connection where
  asked : List Statement
  replies : List Reply
  deriving Repr

def raw (r : Row) : RawRow :=
  ⟨some r.name, some r.code, some r.lang, r.encoded, some r.active, some r.version, r.deletedAt,
    some r.createdAt, some r.updatedAt⟩

/-- The rows of an answer: those laid out, else the stored row of a script, else none. -/
def Reply.rowsFor (reply : Reply) (s : Statement) : List RawRow :=
  match reply.rows with
  | some rows => rows
  | none =>
    match s with
    | .upsert script => [raw (Row.ofScript script)]
    | _ => []

namespace Connection

def ofReplies (replies : List Reply) : Connection := ⟨[], replies⟩

def ask (s : Statement) (c : Connection) : Except TableError Reply × Connection :=
  let (reply, replies) := match c.replies with
    | r :: rest => (r, rest)
    | [] => ({}, [])
  let c : Connection := ⟨s :: c.asked, replies⟩
  match reply.rejection with
  | some text => (.error (.rejected text), c)
  | none => (.ok reply, c)

def allRows (s : Statement) (c : Connection) : Except TableError (List Row) × Connection :=
  match c.ask s with
  | (.ok reply, c) => ((reply.rowsFor s).mapM RawRow.toRow, c)
  | (.error e, c) => (.error e, c)

def firstRow? (s : Statement) (c : Connection) : Except TableError (Option Row) × Connection :=
  match c.ask s with
  | (.ok reply, c) =>
    match reply.rowsFor s with
    | r :: _ => (r.toRow.map some, c)
    | [] => (.ok none, c)
  | (.error e, c) => (.error e, c)

def oneRow (s : Statement) (c : Connection) : Except TableError Row × Connection :=
  match c.firstRow? s with
  | (.ok (some r), c) => (.ok r, c)
  | (.ok none, c) => (.error .noRow, c)
  | (.error e, c) => (.error e, c)

def changed (s : Statement) (c : Connection) : Except TableError Bool × Connection :=
  match c.ask s with
  | (.ok reply, c) => (.ok (0 < reply.affected), c)
  | (.error e, c) => (.error e, c)

def upsert (s : Script) (c : Connection) : Except TableError Row × Connection :=
  c.oneRow (.upsert s)

def isHealthy (c : Connection) : Except TableError Unit × Connection :=
  match c.ask .ping with
  | (.ok _, c) => (.ok (), c)
  | (.error e, c) => (.error e, c)

def backend {α : Type} : Except TableError α → Except ArchiveError α
  | .ok a => .ok a
  | .error e => .error (.backend e.message)

instance : Archive Connection where
  put s c := let (r, c) := c.upsert s; ((backend r).map fun _ => (), c)
  get name c :=
    match c.firstRow? (.find name) with
    | (.ok (some row), c) => (row.toRecord.map fun r => some r.script, c)
    | (.ok none, c) => (.ok none, c)
    | (.error e, c) => (.error (.backend e.message), c)
  page q c :=
    let (r, c) := c.allRows (.page q)
    ((backend r).map fun rows => (Row.records rows).map (·.script), c)
  softDelete name c := let (r, c) := c.changed (.softDelete name); (backend r, c)
  hardDelete name c := let (r, c) := c.changed (.hardDelete name); (backend r, c)
  loadAll c := let (r, c) := c.allRows .loadAll; ((backend r).map Row.records, c)

theorem asked_ask (s : Statement) (c : Connection) : (c.ask s).2.asked = s :: c.asked := by
  unfold ask
  dsimp only
  split <;> split <;> rfl

theorem firstRow?_snd (s : Statement) (c : Connection) : (c.firstRow? s).2 = (c.ask s).2 := by
  unfold firstRow?
  split
  · rename_i asked
    rw [asked]
    split <;> rfl
  · rename_i asked
    rw [asked]

theorem oneRow_snd (s : Statement) (c : Connection) : (c.oneRow s).2 = (c.ask s).2 := by
  rw [← firstRow?_snd, oneRow]
  split <;> rename_i asked <;> rw [asked]

theorem allRows_snd (s : Statement) (c : Connection) : (c.allRows s).2 = (c.ask s).2 := by
  unfold allRows
  split <;> rename_i asked <;> rw [asked]

theorem changed_snd (s : Statement) (c : Connection) : (c.changed s).2 = (c.ask s).2 := by
  unfold changed
  split <;> rename_i asked <;> rw [asked]

end Connection

end ScriptHost.Table
