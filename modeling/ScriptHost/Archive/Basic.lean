import ScriptHost.Script.Basic

/-!
An archive keeps scripts under their names. It also keeps deleted ones, marked as such, until they
are removed for good. A listing says which scripts are shown, in which order, and which page of
them.
-/
namespace ScriptHost

inductive SortKey where
  | name
  | language
  | updatedAt
  | version
  deriving DecidableEq, Repr

structure Listing where
  language : Option Language := none
  active : Option Bool := none
  nameStart : Option String := none
  orderBy : SortKey := .name
  descending : Bool := false
  limit : Option Int := none
  offset : Option Int := none
  deriving DecidableEq, Repr

namespace Listing

def defaultLimit : Int := 100

def maxLimit : Int := 1000

def pageSize (q : Listing) : Int := max 1 (min maxLimit (q.limit.getD defaultLimit))

def pageStart (q : Listing) : Int := max 0 (q.offset.getD 0)

def accepts (q : Listing) (s : Script) : Bool :=
  q.language.all (· == s.language) && q.active.all (· == s.active)
    && q.nameStart.all (Text.startsWith s.name)

def compareBy (key : SortKey) (a b : Script) : Ordering :=
  match key with
  | .name => compare a.name b.name
  | .language => (compare a.language.tag b.language.tag).then (compare a.name b.name)
  | .updatedAt => (a.updatedAt.compare b.updatedAt).then (compare a.name b.name)
  | .version => (compare a.version b.version).then (compare a.name b.name)

def order (q : Listing) (a b : Script) : Ordering :=
  if q.descending then (compareBy q.orderBy a b).swap else compareBy q.orderBy a b

def page (q : Listing) (scripts : List Script) : List Script :=
  (((scripts.filter q.accepts).mergeSort fun a b => q.order a b != .gt).drop
    q.pageStart.toNat).take q.pageSize.toNat

theorem pageSize_pos (q : Listing) : 1 ≤ q.pageSize := Int.le_max_left _ _

end Listing

/-! ### Archives -/

inductive ArchiveError where
  | backend (text : String)
  /-- What is kept under a name is no script. -/
  | corrupt (name reason : String)
  deriving DecidableEq, Repr

def ArchiveError.message : ArchiveError → String
  | .backend text => text
  | .corrupt name reason => "corrupt record '" ++ name ++ "': " ++ reason

structure Record where
  script : Script
  deleted : Bool
  deriving DecidableEq, Repr

/-- The operations of an archive on its state. Each answers or fails, and leaves a new state. -/
class Archive (σ : Type) where
  put : Script → σ → Except ArchiveError Unit × σ
  get : String → σ → Except ArchiveError (Option Script) × σ
  page : Listing → σ → Except ArchiveError (List Script) × σ
  /-- Marks the live script of a name as deleted; tells whether there was one. -/
  softDelete : String → σ → Except ArchiveError Bool × σ
  /-- Removes what is kept under a name; tells whether there was anything. -/
  hardDelete : String → σ → Except ArchiveError Bool × σ
  loadAll : σ → Except ArchiveError (List Record) × σ

end ScriptHost
