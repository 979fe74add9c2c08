import ScriptHost.Archive.Memory

/-!
The operations of an archive as values, and what they return one after another.
-/
namespace ScriptHost

inductive Use where
  | put (s : Script)
  | get (name : String)
  | page (q : Listing)
  | softDelete (name : String)
  | hardDelete (name : String)
  | loadAll
  deriving DecidableEq, Repr

inductive Yield where
  | done (r : Except ArchiveError Unit)
  | script (r : Except ArchiveError (Option Script))
  | scripts (r : Except ArchiveError (List Script))
  | found (r : Except ArchiveError Bool)
  | records (r : Except ArchiveError (List Record))

namespace Use

variable {σ : Type} [Archive σ]

def perform (use : Use) (a : σ) : Yield × σ :=
  match use with
  | .put s => let (r, a) := Archive.put s a; (.done r, a)
  | .get name => let (r, a) := Archive.get name a; (.script r, a)
  | .page q => let (r, a) := Archive.page q a; (.scripts r, a)
  | .softDelete name => let (r, a) := Archive.softDelete name a; (.found r, a)
  | .hardDelete name => let (r, a) := Archive.hardDelete name a; (.found r, a)
  | .loadAll => let (r, a) := Archive.loadAll a; (.records r, a)

def inTurn : List Use → σ → List Yield × σ
  | [], a => ([], a)
  | use :: rest, a =>
    let (y, a) := use.perform a
    let (ys, a) := inTurn rest a
    (y :: ys, a)

end Use

end ScriptHost
