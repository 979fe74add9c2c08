import ScriptHost.Archive.Given
import ScriptHost.Catalog.Traffic

/-!
A listing while calls are under way. It reads a page of the archive in one step. What the names of
the page stand for it looks up one after another, each in a step of its own, and the calls may go on
between all of these steps.
-/
namespace ScriptHost

inductive Browse where
  | idle
  | begun
  | looking (pending : List Script) (found : List Edition)
  | done (r : Except Failure (List Edition))

inductive Actor where
  | call (i : Nat)
  | listing
  deriving DecidableEq

def Actor.call? : Actor → Option Nat
  | .call i => some i
  | .listing => none

def Traffic.glance (q : Listing) (m : Traffic) (name : String) : Option Edition :=
  (m.slot name).live?.filter fun e => q.accepts e.script

def Browse.next (q : Listing) (fault : Option ArchiveError) (m : Traffic) : Browse → Browse
  | .idle => .begun
  | .begun =>
    match (Archive.page q (⟨fault, m.archive⟩ : FragileArchive)).1 with
    | .ok scripts => .looking scripts []
    | .error e => .done (.error (.archive e))
  | .looking (s :: pending) found => .looking pending (found ++ (m.glance q s.name).toList)
  | .looking [] found => .done (.ok found)
  | .done r => .done r

structure Browsing where
  traffic : Traffic
  browse : Browse

namespace Browsing

variable (calls : Nat → Call) (q : Listing) (fault : Option ArchiveError)

def step (b : Browsing) : Actor → Browsing
  | .call i => { b with traffic := b.traffic.step calls i }
  | .listing => { b with browse := b.browse.next q fault b.traffic }

def run (b : Browsing) (schedule : List Actor) : Browsing := schedule.foldl (step calls q fault) b

def opened (engines : EngineSet) (policy : Policy) (records : List Record) (hub : Hub) : Browsing :=
  ⟨Traffic.opened engines policy records hub, .idle⟩

end Browsing

end ScriptHost
