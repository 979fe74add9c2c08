import ScriptHost.Named
import ScriptHost.Failure

/-!
The catalog of scripts: which names are taken, and the edition that each live name shows. It is
built from an archive and written through to it.
-/
namespace ScriptHost

structure Policy where
  defaultActive : Bool
  compileTimeoutMs : Nat
  deriving DecidableEq, Repr

/-- What a name stands for. A deleted script is hidden and still reserves its name. -/
inductive Slot where
  | vacant
  | live (e : Edition)
  | deleted (e : Edition)
  deriving DecidableEq, Repr

def Slot.live? : Slot → Option Edition
  | .live e => some e
  | _ => none

def Slot.isVacant : Slot → Bool
  | .vacant => true
  | _ => false

structure Catalog where
  engines : EngineSet
  policy : Policy
  slots : List (String × Slot)

structure Status where
  message : String
  script : Script
  deriving DecidableEq, Repr

inductive Activation where
  | changed
  | unchanged
  | notFound
  deriving DecidableEq, Repr

namespace Slot

/-- What a record becomes when a catalog is opened: a script that no engine can run, or whose code
does not decode, is treated as deleted. -/
def ofRecord (engines : EngineSet) (r : Record) : Slot :=
  let decoded := Encoding.source? r.script.encoding r.script.code
  let edition : Edition := ⟨r.script, decoded.getD r.script.code⟩
  if r.deleted || !engines.supports r.script.language || decoded.isNone then .deleted edition
  else .live edition

end Slot

namespace Catalog

def ofRecords (engines : EngineSet) (policy : Policy) (records : List Record) : Catalog :=
  ⟨engines, policy, Named.ofList (records.map fun r => (r.script.name, Slot.ofRecord engines r))⟩

def «open» {σ : Type} [Archive σ] (engines : EngineSet) (policy : Policy) (a : σ) :
    Except Failure Catalog × σ :=
  match Archive.loadAll a with
  | (.ok records, a) => (.ok (ofRecords engines policy records), a)
  | (.error e, a) => (.error (.archive e), a)

def slot (c : Catalog) (name : String) : Slot := (Named.find? name c.slots).getD .vacant

def get? (c : Catalog) (name : String) : Option Edition := (c.slot name).live?

def isTaken (c : Catalog) (name : String) : Bool := !(c.slot name).isVacant

def publish (name : String) (s : Slot) (c : Catalog) : Catalog :=
  { c with slots := if s.isVacant then Named.erase name c.slots else Named.insert name s c.slots }

/-- What the compile check of an engine means for the script. -/
def compileVerdict (policy : Policy) (name : String) : Outcome Unit → Except Failure Unit
  | .done () => .ok ()
  | .failed (.timeout ms) => .error (.unchecked ms)
  | .failed e => .error (.ofEngine name e)
  | .never => .error (.unchecked policy.compileTimeoutMs)

def compile (c : Catalog) (d : Admitted) : Except Failure Unit :=
  match c.engines.get? d.language with
  | none => .error (.noEngine d.language)
  | some engine => compileVerdict c.policy d.name (engine.check d.source)

end Catalog

end ScriptHost
