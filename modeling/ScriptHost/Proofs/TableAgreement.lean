import ScriptHost.Proofs.TableMirror

/-!
An archive in a table and an archive in memory return the same, operation for operation, when the
table gives the statements that it is asked their usual meaning.
-/
namespace ScriptHost

open Table

def Use.statement : Use → Statement
  | .put s => .upsert s
  | .get name => .find name
  | .page q => .page q
  | .softDelete name => .softDelete name
  | .hardDelete name => .hardDelete name
  | .loadAll => .loadAll

namespace Use

variable {use : Use} {kept kept' last : Contents} {a : MemoryArchive} {reply : Table.Reply}
  {command : Command} {uses : List Use} {replies : List Table.Reply}

theorem asked_perform (use : Use) (c : Connection) :
    (use.perform c).2.asked = use.statement :: c.asked := by
  rw [← Connection.asked_ask]
  cases use with
  | put s => exact congrArg Connection.asked (Connection.oneRow_snd _ c)
  | get name =>
    rw [statement, ← Connection.firstRow?_snd]
    simp only [perform, Archive.get]
    split <;> rename_i read <;> rw [read]
  | page q => exact congrArg Connection.asked (Connection.allRows_snd _ c)
  | softDelete name | hardDelete name =>
    exact congrArg Connection.asked (Connection.changed_snd _ c)
  | loadAll => exact congrArg Connection.asked (Connection.allRows_snd _ c)

theorem exists_command (use : Use) : ∃ command, use.statement.command? = some command := by
  cases use <;> exact ⟨_, rfl⟩

end Use

end ScriptHost
