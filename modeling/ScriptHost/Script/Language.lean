import ScriptHost.Text.Blank

/-!
The languages a script can be written in, and the tags people write for them.
-/
namespace ScriptHost

inductive Language where
  | lua
  | shell
  | python
  | javascript
  deriving DecidableEq, Repr

namespace Language

def all : List Language := [.lua, .shell, .python, .javascript]

def tag : Language → String
  | .lua => "lua"
  | .shell => "shell"
  | .python => "python"
  | .javascript => "javascript"

def ofTag? (s : String) : Option Language := all.find? (·.tag = s)

/-- The language a person means: case and surrounding white space do not matter, and the usual
short names are understood. -/
def named? (s : String) : Option Language :=
  match Text.lower (Text.trim s) with
  | "lua" => some .lua
  | "shell" | "sh" | "bash" => some .shell
  | "python" | "py" => some .python
  | "javascript" | "js" | "node" => some .javascript
  | _ => none

def unknownMessage (s : String) : String := "unknown script language: " ++ s

theorem tag_injective {a b : Language} (h : a.tag = b.tag) : a = b := by
  cases a <;> cases b <;> simp_all [tag]

theorem lower_trim_tag (l : Language) : Text.lower (Text.trim l.tag) = l.tag := by
  refine String.toList_inj.mp ?_
  rw [Text.lower, String.toList_map]
  cases l <;> decide

theorem named?_tag (l : Language) : named? l.tag = some l := by
  rw [named?, lower_trim_tag]
  cases l <;> rfl

end Language

end ScriptHost
