import ScriptHost.Text.Base64
import ScriptHost.Script.Language
import ScriptHost.Time.Instant
import ScriptHost.Power

/-!
A script as it is administered and kept, and an edition of it: the script together with the source
that engines run. The code of a script may be written down in an encoding.
-/
namespace ScriptHost

open Time (Instant)

inductive Encoding where
  | plain
  | base64
  deriving DecidableEq, Repr

namespace Encoding

def all : List Encoding := [.plain, .base64]

def tag : Encoding → String
  | .plain => "PLAIN"
  | .base64 => "BASE64"

def ofTag? (s : String) : Option Encoding := all.find? (·.tag = s)

def named? (s : String) : Option Encoding := ofTag? (Text.upper (Text.trim s))

theorem ofTag?_tag (e : Encoding) : ofTag? e.tag = some e := by
  cases e <;> simp [ofTag?, all, tag]

theorem upper_trim_tag (e : Encoding) : Text.upper (Text.trim e.tag) = e.tag := by
  refine String.toList_inj.mp ?_
  rw [Text.upper, String.toList_map]
  cases e <;> decide

theorem named?_tag (e : Encoding) : named? e.tag = some e := by
  rw [named?, upper_trim_tag, ofTag?_tag]

/-- The source that a code text stands for. Encoded code may have white space around it, must be
UTF-8 once decoded, and must not decode to a blank text. -/
def source? (encoding : Option Encoding) (code : String) : Option String :=
  match encoding with
  | none | some .plain => some code
  | some .base64 => do
    let bytes ← Text.Base64.decode? (Text.trimBoth code.toList)
    let source ← Text.Utf8.text? bytes
    if Text.blank source then none else some source

end Encoding

structure Script where
  name : String
  code : String
  language : Language
  encoding : Option Encoding
  active : Bool
  /-- A signed 64-bit number: 0 for a new script, one more after every update. -/
  version : Int
  createdAt : Instant
  updatedAt : Instant
  deriving DecidableEq, Repr

/-- The version after this one; behind the greatest one the count starts again at the least. -/
def nextVersion (v : Int) : Int := if v = twoTo 63 - 1 then -twoTo 63 else v + 1

structure Edition where
  script : Script
  source : String
  deriving DecidableEq, Repr

end ScriptHost
