import ScriptHost.Named
import ScriptHost.Power

/-!
JSON values. Integers are those that fit a signed or an unsigned 64-bit word; every other number is a
floating-point one. The members of an object stand in the order of their keys, each key once.
-/
namespace ScriptHost

inductive Json where
  | null
  | bool (b : Bool)
  | int (n : Int)
  | float (x : Float)
  | str (s : String)
  | arr (items : List Json)
  | obj (members : List (String × Json))
  deriving Inhabited, Repr

namespace Json

/-- The integers that are written and read as integers. -/
def IntRange (n : Int) : Prop := -twoTo 63 ≤ n ∧ n < twoTo 64

instance (n : Int) : Decidable (IntRange n) := inferInstanceAs (Decidable (_ ∧ _))

def object (members : List (String × Json)) : Json := .obj (Named.ofList members)

def get? (key : String) : Json → Option Json
  | .obj ms => Named.find? key ms
  | _ => none

def field? (key : String) (j : Json) : Option Json :=
  match j.get? key with
  | some .null => none
  | found => found

def str? : Json → Option String
  | .str s => some s
  | _ => none

def bool? : Json → Option Bool
  | .bool b => some b
  | _ => none

def int64? : Json → Option Int
  | .int n => if n < twoTo 63 then some n else none
  | _ => none

def nat64? : Json → Option Nat
  | .int n => if 0 ≤ n then some n.toNat else none
  | _ => none

def items? : Json → Option (List Json)
  | .arr xs => some xs
  | _ => none

def isNull : Json → Bool
  | .null => true
  | _ => false

def ofOption (f : α → Json) : Option α → Json
  | some a => f a
  | none => .null

end Json

end ScriptHost
