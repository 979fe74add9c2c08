/-!
Short scripts as trees. Two notations share them: one shows its blocks by indentation, the other one
by braces. A node has a kind, a text, the line where it stands, and its parts. The kinds are those
that a check or an evaluation tells apart; a node of kind `other` can only be checked.
-/
namespace ScriptHost.Snippet

inductive Kind where
  -- terms without parts; the text of a literal is its value
  | absent | nothing | undefined | truth | int | float | big | str | byteStr | name
  | regex
  -- an object, and perhaps what is asked of it; the `try` forms end a `maybe` that finds nothing
  | attr | index | slice | call | make | maybe | tryAttr | tryIndex | tryCall
  | named | spread | spreadNamed
  | unary | binary
  -- a term and then comparisons, each with its operator as text
  | chain | compare
  | both | either | orNothing | choose
  | list | tuple | set | dict | entry
  -- parameters, a body, and words on how the function works
  | func | params | param | manner
  | format | field | tagged
  | gather | produce | produceAll | wait
  | assign | step | sequence | group
  -- a class is one of the terms too: what it extends, and its members
  | classOf | classMember
  -- statements
  | eval | store | update | annotate | declare | binding
  | leave | raise | check
  | cond | loop | doLoop | count | each | breakLoop | continueLoop | label
  -- a body, what follows without a failure, what follows in any case, and handlers
  | attempt | handler
  | block | pass | global | delete | load | loadFrom | member | within
  | choice | case
  | other
  deriving DecidableEq, Repr

inductive Node where
  | mk (kind : Kind) (text : String) (line : Nat) (parts : List Node)

namespace Node

def kind : Node → Kind
  | .mk k _ _ _ => k

def text : Node → String
  | .mk _ t _ _ => t

def line : Node → Nat
  | .mk _ _ l _ => l

def parts : Node → List Node
  | .mk _ _ _ ps => ps

def absent : Node := .mk .absent "" 0 []

instance : Inhabited Node := ⟨absent⟩

def part (n : Node) (i : Nat) : Node := n.parts.getD i absent

def isAbsent (n : Node) : Bool := n.kind = .absent

def of (kind : Kind) (parts : List Node) : Node := .mk kind "" 0 parts

def worded (kind : Kind) (text : String) (parts : List Node) : Node := .mk kind text 0 parts

def atLine (line : Nat) : Node → Node
  | .mk k t _ ps => .mk k t line ps

def name (text : String) : Node := .mk .name text 0 []

def str (text : String) : Node := .mk .str text 0 []

def block (parts : List Node) : Node := .mk .block "" 0 parts

mutual

def any (p : Node → Bool) : Node → Bool
  | .mk k t l ps => p (.mk k t l ps) || anyAmong p ps

def anyAmong (p : Node → Bool) : List Node → Bool
  | [] => false
  | n :: ns => any p n || anyAmong p ns

end

end Node

end ScriptHost.Snippet
