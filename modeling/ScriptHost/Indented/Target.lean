import ScriptHost.Indented.Reader

/-!
What may stand on the left of an assignment, behind `for` and behind `del`.
-/
namespace ScriptHost.Indented

open Snippet

def bare : Node → Node
  | .mk .group _ _ [n] => bare n
  | n => n

def isSingle (n : Node) : Bool :=
  match (bare n).kind with
  | .name | .attr | .index => true
  | _ => false

def described (n : Node) : String :=
  match n.kind with
  | .nothing => "None"
  | .truth => if n.text = "true" then "True" else "False"
  | .call => "function call"
  | .wait => "await expression"
  | .func => "lambda"
  | .choose => "conditional expression"
  | .gather =>
    match n.text with
    | "generator" => "generator expression"
    | t => t ++ " comprehension"
  | .produce | .produceAll => "yield expression"
  | .format => "f-string expression"
  | .dict => "dict literal"
  | .set => "set display"
  | .chain => "comparison"
  | .assign => "named expression"
  | .int | .float | .str | .byteStr => "literal"
  | .other => "ellipsis"
  | _ => "expression"

mutual

def badTarget? (deleting : Bool) : Node → Option Node
  | .mk .name _ _ _ | .mk .attr _ _ _ | .mk .index _ _ _ => none
  | .mk .group _ _ ps => badAmong? deleting ps
  | .mk .list _ _ ps | .mk .tuple _ _ ps => badAmong? deleting ps
  | .mk .spread t l ps => if deleting then some (.mk .spread t l ps) else badAmong? deleting ps
  | n => some n

def badAmong? (deleting : Bool) : List Node → Option Node
  | [] => none
  | n :: ns => (badTarget? deleting n).or (badAmong? deleting ns)

end

def Read.target (n : Node) : Read Node := do
  match badTarget? false n with
  | none => return n
  | some b => fail ("cannot assign to " ++ described b)

def Read.deleted (n : Node) : Read Node := do
  match badTarget? true n with
  | none => return n
  | some b => fail ("cannot delete " ++ described b)

end ScriptHost.Indented
