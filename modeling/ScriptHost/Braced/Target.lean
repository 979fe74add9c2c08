import ScriptHost.Braced.Reader
import ScriptHost.Snippet.Names

/-!
What may stand on the left of an equal sign. A list or an object that turns out to be a target is
read again as a pattern.
-/
namespace ScriptHost.Braced

open Snippet

inductive Use where
  | assigned
  | bound
  deriving DecidableEq

def isRestricted (n : String) : Bool := n = "eval" || n = "arguments"

def isFixedName (n : String) : Bool := n = "this" || n = "super"

def isPlace (strict : Bool) : Node → Bool
  | .mk .name t _ _ => !(strict && isRestricted t) && !isFixedName t
  | .mk .attr _ _ _ | .mk .index _ _ _ => true
  | .mk .group _ _ [n] => isPlace strict n
  | _ => false

def ungrouped : Node → Node
  | .mk .group _ _ [n] => ungrouped n
  | n => n

mutual

def pattern? (strict : Bool) (use : Use) : Node → Option Node
  | .mk .name t l ps =>
    if (strict && isRestricted t) || isFixedName t then none
    else if strict && Read.strictReserved.contains t then none
    else some (.mk .name t l ps)
  | .mk .attr t l ps => if use = .assigned then some (.mk .attr t l ps) else none
  | .mk .index t l ps => if use = .assigned then some (.mk .index t l ps) else none
  | .mk .group _ _ [n] => if use = .assigned && isPlace strict n then some n else none
  | .mk .list t l ps =>
    if t = "open" then none else (items? strict use ps).map (.mk .list "" l ·)
  | .mk .dict t l ps =>
    if t = "open" then none else (entries? strict use ps).map (.mk .dict "pattern" l ·)
  | .mk .assign "=" l [a, v] => (pattern? strict use a).map fun p => .mk .param "" l [p, v]
  | .mk .param t l ps => some (.mk .param t l ps)
  | _ => none

def items? (strict : Bool) (use : Use) : List Node → Option (List Node)
  | [] => some []
  | .mk .absent t l ps :: ns => (items? strict use ns).map (.mk .absent t l ps :: ·)
  | .mk .spread _ l [n] :: ns =>
    match ns, n.kind with
    | [], .assign => none
    | [], _ => (pattern? strict use n).map fun p => [.mk .spread "" l [p]]
    | _ :: _, _ => none
  | n :: ns => (pattern? strict use n).bind fun p => (items? strict use ns).map (p :: ·)

def entries? (strict : Bool) (use : Use) : List Node → Option (List Node)
  | [] => some []
  | .mk .spread _ l [n] :: ns =>
    match ns with
    | [] =>
      if n.kind = .name || (use = .assigned && isPlace strict n) then some [.mk .spread "" l [n]]
      else none
    | _ :: _ => none
  | .mk .entry t l [k, v] :: ns =>
    if t = "get" || t = "set" || t = "method" then none
    else (pattern? strict use v).bind fun p =>
      (entries? strict use ns).map (.mk .entry "" l [k, p] :: ·)
  | _ :: _ => none

end

mutual

/-- Whether a value that is only allowed in patterns has been left where no pattern is. -/
def leftCover : Node → Bool
  | .mk .entry "cover" _ _ => true
  | .mk _ _ _ ps => leftCoverAmong ps

def leftCoverAmong : List Node → Bool
  | [] => false
  | n :: ns => leftCover n || leftCoverAmong ns

end

def hasTwice : List String → Bool
  | [] => false
  | n :: ns => ns.contains n || hasTwice ns

end ScriptHost.Braced
