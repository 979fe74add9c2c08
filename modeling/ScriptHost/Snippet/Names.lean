import ScriptHost.Snippet.Tree

/-!
The names that parts of a script give to values. Functions and classes inside keep theirs to
themselves.
-/
namespace ScriptHost.Snippet

mutual

def boundNames : Node → List String
  | .mk .name t _ _ => [t]
  | .mk .list _ _ ps | .mk .tuple _ _ ps | .mk .group _ _ ps | .mk .dict _ _ ps
  | .mk .spread _ _ ps | .mk .params _ _ ps => boundAmong ps
  | .mk .entry _ _ [_, p] => boundNames p
  | .mk .param _ _ (p :: _) => boundNames p
  | .mk .binding _ _ (p :: _) => boundNames p
  | .mk .declare _ _ ps => boundAmong ps
  | _ => []

def boundAmong : List Node → List String
  | [] => []
  | n :: ns => boundNames n ++ boundAmong ns

end

def loadedName (m : Node) : String :=
  let given := (m.part 0).text
  if given.isEmpty then (m.text.takeWhile (· ≠ '.')).toString else given

def givenNames (n : Node) : List String :=
  match n.kind with
  | .store => boundAmong (n.parts.drop 1)
  | .update | .annotate | .each => boundNames (n.part 0)
  | .binding => boundNames (n.part 0)
  | .handler => boundNames (n.part 1)
  | .load | .loadFrom => n.parts.map loadedName
  | .assign => if n.text = ":=" then boundNames (n.part 0) else []
  | .delete => boundAmong n.parts
  | .case =>
    if n.text = "capture" || n.text = "rest" || n.text = "others" then boundNames (n.part 0)
    else if n.text = "as" then boundNames (n.part 1)
    else []
  | _ => []

mutual

def assignedNames : Node → List String
  | .mk .func t _ ps => if ((ps.getD 2 .absent).text.startsWith "declared") then [t] else []
  | .mk .classOf t _ _ => [t]
  | .mk .gather _ _ _ => []
  | .mk k t l ps => givenNames (.mk k t l ps) ++ assignedAmong ps

def assignedAmong : List Node → List String
  | [] => []
  | n :: ns => assignedNames n ++ assignedAmong ns

end

mutual

def outerNames (word : String) : Node → List String
  | .mk .func _ _ _ | .mk .classOf _ _ _ => []
  | .mk .global t _ ps => if t = word then ps.map (·.text) else []
  | .mk _ _ _ ps => outerAmong word ps

def outerAmong (word : String) : List Node → List String
  | [] => []
  | n :: ns => outerNames word n ++ outerAmong word ns

end

mutual

def spreadNames : Node → List String
  | .mk .func t _ [_, _, manner] => if manner.text = "declared" then [t] else []
  | .mk .func _ _ _ | .mk .classOf _ _ _ => []
  | .mk .declare t _ ps => (if t = "var" then boundAmong ps else []) ++ spreadAmong ps
  | .mk _ _ _ ps => spreadAmong ps

def spreadAmong : List Node → List String
  | [] => []
  | n :: ns => spreadNames n ++ spreadAmong ns

end

def isDeclaredFunction (n : Node) : Bool :=
  n.kind = .func && (n.part 2).text.endsWith "declared"

/-- Names that belong to a block, with whether they keep their value. -/
def blockNames (stats : List Node) : List (String × Bool) :=
  stats.flatMap fun n =>
    match n.kind with
    | .declare => if n.text = "var" then [] else (boundAmong n.parts).map fun x => (x, n.text = "const")
    | .classOf => [(n.text, false)]
    | _ => []

def blockFunctions (stats : List Node) : List Node := stats.filter isDeclaredFunction

mutual

def producesValues : Node → Bool
  | .mk .func _ _ _ | .mk .classOf _ _ _ | .mk .gather _ _ _ => false
  | .mk .produce _ _ _ | .mk .produceAll _ _ _ => true
  | .mk _ _ _ ps => anyProduces ps

def anyProduces : List Node → Bool
  | [] => false
  | n :: ns => producesValues n || anyProduces ns

end

end ScriptHost.Snippet
