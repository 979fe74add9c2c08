/-!
Powers of two and of ten: the sizes of words and the weights of decimal places.
-/
namespace ScriptHost

def twoTo (n : Nat) : Nat := Nat.pow 2 n

def tenTo (n : Nat) : Nat := Nat.pow 10 n

end ScriptHost
