import ScriptHost.Text.Utf8

/-!
Commands of a shell as trees. A word is a list of pieces; quoted pieces are not split into fields.
-/
namespace ScriptHost.Command

inductive Trim where
  | shortFront | longFront | shortBack | longBack
  deriving DecidableEq, Repr

inductive Link where
  | always | onSuccess | onFailure
  deriving DecidableEq, Repr

inductive Turn where
  | read | write | append | copy | both | text
  deriving DecidableEq, Repr

mutual

inductive Piece where
  | text (b : Bytes) (quoted : Bool)
  | param (name : String) (form : Form) (quoted : Bool)
  | output (body : List Item) (quoted : Bool)
  | sum (expression : List Char) (quoted : Bool)

inductive Form where
  | plain
  | length
  /-- Another word is used, depending on whether there is a value: `-`, `=`, `+` or `?`. -/
  | instead (kind : Char) (unlessEmpty : Bool) (word : List Piece)
  | trim (how : Trim) (pattern : List Piece)
  | replace (every : Bool) (pattern replacement : List Piece)
  | slice (start : List Char) (length : Option (List Char))
  | casing (upper every : Bool)
  | senseless (text : String)

inductive Redirect where
  | mk (stream : Nat) (turn : Turn) (word : List Piece)

inductive Com where
  | simple (assigns : List (String × List Piece)) (words : List (List Piece))
      (redirects : List Redirect) (line : Nat)
  | group (body : List Item) (redirects : List Redirect)
  | subshell (body : List Item) (redirects : List Redirect)
  | cond (arms : List Arm) (otherwise : List Item) (redirects : List Redirect)
  /-- A loop that goes on while its condition succeeds, or until it does. -/
  | loop (inverted : Bool) (condition body : List Item) (redirects : List Redirect)
  | each (name : String) (words : Option (List (List Piece))) (body : List Item)
      (redirects : List Redirect)
  | count (start test next : List Char) (body : List Item) (redirects : List Redirect)
  | choose (word : List Piece) (cases : List Case) (redirects : List Redirect)
  | func (name : String) (body : Com)
  | test (words : List (List Piece)) (redirects : List Redirect)
  | sum (expression : List Char) (redirects : List Redirect)

inductive Arm where
  | mk (condition body : List Item)

inductive Case where
  | mk (patterns : List (List Piece)) (body : List Item)

inductive Pipeline where
  | mk (negated : Bool) (commands : List Com)

inductive Item where
  | mk (parts : List Part) (background : Bool)

inductive Part where
  | mk (link : Link) (pipeline : Pipeline)

end

instance : Inhabited Com := ⟨.group [] []⟩

abbrev Word := List Piece

def plain? : Word → Option String
  | [] => some ""
  | .text b false :: r => (plain? r).map fun s => Bytes.lossy b ++ s
  | _ => none

def reserved : List String :=
  ["if", "then", "elif", "else", "fi", "for", "in", "do", "done", "while", "until", "case", "esac",
    "select", "function", "\x7b", "\x7d", "[[", "]]", "!", "time", "coproc"]

end ScriptHost.Command
