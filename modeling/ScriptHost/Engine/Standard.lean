import ScriptHost.Child.Basic
import ScriptHost.Settings
import ScriptHost.Engine.Lua
import ScriptHost.Program.Installed

/-!
The engines that a host has for its languages. Those of all languages but one hand a script to a
program outside the host: a shell, or the program of the language.
-/
namespace ScriptHost

def Outcome.ofExcept {α : Type} : Except EngineError α → Outcome α
  | .ok a => .done a
  | .error e => .failed e

structure Manner where
  language : Language
  checkArgs : List String
  runArg : String
  env : List (String × String)

namespace Manner

def shell : Manner := ⟨.shell, ["-n"], "-c", []⟩

def python : Manner :=
  ⟨.python, ["-c", "import ast, sys; ast.parse(sys.stdin.read(), '<script>')"], "-c",
    [("PYTHONUNBUFFERED", "1")]⟩

def javascript : Manner :=
  ⟨.javascript, ["-e", "new (require('vm').Script)(require('fs').readFileSync(0, 'utf8'), "
    ++ "\x7b filename: 'script.js' \x7d)"], "-e", []⟩

/-- The engine that works with a program of a computer in this manner. -/
def engine (m : Manner) (computer : Computer) (program : String) : Engine where
  language := m.language
  check source := .ofExcept (Child.check computer program m.checkArgs source)
  run source context :=
    .ofExcept (Child.evaluate computer program [m.runArg, source] m.env context)

end Manner

def Engine.standard (computer : Computer) (tools : Tools) : Language → Engine
  | .lua => Lua.engine
  | .shell => Manner.shell.engine computer tools.bash
  | .python => Manner.python.engine computer tools.python
  | .javascript => Manner.javascript.engine computer tools.node

def EngineSet.standard (computer : Computer) (tools : Tools) (languages : List Language) :
    EngineSet :=
  ⟨languages.map (Engine.standard computer tools)⟩

end ScriptHost
