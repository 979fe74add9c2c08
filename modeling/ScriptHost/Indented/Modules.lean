import ScriptHost.Indented.Given

/-!
What scripts can load: the modules of the library with their functions and their constants.
-/
namespace ScriptHost.Indented

open Snippet

def moduleFunctions : List (String × List String) :=
  [("sys", ["exit", "getrecursionlimit", "setrecursionlimit", "getdefaultencoding", "getsizeof", "exc_info",
      "intern"]),
    ("os", ["getenv", "getpid", "getcwd", "_exit", "abort", "kill", "listdir", "urandom", "putenv"]),
    ("os.path", ["join", "basename", "dirname", "exists", "isfile", "isdir", "splitext", "split",
      "abspath", "normpath"]),
    ("json", ["loads", "dumps", "load", "dump", "JSONDecodeError"]),
    ("json.decoder", ["JSONDecodeError"]),
    ("time", ["sleep", "time", "monotonic", "perf_counter", "time_ns", "process_time"]),
    ("math", ["sqrt", "floor", "ceil", "trunc", "pow", "log", "log2", "log10", "exp", "sin", "cos", "tan",
      "asin", "acos", "atan", "atan2", "gcd", "lcm", "factorial", "isnan", "isinf", "isfinite", "isclose",
      "fabs", "hypot", "comb", "perm", "prod", "fsum", "isqrt", "copysign", "degrees", "radians", "fmod",
      "dist", "cbrt", "modf"]),
    ("re", ["match", "search", "fullmatch", "findall", "finditer", "sub", "subn", "split", "compile",
      "escape"]),
    ("collections", ["Counter", "defaultdict", "OrderedDict", "deque", "namedtuple"]),
    ("itertools", ["chain", "count", "islice", "product", "permutations", "combinations", "accumulate",
      "groupby", "repeat", "cycle", "zip_longest", "takewhile", "dropwhile", "starmap", "pairwise"]),
    ("functools", ["reduce", "partial", "lru_cache", "cache", "wraps"]),
    ("operator", ["itemgetter", "attrgetter", "add", "mul", "sub"]),
    ("base64", ["b64encode", "b64decode"]),
    ("asyncio", ["run", "sleep", "gather"]),
    ("logging", ["debug", "info", "warning", "error", "critical", "exception", "basicConfig", "getLogger"]),
    ("signal", ["signal", "alarm"]),
    ("copy", ["copy", "deepcopy"]),
    ("warnings", ["warn", "simplefilter", "filterwarnings"]),
    ("typing", ["Any", "List", "Dict", "Optional", "Union", "Tuple", "Set", "Callable", "Iterable",
      "Iterator", "Generator", "Sequence", "Mapping", "cast", "TypeVar", "NamedTuple"]),
    ("ast", ["parse"]), ("string", []), ("builtins", []), ("__future__", ["annotations"])]

def letters : String := "abcdefghijklmnopqrstuvwxyz"

def newStream (name : String) : Work Value := Work.new { shape := .file, name }

def moduleConstant (module name : String) : Work (Option Value) := do
  match module, name with
  | "sys", "stdin" => return some (← newStream "<stdin>")
  | "sys", "stdout" => return some (← newStream "<stdout>")
  | "sys", "stderr" => return some (← newStream "<stderr>")
  | "sys", "argv" => return some (← newList ((← get).args.map .str))
  | "sys", "maxsize" => return some (.int (twoTo 63 - 1))
  | "sys", "platform" => return some (.str "linux")
  | "sys", "byteorder" => return some (.str "little")
  | "sys", "version" => return some (.str "3.11.2 (main)")
  | "sys", "executable" => return some (.str "/usr/bin/python3")
  | "sys", "path" => return some (← newList [.str ""])
  | "sys", "modules" => return some (← newDict [])
  | "sys", "version_info" => return some (← newTuple [.int 3, .int 11, .int 2, .str "final", .int 0])
  | "os", "environ" =>
    let env := (← get).env
    let v ← newDict (env.map fun (k, v) => (.str k, .str v))
    if let .ref id := v then Work.modifyThing id fun t => { t with name := "os.environ" }
    return some v
  | "os", "sep" => return some (.str "/")
  | "os", "linesep" => return some (.str "\n")
  | "os", "name" => return some (.str "posix")
  | "os", "devnull" => return some (.str "/dev/null")
  | "math", "pi" => return some (.float 3.141592653589793)
  | "math", "e" => return some (.float 2.718281828459045)
  | "math", "tau" => return some (.float 6.283185307179586)
  | "math", "inf" => return some (.float (1.0 / 0.0))
  | "math", "nan" => return some (.float (0.0 / 0.0))
  | "re", "I" | "re", "IGNORECASE" => return some (.int 2)
  | "re", "M" | "re", "MULTILINE" => return some (.int 8)
  | "re", "S" | "re", "DOTALL" => return some (.int 16)
  | "re", "error" => return some (.native "ValueError")
  | "string", "ascii_lowercase" => return some (.str letters)
  | "string", "ascii_uppercase" => return some (.str letters.toUpper)
  | "string", "ascii_letters" => return some (.str (letters ++ letters.toUpper))
  | "string", "digits" => return some (.str "0123456789")
  | "string", "hexdigits" => return some (.str "0123456789abcdefABCDEF")
  | "string", "punctuation" => return some (.str "!\x22#$%&'()*+,-./:;<=>?@[\\]^_\x60\x7b|\x7d~")
  | "string", "whitespace" => return some (.str " \t\n\r\x0b\x0c")
  | "signal", "SIGKILL" => return some (.int 9)
  | "signal", "SIGTERM" => return some (.int 15)
  | "signal", "SIGINT" => return some (.int 2)
  | "signal", "SIGALRM" => return some (.int 14)
  | "logging", "DEBUG" => return some (.int 10)
  | "logging", "INFO" => return some (.int 20)
  | "logging", "WARNING" => return some (.int 30)
  | "logging", "ERROR" => return some (.int 40)
  | "logging", "CRITICAL" => return some (.int 50)
  | "typing", "TYPE_CHECKING" => return some (.truth false)
  | _, _ => return none

def isModule (path : String) : Bool := moduleFunctions.any (·.1 == path)

def newModule (path : String) : Work Value := Work.new { shape := .module, name := path }

def moduleMember? (module name : String) : Work (Option Value) := do
  if let some v ← moduleConstant module name then return some v
  match moduleFunctions.find? (·.1 == module) with
  | some (_, names) =>
    if names.contains name then
      return some (.native (if module = "json.decoder" then "json." ++ name else module ++ "." ++ name))
    if isModule (module ++ "." ++ name) then return some (← newModule (module ++ "." ++ name))
    return none
  | none => return none

def load (path : String) : Work Value := do
  if isModule path then newModule path
  else
    let top := (path.splitOn ".").headD path
    if isModule top && top ≠ path then
      raise "ModuleNotFoundError" ("No module named '" ++ path ++ "'; '" ++ top ++ "' is not a package")
    raise "ModuleNotFoundError" ("No module named '" ++ top ++ "'")

def loadMember (module : Value) (path name : String) : Work Value := do
  let _ := module
  match ← moduleMember? path name with
  | some v => return v
  | none =>
    raise "ImportError" ("cannot import name '" ++ name ++ "' from '" ++ path ++ "' (unknown location)")

end ScriptHost.Indented
