import ScriptHost.Named
import ScriptHost.Text.Numeral
import ScriptHost.Script.Language

/-!
The settings of a host, read from named texts. Every setting has a default; those that are given
are read in a fixed order, and the first one that cannot be used is reported.
-/
namespace ScriptHost

structure Tools where
  bash : String := "bash"
  python : String := "python3"
  node : String := "node"
  deriving DecidableEq, Repr

structure RunSettings where
  defaultActive : Bool
  defaultTimeoutMs : Nat
  maxTimeoutMs : Nat
  compileTimeoutMs : Nat
  languages : List Language
  tools : Tools
  deriving DecidableEq, Repr

structure Settings where
  host : String
  port : Nat
  corsOrigins : List String
  requestTimeoutSecs : Nat
  shutdownTimeoutSecs : Nat
  databaseUrl : Option String
  runs : RunSettings
  deriving DecidableEq, Repr

structure SettingError where
  key : String
  value : String
  reason : String
  deriving DecidableEq, Repr

def SettingError.message (e : SettingError) : String :=
  e.key ++ " has invalid value '" ++ e.value ++ "': " ++ e.reason

def held? (low high n : Nat) : Option Nat :=
  if low ≤ high then some (if n < low then low else if high < n then high else n) else none

/-- The time a run may take: what was asked for or the default, within 1 ms and the maximum. -/
def RunSettings.runTimeout? (r : RunSettings) (requested : Option Nat) : Option Nat :=
  held? 1 r.maxTimeoutMs (requested.getD r.defaultTimeoutMs)

/-- The same, where the maximum is positive. Settings that have been read have no other. -/
def RunSettings.runTimeout (r : RunSettings) (requested : Option Nat) : Nat :=
  (r.runTimeout? requested).getD 1

namespace Settings

def reading {α : Type} (key raw : String) (read : String → Except String α) :
    Except SettingError α :=
  match read (Text.trim raw) with
  | .ok a => .ok a
  | .error reason => .error ⟨key, raw, reason⟩

def natural (bits : Nat) (key raw : String) : Except SettingError Nat :=
  reading key raw fun s =>
    match Text.natural? bits s with
    | .ok n => .ok n
    | .error e => .error e.message

def headerChar (c : Char) : Bool := (0x20 ≤ c.toNat && c.toNat ≠ 0x7F) || c = '\t'

def entries (raw : String) : List String :=
  ((Text.splitOn raw ',').map Text.trim).filter fun s => !s.isEmpty

def checkOrigin (origin : String) : Except SettingError String :=
  if origin.toList.all headerChar then .ok origin
  else .error ⟨"CORS_ORIGINS", origin, "failed to parse header value"⟩

def readLanguage (tag : String) : Except SettingError Language :=
  match Language.named? tag with
  | some l => .ok l
  | none => .error ⟨"SCRIPT_LANGUAGES", tag, Language.unknownMessage tag⟩

def readLanguages (raw : String) : Except SettingError (List Language) := do
  let named ← (entries raw).mapM readLanguage
  let once := named.foldl (fun seen l => if l ∈ seen then seen else seen ++ [l]) []
  if once.isEmpty then throw ⟨"SCRIPT_LANGUAGES", raw, "at least one language is required"⟩
  return once

/-- The bounds that the time limits must keep to each other. A run must end before its request. -/
def checkLimits (requestTimeoutSecs defaultTimeoutMs maxTimeoutMs : Nat) :
    Except SettingError Unit :=
  if maxTimeoutMs = 0 then .error ⟨"SCRIPT_MAX_TIMEOUT_MS", "0", "must be positive"⟩
  else if min (requestTimeoutSecs * 1000) (twoTo 64 - 1) ≤ maxTimeoutMs then
    .error ⟨"SCRIPT_MAX_TIMEOUT_MS", toString maxTimeoutMs, "must be below REQUEST_TIMEOUT_SECS"⟩
  else if maxTimeoutMs < defaultTimeoutMs then
    .error ⟨"SCRIPT_DEFAULT_TIMEOUT_MS", toString defaultTimeoutMs, "exceeds SCRIPT_MAX_TIMEOUT_MS"⟩
  else .ok ()

def read (look : String → Option String) : Except SettingError Settings := do
  let given (key default : String) : String := (look key).getD default
  let port ← natural 16 "PORT" (given "PORT" "3000")
  let corsOrigins ← (entries (given "CORS_ORIGINS" "http://localhost:5173")).mapM checkOrigin
  let requestTimeoutSecs ←
    natural 64 "REQUEST_TIMEOUT_SECS" (given "REQUEST_TIMEOUT_SECS" "30")
  let shutdownTimeoutSecs ←
    natural 64 "SHUTDOWN_TIMEOUT_SECS" (given "SHUTDOWN_TIMEOUT_SECS" "30")
  let databaseUrl := (look "DATABASE_URL").filter fun url => !Text.blank url
  let defaultActive ← reading "SCRIPTS_DEFAULT_ACTIVE" (given "SCRIPTS_DEFAULT_ACTIVE" "true")
    Text.boolean?
  let defaultTimeoutMs ←
    natural 64 "SCRIPT_DEFAULT_TIMEOUT_MS" (given "SCRIPT_DEFAULT_TIMEOUT_MS" "5000")
  let maxTimeoutMs ←
    natural 64 "SCRIPT_MAX_TIMEOUT_MS" (given "SCRIPT_MAX_TIMEOUT_MS" "25000")
  let compileTimeoutMs ←
    natural 64 "SCRIPT_COMPILE_TIMEOUT_MS" (given "SCRIPT_COMPILE_TIMEOUT_MS" "10000")
  let languages ← match look "SCRIPT_LANGUAGES" with
    | some raw => readLanguages raw
    | none => .ok Language.all
  let defaults : Tools := ⟨"bash", "python3", "node"⟩
  let tools : Tools := ⟨given "BASH_BIN" defaults.bash, given "PYTHON_BIN" defaults.python,
    given "NODE_BIN" defaults.node⟩
  checkLimits requestTimeoutSecs defaultTimeoutMs maxTimeoutMs
  return ⟨given "HOST" "0.0.0.0", port, corsOrigins, requestTimeoutSecs, shutdownTimeoutSecs,
    databaseUrl, ⟨defaultActive, defaultTimeoutMs, maxTimeoutMs, compileTimeoutMs, languages, tools⟩⟩

end Settings

end ScriptHost
