import ScriptHost.Table.Row
import ScriptHost.Text.Numeral
import ScriptHost.Text.Percent

/-!
Addresses of databases, and what becomes of the attempt to reach one. No database listens anywhere,
so an address that can be read still leads nowhere.
-/
namespace ScriptHost.Table

inductive AddressError where
  | relative
  | invalidPort
  | emptyHost
  | invalidIpv6
  | invalidDomain
  | setting (text : String)
  deriving DecidableEq, Repr

def AddressError.message : AddressError → String
  | .relative => "relative URL without a base"
  | .invalidPort => "invalid port number"
  | .emptyHost => "empty host"
  | .invalidIpv6 => "invalid IPv6 address"
  | .invalidDomain => "invalid domain character"
  | .setting text => text

structure Address where
  host : String
  port : Option Nat
  settings : List (String × String)
  deriving DecidableEq, Repr

namespace Address

def isSchemeStart (c : Char) : Bool := c.toNat < 0x80 && c.isAlpha

def isSchemeChar (c : Char) : Bool :=
  (c.toNat < 0x80 && c.isAlphanum) || c = '+' || c = '-' || c = '.'

def afterScheme? (cs : List Char) : Option (List Char) :=
  match cs with
  | c :: _ =>
    if isSchemeStart c then
      match cs.dropWhile isSchemeChar with
      | ':' :: rest => some rest
      | _ => none
    else none
  | [] => none

def forbiddenInHost (c : Char) : Bool :=
  c ∈ ['\x00', '\t', '\n', '\r', ' ', '#', '/', '<', '>', '?', '@', '[', '\\', ']', '^', '|', ':']

def checkHost (host : List Char) : Except AddressError Unit :=
  match host with
  | '[' :: rest =>
    if rest.getLast? = some ']' &&
        rest.dropLast.all fun c => c.isDigit || c ∈ "abcdefABCDEF:.".toList then .ok ()
    else .error .invalidIpv6
  | _ => if host.any forbiddenInHost then .error .invalidDomain else .ok ()

def readPort (digits : List Char) : Except AddressError (Option Nat) :=
  if digits.isEmpty then .ok none
  else match Text.natural? 16 (String.ofList digits) with
    | .ok n => if digits.all Char.isDigit then .ok (some n) else .error .invalidPort
    | .error _ => .error .invalidPort

/-- A host ends before the colon of its port; colons inside brackets belong to the host. -/
def splitHost (cs : List Char) : List Char × List Char :=
  match cs with
  | '[' :: _ =>
    let host := cs.takeWhile (· ≠ ']')
    (host ++ (cs.drop host.length).take 1, cs.drop (host.length + 1))
  | _ => (cs.takeWhile (· ≠ ':'), cs.dropWhile (· ≠ ':'))

def afterUser (cs : List Char) : List Char :=
  (cs.reverse.takeWhile (· ≠ '@')).reverse

def readHost (authority : List Char) : Except AddressError (List Char × Option Nat) := do
  let place := afterUser authority
  let (host, rest) := splitHost place
  if host.isEmpty && (place.length < authority.length || !rest.isEmpty) then throw .emptyHost
  checkHost host
  let port ← readPort (rest.drop 1)
  return (host, port)

def readSettings (rest : List Char) : List (String × String) :=
  match rest.dropWhile fun c => c ≠ '?' && c ≠ '#' with
  | '?' :: query => Text.Percent.formFields (String.ofList (query.takeWhile (· ≠ '#')))
  | _ => []

def parse (s : String) : Except AddressError Address := do
  let outer (c : Char) : Bool := c.toNat ≤ 0x20
  let cs := ((s.toList.dropWhile outer).reverse.dropWhile outer).reverse
  match afterScheme? (cs.filter fun c => c ∉ ['\t', '\n', '\r']) with
  | none => throw .relative
  | some ('/' :: '/' :: rest) =>
    let authority := rest.takeWhile fun c => c ∉ ['/', '?', '#']
    let (host, port) ← readHost authority
    return ⟨String.ofList host, port, readSettings (rest.drop authority.length)⟩
  | some rest => return ⟨"", none, readSettings rest⟩

def sslModes : List String :=
  ["disable", "allow", "prefer", "require", "verify-ca", "verify-full"]

def checkSetting (s : String × String) : Except AddressError Unit :=
  if s.1 = "port" then
    match Text.natural? 16 s.2 with
    | .ok _ => .ok ()
    | .error e => .error (.setting e.message)
  else if s.1 = "statement-cache-capacity" then
    match Text.natural? 64 s.2 with
    | .ok _ => .ok ()
    | .error e => .error (.setting e.message)
  else if s.1 = "sslmode" ∨ s.1 = "ssl-mode" then
    if Text.lower s.2 ∈ sslModes then .ok ()
    else .error (.setting ("error with configuration: unknown value \x22" ++ s.2
      ++ "\x22 for `ssl_mode`"))
  else .ok ()

/-- Why no database answers at an address: a directory holds no socket, and no port is open. -/
def silence (a : Address) : String :=
  let host := (a.settings.filter fun s => s.1 = "host").getLast?.map (·.2)
  let socket := Text.startsWith (host.getD a.host) "/" || Text.startsWith a.host "%2F"
  if socket then "No such file or directory (os error 2)" else "Connection refused (os error 111)"

def connectError (s : String) : TableError :=
  match do let a ← parse s; a.settings.forM checkSetting; return a with
  | .ok a => .communication a.silence
  | .error e => .configuration e.message

end Address

end ScriptHost.Table
