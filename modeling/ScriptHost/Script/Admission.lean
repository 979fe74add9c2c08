import ScriptHost.Json.Value
import ScriptHost.Script.Basic

/-!
Admission: which JSON bodies describe a script, and how a patch is laid over a script. The rules are
tried in a fixed order and the first one that is broken is the answer.
-/
namespace ScriptHost

inductive Refusal where
  | missingBody
  | missingName
  | missingCode
  | missingLanguage
  | unsupportedLanguage (tag : String)
  | encodingNotText
  | invalidEncoding
  | undecodableCode (encoding : Encoding)
  | activeNotBoolean
  | nameChanged
  deriving DecidableEq, Repr

def Refusal.message : Refusal → String
  | .missingBody => "Missing body"
  | .missingName => "Missing required 'name' property"
  | .missingCode => "Missing required 'code' property"
  | .missingLanguage => "Missing required 'lang' property or it is not a string"
  | .unsupportedLanguage tag => "Language '" ++ tag ++ "' is not supported"
  | .encodingNotText => "The field 'encoded' must be a String"
  | .invalidEncoding => "The specified 'encoded' value is not valid"
  | .undecodableCode encoding => "The 'code' property is not valid " ++ encoding.tag ++ " text"
  | .activeNotBoolean => "The field 'active' must be a boolean"
  | .nameChanged => "Script name cannot be changed; delete and create it again"

/-- A body that kept every rule. -/
structure Admitted where
  /-- Without white space around it. -/
  name : String
  code : String
  language : Language
  encoding : Option Encoding
  source : String
  active : Option Bool
  deriving DecidableEq, Repr

namespace Admission

def text? (body : Json) (key : String) : Option String :=
  match body.get? key with
  | some (.str s) => if Text.blank s then none else some s
  | _ => none

def encoding? (body : Json) : Except Refusal (Option Encoding) :=
  match body.get? "encoded" with
  | none | some .null => .ok none
  | some (.str tag) =>
    match Encoding.named? tag with
    | some encoding => .ok (some encoding)
    | none => .error .invalidEncoding
  | some _ => .error .encodingNotText

def active? (body : Json) : Except Refusal (Option Bool) :=
  match body.get? "active" with
  | none | some .null => .ok none
  | some (.bool b) => .ok (some b)
  | some _ => .error .activeNotBoolean

def source (encoding : Option Encoding) (code : String) : Except Refusal String :=
  match Encoding.source? encoding code with
  | some source => .ok source
  | none => .error (.undecodableCode .base64)

/-- Body, name, code, language, encoding, source and activity are looked at in this order. -/
def review (supports : Language → Bool) (body : Option Json) : Except Refusal Admitted :=
  match body with
  | none | some .null => .error .missingBody
  | some body =>
    match text? body "name" with
    | none => .error .missingName
    | some name =>
      match text? body "code" with
      | none => .error .missingCode
      | some code =>
        match text? body "lang" with
        | none => .error .missingLanguage
        | some tag =>
          match (Language.named? tag).filter supports with
          | none => .error (.unsupportedLanguage tag)
          | some language => do
            let encoding ← encoding? body
            let source ← source encoding code
            let active ← active? body
            return ⟨Text.trim name, code, language, encoding, source, active⟩

end Admission

namespace Script

def adminMembers (s : Script) : List (String × Json) :=
  Named.ofList ([("name", .str s.name), ("code", .str s.code), ("lang", .str s.language.tag),
    ("active", .bool s.active)] ++ match s.encoding with
      | some e => [("encoded", .str e.tag)]
      | none => [])

def adminJson (s : Script) : Json := .obj s.adminMembers

end Script

namespace Admission

/-- One member of a patch: `null` takes a field away, any other value replaces it, and `version` is
no field. -/
def overlayMember (target : List (String × Json)) (member : String × Json) :
    List (String × Json) :=
  if member.1 = "version" then target
  else if member.2.isNull then Named.erase member.1 target
  else Named.insert member.1 member.2 target

def overlay (s : Script) (patch : Option Json) : Except Refusal Json :=
  match patch with
  | some (.obj members) => .ok (.obj (members.foldl overlayMember s.adminMembers))
  | _ => .error .missingBody

end Admission

end ScriptHost
