import ScriptHost.Json.Printer
import ScriptHost.Engine.Basic
import ScriptHost.Text.Blank

/-!
An engine that does what its source says: the source is a short instruction, and any other source is
answered with what the engine was told.
-/
namespace ScriptHost.Scripted

open Text (startsWith afterStart? contains splitOn)

def number? (s : String) : Option Nat :=
  if s.isEmpty || !s.all Char.isDigit then none
  else
    let n := s.toList.foldl (fun n c => n * 10 + (c.toNat - 48)) 0
    if n < twoTo 64 then some n else none

def check (source : String) : Outcome Unit :=
  if startsWith source "!c-hang" then .never
  else match (afterStart? source "!c-timeout ").bind number? with
  | some n => .failed (.timeout n)
  | none =>
    match afterStart? source "!c-eval " with
    | some text => .failed (.eval text)
    | none =>
      match afterStart? source "!c-io " with
      | some text => .failed (.io text)
      | none =>
        if contains source "syntax error" then .failed (.compile ("SyntaxError: " ++ source))
        else .done ()

def echo (source : String) (context : RunContext) : Json :=
  Json.object [("source", .str source), ("input", context.input), ("script", .str context.script),
    ("version", .int context.version), ("timeout_ms", .int context.timeoutMs)]

def run (source : String) (context : RunContext) : Outcome Output :=
  if startsWith source "!sleep" then .never
  else match (afterStart? source "!timeout ").bind number? with
  | some n => .failed (.timeout n)
  | none =>
    match afterStart? source "!compile " with
    | some text => .failed (.compile text)
    | none =>
      match afterStart? source "!io " with
      | some text => .failed (.io text)
      | none =>
        if contains source "fail" then .failed (.eval ("Error: " ++ source))
        else match afterStart? source "!logs " with
          | some text => .done ⟨context.input, splitOn text '|'⟩
          | none => .done ⟨echo source context, ["ran " ++ source]⟩

def engine (language : Language) : Engine := ⟨language, check, run⟩

end ScriptHost.Scripted
