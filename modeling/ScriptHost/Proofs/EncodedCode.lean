import ScriptHost.Proofs.Base64Texts
import ScriptHost.Proofs.Utf8Texts
import ScriptHost.Proofs.Reviews

/-!
Which source a code text stands for. Encoded code is the written form of a text that is not blank,
with any white space around it, and stands for that text; everything else is refused.
-/
namespace ScriptHost

namespace Text.Base64

theorem digit_solid : ∀ n < 64, isBlank (digit n) = false := by decide +kernel

theorem encode_solid {bytes : List UInt8} {c : Char} (h : c ∈ encode bytes) :
    isBlank c = false := by
  obtain ⟨digits, zeros, pads, small, _, _, _, _, shape⟩ := written_encode bytes
  rw [shape, List.mem_append] at h
  rcases h with digit | pad
  · obtain ⟨d, there, rfl⟩ := List.mem_map.mp digit
    exact digit_solid d (small d there)
  · rw [List.eq_of_mem_replicate pad]
    decide

theorem trims_encode {before after : List Char} (blank : before.all isBlank = true)
    (blank' : after.all isBlank = true) (bytes : List UInt8) :
    Trims (before ++ encode bytes ++ after) (encode bytes) :=
  ⟨before, after, rfl, blank, blank', fun _ first => encode_solid (List.mem_of_head? first),
    fun _ last => encode_solid (List.mem_of_getLast? last)⟩

end Text.Base64

namespace Encoding

open Text

/-- The source that a code text stands for: the text itself, or what it is the written form of. -/
def Decodes (encoding : Option Encoding) (code source : String) : Prop :=
  match encoding with
  | none | some .plain => source = code
  | some .base64 =>
    blank source = false ∧ (trim code).toList = Base64.encode (Utf8.bytesOf source)

theorem source?_eq_some_iff {encoding : Option Encoding} {code text : String} :
    source? encoding code = some text ↔ Decodes encoding code text := by
  match encoding with
  | none | some .plain => exact Option.some_inj.trans eq_comm
  | some .base64 =>
    simp only [source?, Decodes, Option.bind_eq_bind, Option.bind_eq_some_iff,
      Option.ite_none_left_eq_some, Option.some_inj, Base64.decode?_eq_some_iff,
      Utf8.text?_eq_some_iff, trim, String.toList_ofList, Bool.not_eq_true]
    constructor
    · rintro ⟨bytes, written, source, rfl, solid, rfl⟩
      exact ⟨solid, written⟩
    · rintro ⟨solid, written⟩
      exact ⟨_, written, text, rfl, solid, rfl⟩

end Encoding

namespace Admission

open Text

theorem source_eq_ok_iff {encoding : Option Encoding} {code text : String} :
    source encoding code = .ok text ↔ Encoding.Decodes encoding code text := by
  rw [← Encoding.source?_eq_some_iff]
  constructor
  · exact source_eq_ok
  · intro decoded
    rw [source, decoded]

theorem source_eq_error_iff {encoding : Option Encoding} {code : String} {r : Refusal} :
    source encoding code = .error r ↔
      r = .undecodableCode .base64 ∧ ¬ ∃ text, Encoding.Decodes encoding code text := by
  simp only [← Encoding.source?_eq_some_iff]
  unfold source
  cases Encoding.source? encoding code with
  | none => simp [eq_comm]
  | some text => simp

/-- Encoded code and the source it stands for: each text that is not blank has one written form, any
white space may stand around it, and what is no such form is refused. -/
theorem base64_code :
    (∀ (text : String) (before after : List Char), blank text = false →
      before.all isBlank = true → after.all isBlank = true →
        source (some .base64)
          (String.ofList (before ++ Base64.encode (Utf8.bytesOf text) ++ after)) = .ok text) ∧
    (∀ code text, source (some .base64) code = .ok text →
      blank text = false ∧ (trim code).toList = Base64.encode (Utf8.bytesOf text)) ∧
    (∀ code code' text, source (some .base64) code = .ok text →
      source (some .base64) code' = .ok text → trim code = trim code') ∧
    (∀ code, (¬ ∃ text, blank text = false ∧
        (trim code).toList = Base64.encode (Utf8.bytesOf text)) →
      source (some .base64) code = .error (.undecodableCode .base64)) ∧
    ∀ bytes written, Base64.Written bytes written ↔ written = Base64.encode bytes := by
  refine ⟨fun text before after solid space space' => ?_, fun code text => source_eq_ok_iff.mp,
    fun code code' text read read' => ?_, fun code foreign => ?_, fun _ _ => Base64.written_iff⟩
  · have cut := trimBoth_eq_iff.mpr (Base64.trims_encode space space' (Utf8.bytesOf text))
    refine source_eq_ok_iff.mpr ⟨solid, ?_⟩
    rw [trim, String.toList_ofList, String.toList_ofList, cut]
  · have written := (source_eq_ok_iff.mp read).2
    have written' := (source_eq_ok_iff.mp read').2
    exact String.toList_inj.mp (written.trans written'.symm)
  · exact source_eq_error_iff.mpr ⟨rfl, foreign⟩

theorem base64_code_wide_space :
    source (some .base64) "\u3000w6k=\n" = .ok "é" ∧
    source (some .base64) "w6k=" = .ok "é" ∧ trim "\u3000w6k=\n" = trim "w6k=" ∧
    source (some .base64) "w6l=" = .error (.undecodableCode .base64) := by
  obtain ⟨reads, writes, one, refuses, _⟩ := base64_code
  have written : Base64.encode (Utf8.bytesOf "é") = ['w', '6', 'k', '='] := by
    rw [Utf8.bytesOf_eq_encode]
    decide +kernel
  have first : source (some .base64) "\u3000w6k=\n" = .ok "é" := by
    have read := reads "é" ['\u3000'] ['\n'] (by decide +kernel) (by decide) (by decide)
    rwa [written] at read
  have second : source (some .base64) "w6k=" = .ok "é" := by
    have read := reads "é" [] [] (by decide +kernel) (by decide) (by decide)
    rwa [written] at read
  refine ⟨first, second, one _ _ _ first second, refuses _ ?_⟩
  rintro ⟨text, _, same⟩
  have unread : Base64.decode? (trim "w6l=").toList = none := by decide +kernel
  rw [same, Base64.decode?_encode] at unread
  cases unread

end Admission

end ScriptHost
