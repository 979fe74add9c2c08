import ScriptHost.Catalog.Operations

/-!
What an admitted script owes to the body that was reviewed: every rule is kept, and every field is
read off a member of the body.
-/
namespace ScriptHost

namespace Admission

structure Reads (supports : Language → Bool) (body : Json) (d : Admitted) : Prop where
  name : ∃ text, text? body "name" = some text ∧ d.name = Text.trim text
  code : text? body "code" = some d.code
  language : ∃ tag, text? body "lang" = some tag ∧ Language.named? tag = some d.language
  supported : supports d.language = true
  encoding : encoding? body = .ok d.encoding
  source : Encoding.source? d.encoding d.code = some d.source
  active : active? body = .ok d.active

variable {supports : Language → Bool} {body : Option Json} {given : Json} {d : Admitted}

theorem source_eq_ok {encoding : Option Encoding} {code text : String}
    (read : source encoding code = .ok text) : Encoding.source? encoding code = some text := by
  unfold source at read
  split at read
  · rename_i decoded
    cases read
    exact decoded
  · cases read

theorem reads_of_review (admitted : review supports body = .ok d) :
    ∃ given, body = some given ∧ Reads supports given d := by
  unfold review at admitted
  split at admitted
  · cases admitted
  · cases admitted
  · rename_i given _
    split at admitted
    · cases admitted
    · rename_i name named
      split at admitted
      · cases admitted
      · rename_i code coded
        split at admitted
        · cases admitted
        · rename_i tag tagged
          split at admitted
          · cases admitted
          · rename_i language spoken
            obtain ⟨meant, supported⟩ := Option.filter_eq_some_iff.mp spoken
            simp only [bind, Except.bind, pure, Except.pure] at admitted
            split at admitted
            · cases admitted
            · rename_i encoding encoded
              split at admitted
              · cases admitted
              · rename_i text read
                split at admitted
                · cases admitted
                · rename_i active switched
                  cases admitted
                  exact ⟨given, rfl, ⟨name, named, rfl⟩, coded, ⟨tag, tagged, meant⟩, supported,
                    encoded, source_eq_ok read, switched⟩

theorem text?_eq_some {key text : String} :
    text? given key = some text ↔ given.get? key = some (.str text) ∧ Text.blank text = false := by
  unfold text?
  constructor
  · intro found
    split at found
    · rename_i s member
      split at found
      · cases found
      · rename_i solid
        cases found
        exact ⟨member, Bool.eq_false_iff.mpr solid⟩
    · cases found
  · rintro ⟨member, solid⟩
    simp [member, solid]

theorem source_not_blank {encoding : Option Encoding} {code text : String}
    (solid : Text.blank code = false) (decoded : Encoding.source? encoding code = some text) :
    Text.blank text = false := by
  match encoding with
  | none | some .plain =>
    cases decoded
    exact solid
  | some .base64 =>
    simp only [Encoding.source?, Option.bind_eq_bind, Option.bind_eq_some_iff] at decoded
    obtain ⟨bytes, _, source, _, kept⟩ := decoded
    split at kept
    · cases kept
    · rename_i full
      cases kept
      exact Bool.eq_false_iff.mpr full

namespace Reads

variable (h : Reads supports given d)
include h

theorem name_trimmed : Text.trim d.name = d.name := by
  obtain ⟨text, _, same⟩ := h.name
  rw [same, Text.trim_trim]

theorem name_not_blank : Text.blank d.name = false := by
  obtain ⟨text, found, same⟩ := h.name
  rw [same, Text.blank_trim]
  exact (text?_eq_some.mp found).2

theorem not_blank : Text.blank d.source = false :=
  source_not_blank (text?_eq_some.mp h.code).2 h.source

end Reads

end Admission

theorem Catalog.merge_eq_ok {supports : Language → Bool} {s : Script} {patch : Option Json}
    {d : Admitted} (merged : merge supports s patch = .ok d) :
    ∃ body, Admission.overlay s patch = .ok body ∧
      Admission.review supports (some body) = .ok d ∧ d.name = s.name := by
  unfold merge at merged
  split at merged
  · cases merged
  · rename_i body laid
    split at merged
    · cases merged
    · rename_i admitted
      split at merged
      · rename_i same
        cases merged
        exact ⟨body, laid, admitted, same⟩
      · cases merged

end ScriptHost
