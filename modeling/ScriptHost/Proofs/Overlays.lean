import ScriptHost.Proofs.Reviews
import ScriptHost.Proofs.SortedNames

/-!
What a patch leaves of each field of the script it is laid over, and what is admitted from the
fields of a script that keeps the rules for bodies.
-/
namespace ScriptHost

namespace Admission

def patched (before : Option Json) : Option Json → Option Json
  | none => before
  | some v => if v.isNull then none else some v

theorem patched_patched (before first later : Option Json) :
    patched (patched before first) later = patched before (later.or first) := by
  cases later <;> rfl

variable {target members : List (String × Json)} {key : String}

theorem sorted_overlayMember (sorted : Named.Sorted target) (p : String × Json) :
    Named.Sorted (overlayMember target p) := by
  unfold overlayMember
  split
  · exact sorted
  · split
    · exact Named.sorted_erase sorted p.1
    · exact Named.sorted_insert sorted p.1 p.2

theorem sorted_foldl_overlayMember (sorted : Named.Sorted target)
    (members : List (String × Json)) : Named.Sorted (members.foldl overlayMember target) := by
  induction members generalizing target with
  | nil => exact sorted
  | cons p members ih => exact ih (sorted_overlayMember sorted p)

theorem find?_overlayMember_version (target : List (String × Json)) (p : String × Json) :
    Named.find? "version" (overlayMember target p) = Named.find? "version" target := by
  unfold overlayMember
  split
  · rfl
  · rename_i other
    split
    · exact Named.find?_erase_of_ne (Ne.symm other) _
    · exact Named.find?_insert_of_ne (Ne.symm other) _ _

theorem find?_overlayMember_field (sorted : Named.Sorted target) (field : key ≠ "version")
    (p : String × Json) : Named.find? key (overlayMember target p) =
      patched (Named.find? key target) (Named.find? key [p]) := by
  obtain ⟨name, value⟩ := p
  by_cases same : name = key
  · subst same
    rw [overlayMember, if_neg field, Named.find?, if_pos rfl, patched]
    split
    · exact Named.find?_erase_self sorted name
    · exact Named.find?_insert_self name value _
  · rw [Named.find?, if_neg same, overlayMember]
    split
    · rfl
    · split
      · exact Named.find?_erase_of_ne (Ne.symm same) _
      · exact Named.find?_insert_of_ne (Ne.symm same) _ _

theorem find?_overlaid_version (target members : List (String × Json)) :
    Named.find? "version" (members.foldl overlayMember target) =
      Named.find? "version" target := by
  induction members generalizing target with
  | nil => rfl
  | cons p members ih => exact (ih _).trans (find?_overlayMember_version target p)

theorem find?_overlaid (sorted : Named.Sorted target) (field : key ≠ "version")
    (members : List (String × Json)) : Named.find? key (members.foldl overlayMember target) =
      patched (Named.find? key target) (Named.find? key (Named.ofList members)) := by
  induction members generalizing target with
  | nil => rfl
  | cons p members ih =>
    have all : Named.find? key (Named.ofList (p :: members)) =
        (Named.find? key (Named.ofList members)).or (Named.find? key [p]) :=
      Named.find?_insertAll key members [p]
    rw [List.foldl_cons, ih (sorted_overlayMember sorted p),
      find?_overlayMember_field sorted field, patched_patched, all]

theorem overlaid_ofList (sorted : Named.Sorted target) (members : List (String × Json)) :
    (Named.ofList members).foldl overlayMember target = members.foldl overlayMember target := by
  refine Named.eq_of_find? (sorted_foldl_overlayMember sorted _)
    (sorted_foldl_overlayMember sorted _) fun key => ?_
  by_cases field : key = "version"
  · rw [field, find?_overlaid_version, find?_overlaid_version]
  · rw [find?_overlaid sorted field, find?_overlaid sorted field,
      Named.ofList_sorted (Named.sorted_ofList members)]

variable {supports : Language → Bool} {given : Json} {d : Admitted}

theorem review_of_reads (h : Reads supports given d) :
    review supports (some given) = .ok d := by
  obtain ⟨title, named, name⟩ := h.name
  obtain ⟨tag, tagged, meant⟩ := h.language
  have spoken : (Language.named? tag).filter supports = some d.language :=
    Option.filter_eq_some_iff.mpr ⟨meant, h.supported⟩
  have decoded : source d.encoding d.code = .ok d.source := by
    rw [source, h.source]
  have there : given ≠ .null := by
    rintro rfl
    cases named
  unfold review
  split
  · rename_i none
    cases none
  · rename_i null
    exact absurd (Option.some.inj null) there
  · rename_i body _ same
    cases same
    simp only [named, h.code, tagged, spoken, h.encoding, decoded, h.active, bind, Except.bind,
      pure, Except.pure, ← name]

end Admission

def Admitted.script (d : Admitted) (active : Bool) (version : Int)
    (createdAt updatedAt : Time.Instant) : Script :=
  ⟨d.name, d.code, d.language, d.encoding, active, version, createdAt, updatedAt⟩

namespace Script

theorem sorted_adminMembers (s : Script) : Named.Sorted s.adminMembers := Named.sorted_ofList _

theorem get?_adminJson (s : Script) :
    s.adminJson.get? "name" = some (.str s.name) ∧ s.adminJson.get? "code" = some (.str s.code) ∧
    s.adminJson.get? "lang" = some (.str s.language.tag) ∧
    s.adminJson.get? "active" = some (.bool s.active) ∧
    s.adminJson.get? "encoded" = s.encoding.map (.str ·.tag) := by
  unfold adminJson adminMembers
  cases s.encoding <;> exact ⟨rfl, rfl, rfl, rfl, rfl⟩

end Script

namespace Edition

structure WellFormed (supports : Language → Bool) (e : Edition) : Prop where
  trimmed : Text.trim e.script.name = e.script.name
  named : Text.blank e.script.name = false
  filled : Text.blank e.script.code = false
  supported : supports e.script.language = true
  decoded : Encoding.source? e.script.encoding e.script.code = some e.source

def draft (e : Edition) : Admitted :=
  ⟨e.script.name, e.script.code, e.script.language, e.script.encoding, e.source,
    some e.script.active⟩

end Edition

namespace Admission

variable {supports : Language → Bool} {given : Json} {d : Admitted} {e : Edition}

theorem Reads.wellFormed (h : Reads supports given d) (active : Bool) (version : Int)
    (createdAt updatedAt : Time.Instant) :
    Edition.WellFormed supports ⟨d.script active version createdAt updatedAt, d.source⟩ where
  trimmed := h.name_trimmed
  named := h.name_not_blank
  filled := (text?_eq_some.mp h.code).2
  supported := h.supported
  decoded := h.source

theorem tag_not_blank (l : Language) : Text.blank l.tag = false := by
  cases l <;> decide +kernel

/-- The fields of an edition that keeps the rules are read back as they are: the tags mean what they
are written for, and nothing is left to cut off. -/
theorem reads_adminJson (h : e.WellFormed supports) :
    Reads supports e.script.adminJson e.draft := by
  obtain ⟨name, code, lang, active, encoded⟩ := e.script.get?_adminJson
  refine ⟨⟨_, text?_eq_some.mpr ⟨name, h.named⟩, h.trimmed.symm⟩,
    text?_eq_some.mpr ⟨code, h.filled⟩,
    ⟨_, text?_eq_some.mpr ⟨lang, tag_not_blank _⟩, Language.named?_tag _⟩, h.supported, ?_,
    h.decoded, ?_⟩
  · simp only [encoding?, encoded, Edition.draft]
    cases e.script.encoding with
    | none => rfl
    | some encoding => simp only [Option.map_some, Encoding.named?_tag]
  · simp only [active?, active, Edition.draft]

end Admission

end ScriptHost
