import ScriptHost.Proofs.LiveEditions
import ScriptHost.Proofs.UpdateTurns

/-!
Updates that leave the name alone. The name of a patch comes back without the white space around it
and is compared with the name as it is kept, so that a name with white space around it, which only a
record can have, is taken for a changed one by every update that passes the other checks.
-/
namespace ScriptHost

namespace Admission

variable {target members : List (String × Json)} {title : String} {supports : Language → Bool}
  {body : Option Json}

theorem find?_overlayMember {p : String × Json} (keeps : p.1 = "name" → p.2 = .str title)
    (found : Named.find? "name" target = some (.str title)) :
    Named.find? "name" (overlayMember target p) = some (.str title) := by
  obtain ⟨key, value⟩ := p
  unfold overlayMember
  split
  · exact found
  · by_cases same : key = "name"
    · have text : value = .str title := keeps same
      subst same text
      exact Named.find?_insert_self "name" _ _
    · split
      · exact (Named.find?_erase_of_ne (Ne.symm same) _).trans found
      · exact (Named.find?_insert_of_ne (Ne.symm same) _ _).trans found

theorem find?_foldl_overlayMember (keeps : ∀ v, ("name", v) ∈ members → v = .str title)
    (found : Named.find? "name" target = some (.str title)) :
    Named.find? "name" (members.foldl overlayMember target) = some (.str title) := by
  induction members generalizing target with
  | nil => exact found
  | cons p members ih =>
    refine ih (fun v member => keeps v (List.mem_cons_of_mem p member)) ?_
    refine find?_overlayMember (fun same => keeps p.2 ?_) found
    rw [← same]
    exact List.mem_cons_self

theorem find?_adminMembers (s : Script) :
    Named.find? "name" s.adminMembers = some (.str s.name) := by
  unfold Script.adminMembers
  cases s.encoding <;> rfl

theorem name_of_overlay {s : Script} {laid : Json}
    (keeps : ∀ v, ("name", v) ∈ members → v = .str s.name)
    (overlaid : overlay s (some (.obj members)) = .ok laid) :
    laid.get? "name" = some (.str s.name) := by
  cases overlaid
  exact find?_foldl_overlayMember keeps (find?_adminMembers s)

theorem name_of_review {laid : Json} {d : Admitted} (named : laid.get? "name" = some (.str title))
    (admitted : review supports (some laid) = .ok d) : d.name = Text.trim title := by
  obtain ⟨given, same, reads⟩ := reads_of_review admitted
  cases same
  obtain ⟨text, found, trimmed⟩ := reads.name
  have member := (text?_eq_some.mp found).1
  rw [named] at member
  cases member
  exact trimmed

theorem encoding?_ne_nameChanged (laid : Json) : encoding? laid ≠ .error .nameChanged := by
  intro refused
  unfold encoding? at refused
  split at refused
  · cases refused
  · cases refused
  · split at refused <;> cases refused
  · cases refused

theorem source_ne_nameChanged (encoding : Option Encoding) (code : String) :
    source encoding code ≠ .error .nameChanged := by
  intro refused
  unfold source at refused
  split at refused <;> cases refused

theorem active?_ne_nameChanged (laid : Json) : active? laid ≠ .error .nameChanged := by
  intro refused
  unfold active? at refused
  split at refused <;> cases refused

theorem review_ne_nameChanged : review supports body ≠ .error .nameChanged := by
  intro refused
  unfold review at refused
  repeat' split at refused
  · cases refused
  · cases refused
  · cases refused
  · cases refused
  · cases refused
  · cases refused
  · simp only [bind, Except.bind, pure, Except.pure] at refused
    split at refused
    · rename_i encoded
      cases refused
      exact encoding?_ne_nameChanged _ encoded
    · split at refused
      · rename_i decoded
        cases refused
        exact source_ne_nameChanged _ _ decoded
      · split at refused
        · rename_i switched
          cases refused
          exact active?_ne_nameChanged _ switched
        · cases refused

end Admission
variable {engines : EngineSet} {policy : Policy} {g : Given} {name : String} {e : Edition}
  {patch : Option Json}

namespace Catalog

/-- The checks that an update makes before it compares the names. -/
def Passes (supports : Language → Bool) (name : String) (s : Script) (patch : Option Json) :
    Prop :=
  checkVersion name s patch = .ok () ∧ ∃ laid d, Admission.overlay s patch = .ok laid ∧
    Admission.review supports (some laid) = .ok d

/-- A merge is refused for its name exactly when what is admitted has another one. -/
theorem merge_nameChanged_iff {supports : Language → Bool} {s : Script} :
    merge supports s patch = .error (.refused .nameChanged) ↔
      ∃ laid d, Admission.overlay s patch = .ok laid ∧
        Admission.review supports (some laid) = .ok d ∧ d.name ≠ s.name := by
  unfold merge
  cases overlaid : Admission.overlay s patch with
  | error f =>
    constructor
    · intro refused
      cases refused
      unfold Admission.overlay at overlaid
      split at overlaid <;> cases overlaid
    · rintro ⟨laid, d, same, _⟩
      cases same
  | ok laid =>
    dsimp only
    cases reviewed : Admission.review supports (some laid) with
    | error f =>
      constructor
      · intro refused
        cases refused
        exact absurd reviewed Admission.review_ne_nameChanged
      · rintro ⟨_, d, same, admitted, _⟩
        cases same
        rw [reviewed] at admitted
        cases admitted
    | ok d =>
      by_cases same : d.name = s.name
      · simp only [if_pos same]
        constructor
        · intro refused
          cases refused
        · rintro ⟨_, d', again, admitted, other⟩
          cases again
          rw [reviewed] at admitted
          cases admitted
          exact absurd same other
      · simp only [if_neg same]
        exact ⟨fun _ => ⟨laid, d, rfl, reviewed, same⟩, fun _ => trivial⟩

end Catalog

theorem Decision.ofUpdate_nameChanged_iff :
    ofUpdate engines policy g name e patch = .answer (.error (.refused .nameChanged)) ↔
      Catalog.checkVersion name e.script patch = .ok () ∧
        Catalog.merge engines.supports e.script patch = .error (.refused .nameChanged) := by
  unfold ofUpdate
  cases checked : Catalog.checkVersion name e.script patch with
  | error f =>
    constructor
    · intro refused
      cases refused
      unfold Catalog.checkVersion at checked
      repeat' split at checked
      all_goals cases checked
    · rintro ⟨passed, _⟩
      cases passed
  | ok _ =>
    simp only [ofPatch]
    cases merged : Catalog.merge engines.supports e.script patch with
    | error f =>
      constructor
      · intro refused
        cases refused
        exact ⟨trivial, rfl⟩
      · rintro ⟨_, refused⟩
        cases refused
        rfl
    | ok d =>
      simp only [ofAdmitted]
      cases compiled : g.compile engines policy d with
      | error f =>
        constructor
        · intro refused
          cases refused
          exact (Given.compile_ofCheck compiled).elim
        · rintro ⟨_, refused⟩
          cases refused
      | ok _ =>
        constructor
        · intro refused
          cases refused
        · rintro ⟨_, refused⟩
          cases refused

theorem Call.preserves_trimmed (engines : EngineSet) (policy : Policy) (records : List Record) :
    Call.Preserves engines policy fun name _ => Text.trim name = name ∨
      ∃ r ∈ records, r.deleted = false ∧ r.script.name = name := by
  intro call name s w next makes about before shown
  cases makes with
  | create asked admitted _ _ =>
    obtain ⟨_, _, reads⟩ := Admission.reads_of_review admitted
    have title := (Call.target_of_review asked admitted).symm.trans about
    rw [← Option.some.inj title]
    exact Or.inl reads.name_trimmed
  | update _ live _ _ _ => exact (before _ live).2
  | activate _ live _ => exact (before _ live).2
  | delete _ _ | forceDelete _ => cases shown

namespace Traffic

variable {calls : Nat → Call} {m : Traffic} {c : Catalog} {a : MemoryArchive} {i : Nat}
  {r : Answer} {members : List (String × Json)}

namespace UpdateTurn

variable (turn : UpdateTurn calls m i name (some (.obj members)) e r) (h : m.Matches c a)
include turn h

theorem title : e.script.name = name :=
  h.titled name e (Slot.live?_eq_some.mpr ((h.slots name).symm.trans turn.live))

variable (sound : m.Sound calls) (keeps : ∀ v, ("name", v) ∈ members → v = .str name)
include sound keeps

theorem nameChanged_iff : r = .error (.refused .nameChanged) ↔
    Catalog.Passes m.engines.supports name e.script (some (.obj members)) ∧
      Text.trim name ≠ name := by
  have title := turn.title h
  rw [turn.failed_iff h sound (fun y same => by cases same), updateDecision,
    Decision.ofUpdate_nameChanged_iff, Catalog.merge_nameChanged_iff]
  constructor
  · rintro ⟨checked, laid, d, overlaid, admitted, other⟩
    have named := Admission.name_of_overlay (by rw [title]; exact keeps) overlaid
    rw [Admission.name_of_review named admitted, title] at other
    exact ⟨⟨checked, laid, d, overlaid, admitted⟩, other⟩
  · rintro ⟨⟨checked, laid, d, overlaid, admitted⟩, padded⟩
    refine ⟨checked, laid, d, overlaid, admitted, ?_⟩
    have named := Admission.name_of_overlay (by rw [title]; exact keeps) overlaid
    rw [Admission.name_of_review named admitted, title]
    exact padded

theorem trimmed_of_ok {reply : Reply} (succeeds : r = .ok reply) : Text.trim name = name := by
  have title := turn.title h
  obtain ⟨w, decided⟩ := turn.change_of_ok h sound succeeds
  obtain ⟨d, _, merged, _⟩ := Decision.ofUpdate_change decided
  obtain ⟨laid, overlaid, admitted, same⟩ := Catalog.merge_eq_ok merged
  have named := Admission.name_of_overlay (by rw [title]; exact keeps) overlaid
  rw [Admission.name_of_review named admitted, title] at same
  exact same

end UpdateTurn

/-- An update whose patch leaves the name alone is not refused for its name, as long as the name has
no white space around it. A live name with white space around it comes from a record, and no update
of it succeeds: one that passes the checks before is refused for its name. -/
theorem renames_opened (calls : Nat → Call) (engines : EngineSet) (policy : Policy)
    (records : List Record) (hub : Hub) (i : Nat) (name : String) (members : List (String × Json))
    (asked : (calls i).request = .update name (some (.obj members)))
    (keeps : ∀ v, ("name", v) ∈ members → v = .str name) :
    let first := opened engines policy records hub
    (Text.trim name = name → ∀ schedule,
      (first.run calls schedule).stages i ≠ .done (.error (.refused .nameChanged))) ∧
    (Text.trim name ≠ name → ∀ before e, (first.run calls before).slot name = .live e →
      (∃ r ∈ records, r.deleted = false ∧ r.script.name = name) ∧
      ∀ r, UpdateTurn calls (first.run calls before) i name (some (.obj members)) e r →
        (∀ reply, r ≠ .ok reply) ∧
        (r = .error (.refused .nameChanged) ↔
          Catalog.Passes engines.supports name e.script (some (.obj members)))) := by
  intro first
  have start : first.Sound calls := sound_opened calls engines policy records hub []
  refine ⟨fun trimmed schedule done => ?_, fun padded before e live => ⟨?_, fun r turn => ?_⟩⟩
  · have had := exists_updateTurn (matches_opened engines policy records hub) start rfl asked done
    obtain ⟨before, after, e, _, turn⟩ := had.resolve_left fun same => by cases same
    obtain ⟨c, a, matching, _⟩ := matches_coherent calls engines policy records hub before
    have padded := ((turn.nameChanged_iff matching (sound_run start before) keeps).mp rfl).2
    exact padded trimmed
  · refine (shows_opened calls records hub before (Call.preserves_trimmed engines policy records)
      (fun r member e opened => ?_) live).resolve_left padded
    exact Or.inr ⟨r, member, (Slot.ofRecord_eq_live.mp opened).1, rfl⟩
  · obtain ⟨c, a, matching, _⟩ := matches_coherent calls engines policy records hub before
    have sound := sound_run start before
    refine ⟨fun reply succeeds => ?_, ?_⟩
    · exact padded (turn.trimmed_of_ok matching sound keeps succeeds)
    · have exactly := turn.nameChanged_iff matching sound keeps
      rw [engines_run] at exactly
      exact exactly.trans (and_iff_left padded)

theorem renames_opened_padded_record :
    let engines : EngineSet :=
      ⟨[⟨.lua, fun _ => .done (), fun source _ => .done ⟨.str source, []⟩⟩]⟩
    let script (name : String) : Script :=
      ⟨name, "return 1", .lua, none, true, 0, .epoch, .epoch⟩
    let given : Given := ⟨.epoch, fun _ _ => .done (), none⟩
    let calls : Nat → Call := fun i =>
      if i = 0 then ⟨.update "a" (some (.obj [("name", .str "a")])), given⟩
      else ⟨.update " b " (some (.obj [])), given⟩
    let records : List Record := [⟨script "a", false⟩, ⟨script " b ", false⟩]
    let first := opened engines ⟨true, 5000⟩ records ⟨256, [], 0⟩
    (∀ schedule, (first.run calls schedule).stages 0 ≠
      .done (.error (.refused .nameChanged))) ∧
    (first.run calls (List.replicate 10 1)).stages 1 = .done (.error (.refused .nameChanged)) ∧
    ∃ e : Edition, Catalog.Passes engines.supports " b " e.script (some (.obj [])) := by
  intro engines script given calls records first
  have plain := renames_opened calls engines ⟨true, 5000⟩ records ⟨256, [], 0⟩ 0 "a" _ rfl
    (by simp)
  have padded := renames_opened calls engines ⟨true, 5000⟩ records ⟨256, [], 0⟩ 1 " b " _ rfl
    (by simp)
  have done : (first.run calls (List.replicate 10 1)).stages 1 =
      .done (.error (.refused .nameChanged)) := Stage.failure?_eq_some.mp (by decide +kernel)
  refine ⟨plain.1 (by decide), done, ?_⟩
  have had := exists_updateTurn (matches_opened engines ⟨true, 5000⟩ records ⟨256, [], 0⟩)
    (sound_opened calls engines ⟨true, 5000⟩ records ⟨256, [], 0⟩ []) rfl rfl done
  obtain ⟨before, after, e, _, turn⟩ := had.resolve_left fun same => by cases same
  have refused := (padded.2 (by decide) before e turn.live).2 _ turn
  exact ⟨e, refused.2.mp rfl⟩

end Traffic

end ScriptHost
