import ScriptHost.Proofs.AdmissionRules
import ScriptHost.Proofs.Overlays
import ScriptHost.Proofs.Provenance
import ScriptHost.Proofs.UpdateTurns

/-!
Patches that name no field of a script. The fields of an admitted script are admitted again as they
are, so that such an update of a script that was created or updated before is never refused and
changes nothing but the version and the time.
-/
namespace ScriptHost

namespace Text

theorem trimBoth_blank {s : String} (h : blank s = true) : trimBoth s.toList = [] := by
  obtain ⟨_, _, _, _, _, first, _⟩ := trims_trimBoth s.toList
  have all : (trimBoth s.toList).all isBlank = true := (all_trimBoth _).trans h
  cases core : trimBoth s.toList with
  | nil => rfl
  | cons c cs =>
    rw [core] at first all
    have solid := first c rfl
    simp [solid] at all

end Text

theorem Encoding.code_not_blank {encoding : Option Encoding} {code text : String}
    (decoded : source? encoding code = some text) (filled : Text.blank text = false) :
    Text.blank code = false := by
  match encoding with
  | none | some .plain =>
    cases decoded
    exact filled
  | some .base64 =>
    by_contra notFilled
    have nothing : source? (some .base64) code = none := by
      rw [source?, Text.trimBoth_blank (eq_true_of_ne_false notFilled)]
      decide +kernel
    rw [nothing] at decoded
    cases decoded

namespace Admission

def Outside (members : List (String × Json)) : Prop :=
  ∀ p ∈ members, p.1 ∉ ["name", "code", "lang", "encoded", "active"]

variable {supports : Language → Bool} {members : List (String × Json)} {e : Edition}

theorem find?_outside (outside : Outside members) {target : List (String × Json)}
    (sorted : Named.Sorted target) {key : String}
    (field : key ∈ ["name", "code", "lang", "encoded", "active"]) :
    Named.find? key (members.foldl overlayMember target) = Named.find? key target := by
  have other : key ≠ "version" := by
    rintro rfl
    simp at field
  have silent : Named.find? key (Named.ofList members) = none := by
    refine Option.eq_none_iff_forall_ne_some.mpr fun v found => ?_
    exact outside _ (Named.mem_ofList (Named.mem_of_find? found)) field
  rw [find?_overlaid sorted other, silent]
  rfl

/-- The fields of an edition that keeps the rules are admitted again, whatever a patch says of
other members. -/
theorem readmits (well : e.WellFormed supports) (outside : Outside members) :
    ∃ laid, overlay e.script (some (.obj members)) = .ok laid ∧
      review supports (some laid) = .ok e.draft := by
  refine ⟨_, rfl, ?_⟩
  have again := review_of_reads (reads_adminJson well)
  rw [← again]
  exact review_congr fun key => find?_outside outside e.script.sorted_adminMembers

end Admission

theorem Catalog.merge_outside {supports : Language → Bool} {members : List (String × Json)}
    {e : Edition} (well : e.WellFormed supports) (outside : Admission.Outside members) :
    merge supports e.script (some (.obj members)) = .ok e.draft := by
  obtain ⟨laid, overlaid, admitted⟩ := Admission.readmits well outside
  have title : e.draft.name = e.script.name := rfl
  simp only [merge, overlaid, admitted, if_pos title]

theorem Edition.WrittenBy.wellFormed {engines : EngineSet} {name : String} {call : Call}
    {s : Script} {e : Edition} (h : e.WrittenBy engines name call s)
    (title : e.script.name = name) (supported : engines.supports e.script.language = true)
    (decoded : Encoding.source? e.script.encoding e.script.code = some e.source) :
    e.WellFormed engines.supports where
  trimmed := by rw [title]; exact h.trimmed
  named := by rw [title]; exact h.named
  filled := Encoding.code_not_blank decoded h.filled
  supported := supported
  decoded := decoded

def Edition.reissued (e : Edition) (now : Time.Instant) : Edition :=
  ⟨{ e.script with version := nextVersion e.script.version, updatedAt := now }, e.source⟩

theorem Call.lastWritten?_ne_none {name : String} {calls : List Call} {answers : List Answer}
    {call : Call} {st : Status} (member : (call, .ok (.status st)) ∈ calls.zip answers)
    (title : st.script.name = name) : lastWritten? name calls answers ≠ none := by
  have written : (call, st.script) ∈ (calls.zip answers).filterMap (written? name) :=
    List.mem_filterMap.mpr ⟨_, member, if_pos title⟩
  rw [lastWritten?, ne_eq, List.getLast?_eq_none_iff]
  exact List.ne_nil_of_mem written

namespace Traffic

variable {calls : Nat → Call} {m : Traffic} {c : Catalog} {a : MemoryArchive} {i : Nat}
  {name : String} {members : List (String × Json)} {e : Edition} {r : Answer}

def Written (calls : Nat → Call) (m : Traffic) (name : String) : Prop :=
  ∃ k st, m.answer? calls k = some (.ok (.status st)) ∧ st.script.name = name

theorem mem_zip_of_answer? {turns : List Nat} {answers : List Answer} {k : Nat}
    (same : answers.map some = turns.map (m.answer? calls)) (member : k ∈ turns)
    (told : m.answer? calls k = some r) : (calls k, r) ∈ (turns.map calls).zip answers := by
  induction turns generalizing answers with
  | nil => cases member
  | cons j turns ih =>
    cases answers with
    | nil => cases same
    | cons first answers =>
      obtain ⟨here, rest⟩ := List.cons.inj same
      rcases List.mem_cons.mp member with front | later
      · subst front
        cases here.trans told
        exact List.mem_cons_self
      · exact List.mem_cons_of_mem _ (ih rest later)

/-- Once a creation or an update of a name has succeeded, what the name shows keeps the rules for
bodies. -/
theorem wellFormed_opened (calls : Nat → Call) (engines : EngineSet) (policy : Policy)
    (records : List Record) (hub : Hub) (schedule : List Nat)
    (written : ((opened engines policy records hub).run calls schedule).Written calls name)
    (live : ((opened engines policy records hub).run calls schedule).slot name = .live e) :
    e.WellFormed engines.supports := by
  obtain ⟨k, st, told, title⟩ := written
  obtain ⟨answers, c, a, made, last, same⟩ := inTurn_turns
    (matches_opened engines policy records hub)
    (sound_opened calls engines policy records hub []) schedule
  have first := Catalog.coherent_ofRecords engines policy
    (MemoryArchive.ordered_ofRecords records)
  have member : k ∈ (opened engines policy records hub).turns calls schedule :=
    mem_turns.mpr ⟨rfl, by rw [told]; exact Option.some_ne_none _⟩
  have wrote := Call.lastWritten?_ne_none (mem_zip_of_answer? same member told) title
  have read : ∀ name e, (Catalog.ofRecords engines policy
      (MemoryArchive.ofRecords records).all).slot name = .live e →
      e.Origin engines (MemoryArchive.ofRecords records) name none := fun _ _ live =>
    Catalog.Coherent.origin_ofRecords engines policy (MemoryArchive.ordered_ofRecords records) live
  have origins := first.origin_inTurn (w := fun _ => none) read
    (((opened engines policy records hub).turns calls schedule).map calls)
  have coherent :=
    first.inTurn (((opened engines policy records hub).turns calls schedule).map calls)
  rw [made] at origins coherent
  have stands := (last.slots name).symm.trans live
  obtain ⟨_, opened⟩ := coherent.record_of_live stands
  obtain ⟨_, _, supported, decoded⟩ := Slot.ofRecord_eq_live.mp opened
  have origin := origins name e stands
  rw [Option.or_none] at origin
  obtain ⟨⟨call, s⟩, found⟩ := Option.ne_none_iff_exists'.mp wrote
  rw [found] at origin
  exact origin.wellFormed (last.titled name e (Slot.live?_eq_some.mpr stands)) supported decoded

/-- An update that is not refused: it fails for another reason and leaves the name alone, or the
name shows the same content as the next version. -/
def Reissues (calls : Nat → Call) (m : Traffic) (i : Nat) (name : String) (e : Edition)
    (r : Answer) : Prop :=
  (∃ f, r = .error f ∧ (∀ x, f ≠ .refused x) ∧ (m.step calls i).slot name = .live e) ∨
  let next := e.reissued (calls i).given.now
  r = .ok (.status ⟨Catalog.updatedMessage next.script, next.script⟩) ∧
    (m.step calls i).slot name = .live next

theorem reissues_of_decision {engines : EngineSet} (name : String) (policy : Policy) (g : Given)
    (well : e.WellFormed engines.supports) (outside : Admission.Outside members) :
    (∃ f, Decision.ofUpdate engines policy g name e (some (.obj members)) = .answer (.error f) ∧
      ∀ x, f ≠ .refused x) ∨
    Decision.ofUpdate engines policy g name e (some (.obj members)) =
      .change (Phase.revision e e.draft g) := by
  unfold Decision.ofUpdate
  cases checked : Catalog.checkVersion name e.script (some (.obj members)) with
  | error f =>
    refine Or.inl ⟨f, rfl, fun x same => ?_⟩
    subst same
    unfold Catalog.checkVersion at checked
    repeat' split at checked
    all_goals cases checked
  | ok _ =>
    simp only [Decision.ofPatch, Catalog.merge_outside well outside, Decision.ofAdmitted]
    cases compiled : g.compile engines policy e.draft with
    | error f =>
      refine Or.inl ⟨f, rfl, fun x same => ?_⟩
      subst same
      exact Given.compile_ofCheck compiled
    | ok _ => exact Or.inr rfl

theorem UpdateTurn.reissues (turn : UpdateTurn calls m i name (some (.obj members)) e r)
    (h : m.Matches c a) (sound : m.Sound calls) (well : e.WellFormed m.engines.supports)
    (outside : Admission.Outside members) : Reissues calls m i name e r := by
  obtain ⟨c', a', result, next⟩ := turn.result h sound
  have live : c.slot name = .live e := (h.slots name).symm.trans turn.live
  unfold Reissues
  rw [next.slots name]
  rw [updateDecision] at result
  rcases reissues_of_decision name m.policy (calls i).given well outside with
    ⟨f, decided, own⟩ | decided
  · rw [decided] at result
    cases result
    exact Or.inl ⟨f, rfl, own, live⟩
  · rw [decided] at result
    cases fault : (calls i).given.fault with
    | some x =>
      simp only [Decision.result, fault] at result
      cases result
      exact Or.inl ⟨.archive x, rfl, fun y => Failure.noConfusion, live⟩
    | none =>
      simp only [Decision.result, fault] at result
      cases result
      exact Or.inr ⟨rfl, Catalog.slot_publish_live c name _⟩

/-- What was admitted once is admitted again: the fields of a script that was made from an admitted
body, with a patch that names none of them, are admitted with the same content, and the activity of
the script. So an update with such a patch, whatever other calls are under way, is not refused when
a creation or an update of the name has succeeded before, and changes nothing but the version and
the time. -/
theorem readmitted_opened :
    (∀ (supports : Language → Bool) (body : Option Json) (d : Admitted),
      Admission.review supports body = .ok d →
      ∀ active version createdAt updatedAt (members : List (String × Json)),
        Admission.Outside members →
        ∃ laid, Admission.overlay (d.script active version createdAt updatedAt)
            (some (.obj members)) = .ok laid ∧
          Admission.review supports (some laid) = .ok { d with active := some active }) ∧
    ∀ (calls : Nat → Call) (engines : EngineSet) (policy : Policy) (records : List Record)
      (hub : Hub) (schedule : List Nat) (i : Nat) (name : String)
      (members : List (String × Json)) (r : Answer),
      (calls i).request = .update name (some (.obj members)) → Admission.Outside members →
      let first := opened engines policy records hub
      (first.run calls schedule).stages i = .done r →
      r = .error (.notFound name) ∨ ∃ before after e, schedule = before ++ i :: after ∧
        (first.run calls before).slot name = .live e ∧
        ((first.run calls before).Written calls name →
          Reissues calls (first.run calls before) i name e r) := by
  constructor
  · intro supports body d admitted active version createdAt updatedAt members outside
    obtain ⟨_, _, reads⟩ := Admission.reads_of_review admitted
    exact Admission.readmits (reads.wellFormed active version createdAt updatedAt) outside
  · intro calls engines policy records hub schedule i name members r asked outside first done
    have start : first.Sound calls := sound_opened calls engines policy records hub []
    have had := exists_updateTurn (matches_opened engines policy records hub) start rfl asked done
    refine had.imp id ?_
    rintro ⟨before, after, e, parts, turn⟩
    refine ⟨before, after, e, parts, turn.live, fun written => ?_⟩
    obtain ⟨c, a, matching, _⟩ := matches_coherent calls engines policy records hub before
    have well := wellFormed_opened calls engines policy records hub before written turn.live
    refine turn.reissues matching (sound_run start before) ?_ outside
    rw [engines_run]
    exact well

theorem readmitted_opened_encoded_code :
    let engines : EngineSet :=
      ⟨[⟨.lua, fun _ => .done (), fun source _ => .done ⟨.str source, []⟩⟩]⟩
    let given : Given := ⟨.epoch, fun _ _ => .done (), none⟩
    let body : Json := .obj [("active", .bool false), ("code", .str " cmV0dXJuIDQy"),
      ("encoded", .str "base64"), ("lang", .str " LUA "), ("name", .str " a ")]
    let members : List (String × Json) := [("owner", .str "b"), ("version", .int 0)]
    let calls : Nat → Call := fun i =>
      if i = 0 then ⟨.create (some body), given⟩ else ⟨.update "a" (some (.obj members)), given⟩
    let schedule := List.replicate 15 0 ++ List.replicate 15 1
    let first := opened engines ⟨true, 5000⟩ [] ⟨256, [], 0⟩
    let d : Admitted := ⟨"a", " cmV0dXJuIDQy", .lua, some .base64, "return 42", some false⟩
    (∃ laid, Admission.overlay (d.script true 7 .epoch .epoch) (some (.obj members)) = .ok laid ∧
      Admission.review engines.supports (some laid) = .ok { d with active := some true }) ∧
    ∃ before after e st, schedule = before ++ 1 :: after ∧
      (first.run calls before).slot "a" = .live e ∧
      Reissues calls (first.run calls before) 1 "a" e (.ok (.status st)) ∧
      st.script = d.script false 1 .epoch .epoch := by
  intro engines given body members calls schedule first d
  obtain ⟨again, updates⟩ := readmitted_opened
  have outside : Admission.Outside members := by simp [Admission.Outside, members]
  have admitted : Admission.review engines.supports (some body) = .ok d := by
    have outcome : (Admission.review engines.supports (some body)).toOption = some d := by
      decide +kernel
    generalize Admission.review engines.supports (some body) = result at outcome ⊢
    cases result <;> cases outcome
    rfl
  have told : (((first.run calls schedule).stages 1).status?).map (·.script) =
      some (d.script false 1 .epoch .epoch) := by decide +kernel
  obtain ⟨st, done, script⟩ := Option.map_eq_some_iff.mp told
  refine ⟨again _ _ d admitted true 7 .epoch .epoch members outside, ?_⟩
  have had := updates calls engines ⟨true, 5000⟩ [] ⟨256, [], 0⟩ schedule 1 "a" members _ rfl
    outside (Stage.status?_eq_some.mp done)
  obtain ⟨before, after, e, parts, live, reissues⟩ := had.resolve_left fun same => by cases same
  refine ⟨before, after, e, st, parts, live, reissues ?_, script⟩
  -- The creation has returned before the first step of the update.
  obtain ⟨rest, since⟩ : ∃ rest, before = List.replicate 15 0 ++ rest := by
    rcases List.append_eq_append_iff.mp parts with ⟨rest, since, _⟩ | ⟨rest, early, late⟩
    · exact ⟨rest, since⟩
    · cases rest with
      | nil => exact ⟨[], by rw [early]; simp⟩
      | cons j rest =>
        cases late
        have zero : 1 = 0 := List.eq_of_mem_replicate (early ▸ List.mem_append_right before
          List.mem_cons_self)
        cases zero
  have created : ((first.run calls (List.replicate 15 0)).stages 0).status? =
      some ⟨"Script 'a' created", d.script false 0 .epoch .epoch⟩ := by decide +kernel
  refine ⟨0, ⟨"Script 'a' created", d.script false 0 .epoch .epoch⟩, ?_, rfl⟩
  rw [since, run_append]
  exact answer?_run (answer?_done (Stage.status?_eq_some.mp created)) rest

end Traffic

end ScriptHost
