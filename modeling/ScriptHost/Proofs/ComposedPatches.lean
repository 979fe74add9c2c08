import ScriptHost.Proofs.Overlays
import ScriptHost.Proofs.UpdateTurns
import ScriptHost.Proofs.VersionGrowth

/-!
Two patches one after the other, and the two laid over each other as one patch. After the first
update the second patch meets the fields as they were read, with tags in their own form and without
members that are no fields; what is admitted in the end is the same.
-/
namespace ScriptHost

namespace Admission

/-- Two bodies that say the same of name, code, language and encoding, if not in the same words. -/
structure Alike (b b' : Json) : Prop where
  name : (text? b "name").map Text.trim = (text? b' "name").map Text.trim
  code : text? b "code" = text? b' "code"
  language : (text? b "lang").bind Language.named? = (text? b' "lang").bind Language.named?
  encoding : encoding? b = encoding? b'

variable {supports : Language → Bool} {b b' : Json} {d d' : Admitted}
  {ms ms' members : List (String × Json)} {key : String}

theorem Reads.alike (h : Reads supports b d) (h' : Reads supports b' d') (name : d.name = d'.name)
    (code : d.code = d'.code) (language : d.language = d'.language)
    (encoding : d.encoding = d'.encoding) : Alike b b' where
  name := by
    obtain ⟨text, found, same⟩ := h.name
    obtain ⟨text', found', same'⟩ := h'.name
    rw [found, found', Option.map_some, Option.map_some, ← same, ← same', name]
  code := by rw [h.code, h'.code, code]
  language := by
    obtain ⟨tag, found, meant⟩ := h.language
    obtain ⟨tag', found', meant'⟩ := h'.language
    rw [found, found', Option.bind_some, Option.bind_some, meant, meant', language]
  encoding := by rw [h.encoding, h'.encoding, encoding]

theorem Alike.reads (alike : Alike b b') (h : Reads supports b' d) {active : Option Bool}
    (switched : active? b = .ok active) : Reads supports b { d with active := active } where
  name := by
    obtain ⟨text', found', same'⟩ := h.name
    have trimmed := alike.name
    rw [found', Option.map_some] at trimmed
    obtain ⟨text, found, same⟩ := Option.map_eq_some_iff.mp trimmed
    exact ⟨text, found, same'.trans same.symm⟩
  code := alike.code.trans h.code
  language := by
    obtain ⟨tag', found', meant'⟩ := h.language
    have spoken := alike.language
    rw [found', Option.bind_some, meant'] at spoken
    exact Option.bind_eq_some_iff.mp spoken
  supported := h.supported
  encoding := alike.encoding.trans h.encoding
  source := h.source
  active := switched

section

variable (sorted : Named.Sorted ms) (sorted' : Named.Sorted ms')
include sorted sorted'

theorem reading_overlaid {α : Type} (key : String) (read : Json → α) (field : key ≠ "version")
    (looks : ∀ {ns ns'}, Named.find? key ns = Named.find? key ns' →
      read (.obj ns) = read (.obj ns'))
    (same : read (.obj ms) = read (.obj ms')) (members : List (String × Json)) :
    read (.obj (members.foldl overlayMember ms)) =
      read (.obj (members.foldl overlayMember ms')) := by
  have found := find?_overlaid sorted field members
  have found' := find?_overlaid sorted' field members
  cases said : Named.find? key (Named.ofList members) with
  | none =>
    rw [said] at found found'
    rw [looks found, looks found', same]
  | some v =>
    rw [said] at found found'
    exact looks (found.trans found'.symm)

theorem Alike.overlaid (h : Alike (.obj ms) (.obj ms')) (members : List (String × Json)) :
    Alike (.obj (members.foldl overlayMember ms)) (.obj (members.foldl overlayMember ms')) where
  name := reading_overlaid sorted sorted' "name" (fun b => (text? b "name").map Text.trim)
    (by decide) (fun same => by simp only [text?, Json.get?, same]) h.name members
  code := reading_overlaid sorted sorted' "code" (text? · "code") (by decide)
    (fun same => by simp only [text?, Json.get?, same]) h.code members
  language := reading_overlaid sorted sorted' "lang"
    (fun b => (text? b "lang").bind Language.named?) (by decide)
    (fun same => by simp only [text?, Json.get?, same]) h.language members
  encoding := reading_overlaid sorted sorted' "encoded" encoding? (by decide)
    (fun same => by simp only [encoding?, Json.get?, same]) h.encoding members

theorem active?_overlaid {active active' : Option Bool} (switched : active? (.obj ms) = .ok active)
    (later : active? (.obj (members.foldl overlayMember ms')) = .ok active') :
    ∃ last, active? (.obj (members.foldl overlayMember ms)) = .ok last := by
  have field : "active" ≠ "version" := by decide
  have found := find?_overlaid sorted field members
  have found' := find?_overlaid sorted' field members
  cases said : Named.find? "active" (Named.ofList members) with
  | none =>
    rw [said] at found
    refine ⟨active, ?_⟩
    simp only [active?, Json.get?, found, patched] at switched ⊢
    exact switched
  | some v =>
    rw [said] at found found'
    refine ⟨active', ?_⟩
    simp only [active?, Json.get?, found, found', patched] at later ⊢
    exact later

end

/-- What is admitted from one patch, and then from another one laid over the script that was made of
it, is admitted at once from both patches as one; only the activity that they ask for may differ. -/
theorem review_composed {s : Script} {p q : List (String × Json)} {laid laid' : Json}
    (overlaid : overlay s (some (.obj p)) = .ok laid)
    (admitted : review supports (some laid) = .ok d) {active : Bool} {version : Int}
    {createdAt updatedAt : Time.Instant}
    (overlaid' : overlay (d.script active version createdAt updatedAt) (some (.obj q)) = .ok laid')
    (admitted' : review supports (some laid') = .ok d') :
    ∃ both last, overlay s (some (Json.object (p ++ q))) = .ok both ∧
      review supports (some both) = .ok { d' with active := last } := by
  cases overlaid
  cases overlaid'
  obtain ⟨_, same, reads⟩ := reads_of_review admitted
  cases same
  obtain ⟨_, same, reads'⟩ := reads_of_review admitted'
  cases same
  have sorted := sorted_foldl_overlayMember s.sorted_adminMembers p
  have kept := reads_adminJson (reads.wellFormed active version createdAt updatedAt)
  have alike : Alike (.obj (p.foldl overlayMember s.adminMembers))
    (d.script active version createdAt updatedAt).adminJson := reads.alike kept rfl rfl rfl rfl
  have sorted' := (d.script active version createdAt updatedAt).sorted_adminMembers
  obtain ⟨last, switched⟩ := active?_overlaid sorted sorted' reads.active reads'.active
  have both : overlay s (some (Json.object (p ++ q))) =
      .ok (.obj (q.foldl overlayMember (p.foldl overlayMember s.adminMembers))) := by
    rw [Json.object, overlay, overlaid_ofList s.sorted_adminMembers, List.foldl_append]
  exact ⟨_, last, both, review_of_reads ((alike.overlaid sorted sorted' q).reads reads' switched)⟩

end Admission

/-- The editions differ at most in version and times. -/
structure Edition.SameContent (e e' : Edition) : Prop where
  name : e.script.name = e'.script.name
  code : e.script.code = e'.script.code
  language : e.script.language = e'.script.language
  encoding : e.script.encoding = e'.script.encoding
  active : e.script.active = e'.script.active
  source : e.source = e'.source

namespace Catalog

theorem merge_composed {supports : Language → Bool} {s : Script} {d d' : Admitted}
    {p q : List (String × Json)} {now : Time.Instant}
    (merged : merge supports s (some (.obj p)) = .ok d)
    (merged' : merge supports (revised s d now) (some (.obj q)) = .ok d') :
    ∃ last, merge supports s (some (Json.object (p ++ q))) = .ok { d' with active := last } := by
  obtain ⟨laid, overlaid, admitted, title⟩ := merge_eq_ok merged
  obtain ⟨laid', overlaid', admitted', title'⟩ := merge_eq_ok merged'
  have made : revised s d now = d.script s.active (nextVersion s.version) s.createdAt now := by
    simp only [revised, Admitted.script, title]
  rw [made] at overlaid'
  obtain ⟨both, last, laidBoth, admittedBoth⟩ :=
    Admission.review_composed overlaid admitted overlaid' admitted'
  have name : d'.name = s.name := title'
  exact ⟨last, by simp only [merge, laidBoth, admittedBoth, if_pos name]⟩

theorem expectedVersion_silent {members : List (String × Json)}
    (silent : ∀ m ∈ members, m.1 ≠ "version") : expectedVersion (some (.obj members)) = none := by
  have absent : Named.find? "version" members = none := by
    refine Option.eq_none_iff_forall_ne_some.mpr fun v found => ?_
    exact silent _ (Named.mem_of_find? found) rfl
  simp only [expectedVersion, Option.bind_some, Json.get?, absent, Option.bind_none]

end Catalog

namespace Call

variable {call : Call} {c : Catalog} {a : MemoryArchive} {name : String} {e : Edition}
  {patch : Option Json}

theorem live_of_update_ok (asked : call.request = .update name patch) {reply : Reply}
    (succeeds : (call.alone c a).1 = .ok reply) : ∃ e, c.slot name = .live e := by
  cases live : (c.slot name).live? with
  | some e => exact ⟨e, Slot.live?_eq_some.mp live⟩
  | none =>
    have absent : (call.given.catalog c).get? name = none := live
    simp only [alone, asked] at succeeds
    rw [Given.perform_unchanged (r := .error (.notFound name))
      (by simp only [Catalog.update, absent])] at succeeds
    cases succeeds

section

variable (titled : c.Titled) (live : c.slot name = .live e)
  (asked : call.request = .update name patch)
include titled live asked

theorem alone_update_ok {reply : Reply} (succeeds : (call.alone c a).1 = .ok reply) :
    ∃ d, Catalog.merge c.engines.supports e.script patch = .ok d ∧
      call.given.compile c.engines c.policy d = .ok () ∧
      (call.alone c a).2.1 =
        c.publish name (.live ⟨Catalog.revised e.script d call.given.now, d.source⟩) := by
  rw [alone_update_eq titled asked live] at succeeds ⊢
  cases decided : Decision.ofUpdate c.engines c.policy call.given name e patch with
  | answer r =>
    obtain ⟨f, failed, _⟩ := Decision.ofUpdate_answer decided
    rw [decided, failed] at succeeds
    cases succeeds
  | change w =>
    obtain ⟨d, _, merged, compiled, rfl⟩ := Decision.ofUpdate_change decided
    rw [decided] at succeeds
    refine ⟨d, merged, compiled, ?_⟩
    cases fault : call.given.fault with
    | some f =>
      simp only [Decision.result, fault] at succeeds
      cases succeeds
    | none =>
      simp only [Decision.result, fault]
      rfl

theorem alone_update_of_merge {d : Admitted}
    (silent : Catalog.expectedVersion patch = none)
    (merged : Catalog.merge c.engines.supports e.script patch = .ok d)
    (compiled : call.given.compile c.engines c.policy d = .ok ())
    (obeyed : call.given.fault = none) :
    let next : Edition := ⟨Catalog.revised e.script d call.given.now, d.source⟩
    call.alone c a = (.ok (.status ⟨Catalog.updatedMessage next.script, next.script⟩),
      c.publish name (.live next), a.put next.script) := by
  rw [alone_update_eq titled asked live]
  simp only [Decision.ofUpdate, Catalog.checkVersion_of_silent silent, Decision.ofPatch, merged,
    Decision.ofAdmitted, compiled, Decision.result, obeyed]
  rfl

end

end Call

/-- What two updates leave of a name and what a single one does: the same, at one version less. -/
structure Edition.Composed (twice once : Edition) : Prop where
  same : once.SameContent twice
  version : once.script.version ≠ twoTo 63 - 1 → twice.script.version = once.script.version + 1
  restart : once.script.version = twoTo 63 - 1 → twice.script.version = -twoTo 63

/-- On every live script, two updates without a `version` that both succeed come to the same as one
update with both patches laid over each other: it succeeds, and the name ends with the same content,
at one version less. Only when the one update comes to the greatest version, the second of the two
starts again at the least. -/
theorem Catalog.composed_inTurn (engines : EngineSet) (policy : Policy) (records : List Record)
    (earlier : List Call) (name : String) (p q : List (String × Json))
    (silent : ∀ m ∈ p ++ q, m.1 ≠ "version") {first second both : Call}
    (asked : first.request = .update name (some (.obj p)))
    (asked' : second.request = .update name (some (.obj q)))
    (askedBoth : both.request = .update name (some (Json.object (p ++ q))))
    (alike : second.given.check = both.given.check) (obeyed : both.given.fault = none)
    {answers : List Answer} {c c₁ c₂ : Catalog} {a a₁ a₂ : MemoryArchive} {st st' : Status}
    (reached : Call.inTurn earlier (ofRecords engines policy (MemoryArchive.ofRecords records).all)
      (MemoryArchive.ofRecords records) = (answers, c, a))
    (half : first.alone c a = (.ok (.status st), c₁, a₁))
    (twice : second.alone c₁ a₁ = (.ok (.status st'), c₂, a₂)) :
    ∃ last single c' a', c₂.get? name = some last ∧
      both.alone c a = (.ok (.status ⟨updatedMessage single.script, single.script⟩), c', a') ∧
      c'.get? name = some single ∧ last.Composed single := by
  have h : Coherent engines policy c a := by
    have last := (coherent_ofRecords engines policy
      (MemoryArchive.ordered_ofRecords records)).inTurn earlier
    rwa [reached] at last
  have next : Coherent engines policy c₁ a₁ := by
    have after := h.alone first
    rwa [half] at after
  obtain ⟨e, live⟩ := Call.live_of_update_ok asked (congrArg Prod.fst half)
  obtain ⟨d, merged, _, shows⟩ := Call.alone_update_ok h.titled live asked (congrArg Prod.fst half)
  rw [half] at shows
  have live₁ := (congrArg (slot · name) shows).trans (slot_publish_live c name _)
  obtain ⟨d', merged', compiled, shows'⟩ :=
    Call.alone_update_ok next.titled live₁ asked' (congrArg Prod.fst twice)
  rw [twice] at shows'
  have live₂ := (congrArg (slot · name) shows').trans (slot_publish_live c₁ name _)
  rw [next.sameEngines, ← h.sameEngines] at merged'
  rw [next.sameEngines, ← h.sameEngines, Given.compile_eq_ok, alike] at compiled
  obtain ⟨active, composed⟩ := merge_composed merged merged'
  have unversioned : expectedVersion (some (Json.object (p ++ q))) = none :=
    expectedVersion_silent fun m member => silent m (Named.mem_ofList member)
  have checked : both.given.compile c.engines c.policy { d' with active := active } = .ok () :=
    Given.compile_eq_ok.mpr compiled
  have made := Call.alone_update_of_merge (a := a) h.titled live askedBoth unversioned composed
    checked obeyed
  exact ⟨_, _, _, _, Slot.live?_eq_some.mpr live₂, made,
    Slot.live?_eq_some.mpr (slot_publish_live c name _), {
      same := ⟨rfl, rfl, rfl, rfl, rfl, rfl⟩
      version := fun room => if_neg room
      restart := fun greatest => if_pos greatest }⟩

theorem Catalog.composed_inTurn_near_greatest :
    let engines : EngineSet :=
      ⟨[⟨.lua, fun _ => .done (), fun source _ => .done ⟨.str source, []⟩⟩]⟩
    let script : Script :=
      ⟨"a", "return 1", .lua, none, true, 9223372036854775805, .epoch, .epoch⟩
    let p : List (String × Json) := [("code", .str "cmV0dXJuIDQy"), ("encoded", .str "base64")]
    let q : List (String × Json) := [("code", .str "return 3"), ("encoded", .null)]
    let update (patch : Json) : Call :=
      ⟨.update "a" (some patch), ⟨.epoch, fun _ _ => .done (), none⟩⟩
    let stored := MemoryArchive.ofRecords [⟨script, false⟩]
    ∃ answers c a st c₁ a₁ st' c₂ a₂ last single c' a',
      Call.inTurn [update (.obj [])] (ofRecords engines ⟨true, 5000⟩ stored.all) stored =
        (answers, c, a) ∧
      (update (.obj p)).alone c a = (.ok (.status st), c₁, a₁) ∧
      (update (.obj q)).alone c₁ a₁ = (.ok (.status st'), c₂, a₂) ∧
      c₂.get? "a" = some last ∧
      (update (Json.object (p ++ q))).alone c a =
        (.ok (.status ⟨updatedMessage single.script, single.script⟩), c', a') ∧
      c'.get? "a" = some single ∧ last.Composed single ∧
      last.script.version = -9223372036854775808 := by
  intro engines script p q update stored
  have silent : ∀ m ∈ p ++ q, m.1 ≠ "version" := by simp [p, q]
  have outcome :
      let start := Call.inTurn [update (.obj [])] (ofRecords engines ⟨true, 5000⟩ stored.all) stored
      let half := (update (.obj p)).alone start.2.1 start.2.2
      let twice := (update (.obj q)).alone half.2.1 half.2.2
      ((Stage.done half.1).status?.isSome, (Stage.done twice.1).status?.isSome,
        (twice.2.1.get? "a").map (·.script.version)) =
      (true, true, some (-9223372036854775808)) := by decide +kernel
  dsimp only at outcome
  obtain ⟨⟨answers, c, a⟩, reached⟩ : ∃ r, Call.inTurn [update (.obj [])]
    (ofRecords engines ⟨true, 5000⟩ stored.all) stored = r := ⟨_, rfl⟩
  rw [reached] at outcome
  obtain ⟨⟨r, c₁, a₁⟩, half⟩ : ∃ r, (update (.obj p)).alone c a = r := ⟨_, rfl⟩
  rw [half] at outcome
  obtain ⟨⟨r', c₂, a₂⟩, twice⟩ : ∃ r, (update (.obj q)).alone c₁ a₁ = r := ⟨_, rfl⟩
  rw [twice] at outcome
  simp only [Prod.mk.injEq] at outcome
  obtain ⟨first, second, version⟩ := outcome
  obtain ⟨st, told⟩ := Option.isSome_iff_exists.mp first
  obtain ⟨st', told'⟩ := Option.isSome_iff_exists.mp second
  cases Stage.done.inj (Stage.status?_eq_some.mp told)
  cases Stage.done.inj (Stage.status?_eq_some.mp told')
  obtain ⟨last, single, c', a', shown, once, shown', composed⟩ :=
    composed_inTurn engines ⟨true, 5000⟩ [⟨script, false⟩] [update (.obj [])] "a" p q silent rfl rfl
      rfl rfl rfl reached half twice
  rw [shown] at version
  exact ⟨answers, c, a, st, c₁, a₁, st', c₂, a₂, last, single, c', a', reached, half, twice, shown,
    once, shown', composed, Option.some.inj version⟩

end ScriptHost
