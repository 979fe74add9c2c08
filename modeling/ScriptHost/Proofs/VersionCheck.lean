import ScriptHost.Proofs.Reopening
import ScriptHost.Proofs.UpdateTurns

/-!
What the `version` member of a patch does. An integer that fits a signed word has to be the version
that the name shows, or else the update fails without a trace. Any other number is not looked at:
the update is what it would be without the member.
-/
namespace ScriptHost

namespace Admission

def unversioned (members : List (String × Json)) : List (String × Json) :=
  members.filter fun p => p.1 ≠ "version"

variable {members : List (String × Json)}

theorem find?_unversioned : Named.find? "version" (unversioned members) = none := by
  induction members with
  | nil => rfl
  | cons p members ih =>
    by_cases same : p.1 = "version"
    · have skipped : unversioned (p :: members) = unversioned members := by
        simp [unversioned, same]
      rw [skipped]
      exact ih
    · have kept : unversioned (p :: members) = p :: unversioned members := by
        simp [unversioned, same]
      rw [kept, Named.find?, if_neg same]
      exact ih

theorem overlay_unversioned (s : Script) :
    overlay s (some (.obj (unversioned members))) = overlay s (some (.obj members)) := by
  have skips : (fun (target : List (String × Json)) (p : String × Json) =>
      if p.1 ≠ "version" then overlayMember target p else target) = overlayMember := by
    funext target p
    by_cases same : p.1 = "version"
    · simp [overlayMember, same]
    · simp [same]
  simp only [overlay, unversioned, List.foldl_filter, decide_eq_true_eq, skips]

end Admission

namespace Catalog

open Admission (unversioned)

variable {members : List (String × Json)}

theorem update_unversioned {σ : Type} [Archive σ]
    (silent : (Named.find? "version" members).bind Json.int64? = none) (name : String)
    (now : Time.Instant) (c : Catalog) (a : σ) :
    update name (some (.obj members)) now c a =
      update name (some (.obj (unversioned members))) now c a := by
  have left : expectedVersion (some (.obj members)) = none := silent
  have right : expectedVersion (some (.obj (unversioned members))) = none := by
    simp only [expectedVersion, Option.bind_some, Json.get?, Admission.find?_unversioned,
      Option.bind_none]
  simp only [update, merge, checkVersion_of_silent left, checkVersion_of_silent right,
    Admission.overlay_unversioned]

end Catalog

namespace Traffic

open Admission (unversioned)

variable {calls : Nat → Call} {m : Traffic} {i : Nat} {name : String} {patch : Option Json}
  {e : Edition} {r : Answer} {c : Catalog} {a : MemoryArchive} {x : Int}

/-- An update that expects another version than the name shows fails in its turn. -/
theorem UpdateTurn.conflict (turn : UpdateTurn calls m i name patch e r) (h : m.Matches c a)
    (sound : m.Sound calls) (expects : Catalog.expectedVersion patch = some x)
    (other : x ≠ e.script.version) : r = .error (.versionConflict name x e.script.version) := by
  refine (turn.failed_iff h sound fun y same => by cases same).mpr ?_
  simp only [updateDecision, Decision.ofUpdate, Catalog.checkVersion_of_ne expects other]

theorem returns_conflict (h : m.Matches c a) (sound : m.Sound calls) (resting : m.Resting)
    (idle : m.stages i = .idle) (asked : (calls i).request = .update name patch)
    (live : m.slot name = .live e) (expects : Catalog.expectedVersion patch = some x)
    (other : x ≠ e.script.version) :
    ∃ n, (m.run calls (List.replicate n i)).stages i =
      .done (.error (.versionConflict name x e.script.version)) := by
  obtain ⟨r, m', returns⟩ := exists_returns sound resting idle
  have alone := (returns.alone h sound idle).1
  rw [Call.alone_update_eq h.titled asked ((h.slots name).symm.trans live)] at alone
  simp only [Decision.ofUpdate, Catalog.checkVersion_of_ne expects other, Decision.result] at alone
  obtain ⟨⟨n, rfl⟩, done⟩ := returns
  rw [alone] at done
  exact ⟨n, done⟩

/-- However the calls alternate their steps, an update of a live name whose patch has an integer
below 2 ^ 63 as its `version` fails without a trace, unless this is the version that the name shows
when the update has its turn. A greater integer or another number is not compared with anything: the
update is the one without the member. -/
theorem version_checked_opened (calls : Nat → Call) (engines : EngineSet) (policy : Policy)
    (records : List Record) (hub : Hub) (before : List Nat) (i : Nat) (name : String)
    (members : List (String × Json)) (e : Edition) :
    let first := opened engines policy records hub
    let m := first.run calls before
    (∀ x, Named.find? "version" members = some (.int x) → x < twoTo 63 → x ≠ e.script.version →
      let conflict : Failure := .versionConflict name x e.script.version
      (∀ r after, m.UpdateTurn calls i name (some (.obj members)) e r →
        first.Rejected calls (before ++ i :: after) i conflict) ∧
      ((calls i).request = .update name (some (.obj members)) → m.slot name = .live e →
        m.Resting → m.stages i = .idle →
        ∃ n, (m.run calls (List.replicate n i)).stages i = .done (.error conflict) ∧
          first.Rejected calls (before ++ List.replicate n i) i conflict)) ∧
    (∀ number, Named.find? "version" members = some number → number.int64? = none →
      ∀ {σ : Type} [Archive σ] (now : Time.Instant) (c : Catalog) (a : σ),
        Catalog.update name (some (.obj members)) now c a =
          Catalog.update name (some (.obj (unversioned members))) now c a) := by
  intro first m
  have start : first.Sound calls := sound_opened calls engines policy records hub []
  have counted : first.Counted calls := fun _ => rfl
  have sound : m.Sound calls := sound_run start before
  obtain ⟨c, a, matching, _⟩ := matches_coherent calls engines policy records hub before
  refine ⟨fun x member small other => ?_, fun number member great σ _ now c a => ?_⟩
  · intro conflict
    have expects : Catalog.expectedVersion (some (.obj members)) = some x := by
      have read : Catalog.expectedVersion (some (.obj members)) =
        if x < twoTo 63 then some x else none := expectedVersion_int member
      rw [read, if_pos small]
    refine ⟨fun r after turn => ?_, fun asked live resting idle => ?_⟩
    · have failed : r = .error conflict := turn.conflict matching sound expects other
      have settled := answer?_run turn.settled after
      rw [failed] at settled
      refine rejected_of_settled start counted ?_ ?_
      · rw [run_append]
        exact settled
      · simp only [Call.changes, turn.asked, conflict]
    · obtain ⟨n, done⟩ := returns_conflict matching sound resting idle asked live expects other
      refine ⟨n, done, rejected_of_settled start counted ?_ ?_⟩
      · rw [run_append]
        exact answer?_done done
      · simp only [Call.changes, asked, conflict]
  · refine Catalog.update_unversioned ?_ name now c a
    rw [member]
    exact great

theorem version_checked_opened_two_numbers :
    let engines : EngineSet :=
      ⟨[⟨.lua, fun _ => .done (), fun source _ => .done ⟨.str source, []⟩⟩]⟩
    let script : Script := ⟨"a", "return 1", .lua, none, true, 4, .epoch, .epoch⟩
    let stale : List (String × Json) := [("code", .str "return 2"), ("version", .int 7)]
    let great : List (String × Json) :=
      [("code", .str "return 2"), ("version", .int 9223372036854775808)]
    let calls : Nat → Call := fun _ =>
      ⟨.update "a" (some (.obj stale)), ⟨.epoch, fun _ _ => .done (), none⟩⟩
    let m := (opened engines ⟨true, 5000⟩ [⟨script, false⟩] ⟨256, [], 0⟩).run calls []
    let a : MemoryArchive := .ofRecords [⟨script, false⟩]
    let c := Catalog.ofRecords engines ⟨true, 5000⟩ a.all
    (∃ n, (m.run calls (List.replicate n 0)).stages 0 =
        .done (.error (.versionConflict "a" 7 4))) ∧
      Catalog.update "a" (some (.obj great)) .epoch c a =
        Catalog.update "a" (some (.obj [("code", .str "return 2")])) .epoch c a ∧
      ((Catalog.update "a" (some (.obj great)) .epoch c a).1.map (·.script.version)).toOption =
        some 5 := by
  intro engines script stale great calls m a c
  have checked := (version_checked_opened calls engines ⟨true, 5000⟩ [⟨script, false⟩]
    ⟨256, [], 0⟩ [] 0 "a" stale ⟨script, "return 1"⟩).1
  have ignored := (version_checked_opened calls engines ⟨true, 5000⟩ [⟨script, false⟩]
    ⟨256, [], 0⟩ [] 0 "a" great ⟨script, "return 1"⟩).2
  have returned := (checked 7 rfl (by decide) (by decide)).2 rfl (by decide)
    (fun _ => Or.inl rfl) rfl
  refine ⟨returned.imp fun _ both => both.1, ?_, ?_⟩
  · exact ignored (.int 9223372036854775808) rfl rfl .epoch c a
  · decide +kernel

end Traffic

end ScriptHost
