import ScriptHost.Script.Document
import ScriptHost.Proofs.LiveEditions
import ScriptHost.Proofs.ProtectedFields
import ScriptHost.Proofs.UpdateTurns

/-!
Versions are signed words. A successful update shows, keeps and tells the next one; the versions of
a live name do not fall, unless an update counts on from the greatest word.
-/
namespace ScriptHost

variable {v : Int}

theorem Script.fitsVersion_iff : Script.fitsVersion v = true ↔ -twoTo 63 ≤ v ∧ v < twoTo 63 := by
  simp only [fitsVersion, Bool.and_eq_true, decide_eq_true_eq]

theorem nextVersion_of_room (room : v < twoTo 63 - 1) : nextVersion v = v + 1 := by
  rw [nextVersion, if_neg (by omega)]

theorem nextVersion_greatest : nextVersion (twoTo 63 - 1) = -twoTo 63 := if_pos rfl

theorem nextVersion_ne : nextVersion v ≠ v := by
  have positive : 0 < twoTo 63 := by decide
  unfold nextVersion
  split <;> omega

theorem fitsVersion_next (fits : Script.fitsVersion v = true) :
    Script.fitsVersion (nextVersion v) = true := by
  have positive : 0 < twoTo 63 := by decide
  rw [Script.fitsVersion_iff] at fits ⊢
  unfold nextVersion
  split <;> omega

theorem Call.preserves_fits (engines : EngineSet) (policy : Policy) :
    Call.Preserves engines policy fun _ e => Script.fitsVersion e.script.version = true := by
  intro call name s w next makes _ before shown
  cases makes with
  | create _ _ _ _ =>
    cases shown
    have zero : Script.fitsVersion 0 = true := by decide
    exact zero
  | update _ live _ _ _ =>
    cases shown
    exact fitsVersion_next (before _ live).2
  | activate _ live _ =>
    cases shown
    exact (before _ live).2
  | delete _ _ | forceDelete _ => cases shown

namespace Traffic

variable {calls : Nat → Call} {m : Traffic} {c : Catalog} {a : MemoryArchive} {i : Nat}
  {name : String} {patch : Option Json} {e : Edition} {st : Status}

/-- What the success of an update makes, in its turn, of the edition that its name shows. -/
structure CountsOn (calls : Nat → Call) (m : Traffic) (i : Nat) (name : String) (e : Edition)
    (st : Status) : Prop where
  live : m.slot name = .live e
  publishes : ∃ source, (m.step calls i).slot name = .live ⟨st.script, source⟩
  persists : (m.step calls i).archive.find? name = some ⟨st.script, false⟩
  fits : Script.fitsVersion e.script.version = true ∧
    Script.fitsVersion st.script.version = true
  rises : e.script.version < twoTo 63 - 1 → st.script.version = e.script.version + 1
  restarts : e.script.version = twoTo 63 - 1 → st.script.version = -twoTo 63

theorem UpdateTurn.countsOn (turn : UpdateTurn calls m i name patch e (.ok (.status st)))
    (h : m.Matches c a) (sound : m.Sound calls)
    (fits : Script.fitsVersion e.script.version = true) : CountsOn calls m i name e st := by
  obtain ⟨c', a', alone, next⟩ := takes_turn h sound turn.still turn.settled
  rcases Call.alone_update_live (a := a) h.titled ((h.slots name).symm.trans turn.live)
    turn.asked with ⟨f, failed⟩ | ⟨d, _, made⟩
  · rw [failed] at alone
    cases alone
  · rw [made] at alone
    cases alone
    have shown := (next.slots name).trans (Catalog.slot_publish_live c name _)
    have changed : (m.step calls i).slot name ≠ m.slot name := by
      rw [shown, turn.live]
      intro same
      exact nextVersion_ne (congrArg (·.script.version) (Slot.live.inj same))
    exact {
      live := turn.live
      publishes := ⟨_, shown⟩
      persists := kept_of_shown h sound changed shown
      fits := ⟨fits, fitsVersion_next fits⟩
      rises := nextVersion_of_room
      restarts := fun greatest => (congrArg nextVersion greatest).trans nextVersion_greatest }

/-- No update of the name has its turn in a schedule and succeeds while the name shows the greatest
version. -/
def HasRoom (calls : Nat → Call) (m : Traffic) (name : String) (schedule : List Nat) : Prop :=
  ∀ before i after now patch st, schedule = before ++ i :: after →
    (m.run calls before).slot name = .live now → now.script.version = twoTo 63 - 1 →
    (calls i).request = .update name patch → ¬ (m.run calls before).Tells calls i (.status st)

theorem HasRoom.start {before after : List Nat}
    (h : HasRoom calls m name (before ++ after)) : HasRoom calls m name before := by
  rintro front i rest now patch st rfl
  exact h front i (rest ++ after) now patch st (by simp)

theorem Amended.version_le {now next : Edition} (amended : Amended calls m name i now next)
    (fits : Script.fitsVersion now.script.version = true)
    (room : ∀ patch st, now.script.version = twoTo 63 - 1 →
      (calls i).request = .update name patch → ¬ m.Tells calls i (.status st)) :
    now.script.version ≤ next.script.version := by
  by_cases same : next.revision = now.revision
  · have version : next.script.version = now.script.version := congrArg Revision.version same
    omega
  · obtain ⟨patch, st, asked, tells⟩ := amended.rewritten same
    obtain ⟨_, _, _, _, _, _, _, _, _, _, counts, _⟩ := amended.merged asked tells
    have bound := (Script.fitsVersion_iff.mp fits).2
    by_cases greatest : now.script.version = twoTo 63 - 1
    · exact absurd tells (room patch st greatest asked)
    · have version := counts (by omega)
      omega

/-- The versions of a live name do not fall in a run that does not delete it. -/
theorem version_le_run (h : m.Matches c a) (coherent : Catalog.Coherent m.engines m.policy c a)
    (sound : m.Sound calls) (fits : ∀ before now, (m.run calls before).slot name = .live now →
      Script.fitsVersion now.script.version = true)
    (live : m.slot name = .live e) {schedule : List Nat}
    (undeleted : Undeleted calls m name schedule) (room : HasRoom calls m name schedule) :
    ∃ last, (m.run calls schedule).slot name = .live last ∧
      e.script.version ≤ last.script.version := by
  -- From the end: the last step starts at the edition that the run before it has left.
  induction schedule using List.reverseRecOn with
  | nil => exact ⟨e, live, Int.le_refl _⟩
  | append_singleton before i ih =>
    obtain ⟨now, shown, le⟩ := ih undeleted.start room.start
    obtain ⟨next, shown', amended⟩ := amended_after h coherent sound before shown undeleted
    have step := amended.version_le (fits before now shown) fun patch st greatest asked =>
      room before i [] now patch st rfl shown greatest asked
    exact ⟨next, shown', Int.le_trans le step⟩

/-- However the calls alternate their steps, and whatever signed words the records have as their
versions: an update that returns successfully has shown, kept and told, in its turn, the version
after the one that its name showed, and the versions of a name do not fall until it is deleted. Both
end at the greatest word, behind which the count starts again at the least. -/
theorem versions_rise_opened (calls : Nat → Call) (engines : EngineSet) (policy : Policy)
    (records : List Record) (hub : Hub) (schedule : List Nat)
    (stored : ∀ r ∈ records, Script.fitsVersion r.script.version = true) :
    let first := opened engines policy records hub
    (∀ i name patch st, (calls i).request = .update name patch →
      (first.run calls schedule).stages i = .done (.ok (.status st)) →
      ∃ before after e, schedule = before ++ i :: after ∧
        CountsOn calls (first.run calls before) i name e st) ∧
    ∀ before later name e, schedule = before ++ later →
      (first.run calls before).slot name = .live e →
      Undeleted calls (first.run calls before) name later →
      HasRoom calls (first.run calls before) name later →
      ∃ last, (first.run calls schedule).slot name = .live last ∧
        e.script.version ≤ last.script.version := by
  intro first
  have start : first.Sound calls := sound_opened calls engines policy records hub []
  have fits : ∀ {before name e}, (first.run calls before).slot name = .live e →
      Script.fitsVersion e.script.version = true := by
    intro before name e live
    refine shows_opened calls records hub before (Call.preserves_fits engines policy) ?_ live
    intro r member e opened
    rw [← (Slot.ofRecord_eq_live.mp opened).2.1]
    exact stored r member
  refine ⟨?_, ?_⟩
  · intro i name patch st asked done
    have had := exists_updateTurn (matches_opened engines policy records hub) start rfl asked done
    obtain ⟨before, after, e, parts, turn⟩ := had.resolve_left fun same => by cases same
    obtain ⟨c, a, matching, _⟩ := matches_coherent calls engines policy records hub before
    exact ⟨before, after, e, parts,
      turn.countsOn matching (sound_run start before) (fits turn.live)⟩
  · rintro before later name e rfl live undeleted room
    obtain ⟨c, a, matching, coherent⟩ := matches_coherent calls engines policy records hub before
    rw [run_append]
    refine version_le_run matching ?_ (sound_run start before) ?_ live undeleted room
    · rw [engines_run, policy_run]
      exact coherent
    · intro front now shown
      rw [← run_append] at shown
      exact fits shown

theorem versions_rise_opened_near_greatest :
    let engines : EngineSet :=
      ⟨[⟨.lua, fun _ => .done (), fun source _ => .done ⟨.str source, []⟩⟩]⟩
    let script : Script := ⟨"a", "return 1", .lua, none, true, 9223372036854775806, .epoch, .epoch⟩
    let given : Given := ⟨.epoch, fun _ _ => .done (), none⟩
    let calls : Nat → Call := fun i =>
      if i = 0 then ⟨.update "a" (some (.obj [("code", .str "return 2")])), given⟩
      else ⟨.activate "a" false, given⟩
    let schedule := List.replicate 13 0 ++ List.replicate 10 1
    let first := opened engines ⟨true, 5000⟩ [⟨script, false⟩] ⟨256, [], 0⟩
    ∃ before after e st, schedule = before ++ 0 :: after ∧
      CountsOn calls (first.run calls before) 0 "a" e st ∧
      st.script.version = 9223372036854775807 ∧
      ∃ last, (first.run calls schedule).slot "a" = .live last ∧
        9223372036854775807 ≤ last.script.version := by
  intro engines script given calls schedule first
  have stored : ∀ r ∈ [(⟨script, false⟩ : Record)],
      Script.fitsVersion r.script.version = true := by decide
  obtain ⟨updates, rises⟩ := versions_rise_opened calls engines ⟨true, 5000⟩ [⟨script, false⟩]
    ⟨256, [], 0⟩ schedule stored
  have told : (((first.run calls schedule).stages 0).status?).map (·.script.version) =
      some 9223372036854775807 := by decide +kernel
  have shown : (((first.run calls (List.replicate 13 0)).slot "a").live?).map
      (·.script.version) = some 9223372036854775807 := by decide +kernel
  obtain ⟨st, done, greatest⟩ := Option.map_eq_some_iff.mp told
  obtain ⟨now, live, version⟩ := Option.map_eq_some_iff.mp shown
  obtain ⟨before, after, e, parts, counts⟩ := updates 0 "a" _ st rfl (Stage.status?_eq_some.mp done)
  have only : ∀ {front i rest}, List.replicate 10 1 = front ++ i :: rest → i = 1 := by
    intro front i rest parts
    exact List.eq_of_mem_replicate (parts ▸ List.mem_append_right front List.mem_cons_self)
  have undeleted : Undeleted calls (first.run calls (List.replicate 13 0)) "a"
      (List.replicate 10 1) := by
    intro front i rest reply parts deletes
    cases only parts
    rcases deletes with asked | asked <;> cases asked
  have room : HasRoom calls (first.run calls (List.replicate 13 0)) "a"
      (List.replicate 10 1) := by
    intro front i rest now patch st parts _ _ asked
    cases only parts
    cases asked
  obtain ⟨last, final, le⟩ := rises (List.replicate 13 0) (List.replicate 10 1) "a" now rfl
    (Slot.live?_eq_some.mp live) undeleted room
  rw [version] at le
  exact ⟨before, after, e, st, parts, counts, greatest, last, final, le⟩

end Traffic

end ScriptHost
