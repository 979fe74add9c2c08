import ScriptHost.Proofs.Outcomes
import ScriptHost.Proofs.Revisions

/-!
What the calls for a live name may change of its script, until it is deleted. The name and the time
of creation stay. The activity is changed by switching only, which changes nothing else; code,
language, encoding, source and version by updates only, which take them from the merge of the patch
and count the version on, whatever other members the patch has.
-/
namespace ScriptHost

variable {engines : EngineSet} {policy : Policy} {call : Call} {name : String} {e : Edition}

/-- What a call makes of the live edition of a name that it does not delete, and what it tells. -/
inductive Call.Amends (engines : EngineSet) (name : String) (call : Call) (now : Edition) :
    Edition → Reply → Prop where
  | update {patch : Option Json} {body : Json} {d : Admitted}
      (asked : call.request = .update name patch)
      (laid : Admission.overlay now.script patch = .ok body)
      (admitted : Admission.review engines.supports (some body) = .ok d)
      (same : d.name = now.script.name) :
      Amends engines name call now ⟨Catalog.revised now.script d call.given.now, d.source⟩
        (.status ⟨Catalog.updatedMessage (Catalog.revised now.script d call.given.now),
          Catalog.revised now.script d call.given.now⟩)
  | switch {active : Bool} (asked : call.request = .activate name active)
      (other : now.script.active ≠ active) :
      Amends engines name call now
        ⟨{ now.script with active := active, updatedAt := call.given.now }, now.source⟩
        (.activation .changed)

theorem Call.Amends.kept {now next : Edition} {reply : Reply}
    (amends : call.Amends engines name now next reply) :
    next.script.name = now.script.name ∧ next.script.createdAt = now.script.createdAt := by
  cases amends <;> exact ⟨rfl, rfl⟩

theorem Call.Makes.amends {now : Edition} {w : Change}
    (makes : call.Makes engines policy (.live now) w)
    (about : call.request.target? = some name) (found : Bool) :
    (∃ next, w.slot = .live next ∧ call.Amends engines name now next (w.reply found)) ∨
      w.slot.live? = none ∧
        (call.request = .delete name ∨ call.request = .forceDelete name) := by
  cases makes with
  | create _ _ _ vacant => cases vacant
  | update asked live checked merged _ =>
    rw [asked] at about
    cases Option.some.inj about
    cases live
    obtain ⟨body, laid, admitted, same⟩ := Catalog.merge_eq_ok merged
    exact Or.inl ⟨_, rfl, .update asked laid admitted same⟩
  | activate asked live other =>
    rw [asked] at about
    cases Option.some.inj about
    cases live
    exact Or.inl ⟨_, rfl, .switch asked other⟩
  | delete asked _ =>
    rw [asked] at about
    cases Option.some.inj about
    exact Or.inr ⟨rfl, Or.inl asked⟩
  | forceDelete asked =>
    rw [asked] at about
    cases Option.some.inj about
    exact Or.inr ⟨rfl, Or.inr asked⟩

theorem Change.record_eq_live {w : Change} {r : Option Record} {s : Script}
    (kept : w.record r = some ⟨s, false⟩) : ∃ next, w.slot = .live next ∧ next.script = s := by
  cases w with
  | keep e _ =>
    cases kept
    exact ⟨e, rfl, rfl⟩
  | hide _ =>
    obtain ⟨_, _, same⟩ := Option.map_eq_some_iff.mp kept
    cases same
  | remove _ => cases kept

theorem Call.makes_of_takes {job : Job} {s : Slot} {w : Change}
    (takes : call.Takes engines policy job)
    (decided : job.decision? engines policy call.given s = some (.change w)) :
    call.Makes engines policy s w := by
  refine Call.makes_of_decision ?_
  cases job with
  | create d =>
    obtain ⟨⟨body, asked, admitted⟩, compiled⟩ := takes
    cases vacant : s.isVacant with
    | true => simp only [Call.decision?, asked, admitted, vacant, compiled, if_true, decided]
    | false =>
      simp only [Job.decision?, Job.decide, vacant, if_neg Bool.false_ne_true] at decided
      cases Option.some.inj decided
  | update _ _ | activate _ _ | delete _ | forceDelete _ =>
    have asked := takes
    simp only [Call.Takes] at asked
    simp only [Call.decision?, asked, decided]

namespace Traffic

variable {calls : Nat → Call} {m : Traffic} {c : Catalog} {a : MemoryArchive} {i : Nat}
  {before after schedule : List Nat}

theorem coherent_run (h : m.Matches c a) (coherent : Catalog.Coherent engines policy c a)
    (sound : m.Sound calls) (schedule : List Nat) :
    ∃ c' a', (m.run calls schedule).Matches c' a' ∧ Catalog.Coherent engines policy c' a' := by
  obtain ⟨answers, c', a', made, matching, _⟩ := inTurn_turns h sound schedule
  have kept := coherent.inTurn ((m.turns calls schedule).map calls)
  rw [made] at kept
  exact ⟨c', a', matching, kept⟩

def Tells (calls : Nat → Call) (m : Traffic) (i : Nat) (reply : Reply) : Prop :=
  m.answer? calls i = none ∧ (m.step calls i).answer? calls i = some (.ok reply)

def Undeleted (calls : Nat → Call) (m : Traffic) (name : String) (schedule : List Nat) : Prop :=
  ∀ before i after reply, schedule = before ++ i :: after →
    (calls i).request = .delete name ∨ (calls i).request = .forceDelete name →
    ¬ (m.run calls before).Tells calls i reply

theorem Undeleted.start (h : Undeleted calls m name (before ++ after)) :
    Undeleted calls m name before := by
  rintro front i rest reply rfl
  exact h front i (rest ++ after) reply (by simp)

theorem live_step (h : m.Matches c a) (coherent : Catalog.Coherent m.engines m.policy c a)
    (sound : m.Sound calls) (live : m.slot name = .live e) :
    ((m.step calls i).slot name = .live e ∧ ∀ reply, m.Tells calls i reply →
        (calls i).request.target? = some name → ¬ reply.TellsChange) ∨
      ∃ reply, m.Tells calls i reply ∧
        ((∃ next, (m.step calls i).slot name = .live next ∧
            (calls i).Amends m.engines name e next reply) ∨
          (calls i).request = .delete name ∨ (calls i).request = .forceDelete name) := by
  have stands : c.slot name = .live e := (h.slots name).symm.trans live
  by_cases turn : m.answer? calls i = none ∧ (m.step calls i).answer? calls i ≠ none
  · obtain ⟨r, settled⟩ := Option.ne_none_iff_exists'.mp turn.2
    obtain ⟨c', a', alone, next⟩ := takes_turn h sound turn.1 settled
    have slots : (m.step calls i).slot name = ((calls i).alone c a).2.1.slot name := by
      rw [alone]
      exact next.slots name
    have answer : ((calls i).alone c a).1 = r := by rw [alone]
    by_cases about : (calls i).request.target? = some name
    · rcases coherent.alone_told about with ⟨same, _, silent⟩ | ⟨w, makes, told, made, _⟩
      · refine Or.inl ⟨slots.trans (same.trans stands), fun reply tells _ => silent reply ?_⟩
        rw [answer]
        exact Option.some.inj (settled.symm.trans tells.2)
      · rw [stands] at makes
        rw [answer] at told
        rw [told] at settled
        refine Or.inr ⟨_, ⟨turn.1, settled⟩, ?_⟩
        rcases makes.amends about (w.found (a.find? name)) with ⟨next, shown, amends⟩ | gone
        · exact Or.inl ⟨next, slots.trans (made.trans shown), amends⟩
        · exact Or.inr gone.2
    · refine Or.inl ⟨slots.trans ((coherent.alone_other about).1.trans stands), ?_⟩
      exact fun _ _ mine => absurd mine about
  · have matching := matches_step h sound (not_turn turn)
    refine Or.inl ⟨(matching.slots name).trans stands, fun reply tells _ => ?_⟩
    exact absurd ⟨tells.1, by rw [tells.2]; exact Option.some_ne_none _⟩ turn

theorem stored_step (h : m.Matches c a) (sound : m.Sound calls)
    (live : m.slot name = .live e) {s : Script}
    (kept : (m.step calls i).archive.find? name = some ⟨s, false⟩) :
    m.archive.find? name = some ⟨s, false⟩ ∨
      ∃ next reply, next.script = s ∧ (calls i).Amends m.engines name e next reply := by
  cases eq : m.next (calls i) (m.stages i) with
  | none =>
    simp only [step, eq] at kept
    exact Or.inl kept
  | some move =>
    obtain ⟨f, s'⟩ := move
    rw [step_of_next eq] at kept
    rcases next_cases eq with ⟨job, k, w, stage, rfl, rfl⟩ | ⟨_, _, _, _, _, rfl, rfl⟩ |
      ⟨quiet, _, _⟩
    · have inside := sound.fits i
      rw [stage] at inside
      have names : w.Names job.name := inside.names h trivial trivial rfl
      by_cases mine : name = job.name
      · subst mine
        have decided := (inside.decided trivial).symm
        rw [← inside.slot_eq trivial, live] at decided
        have makes := Call.makes_of_takes inside.takes decided
        have record : (w.store job.name m.archive).2.find? job.name = some ⟨s, false⟩ := kept
        rw [Change.find?_store_self names sound.ordered] at record
        obtain ⟨next, shown, same⟩ := Change.record_eq_live record
        rcases makes.amends (Call.target_of_takes inside.takes) true with
          ⟨_, again, amends⟩ | ⟨gone, _⟩
        · cases shown.symm.trans again
          exact Or.inr ⟨next, _, same, amends⟩
        · rw [shown] at gone
          cases gone
      · rw [← Change.find?_store_other names mine]
        exact Or.inl kept
    · exact Or.inl kept
    · change (f.apply i m).archive.find? name = _ at kept
      rw [archive_quiet quiet] at kept
      exact Or.inl kept

/-- What a step of call `i` may make of the edition that a live name shows. -/
structure Amended (calls : Nat → Call) (m : Traffic) (name : String) (i : Nat)
    (now next : Edition) : Prop where
  kept : next.script.name = now.script.name ∧ next.script.createdAt = now.script.createdAt
  switched : next.script.active ≠ now.script.active →
    ∃ active, (calls i).request = .activate name active ∧ m.Tells calls i (.activation .changed)
  /-- Switching changes nothing else but the time of the last change. -/
  switch : ∀ {active}, (calls i).request = .activate name active →
    m.Tells calls i (.activation .changed) → now.script.active ≠ active ∧
      next = ⟨{ now.script with active := active, updatedAt := (calls i).given.now }, now.source⟩
  /-- Code, language, encoding, source and version change by successful updates only. -/
  rewritten : next.revision ≠ now.revision →
    ∃ patch st, (calls i).request = .update name patch ∧ m.Tells calls i (.status st)
  /-- A successful update takes them from the merge of its patch, and counts the version on. -/
  merged : ∀ {patch st}, (calls i).request = .update name patch → m.Tells calls i (.status st) →
    ∃ body d, Admission.overlay now.script patch = .ok body ∧
      Admission.review m.engines.supports (some body) = .ok d ∧ d.name = now.script.name ∧
      next.script.code = d.code ∧ next.script.language = d.language ∧
      next.script.encoding = d.encoding ∧ next.source = d.source ∧
      next.script.active = now.script.active ∧
      (now.script.version < twoTo 63 - 1 → next.script.version = now.script.version + 1) ∧
      st.script = next.script
  /-- Nothing else is kept for the name in the archive. -/
  stored : ∀ {s}, (m.step calls i).archive.find? name = some ⟨s, false⟩ →
    m.archive.find? name = some ⟨s, false⟩ ∨
      ∃ made reply, made.script = s ∧ (calls i).Amends m.engines name now made reply

theorem amended_of_amends {now next : Edition} {reply : Reply}
    (tells : m.Tells calls i reply) (amends : (calls i).Amends m.engines name now next reply)
    (stored : ∀ {s}, (m.step calls i).archive.find? name = some ⟨s, false⟩ →
      m.archive.find? name = some ⟨s, false⟩ ∨
        ∃ made reply, made.script = s ∧ (calls i).Amends m.engines name now made reply) :
    Amended calls m name i now next := by
  have told : ∀ {other}, m.Tells calls i other → reply = other := fun again =>
    Except.ok.inj (Option.some.inj (tells.2.symm.trans again.2))
  have kept := amends.kept
  cases amends with
  | update asked laid admitted same =>
    exact {
      kept := kept
      switched := fun other => absurd rfl other
      switch := fun switches => by
        rw [asked] at switches
        cases switches
      rewritten := fun _ => ⟨_, _, asked, tells⟩
      merged := by
        intro patch st asked' tells'
        rw [asked] at asked'
        cases asked'
        cases told tells'
        refine ⟨_, _, laid, admitted, same, rfl, rfl, rfl, rfl, rfl, fun room => ?_, rfl⟩
        exact if_neg (by omega)
      stored := stored }
  | switch asked other =>
    exact {
      kept := kept
      switched := fun _ => ⟨_, asked, tells⟩
      switch := by
        intro active asked' _
        rw [asked] at asked'
        cases asked'
        exact ⟨other, rfl⟩
      rewritten := fun other => absurd rfl other
      merged := fun updates => by
        rw [asked] at updates
        cases updates
      stored := stored }

/-- A step that does not delete a live name leaves it live and its protected fields alone. -/
theorem amended_step (h : m.Matches c a) (coherent : Catalog.Coherent m.engines m.policy c a)
    (sound : m.Sound calls) (live : m.slot name = .live e)
    (undeleted : ∀ reply, (calls i).request = .delete name ∨ (calls i).request = .forceDelete name →
      ¬ m.Tells calls i reply) :
    ∃ next, (m.step calls i).slot name = .live next ∧ Amended calls m name i e next := by
  have stored : ∀ {s}, (m.step calls i).archive.find? name = some ⟨s, false⟩ →
      m.archive.find? name = some ⟨s, false⟩ ∨
        ∃ made reply, made.script = s ∧ (calls i).Amends m.engines name e made reply :=
    fun kept => stored_step h sound live kept
  rcases live_step h coherent sound live with
    ⟨stays, silent⟩ | ⟨reply, tells, ⟨next, shown, amends⟩ | deletes⟩
  · refine ⟨e, stays, {
      kept := ⟨rfl, rfl⟩
      switched := fun other => absurd rfl other
      switch := fun asked tells => absurd trivial (silent _ tells (by rw [asked]; rfl))
      rewritten := fun other => absurd rfl other
      merged := fun asked tells => absurd trivial (silent _ tells (by rw [asked]; rfl))
      stored := stored }⟩
  · exact ⟨next, shown, amended_of_amends tells amends stored⟩
  · exact absurd tells (undeleted reply deletes)

/-- What the calls make of a live name in a run that does not delete it, whatever the patches
hold. -/
structure Protected (calls : Nat → Call) (m : Traffic) (name : String) (e : Edition)
    (schedule : List Nat) : Prop where
  /-- At every moment the name is live, under its own name and with its time of creation. -/
  stays : ∀ {before after}, schedule = before ++ after →
    ∃ now, (m.run calls before).slot name = .live now ∧ now.script.name = name ∧
      now.script.createdAt = e.script.createdAt
  steps : ∀ {before i after now next}, schedule = before ++ i :: after →
    (m.run calls before).slot name = .live now →
    (m.run calls (before ++ [i])).slot name = .live next →
    Amended calls (m.run calls before) name i now next

section

variable (h : m.Matches c a) (coherent : Catalog.Coherent m.engines m.policy c a)
  (sound : m.Sound calls)
include h coherent sound

theorem amended_after (before : List Nat) {now : Edition}
    (shown : (m.run calls before).slot name = .live now)
    (undeleted : Undeleted calls m name (before ++ [i])) :
    ∃ next, (m.run calls (before ++ [i])).slot name = .live next ∧
      Amended calls (m.run calls before) name i now next := by
  obtain ⟨c', a', matching, kept⟩ := coherent_run h coherent sound before
  rw [run_append]
  refine amended_step matching ?_ (sound_run sound before) shown fun reply deletes =>
    undeleted before i [] reply rfl deletes
  rw [engines_run, policy_run]
  exact kept

theorem stays_run (live : m.slot name = .live e) {schedule : List Nat}
    (undeleted : Undeleted calls m name schedule) :
    ∃ now, (m.run calls schedule).slot name = .live now ∧
      now.script.name = e.script.name ∧ now.script.createdAt = e.script.createdAt := by
  -- From the end: the last step starts at the edition that the run before it has left.
  induction schedule using List.reverseRecOn with
  | nil => exact ⟨e, live, rfl, rfl⟩
  | append_singleton before i ih =>
    obtain ⟨now, shown, title, created⟩ := ih undeleted.start
    obtain ⟨next, shown', amended⟩ := amended_after h coherent sound before shown undeleted
    exact ⟨next, shown', amended.kept.1.trans title, amended.kept.2.trans created⟩

theorem protected_of_matches (live : m.slot name = .live e) {schedule : List Nat}
    (undeleted : Undeleted calls m name schedule) : Protected calls m name e schedule := by
  have title : e.script.name = name :=
    h.titled name e (Slot.live?_eq_some.mpr ((h.slots name).symm.trans live))
  refine ⟨?_, ?_⟩
  · rintro before after rfl
    obtain ⟨now, shown, same, created⟩ := stays_run h coherent sound live undeleted.start
    exact ⟨now, shown, same.trans title, created⟩
  · intro before i after now next parts shown shown'
    have front : Undeleted calls m name (before ++ [i]) :=
      Undeleted.start (by rw [parts] at undeleted; simpa using undeleted)
    obtain ⟨again, found, amended⟩ := amended_after h coherent sound before shown front
    rw [shown'] at found
    cases found
    exact amended

end

/-- No patch touches the protected fields of a live name: from a moment at which it is live until a
deletion of it succeeds, however the calls alternate their steps. -/
theorem protected_opened (calls : Nat → Call) (engines : EngineSet) (policy : Policy)
    (records : List Record) (hub : Hub) (earlier schedule : List Nat) (name : String) (e : Edition)
    (live : ((opened engines policy records hub).run calls earlier).slot name = .live e)
    (undeleted : Undeleted calls ((opened engines policy records hub).run calls earlier) name
      schedule) :
    Protected calls ((opened engines policy records hub).run calls earlier) name e schedule := by
  have ordered := MemoryArchive.ordered_ofRecords records
  have first : (opened engines policy records hub).Sound calls :=
    sound_opened calls engines policy records hub []
  obtain ⟨c, a, matching, coherent⟩ := coherent_run (matches_opened engines policy records hub)
    (Catalog.coherent_ofRecords engines policy ordered) first earlier
  refine protected_of_matches matching ?_ (sound_run first earlier) live undeleted
  rw [engines_run, policy_run]
  exact coherent

theorem protected_opened_meddling_patch :
    let engines : EngineSet :=
      ⟨[⟨.lua, fun _ => .done (), fun source _ => .done ⟨.str source, []⟩⟩]⟩
    let script : Script := ⟨"a", "return 1", .lua, none, true, 4, .epoch, .epoch⟩
    let patch : Json := .obj [("active", .bool true), ("code", .str "return 2"),
      ("created_at", .null), ("name", .str " a "), ("version", .int 4), ("x", .int 1)]
    let later : Time.Instant := ⟨60, 0⟩
    let given : Given := ⟨later, fun _ _ => .done (), none⟩
    let calls : Nat → Call := fun i =>
      if i = 0 then ⟨.activate "a" false, given⟩ else ⟨.update "a" (some patch), given⟩
    let m := (opened engines ⟨true, 5000⟩ [⟨script, false⟩] ⟨256, [], 0⟩).run calls []
    let schedule := (List.replicate 30 [0, 1, 2]).flatten
    Protected calls m "a" ⟨script, "return 1"⟩ schedule ∧
      (m.run calls schedule).slot "a" =
        .live ⟨⟨"a", "return 2", .lua, none, false, 5, .epoch, later⟩, "return 2"⟩ := by
  intro engines script patch later given calls m schedule
  refine ⟨protected_opened calls _ _ _ _ [] _ "a" _ (by decide) ?_, by decide +kernel⟩
  intro before i after reply _ deletes
  by_cases zero : i = 0
  · simp only [calls, if_pos zero, reduceCtorEq, or_self] at deletes
  · simp only [calls, if_neg zero, reduceCtorEq, or_self] at deletes

end Traffic

end ScriptHost
