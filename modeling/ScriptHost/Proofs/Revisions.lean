import Mathlib.Data.List.Dedup
import Mathlib.Data.List.Induction
import ScriptHost.Proofs.Linearization

/-!
No update of a live script is lost: the updates that succeed take its versions one after another, in
the order in which they have their turns.
-/
namespace ScriptHost

/-- What only an update of a script changes. -/
structure Revision where
  version : Int
  code : String
  language : Language
  encoding : Option Encoding
  source : String

def Edition.revision (e : Edition) : Revision :=
  ⟨e.script.version, e.script.code, e.script.language, e.script.encoding, e.source⟩

namespace Request

def name? : Request → Option String
  | .create _ => none
  | .update name _ | .activate name _ | .delete name | .forceDelete name | .get name
  | .evaluate name _ _ => some name

def updates (name : String) : Request → Bool
  | .update n _ => n = name
  | _ => false

def Keeps (name : String) : Request → Prop
  | .delete n | .forceDelete n => n ≠ name
  | _ => True

theorem updates_iff {name : String} {request : Request} :
    request.updates name = true ↔ ∃ patch, request = .update name patch := by
  constructor
  · intro same
    cases request with
    | update n patch => exact ⟨patch, by rw [of_decide_eq_true same]⟩
    | _ => cases same
  · rintro ⟨patch, rfl⟩
    exact decide_eq_true rfl

end Request

theorem Catalog.checkVersion_eq_ok {name : String} {s : Script} {patch : Option Json} :
    checkVersion name s patch = .ok () ↔ ∀ x, expectedVersion patch = some x → x = s.version := by
  unfold checkVersion
  cases expectedVersion patch with
  | none =>
    constructor
    · intro _ x expects
      cases expects
    · exact fun _ => rfl
  | some v =>
    by_cases same : v = s.version
    · simp [same]
    · simp [same]

namespace Call

variable {call : Call} {c : Catalog} {a : MemoryArchive} {name : String} {e : Edition}

theorem alone_update_live (titled : c.Titled) (live : c.slot name = .live e)
    {patch : Option Json} (asked : call.request = .update name patch) :
    (∃ f, call.alone c a = (.error f, c, a)) ∨
      ∃ d, Catalog.checkVersion name e.script patch = .ok () ∧
        let s := Catalog.revised e.script d call.given.now
        call.alone c a = (.ok (.status ⟨Catalog.updatedMessage s, s⟩),
          c.publish name (.live ⟨s, d.source⟩), a.put s) := by
  have shown : c.get? name = some e := Slot.live?_eq_some.mpr live
  have run := update_of_live (a := a) patch call.given shown (titled name e shown)
  simp only [alone, asked]
  rw [run]
  unfold Decision.ofUpdate
  split
  · exact Or.inl ⟨_, rfl⟩
  · rename_i checked
    unfold Decision.ofPatch
    split
    · exact Or.inl ⟨_, rfl⟩
    · unfold Decision.ofAdmitted
      split
      · exact Or.inl ⟨_, rfl⟩
      · rename_i d _ _ _
        cases fault : call.given.fault with
        | some f => exact Or.inl ⟨.archive f, by simp only [Decision.result, fault]⟩
        | none =>
          refine Or.inr ⟨d, checked, ?_⟩
          simp only [Decision.result, fault]
          rfl

theorem alone_keeps_live (titled : c.Titled) (live : c.slot name = .live e)
    (keeps : call.request.Keeps name) (other : call.request.updates name = false) :
    ∃ e', (call.alone c a).2.1.slot name = .live e' ∧ e'.revision = e.revision := by
  rcases alone_cases call a titled with ⟨r, same⟩ | ⟨job, w, takes, decided, made⟩
  · rw [same]
    exact ⟨e, live, rfl⟩
  · rw [made]
    by_cases mine : name = job.name
    · subst mine
      cases job with
      | create d =>
        simp only [Job.decision?, Job.decide, live] at decided
        cases Option.some.inj decided
      | update n patch =>
        have asked : call.request = .update n patch := takes
        rw [asked] at other
        simp [Request.updates, Job.name] at other
      | activate n active =>
        simp only [Job.decision?, Job.decide, live, Slot.live?] at decided
        split at decided <;> cases Option.some.inj decided
        exact ⟨_, Catalog.slot_publish_live _ _ _, rfl⟩
      | delete n =>
        have asked : call.request = .delete n := takes
        rw [asked] at keeps
        exact absurd rfl keeps
      | forceDelete n =>
        have asked : call.request = .forceDelete n := takes
        rw [asked] at keeps
        exact absurd rfl keeps
    · exact ⟨e, (Catalog.slot_publish_other c mine _).trans live, rfl⟩

end Call

/-- Successful updates that make one version after another: each next one from the revision that the
one before has made, with the version that its patch expected. -/
def Successive (calls : Nat → Call) (name : String) : Revision → List (Nat × Status) →
    Revision → Prop
  | r, [], last => last = r
  | r, (i, st) :: rest, last =>
    st.script.version = r.version + 1 ∧
      (∀ patch x, (calls i).request = .update name patch →
        Catalog.expectedVersion patch = some x → x = r.version) ∧
      ∃ source, Successive calls name (Edition.revision ⟨st.script, source⟩) rest last

namespace Successive

variable {calls : Nat → Call} {name : String} {r last : Revision} {wins : List (Nat × Status)}

theorem version_getElem? (h : Successive calls name r wins last) {k i : Nat} {st : Status}
    (here : wins[k]? = some (i, st)) : st.script.version = r.version + k + 1 := by
  induction wins generalizing r k with
  | nil => simp at here
  | cons win wins ih =>
    obtain ⟨j, first⟩ := win
    obtain ⟨version, _, source, rest⟩ := h
    cases k with
    | zero =>
      cases here
      simpa using version
    | succ k =>
      have later := ih rest (by simpa using here)
      simp only [Edition.revision] at later
      omega

theorem version_last (h : Successive calls name r wins last) :
    last.version = r.version + wins.length := by
  induction wins generalizing r with
  | nil =>
    have same : last = r := h
    simp [same]
  | cons win wins ih =>
    obtain ⟨version, _, source, rest⟩ := h
    have later := ih rest
    simp only [Edition.revision, List.length_cons] at later ⊢
    omega

theorem code_last (h : Successive calls name r wins last) :
    last.code = (wins.getLast?.map (·.2.script.code)).getD r.code := by
  induction wins generalizing r with
  | nil =>
    have same : last = r := h
    rw [same]
    rfl
  | cons win wins ih =>
    obtain ⟨_, _, source, rest⟩ := h
    rw [ih rest, List.getLast?_cons]
    cases wins.getLast? <;> rfl

theorem append {mid : Revision} {more : List (Nat × Status)}
    (front : Successive calls name r wins mid) (rest : Successive calls name mid more last) :
    Successive calls name r (wins ++ more) last := by
  induction wins generalizing r with
  | nil =>
    have same : mid = r := front
    rw [← same]
    exact rest
  | cons win wins ih =>
    obtain ⟨version, checked, source, later⟩ := front
    exact ⟨version, checked, source, ih later⟩

theorem expected (h : Successive calls name r wins last) {i : Nat} {st : Status}
    (won : (i, st) ∈ wins) {patch : Option Json} {x : Int}
    (asked : (calls i).request = .update name patch)
    (expects : Catalog.expectedVersion patch = some x) : st.script.version = x + 1 := by
  induction wins generalizing r with
  | nil => cases won
  | cons win wins ih =>
    obtain ⟨version, checked, source, rest⟩ := h
    rcases List.mem_cons.mp won with first | later
    · cases first
      rw [version, checked patch x asked expects]
    · exact ih rest later

end Successive

namespace Traffic

variable {calls : Nat → Call} {m : Traffic} {c : Catalog} {a : MemoryArchive} {name : String}
  {e : Edition} {i j : Nat}

def win? (calls : Nat → Call) (name : String) (m : Traffic) (i : Nat) : Option (Nat × Status) :=
  if (calls i).request.updates name then
    match m.answer? calls i with
    | some (.ok (.status st)) => some (i, st)
    | _ => none
  else none

/-- The successful updates of a name in a run, in the order of their turns. -/
def wins (calls : Nat → Call) (name : String) (m : Traffic) (schedule : List Nat) :
    List (Nat × Status) :=
  (m.turns calls schedule).filterMap (win? calls name (m.run calls schedule))

theorem win?_eq_some {st : Status} :
    win? calls name m i = some (j, st) ↔
      j = i ∧ (calls i).request.updates name = true ∧
        m.answer? calls i = some (.ok (.status st)) := by
  unfold win?
  constructor
  · intro won
    split at won
    · rename_i updates
      split at won
      · rename_i answered
        cases won
        exact ⟨rfl, updates, answered⟩
      · cases won
    · cases won
  · rintro ⟨rfl, updates, answered⟩
    rw [if_pos updates, answered]

theorem mem_wins {schedule : List Nat} {st : Status} :
    (i, st) ∈ m.wins calls name schedule ↔
      (calls i).request.updates name = true ∧ m.answer? calls i = none ∧
        (m.run calls schedule).answer? calls i = some (.ok (.status st)) := by
  rw [wins, List.mem_filterMap]
  constructor
  · rintro ⟨j, member, won⟩
    obtain ⟨same, updates, answered⟩ := win?_eq_some.mp won
    subst same
    exact ⟨updates, (mem_turns.mp member).1, answered⟩
  · rintro ⟨updates, still, answered⟩
    refine ⟨i, mem_turns.mpr ⟨still, ?_⟩, win?_eq_some.mpr ⟨rfl, updates, answered⟩⟩
    rw [answered]
    exact Option.some_ne_none _

theorem wins_sublist (schedule : List Nat) :
    ((m.wins calls name schedule).map Prod.fst).Sublist (m.turns calls schedule) := by
  unfold wins
  induction m.turns calls schedule with
  | nil => exact List.Sublist.slnil
  | cons i rest ih =>
    cases won : win? calls name (m.run calls schedule) i with
    | none =>
      rw [List.filterMap_cons_none won]
      exact ih.cons i
    | some win =>
      rw [List.filterMap_cons_some won, List.map_cons, (win?_eq_some.mp won).1]
      exact ih.cons_cons i

theorem nodup_wins (schedule : List Nat) :
    ((m.wins calls name schedule).map Prod.fst).Nodup :=
  (nodup_turns schedule).sublist (wins_sublist schedule)

theorem wins_append (before after : List Nat) :
    m.wins calls name (before ++ after) =
      m.wins calls name before ++ (m.run calls before).wins calls name after := by
  unfold wins
  rw [turns_append, List.filterMap_append, run_append]
  refine congrArg (· ++ _) (List.filterMap_congr fun i member => ?_)
  obtain ⟨r, settled⟩ := Option.ne_none_iff_exists'.mp (mem_turns.mp member).2
  simp only [win?, answer?_run settled after, settled]

theorem length_wins_le (schedule : List Nat) :
    (m.wins calls name schedule).length ≤
      (schedule.dedup.filter fun i => (calls i).request.updates name).length := by
  have subset : (m.wins calls name schedule).map Prod.fst ⊆
      schedule.dedup.filter fun i => (calls i).request.updates name := by
    intro i member
    obtain ⟨⟨j, st⟩, won, rfl⟩ := List.mem_map.mp member
    have turn := (wins_sublist schedule).subset member
    exact List.mem_filter.mpr ⟨List.mem_dedup.mpr (mem_schedule turn), (mem_wins.mp won).1⟩
  simpa using (nodup_wins schedule).length_le_of_subset subset

theorem wins_turn {r : Answer} (still : m.answer? calls i = none)
    (settled : (m.step calls i).answer? calls i = some r) :
    m.wins calls name [i] = (win? calls name (m.step calls i) i).toList := by
  have turn : m.turns calls [i] = [i] := by
    simp only [turns]
    rw [if_pos ⟨still, by rw [settled]; exact Option.some_ne_none r⟩]
  unfold wins
  rw [turn]
  change [i].filterMap (win? calls name (m.step calls i)) = _
  cases won : win? calls name (m.step calls i) i with
  | none => exact List.filterMap_cons_none won
  | some win => exact List.filterMap_cons_some won

/-- A step that does not delete a live name keeps its revision or makes the next one. -/
theorem successive_step (h : m.Matches c a) (sound : m.Sound calls) (live : m.slot name = .live e)
    (keeps : (calls i).request.Keeps name)
    (room : e.script.version + (m.wins calls name [i]).length ≤ twoTo 63 - 1) :
    ∃ next, (m.step calls i).slot name = .live next ∧
      Successive calls name e.revision (m.wins calls name [i]) next.revision := by
  have shown : c.slot name = .live e := (h.slots name).symm.trans live
  by_cases turn : m.answer? calls i = none ∧ (m.step calls i).answer? calls i ≠ none
  · obtain ⟨r, settled⟩ := Option.ne_none_iff_exists'.mp turn.2
    obtain ⟨c', a', alone, next⟩ := takes_turn h sound turn.1 settled
    rw [wins_turn turn.1 settled] at room ⊢
    by_cases updates : (calls i).request.updates name = true
    · obtain ⟨patch, asked⟩ := Request.updates_iff.mp updates
      rcases Call.alone_update_live (a := a) h.titled shown asked with ⟨f, failed⟩ |
        ⟨d, checked, made⟩
      · rw [failed] at alone
        cases alone
        have lost : win? calls name (m.step calls i) i = none := by
          simp only [win?, if_pos updates, settled]
        rw [lost]
        exact ⟨e, (next.slots name).trans shown, rfl⟩
      · rw [made] at alone
        cases alone
        rw [win?_eq_some.mpr ⟨rfl, updates, settled⟩] at room ⊢
        have bound : e.script.version ≠ twoTo 63 - 1 := by
          simp only [Option.toList_some, List.length_singleton] at room
          omega
        have version : nextVersion e.script.version = e.script.version + 1 := by
          rw [nextVersion, if_neg bound]
        refine ⟨_, (next.slots name).trans (Catalog.slot_publish_live c name _), version, ?_,
          d.source, rfl⟩
        intro other x again expects
        rw [asked] at again
        cases again
        exact Catalog.checkVersion_eq_ok.mp checked x expects
    · have lost : win? calls name (m.step calls i) i = none := by
        simp only [win?, if_neg updates]
      rw [lost]
      obtain ⟨e', live', same⟩ := Call.alone_keeps_live (a := a) h.titled shown keeps
        (Bool.eq_false_iff.mpr updates)
      rw [alone] at live'
      exact ⟨e', (next.slots name).trans live', same⟩
  · have next : (m.step calls i).Matches c a := matches_step h sound (not_turn turn)
    have none : m.wins calls name [i] = [] := by
      simp only [wins, turns, if_neg turn, List.filterMap_nil]
    rw [none]
    exact ⟨e, (next.slots name).trans shown, rfl⟩

/-- In a run that does not delete a live name its revisions follow one another. -/
theorem successive_run (h : m.Matches c a) (sound : m.Sound calls) (live : m.slot name = .live e)
    {schedule : List Nat} (keeps : ∀ i ∈ schedule, (calls i).request.Keeps name)
    (room : e.script.version + (m.wins calls name schedule).length ≤ twoTo 63 - 1) :
    ∃ last, (m.run calls schedule).slot name = .live last ∧
      Successive calls name e.revision (m.wins calls name schedule) last.revision := by
  -- From the end: the last step starts at the revision that the run before it has reached.
  induction schedule using List.reverseRecOn with
  | nil => exact ⟨e, live, rfl⟩
  | append_singleton before i ih =>
    rw [wins_append, List.length_append] at room
    obtain ⟨now, shown, front⟩ := ih
      (fun j member => keeps j (List.mem_append_left _ member)) (by omega)
    obtain ⟨_, c', a', _, matching, _⟩ := inTurn_turns h sound before
    have version := front.version_last
    simp only [Edition.revision] at version
    obtain ⟨next, final, last⟩ := successive_step matching (sound_run sound before) shown
      (keeps i (List.mem_append_right _ (List.mem_singleton_self i))) (by omega)
    refine ⟨next, ?_, ?_⟩
    · rw [run_append]
      exact final
    · rw [wins_append]
      exact front.append last

theorem exists_turn {schedule : List Nat} (member : i ∈ m.turns calls schedule) :
    ∃ before after, schedule = before ++ i :: after ∧
      (m.run calls before).answer? calls i = none ∧
      ((m.run calls before).step calls i).answer? calls i ≠ none := by
  induction schedule generalizing m with
  | nil => cases member
  | cons j rest ih =>
    have later : i ∈ (m.step calls j).turns calls rest → ∃ before after,
        j :: rest = before ++ i :: after ∧ (m.run calls before).answer? calls i = none ∧
          ((m.run calls before).step calls i).answer? calls i ≠ none := by
      intro member
      obtain ⟨before, after, same, turn⟩ := ih member
      exact ⟨j :: before, after, by rw [same, List.cons_append], turn⟩
    rw [turns] at member
    split at member
    · rename_i turn
      rcases List.mem_cons.mp member with first | there
      · rw [first]
        exact ⟨[], rest, rfl, turn⟩
      · exact later there
    · exact later member

theorem get_version (h : m.Matches c a) (sound : m.Sound calls) (live : m.slot name = .live e)
    {schedule : List Nat} (keeps : ∀ i ∈ schedule, (calls i).request.Keeps name)
    (room : e.script.version + (m.wins calls name schedule).length ≤ twoTo 63 - 1)
    {r : Option Edition} (asked : (calls i).request = .get name)
    (still : m.answer? calls i = none)
    (read : (m.run calls schedule).answer? calls i = some (.ok (.edition r))) :
    ∃ seen, r = some seen ∧ e.script.version ≤ seen.script.version ∧
      seen.script.version ≤ e.script.version + (m.wins calls name schedule).length := by
  have member : i ∈ m.turns calls schedule :=
    mem_turns.mpr ⟨still, by rw [read]; exact Option.some_ne_none _⟩
  obtain ⟨before, after, rfl, waits, turn⟩ := exists_turn member
  rw [wins_append, List.length_append] at room ⊢
  obtain ⟨now, shown, front⟩ := successive_run h sound live
    (fun j member => keeps j (List.mem_append_left _ member)) (by omega)
  obtain ⟨_, c', a', _, matching, _⟩ := inTurn_turns h sound before
  obtain ⟨answer, settled⟩ := Option.ne_none_iff_exists'.mp turn
  obtain ⟨_, _, alone, _⟩ := takes_turn matching (sound_run sound before) waits settled
  have stays := answer?_run settled after
  rw [run_append] at read
  have same : some answer = some (.ok (.edition r)) := stays.symm.trans read
  cases same
  have looked : r = c'.get? name := by
    simp only [Call.alone, asked] at alone
    cases alone
    rfl
  refine ⟨now, ?_, ?_⟩
  · rw [looked]
    exact Slot.live?_eq_some.mpr ((matching.slots name).symm.trans shown)
  · have version := front.version_last
    simp only [Edition.revision] at version
    omega

/-- What the updates of a live name come to in a run that does not delete it. -/
structure Revised (calls : Nat → Call) (m : Traffic) (name : String) (e : Edition)
    (schedule : List Nat) (wins : List (Nat × Status)) : Prop where
  once : (wins.map Prod.fst).Nodup
  /-- Each success is the answer of an update. -/
  won : ∀ {i st}, (i, st) ∈ wins → i ∈ schedule ∧
    (∃ patch, (calls i).request = .update name patch) ∧
    ∀ r, (m.run calls schedule).stages i = .done r → r = .ok (.status st)
  /-- Every update that has returned successfully is one of them. -/
  returned : ∀ {i patch st}, i ∈ schedule → (calls i).request = .update name patch →
    (m.run calls schedule).stages i = .done (.ok (.status st)) → (i, st) ∈ wins
  versions : ∀ {k i : Nat} {st : Status}, wins[k]? = some (i, st) →
    st.script.version = e.script.version + k + 1
  /-- At every moment the name shows the code of the success that made its version. -/
  shown : ∀ {before after}, schedule = before ++ after →
    ∃ now n, (m.run calls before).slot name = .live now ∧ n ≤ wins.length ∧
      now.script.version = e.script.version + n ∧
      now.script.code = ((wins.take n).getLast?.map (·.2.script.code)).getD e.script.code
  /-- No step leaves a version out. -/
  step : ∀ {before i after now next}, schedule = before ++ i :: after →
    (m.run calls before).slot name = .live now →
    (m.run calls (before ++ [i])).slot name = .live next →
    next.script.version = now.script.version ∨ next.script.version = now.script.version + 1
  reached : ∀ {last}, (m.run calls schedule).slot name = .live last →
    last.script.version = e.script.version + wins.length
  /-- Of the updates that expect one version, at most one succeeds. -/
  expected : ∀ {i j patch other x st st'}, i ∈ schedule → j ∈ schedule →
    (calls i).request = .update name patch → (calls j).request = .update name other →
    (patch.bind (·.get? "version")) = some (.int x) →
    (other.bind (·.get? "version")) = some (.int x) → x < twoTo 63 →
    (m.run calls schedule).stages i = .done (.ok (.status st)) →
    (m.run calls schedule).stages j = .done (.ok (.status st')) → i = j
  /-- A greater number is not compared with the version at all. -/
  ignored : ∀ {patch x} (s : Script), (patch.bind (·.get? "version")) = some (.int x) →
    twoTo 63 ≤ x → Catalog.checkVersion name s patch = .ok ()
  /-- A call that looks after another one has returned sees no earlier version. -/
  reads : ∀ {before after i j first second}, schedule = before ++ after →
    i ∈ before → j ∈ after →
    (calls i).request = .get name → (calls j).request = .get name →
    (m.run calls before).stages i = .done (.ok (.edition first)) →
    (m.run calls before).stages j = .idle →
    (m.run calls schedule).stages j = .done (.ok (.edition second)) →
    ∃ seen again, first = some seen ∧ second = some again ∧
      seen.script.version ≤ again.script.version

theorem expectedVersion_int {patch : Option Json} {x : Int}
    (member : (patch.bind (·.get? "version")) = some (.int x)) :
    Catalog.expectedVersion patch = if x < twoTo 63 then some x else none := by
  unfold Catalog.expectedVersion
  cases patch with
  | none => cases member
  | some p =>
    have found : p.get? "version" = some (.int x) := member
    simp only [Option.bind_some, found, Json.int64?]

section

variable {schedule : List Nat} (h : m.Matches c a) (sound : m.Sound calls)
  (live : m.slot name = .live e) (keeps : ∀ i ∈ schedule, (calls i).request.Keeps name)
  (room : e.script.version + (m.wins calls name schedule).length ≤ twoTo 63 - 1)
include h sound live keeps room

theorem successive_before {before after : List Nat} (parts : schedule = before ++ after) :
    ∃ now, (m.run calls before).slot name = .live now ∧
      Successive calls name e.revision (m.wins calls name before) now.revision := by
  subst parts
  rw [wins_append, List.length_append] at room
  exact successive_run h sound live (fun i member => keeps i (List.mem_append_left _ member))
    (by omega)

theorem shown_before {before after : List Nat} (parts : schedule = before ++ after) :
    ∃ now n, (m.run calls before).slot name = .live now ∧
      n ≤ (m.wins calls name schedule).length ∧ now.script.version = e.script.version + n ∧
      now.script.code = (((m.wins calls name schedule).take n).getLast?.map
        (·.2.script.code)).getD e.script.code := by
  obtain ⟨now, shown, successive⟩ := successive_before h sound live keeps room parts
  have all : m.wins calls name schedule =
      m.wins calls name before ++ (m.run calls before).wins calls name after := by
    rw [parts, wins_append]
  refine ⟨now, (m.wins calls name before).length, shown, ?_, successive.version_last, ?_⟩
  · rw [all, List.length_append]
    exact Nat.le_add_right _ _
  · rw [all, List.take_left]
    exact successive.code_last

theorem version_of_step {before after : List Nat} {now next : Edition}
    (parts : schedule = before ++ i :: after) (shown : (m.run calls before).slot name = .live now)
    (stands : (m.run calls (before ++ [i])).slot name = .live next) :
    next.script.version = now.script.version ∨
      next.script.version = now.script.version + 1 := by
  have whole : schedule = (before ++ [i]) ++ after := by rw [parts, List.append_assoc]; rfl
  obtain ⟨now', shown', first⟩ := successive_before h sound live keeps room parts
  obtain ⟨next', stands', second⟩ := successive_before h sound live keeps room whole
  rw [shown] at shown'
  rw [stands] at stands'
  cases shown'
  cases stands'
  have versions := first.version_last
  have versions' := second.version_last
  rw [wins_append, List.length_append] at versions'
  have single : ((m.run calls before).wins calls name [i]).length ≤ 1 := by
    refine Nat.le_trans (length_wins_le [i]) ?_
    exact Nat.le_trans (List.length_filter_le _ _) (by simp)
  simp only [Edition.revision] at versions versions'
  omega

theorem eq_of_expected {patch other : Option Json} {x : Int} {st st' : Status}
    (won : (i, st) ∈ m.wins calls name schedule) (won' : (j, st') ∈ m.wins calls name schedule)
    (asked : (calls i).request = .update name patch)
    (asked' : (calls j).request = .update name other)
    (expects : Catalog.expectedVersion patch = some x)
    (expects' : Catalog.expectedVersion other = some x) : i = j := by
  obtain ⟨last, _, successive⟩ := successive_run h sound live keeps room
  have version := successive.expected won asked expects
  have version' := successive.expected won' asked' expects'
  obtain ⟨k, at_k⟩ := List.mem_iff_getElem?.mp won
  obtain ⟨k', at_k'⟩ := List.mem_iff_getElem?.mp won'
  have place := successive.version_getElem? at_k
  have place' := successive.version_getElem? at_k'
  have same : k = k' := by omega
  rw [same, at_k'] at at_k
  cases at_k
  rfl

theorem get_rises {before after : List Nat} {first second : Option Edition}
    (parts : schedule = before ++ after) (asked : (calls i).request = .get name)
    (asked' : (calls j).request = .get name) (waits : m.answer? calls i = none)
    (waits' : (m.run calls before).answer? calls j = none)
    (read : (m.run calls before).answer? calls i = some (.ok (.edition first)))
    (read' : (m.run calls schedule).answer? calls j = some (.ok (.edition second))) :
    ∃ seen again, first = some seen ∧ second = some again ∧
      seen.script.version ≤ again.script.version := by
  obtain ⟨now, shown, successive⟩ := successive_before h sound live keeps room parts
  have version := successive.version_last
  simp only [Edition.revision] at version
  subst parts
  rw [wins_append, List.length_append] at room
  obtain ⟨seen, found, _, upper⟩ := get_version h sound live
    (fun k member => keeps k (List.mem_append_left _ member)) (by omega) asked waits read
  obtain ⟨_, c', a', _, matching, _⟩ := inTurn_turns h sound before
  rw [run_append] at read'
  obtain ⟨again, found', lower, _⟩ := get_version matching (sound_run sound before) shown
    (fun k member => keeps k (List.mem_append_right _ member)) (by omega) asked' waits' read'
  exact ⟨seen, again, found, found', by omega⟩

theorem revised_of_matches
    (begun : ∀ i ∈ schedule, (calls i).request.name? = some name → m.stages i = .idle) :
    Revised calls m name e schedule (m.wins calls name schedule) := by
  have waits : ∀ {i}, i ∈ schedule → (calls i).request.name? = some name →
      m.answer? calls i = none := fun member about => answer?_idle (begun _ member about)
  have returned : ∀ {i patch st}, i ∈ schedule → (calls i).request = .update name patch →
      (m.run calls schedule).stages i = .done (.ok (.status st)) →
      (i, st) ∈ m.wins calls name schedule := by
    intro i patch st member asked done
    exact mem_wins.mpr ⟨Request.updates_iff.mpr ⟨patch, asked⟩,
      waits member (by rw [asked]; rfl), answer?_done done⟩
  obtain ⟨last, final, successive⟩ := successive_run h sound live keeps room
  exact {
    once := nodup_wins schedule
    won := by
      intro i st won
      obtain ⟨updates, _, answered⟩ := mem_wins.mp won
      have turn := (wins_sublist schedule).subset (List.mem_map_of_mem won)
      refine ⟨mem_schedule turn, Request.updates_iff.mp updates, fun r done => ?_⟩
      rw [answer?_done done] at answered
      exact Option.some.inj answered
    returned := returned
    versions := successive.version_getElem?
    shown := shown_before h sound live keeps room
    step := version_of_step h sound live keeps room
    reached := by
      intro shown final'
      rw [final] at final'
      cases final'
      exact successive.version_last
    expected := by
      intro i j patch other x st st' here there asked asked' member member' small done done'
      have expects := expectedVersion_int member
      have expects' := expectedVersion_int member'
      rw [if_pos small] at expects expects'
      exact eq_of_expected h sound live keeps room (returned here asked done)
        (returned there asked' done') asked asked' expects expects'
    ignored := by
      intro patch x s member great
      refine Catalog.checkVersion_eq_ok.mpr fun v expects => ?_
      rw [expectedVersion_int member, if_neg (by omega)] at expects
      cases expects
    reads := by
      intro before after i j first second parts here there asked asked' done idle done'
      have member : i ∈ schedule := by rw [parts]; exact List.mem_append_left _ here
      exact get_rises h sound live keeps room parts asked asked'
        (waits member (by rw [asked]; rfl)) (answer?_idle idle) (answer?_done done)
        (answer?_done done') }

end

/-- No update of a live name is lost, however the calls alternate their steps, as long as nobody
deletes it and its versions do not run out. -/
theorem revised_opened (calls : Nat → Call) (engines : EngineSet) (policy : Policy)
    (records : List Record) (hub : Hub) (earlier schedule : List Nat) (name : String) (e : Edition)
    (live : ((opened engines policy records hub).run calls earlier).slot name = .live e)
    (begun : ∀ i ∈ schedule, (calls i).request.name? = some name →
      ((opened engines policy records hub).run calls earlier).stages i = .idle)
    (keeps : ∀ i ∈ schedule, (calls i).request.Keeps name)
    (room : e.script.version +
      (schedule.dedup.filter fun i => (calls i).request.updates name).length ≤ twoTo 63 - 1) :
    ∃ wins, Revised calls ((opened engines policy records hub).run calls earlier) name e schedule
      wins := by
  have first : (opened engines policy records hub).Sound calls :=
    sound_opened calls engines policy records hub []
  have sound := sound_opened calls engines policy records hub earlier
  obtain ⟨_, c, a, _, matching, _⟩ := inTurn_turns (matches_opened engines policy records hub)
    first earlier
  have bound : (((opened engines policy records hub).run calls earlier).wins calls name
      schedule).length ≤ _ := length_wins_le schedule
  exact ⟨_, revised_of_matches matching sound live keeps (by omega) begun⟩

theorem revised_opened_two_updates :
    let engines : EngineSet :=
      ⟨[⟨.lua, fun _ => .done (), fun source _ => .done ⟨.str source, []⟩⟩]⟩
    let script : Script := ⟨"a", "return 1", .lua, none, true, 4, .epoch, .epoch⟩
    let code (i : Nat) : String := if i = 0 then "return 2" else "return 3"
    let calls : Nat → Call := fun i => ⟨.update "a" (some (.obj [("code", .str (code i))])),
      ⟨.epoch, fun _ _ => .done (), none⟩⟩
    let m := (opened engines ⟨true, 5000⟩ [⟨script, false⟩] ⟨256, [], 0⟩).run calls []
    let schedule := (List.replicate 30 [0, 1]).flatten
    ∃ wins, Revised calls m "a" ⟨script, "return 1"⟩ schedule wins ∧
      ∃ st st', (0, st) ∈ wins ∧ (1, st') ∈ wins ∧
        (st.script.version, st.script.code) = (5, "return 2") ∧
        (st'.script.version, st'.script.code) = (6, "return 3") := by
  intro engines script code calls m schedule
  have returns : ∀ i < 2, ((m.run calls schedule).stages i).status?.map
      (fun st => (st.script.version, st.script.code)) = some (5 + (i : Int), code i) := by
    decide +kernel
  have answered (i : Nat) (few : i < 2) : ∃ st,
      (m.run calls schedule).stages i = .done (.ok (.status st)) ∧
        (st.script.version, st.script.code) = (5 + (i : Int), code i) := by
    obtain ⟨st, shown, values⟩ := Option.map_eq_some_iff.mp (returns i few)
    exact ⟨st, Stage.status?_eq_some.mp shown, values⟩
  obtain ⟨st, first, values⟩ := answered 0 (by decide)
  obtain ⟨st', second, values'⟩ := answered 1 (by decide)
  obtain ⟨wins, revised⟩ : ∃ wins, Revised calls m "a" ⟨script, "return 1"⟩ schedule wins :=
    revised_opened _ _ _ _ _ [] schedule "a" _ (by decide) (fun _ _ _ => rfl)
      (fun _ _ => trivial) (by decide)
  exact ⟨wins, revised, st, st', revised.returned (by decide) rfl first,
    revised.returned (by decide) rfl second, values, values'⟩

end Traffic

end ScriptHost
