import Mathlib.Data.List.Nodup
import ScriptHost.Table.Connection
import ScriptHost.Proofs.Deletions

/-!
The names of the rows that a catalog is opened over stay reserved. Whatever archive a catalog stands
on and whatever that answers, only a removal for good gives up a name. A row that stands for no
record is passed over, so that its name is free and a creation is written over it.
-/
namespace ScriptHost

theorem Given.over_eq {σ α : Type} (g : Given) (reply : α → Reply)
    (operation : Catalog → σ → Except Failure α × Catalog × σ) (c : Catalog) (a : σ) :
    g.over reply operation c a =
      let (r, c', a') := operation (g.catalog c) a
      (r.map reply, { c' with engines := c.engines }, a') := rfl

variable {σ : Type} [Archive σ] {c c' : Catalog} {a : σ} {name : String}

namespace Catalog

def Retains (c c' : Catalog) : Prop := ∀ name, c.isTaken name = true → c'.isTaken name = true

theorem retains_refl (c : Catalog) : c.Retains c := fun _ taken => taken

theorem isTaken_publish_other (c : Catalog) {name other : String} (ne : other ≠ name) (s : Slot) :
    (c.publish name s).isTaken other = c.isTaken other := by
  rw [isTaken, isTaken, slot_publish_other c ne]

theorem retains_publish (c : Catalog) (name : String) {s : Slot} (occupied : s.isVacant = false) :
    c.Retains (c.publish name s) := by
  intro other taken
  by_cases same : other = name
  · subst same
    cases s with
    | vacant => cases occupied
    | live e | deleted e =>
      simp [isTaken, slot, publish, Slot.isVacant, Named.find?_insert_self]
  · exact (isTaken_publish_other c same s).trans taken

theorem retains_keep (e : Edition) (c : Catalog) (a : σ) : c.Retains (keep e c a).2.1 := by
  unfold keep
  split
  · exact retains_publish c _ rfl
  · exact retains_refl c

theorem retains_of_keep {e : Edition} {r : Except Failure Unit} {a' : σ}
    (kept : keep e c a = (r, c', a')) : c.Retains c' := by
  have retains := retains_keep e c a
  rw [kept] at retains
  exact retains

variable (c) (a)

theorem retains_create (body : Option Json) (now : Time.Instant) :
    c.Retains (create body now c a).2.1 := by
  unfold create
  split
  · exact retains_refl c
  · split
    · exact retains_refl c
    · split
      · exact retains_refl c
      · dsimp only
        split <;> exact retains_of_keep ‹_›

theorem retains_update (name : String) (patch : Option Json) (now : Time.Instant) :
    c.Retains (update name patch now c a).2.1 := by
  unfold update
  split
  · exact retains_refl c
  · dsimp only
    split
    · exact retains_refl c
    · split <;> exact retains_of_keep ‹_›

theorem retains_activate (name : String) (active : Bool) (now : Time.Instant) :
    c.Retains (activate name active now c a).2.1 := by
  unfold activate
  split
  · exact retains_refl c
  · split
    · exact retains_refl c
    · dsimp only
      split <;> exact retains_of_keep ‹_›

theorem retains_delete (name : String) : c.Retains (delete name c a).2.1 := by
  unfold delete
  split
  · exact retains_refl c
  · split
    · exact retains_publish c name rfl
    · exact retains_refl c

theorem isTaken_forceDelete {other : String} (taken : c.isTaken other = true)
    (kept : other = name → ∀ removed, (forceDelete name c a).1 ≠ .ok removed) :
    (forceDelete name c a).2.1.isTaken other = true := by
  unfold forceDelete at kept ⊢
  split
  · rename_i asked
    rw [asked] at kept
    have ne : other ≠ name := fun same => kept same _ rfl
    exact (isTaken_publish_other c ne _).trans taken
  · exact taken

end Catalog

namespace Task

open Catalog

def Frees (name : String) : Task × Report → Prop
  | (.call made, .answer (.ok _)) => made.request = .forceDelete name
  | _ => False

theorem engines_perform (task : Task) (c : Catalog) (a : σ) :
    (task.perform c a).2.1.engines = c.engines := by
  cases task with
  | list q => rfl
  | call made =>
    simp only [perform, Call.over]
    cases made.request with
    | evaluate name input timeoutMs =>
      dsimp only
      cases c.get? name <;> rfl
    | _ => rfl

theorem isTaken_perform (task : Task) (c : Catalog) (a : σ) (taken : c.isTaken name = true)
    (kept : ¬ Frees name (task, (task.perform c a).1)) :
    (task.perform c a).2.1.isTaken name = true := by
  cases task with
  | list q => exact taken
  | call made =>
    simp only [perform, Call.over] at kept ⊢
    -- The catalog that the operation sees differs in its engines only.
    cases asked : made.request with
    | create body => exact retains_create (made.given.catalog c) a body _ name taken
    | update n patch => exact retains_update (made.given.catalog c) a n patch _ name taken
    | activate n active => exact retains_activate (made.given.catalog c) a n active _ name taken
    | delete n => exact retains_delete (made.given.catalog c) a n name taken
    | forceDelete n =>
      refine isTaken_forceDelete (made.given.catalog c) a taken fun same removed obeyed => kept ?_
      simp only [asked, Given.over_eq, obeyed]
      rw [same]
      exact asked
    | get n => exact taken
    | evaluate n input timeoutMs =>
      dsimp only
      cases c.get? n <;> exact taken

theorem engines_inTurn (tasks : List Task) (c : Catalog) (a : σ) :
    (inTurn tasks c a).2.1.engines = c.engines := by
  induction tasks generalizing c a with
  | nil => rfl
  | cons task rest ih => exact (ih _ _).trans (engines_perform task c a)

/-- A name that is taken stays so in a run that does not remove it for good. -/
theorem isTaken_inTurn (tasks : List Task) (c : Catalog) (a : σ) (taken : c.isTaken name = true)
    (kept : ∀ p ∈ tasks.zip (inTurn tasks c a).1, ¬ Frees name p) :
    (inTurn tasks c a).2.1.isTaken name = true := by
  induction tasks generalizing c a with
  | nil => exact taken
  | cons task rest ih =>
    have first := isTaken_perform task c a taken (kept _ List.mem_cons_self)
    exact ih _ _ first fun p member => kept p (List.mem_cons_of_mem _ member)

end Task

namespace Call

variable {body : Option Json} {d : Admitted} {g : Given}

theorem over_create_taken (a : σ) (admitted : Admission.review c.engines.supports body = .ok d)
    (taken : c.isTaken d.name = true) :
    Call.over ⟨.create body, g⟩ c a = (.error (.alreadyExists d.name), c, a) := by
  have reviewed := (g.review_catalog c body).trans admitted
  have reserved : (g.catalog c).isTaken d.name = true := taken
  have run : Catalog.create body g.now (g.catalog c) a =
      (.error (.alreadyExists d.name), g.catalog c, a) := by
    simp only [Catalog.create, reviewed, reserved, if_true]
  change g.over .status (Catalog.create body g.now) c a = _
  rw [Given.over_eq, run]
  rfl

theorem over_create_free (a : σ) (admitted : Admission.review c.engines.supports body = .ok d)
    (free : c.isTaken d.name = false) (compiled : g.compile c.engines c.policy d = .ok ()) :
    (Call.over ⟨.create body, g⟩ c a).2.2 =
      (Archive.put (Catalog.newScript c.policy d g.now) a).2 := by
  have reviewed := (g.review_catalog c body).trans admitted
  have vacant : (g.catalog c).isTaken d.name = false := free
  have checked : (g.catalog c).compile d = .ok () := compiled
  change (Catalog.create body g.now (g.catalog c) a).2.2 = _
  simp only [Catalog.create, reviewed, vacant, checked, if_neg Bool.false_ne_true]
  rw [Catalog.keep]
  change _ = (Archive.put (Catalog.newScript (g.catalog c).policy d g.now) a).2
  cases Archive.put (Catalog.newScript (g.catalog c).policy d g.now) a with
  | mk r a' => cases r <;> rfl

end Call

theorem Named.find?_foldl_insert {β : Type} {pairs m : List (String × β)} :
    Named.find? name (pairs.foldl (fun acc (k, v) => Named.insert k v acc) m) = none ↔
      Named.find? name m = none ∧ ∀ p ∈ pairs, p.1 ≠ name := by
  induction pairs generalizing m with
  | nil => simp
  | cons p pairs ih =>
    rw [List.foldl_cons, ih, List.forall_mem_cons]
    by_cases same : p.1 = name
    · subst same
      simp [Named.find?_insert_self]
    · simp [Named.find?_insert_of_ne (Ne.symm same), same]

namespace Catalog

theorem Occupied.isTaken_iff (occupied : c.Occupied) :
    c.isTaken name = true ↔ Named.find? name c.slots ≠ none := by
  rw [isTaken, slot]
  cases found : Named.find? name c.slots with
  | none => simp [Slot.isVacant]
  | some s =>
    have shown := occupied _ (Named.mem_of_find? found)
    cases s with
    | vacant => exact absurd rfl shown
    | live e | deleted e => simp [Slot.isVacant]

theorem isTaken_ofRecords (engines : EngineSet) (policy : Policy) (records : List Record) :
    (ofRecords engines policy records).isTaken name = true ↔
      ∃ r ∈ records, r.script.name = name := by
  have found : Named.find? name (ofRecords engines policy records).slots = none ↔ _ :=
    Named.find?_foldl_insert
  rw [Occupied.isTaken_iff (occupied_ofRecords engines policy records), ne_eq, found]
  simp [Named.find?]

end Catalog

namespace Table

variable {engines : EngineSet} {policy : Policy} {rows : List Row} {row : Row}
  {replies : List Reply}

theorem Row.name_of_toRecord {r : Record} (read : row.toRecord = .ok r) :
    r.script.name = row.name := by
  unfold toRecord at read
  split at read
  · cases read
  · dsimp only at read
    split at read
    · cases read
      rfl
    · split at read <;> cases read
      rfl

theorem Row.mem_records {r : Record} :
    r ∈ records rows ↔ ∃ row ∈ rows, row.toRecord = .ok r := by
  rw [records, List.mem_filterMap]
  refine exists_congr fun row => and_congr_right fun _ => ?_
  cases row.toRecord <;> simp [Except.toOption]

theorem Row.exists_record_iff (distinct : (rows.map Row.name).Nodup) (member : row ∈ rows) :
    (∃ r ∈ records rows, r.script.name = row.name) ↔ ∃ r, row.toRecord = .ok r := by
  constructor
  · rintro ⟨r, listed, title⟩
    obtain ⟨other, there, read⟩ := mem_records.mp listed
    have same : other = row := List.inj_on_of_nodup_map distinct there member
      ((name_of_toRecord read).symm.trans title)
    exact ⟨r, same ▸ read⟩
  · rintro ⟨r, read⟩
    exact ⟨r, mem_records.mpr ⟨row, member, read⟩, name_of_toRecord read⟩

namespace Connection

theorem mapM_toRow (rows : List Row) : (rows.map raw).mapM RawRow.toRow = .ok rows := by
  induction rows with
  | nil => rfl
  | cons row rows ih =>
    rw [List.map_cons, List.mapM_cons, ih]
    rfl

def ofRows (rows : List Row) (replies : List Reply) : Connection :=
  ofReplies ({ rows := some (rows.map raw) } :: replies)

def opened (replies : List Reply) : Connection := ⟨[.loadAll], replies⟩

theorem open_ofRows (engines : EngineSet) (policy : Policy) (rows : List Row)
    (replies : List Reply) :
    Catalog.open engines policy (ofRows rows replies) =
      (.ok (Catalog.ofRecords engines policy (Row.records rows)), opened replies) := by
  have loaded : Archive.loadAll (ofRows rows replies) =
      (.ok (Row.records rows), opened replies) := by
    change ((backend ((rows.map raw).mapM RawRow.toRow)).map Row.records, _) = _
    rw [mapM_toRow]
    rfl
  rw [Catalog.open, loaded]

theorem asked_put (s : Script) (c : Connection) :
    (Archive.put s c).2.asked = .upsert s :: c.asked := by
  change (c.oneRow (.upsert s)).2.asked = _
  rw [oneRow_snd, asked_ask]

/-- A catalog opens over any rows with names of their own. The name of a row that can be read stays
reserved, whatever is done and whatever the database answers, until it is removed for good: a
creation is refused and asks the database nothing. A row that cannot be read, for the tag of its
language or of its encoding, is passed over: its name is free, and a creation that passes the checks
asks the database to write over the row. -/
theorem reserved_opened (engines : EngineSet) (policy : Policy) (rows : List Row)
    (replies : List Reply) (distinct : (rows.map Row.name).Nodup) :
    ∃ c, Catalog.open engines policy (ofRows rows replies) = (.ok c, opened replies) ∧
      ∀ row ∈ rows,
        ((∃ r, row.toRecord = .ok r) → ∀ tasks : List Task,
          let last := Task.inTurn tasks c (opened replies)
          (∀ p ∈ tasks.zip last.1, ¬ Task.Frees row.name p) →
            ∀ body d g, Admission.review engines.supports body = .ok d → d.name = row.name →
              Call.over ⟨.create body, g⟩ last.2.1 last.2.2 =
                (.error (.alreadyExists row.name), last.2.1, last.2.2)) ∧
        ((∃ f, row.toRecord = .error f) →
          c.slot row.name = .vacant ∧
            ∀ body d g, Admission.review engines.supports body = .ok d → d.name = row.name →
              g.compile engines policy d = .ok () →
                (Call.over ⟨.create body, g⟩ c (opened replies)).2.2.asked =
                  [.upsert (Catalog.newScript policy d g.now), .loadAll]) := by
  refine ⟨_, open_ofRows engines policy rows replies, fun row member => ?_⟩
  have taken := (Catalog.isTaken_ofRecords engines policy (Row.records rows)).trans
    (Row.exists_record_iff distinct member)
  refine ⟨?_, ?_⟩
  · intro read tasks last kept body d g admitted same
    have reserved := Task.isTaken_inTurn tasks _ _ (taken.mpr read) kept
    rw [← same] at reserved ⊢
    refine Call.over_create_taken _ ?_ reserved
    rw [Task.engines_inTurn]
    exact admitted
  · rintro ⟨f, garbled⟩
    have free : (Catalog.ofRecords engines policy (Row.records rows)).isTaken row.name = false := by
      refine Bool.eq_false_iff.mpr fun held => ?_
      obtain ⟨r, read⟩ := taken.mp held
      rw [garbled] at read
      cases read
    refine ⟨?_, fun body d g admitted same compiled => ?_⟩
    · rw [Catalog.isTaken] at free
      cases stands : (Catalog.ofRecords engines policy (Row.records rows)).slot row.name with
      | vacant => rfl
      | live e | deleted e =>
        rw [stands] at free
        cases free
    · rw [Call.over_create_free _ admitted (same ▸ free) compiled, asked_put]
      rfl

theorem reserved_opened_two_rows :
    let engines : EngineSet :=
      ⟨[⟨.lua, fun _ => .done (), fun source _ => .done ⟨.str source, []⟩⟩]⟩
    let given : Given := ⟨.epoch, fun _ _ => .done (), none⟩
    let body (name : String) : Json :=
      .obj [("code", .str "return 2"), ("lang", .str "lua"), ("name", .str name)]
    let rows : List Row :=
      [⟨"gone", "print(1)", "python", none, true, 3, some .epoch, .epoch, .epoch⟩,
        ⟨"old", "x", "cobol", none, true, 7, some .epoch, .epoch, .epoch⟩]
    let tasks : List Task := [.call ⟨.forceDelete "old", given⟩, .list {}]
    ∃ c, Catalog.open engines ⟨true, 5000⟩ (ofRows rows []) = (.ok c, opened []) ∧
      let last := Task.inTurn tasks c (opened [])
      Call.over ⟨.create (some (body " gone ")), given⟩ last.2.1 last.2.2 =
          (.error (.alreadyExists "gone"), last.2.1, last.2.2) ∧
        (Call.over ⟨.create (some (body "old")), given⟩ c (opened [])).2.2.asked =
          [.upsert ⟨"old", "return 2", .lua, none, true, 0, .epoch, .epoch⟩, .loadAll] := by
  intro engines given body rows tasks
  have lua : Language.named? "lua" = some .lua := Language.named?_tag .lua
  have python : Language.named? "python" = some .python := Language.named?_tag .python
  have cobol : Language.named? "cobol" = none := by
    have plain : Text.lower (Text.trim "cobol") = "cobol" := by
      refine String.toList_inj.mp ?_
      rw [Text.lower, String.toList_map]
      decide
    rw [Language.named?, plain]
    rfl
  have admitted : ∀ name, Text.blank name = false →
      Admission.review engines.supports (some (body name)) =
        .ok ⟨Text.trim name, "return 2", .lua, none, "return 2", none⟩ := by
    intro name titled
    have code : Text.blank "return 2" = false := by decide
    have lang : Text.blank "lua" = false := by decide
    simp only [Admission.review, Admission.text?, body, Json.get?, Named.find?, titled, code, lang,
      lua, String.reduceEq, if_true, if_false, Bool.false_eq_true]
    rfl
  have trimmed : Text.trim " gone " = "gone" := by decide
  obtain ⟨c, succeeds, each⟩ := reserved_opened engines ⟨true, 5000⟩ rows [] (by decide)
  have first := (each _ List.mem_cons_self).1
  have second := (each _ (List.mem_cons_of_mem _ List.mem_cons_self)).2
  refine ⟨c, succeeds, ?_, ?_⟩
  · refine first ⟨_, by rw [Row.toRecord, python]⟩ tasks ?_ (some (body " gone ")) _ given
      (admitted " gone " (by decide)) trimmed
    rintro ⟨task, report⟩ member frees
    have listed := (List.of_mem_zip member).1
    simp only [tasks, List.mem_cons, List.not_mem_nil, or_false] at listed
    rcases listed with rfl | rfl
    · cases report with
      | answer r =>
        cases r with
        | ok reply => exact absurd frees (by simp [Task.Frees])
        | error f => exact frees
      | listing r | opening r => exact frees
    · exact frees
  · exact (second ⟨_, by rw [Row.toRecord, cobol]⟩).2 (some (body "old")) _ given
      (admitted "old" (by decide)) rfl rfl

end Connection

end Table

end ScriptHost
