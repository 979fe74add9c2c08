import ScriptHost.Catalog.Sessions
import ScriptHost.Proofs.Outcomes

/-!
A deleted name stays hidden and reserved, whatever is done with the catalog and however often its
archive is opened again, until the script is removed for good. Then the name is free.
-/
namespace ScriptHost

variable {engines : EngineSet} {policy : Policy} {c : Catalog} {a : MemoryArchive} {name : String}

def Act.Frees (name : String) : Act × Report → Prop
  | (.call made, .answer (.ok _)) => made.request = .forceDelete name
  | _ => False

theorem Act.Frees.request {p : Act × Report} (frees : Frees name p) :
    ∃ made, p.1 = .call made ∧ made.request = .forceDelete name := by
  unfold Act.Frees at frees
  split at frees
  · exact ⟨_, rfl, frees⟩
  · exact frees.elim

def Act.Creates (name : String) : Act × Report → Prop
  | (.call made, .answer (.ok (.status st))) =>
    (∃ body, made.request = .create body) ∧ st.script.name = name
  | _ => False

theorem Call.removes_of_deleted {call : Call} {s : Slot} {e : Edition} {w : Change}
    (about : call.request.target? = some name) (deleted : s = .deleted e)
    (makes : call.Makes engines policy s w) : call.request = .forceDelete name := by
  subst deleted
  cases makes with
  | create _ _ _ stands | update _ stands _ _ _ | activate _ stands _ | delete _ stands =>
    cases stands
  | forceDelete asked =>
    rw [asked] at about
    cases Option.some.inj about
    exact asked

namespace Catalog

/-- Nothing that is asked of a name shows a script, and no script takes the name. -/
structure Hidden (name : String) (c : Catalog) (a : MemoryArchive) : Prop where
  get : ∀ g, Call.alone ⟨.get name, g⟩ c a = (.ok (.edition none), c, a)
  list : ∀ q fault, ∀ editions, (Catalog.list q c (⟨fault, a⟩ : FragileArchive)).1 = .ok editions →
    ∀ e ∈ editions, e.script.name ≠ name
  evaluate : ∀ input timeoutMs g,
    Call.alone ⟨.evaluate name input timeoutMs, g⟩ c a = (.error (.notFound name), c, a)
  update : ∀ patch g, Call.alone ⟨.update name patch, g⟩ c a = (.error (.notFound name), c, a)
  activate : ∀ active g,
    Call.alone ⟨.activate name active, g⟩ c a = (.ok (.activation .notFound), c, a)
  delete : ∀ g, Call.alone ⟨.delete name, g⟩ c a = (.ok (.removed false), c, a)
  create : ∀ body text g, body.get? "name" = some (.str text) → Text.trim text = name →
    ∃ f, Call.alone ⟨.create (some body), g⟩ c a = (.error f, c, a) ∧
      ∀ d, Admission.review c.engines.supports (some body) = .ok d → f = .alreadyExists name

structure Free (name : String) (c : Catalog) (a : MemoryArchive) : Prop where
  slot : Named.find? name c.slots = none
  record : a.find? name = none

structure Buried (name : String) (c : Catalog) (a : MemoryArchive) : Prop where
  slot : ∃ e, c.slot name = .deleted e
  record : ∃ s, a.find? name = some ⟨s, true⟩

theorem Coherent.own (h : Coherent engines policy c a) : Coherent c.engines c.policy c a := by
  rw [h.sameEngines, h.samePolicy]
  exact h

theorem Free.vacant (free : Free name c a) : c.slot name = .vacant := by
  rw [Catalog.slot, free.slot]
  rfl

theorem Coherent.free (h : Coherent engines policy c a) (vacant : c.slot name = .vacant)
    (record : a.find? name = none) : Free name c a := by
  refine ⟨?_, record⟩
  cases found : Named.find? name c.slots with
  | none => rfl
  | some s =>
    rw [Catalog.slot, found] at vacant
    exact absurd vacant (h.occupied _ (Named.mem_of_find? found))

theorem get?_of_mem_list {q : Listing} {fault : Option ArchiveError} {editions : List Edition}
    (listed : (Catalog.list q c (⟨fault, a⟩ : FragileArchive)).1 = .ok editions) {e : Edition}
    (member : e ∈ editions) : ∃ shown, c.get? shown = some e := by
  cases fault with
  | some f => cases listed
  | none =>
    cases listed
    obtain ⟨s, _, shown⟩ := List.mem_filterMap.mp (List.mem_filter.mp member).1
    exact ⟨Script.name s, shown⟩

end Catalog

namespace Act

open Catalog

theorem perform_list (q : Listing) (fault : Option ArchiveError) (c : Catalog)
    (a : MemoryArchive) :
    (Act.list q fault).perform c a =
      (.listing (Catalog.list q c (⟨fault, a⟩ : FragileArchive)).1, c, a) := by
  cases fault <;> rfl

theorem perform_reopen (engines : EngineSet) (policy : Policy) (fault : Option ArchiveError)
    (c : Catalog) (a : MemoryArchive) :
    (Act.reopen engines policy fault).perform c a =
      match fault with
      | some f => (.opening (.error (.archive f)), c, a)
      | none => (.opening (.ok ()), ofRecords engines policy a.all, a) := by
  cases fault <;> rfl

theorem coherent_perform (h : Coherent c.engines c.policy c a) (act : Act) :
    Coherent (act.perform c a).2.1.engines (act.perform c a).2.1.policy (act.perform c a).2.1
      (act.perform c a).2.2 := by
  cases act with
  | call made => exact (h.alone made).own
  | list q fault =>
    rw [perform_list]
    exact h
  | reopen engines policy fault =>
    rw [perform_reopen]
    cases fault with
    | some f => exact h
    | none => exact coherent_ofRecords engines policy h.ordered

theorem coherent_inTurn (h : Coherent c.engines c.policy c a) (acts : List Act) :
    Coherent (inTurn acts c a).2.1.engines (inTurn acts c a).2.1.policy (inTurn acts c a).2.1
      (inTurn acts c a).2.2 := by
  induction acts generalizing c a with
  | nil => exact h
  | cons act rest ih => exact ih (coherent_perform h act)

/-- What an act does to a name and its record: nothing, or the archive was opened again, or a call
has changed them and its answer tells so. -/
theorem perform_cases (h : Coherent c.engines c.policy c a) (act : Act) (name : String) :
    ((act.perform c a).2.1.slot name = c.slot name ∧
        (act.perform c a).2.2.find? name = a.find? name) ∨
      (∃ engines policy, act = .reopen engines policy none ∧
        (act.perform c a).2.1.slot name = .ofFound engines (a.find? name) ∧
        (act.perform c a).2.2.find? name = a.find? name) ∨
      ∃ made w, act = .call made ∧ made.request.target? = some name ∧
        made.Makes c.engines c.policy (c.slot name) w ∧
        (act.perform c a).1 = .answer (.ok (w.reply (w.found (a.find? name)))) ∧
        (act.perform c a).2.1.slot name = w.slot ∧
        (act.perform c a).2.2.find? name = w.record (a.find? name) := by
  cases act with
  | call made =>
    by_cases about : made.request.target? = some name
    · rcases h.alone_told about with ⟨slot, record, _⟩ | ⟨w, makes, told, slot, record⟩
      · exact Or.inl ⟨slot, record⟩
      · have answer := congrArg Report.answer told
        exact Or.inr (Or.inr ⟨made, w, rfl, about, makes, answer, slot, record⟩)
    · exact Or.inl (h.alone_other about)
  | list q fault =>
    rw [perform_list]
    exact Or.inl ⟨rfl, rfl⟩
  | reopen engines policy fault =>
    rw [perform_reopen]
    cases fault with
    | some f => exact Or.inl ⟨rfl, rfl⟩
    | none => exact Or.inr (Or.inl ⟨engines, policy, rfl, slot_ofRecords h.ordered name, rfl⟩)

theorem buried_perform (h : Coherent c.engines c.policy c a) (buried : Buried name c a)
    (act : Act) (kept : ¬ Frees name (act, (act.perform c a).1)) :
    Buried name (act.perform c a).2.1 (act.perform c a).2.2 := by
  obtain ⟨⟨e, deleted⟩, s, marked⟩ := buried
  rcases perform_cases h act name with ⟨slot, record⟩ | ⟨engines, _, _, slot, record⟩ |
    ⟨made, w, rfl, about, makes, told, _⟩
  · exact ⟨⟨e, slot.trans deleted⟩, s, record.trans marked⟩
  · refine ⟨⟨⟨s, (Encoding.source? s.encoding s.code).getD s.code⟩, ?_⟩, s, record.trans marked⟩
    rw [slot, marked]
    rfl
  · rw [told] at kept
    exact absurd (Call.removes_of_deleted about deleted makes) kept

theorem free_perform (h : Coherent c.engines c.policy c a) (free : Free name c a) (act : Act)
    (kept : ¬ Creates name (act, (act.perform c a).1)) :
    Free name (act.perform c a).2.1 (act.perform c a).2.2 := by
  have later := coherent_perform h act
  rcases perform_cases h act name with ⟨slot, record⟩ | ⟨engines, _, _, slot, record⟩ |
    ⟨made, w, rfl, about, makes, told, slot, record⟩
  · exact later.free (slot.trans free.vacant) (record.trans free.record)
  · rw [free.record] at slot
    exact later.free slot (record.trans free.record)
  · have names := Call.names_of_makes makes about fun e live => by
      rw [free.vacant] at live
      cases live
    cases makes with
    | @create body d asked admitted compiled _ =>
      rw [told] at kept
      exact absurd ⟨⟨body, asked⟩, names⟩ kept
    | update _ stands _ _ _ | activate _ stands _ | delete _ stands =>
      rw [free.vacant] at stands
      cases stands
    | forceDelete _ => exact later.free slot record

/-- What every act keeps that is not of a kind holds after acts none of which is of this kind. -/
theorem kept_inTurn {P : Catalog → MemoryArchive → Prop} {kind : Act × Report → Prop}
    (step : ∀ {c a}, Coherent c.engines c.policy c a → P c a → ∀ act : Act,
      ¬ kind (act, (act.perform c a).1) → P (act.perform c a).2.1 (act.perform c a).2.2)
    (h : Coherent c.engines c.policy c a) (first : P c a) {acts : List Act}
    (none : ∀ p ∈ acts.zip (inTurn acts c a).1, ¬ kind p) :
    P (inTurn acts c a).2.1 (inTurn acts c a).2.2 := by
  induction acts generalizing c a with
  | nil => exact first
  | cons act rest ih =>
    have here := step h first act (none _ List.mem_cons_self)
    exact ih (coherent_perform h act) here fun p member => none p (List.mem_cons_of_mem _ member)

end Act

namespace Catalog

theorem Coherent.hidden_of_deleted (h : Coherent c.engines c.policy c a) {e : Edition}
    (deleted : c.slot name = .deleted e) : Hidden name c a := by
  refine ⟨fun g => ?_, fun q fault editions listed e member same => ?_, fun input timeoutMs g => ?_,
    fun patch g => ?_, fun active g => ?_, fun g => ?_, fun body text g found title => ?_⟩
  · exact h.alone_of_answer rfl (by rw [deleted]; rfl)
  · obtain ⟨shown, live⟩ := get?_of_mem_list listed member
    rw [← h.titled shown e live, same, get?, deleted] at live
    cases live
  · exact h.alone_of_answer rfl (by rw [deleted]; rfl)
  · exact h.alone_of_answer rfl (by rw [deleted]; rfl)
  · exact h.alone_of_answer rfl (by rw [deleted]; rfl)
  · exact h.alone_of_answer rfl (by rw [deleted]; rfl)
  · cases reviewed : Admission.review c.engines.supports (some body) with
    | error f =>
      exact ⟨.refused f, Call.alone_refused rfl reviewed, fun d admitted => by cases admitted⟩
    | ok d =>
      obtain ⟨_, same, reads⟩ := Admission.reads_of_review reviewed
      cases same
      obtain ⟨full, read, trimmed⟩ := reads.name
      obtain ⟨member, _⟩ := Admission.text?_eq_some.mp read
      have names : d.name = name := by
        rw [member] at found
        cases found
        exact trimmed.trans title
      have taken : (c.slot d.name).isVacant = false := by
        rw [names, deleted]
        rfl
      refine ⟨.alreadyExists name, ?_, fun _ _ => rfl⟩
      rw [← names]
      exact Call.alone_taken rfl reviewed taken

theorem Buried.hidden (h : Coherent c.engines c.policy c a) (buried : Buried name c a) :
    Hidden name c a := by
  obtain ⟨⟨_, deleted⟩, _⟩ := buried
  exact h.hidden_of_deleted deleted

theorem Coherent.buried_delete (h : Coherent engines policy c a) {g : Given}
    (told : (Call.alone ⟨.delete name, g⟩ c a).1 = .ok (.removed true)) :
    Buried name (Call.alone ⟨.delete name, g⟩ c a).2.1 (Call.alone ⟨.delete name, g⟩ c a).2.2 := by
  have about : (⟨.delete name, g⟩ : Call).request.target? = some name := rfl
  rcases h.alone_told about with ⟨_, _, silent⟩ | ⟨w, makes, _, slot, record⟩
  · exact absurd trivial (silent _ told)
  · cases makes with
    | create asked _ _ _ | update asked _ _ _ _ | activate asked _ _ | forceDelete asked =>
      cases asked
    | @delete _ e asked live =>
      obtain ⟨found, _⟩ := h.record_of_live live
      rw [found] at record
      exact ⟨⟨e, slot⟩, e.script, record⟩

theorem Coherent.free_forceDelete (h : Coherent engines policy c a) {g : Given} {reply : Reply}
    (told : (Call.alone ⟨.forceDelete name, g⟩ c a).1 = .ok reply) :
    Free name (Call.alone ⟨.forceDelete name, g⟩ c a).2.1
      (Call.alone ⟨.forceDelete name, g⟩ c a).2.2 := by
  have about : (⟨.forceDelete name, g⟩ : Call).request.target? = some name := rfl
  obtain ⟨D, decided, here⟩ := h.alone_here about
  cases decided
  cases fault : g.fault with
  | some f =>
    have failed := congrArg (·.1) here
    simp only [Decision.here, fault, told] at failed
    cases failed
  | none =>
    simp only [Decision.here, fault] at here
    exact (h.alone _).free (congrArg (·.2.1) here) (congrArg (·.2.2) here)

/-- The next script of a free name starts at version 0, and nothing but the checks of its body
stands in its way. -/
structure Starts (name : String) (c : Catalog) (a : MemoryArchive) : Prop where
  version : ∀ body g st, (Call.alone ⟨.create body, g⟩ c a).1 = .ok (.status st) →
    st.script.name = name → st.script.version = 0
  admits : ∀ body d g, Admission.review c.engines.supports body = .ok d → d.name = name →
    g.compile c.engines c.policy d = .ok () → g.fault = none →
    ∃ st, (Call.alone ⟨.create body, g⟩ c a).1 = .ok (.status st) ∧ st.script.name = name

theorem Free.starts (h : Coherent c.engines c.policy c a) (free : Free name c a) :
    Starts name c a := by
  refine ⟨fun body g st told title => ?_, fun body d g admitted title compiled obeys => ?_⟩
  · have about := (h.target_of_status told).trans (congrArg some title)
    rcases h.alone_told about with ⟨_, _, silent⟩ | ⟨w, makes, answer, _⟩
    · exact absurd trivial (silent _ told)
    · rw [told] at answer
      cases makes with
      | create asked admitted compiled vacant =>
        cases answer
        rfl
      | update asked _ _ _ _ | activate asked _ _ | delete asked _ | forceDelete asked =>
        cases asked
  · subst title
    have takes : Call.Takes c.engines c.policy ⟨.create body, g⟩ (.create d) :=
      ⟨⟨body, rfl, admitted⟩, compiled⟩
    have decided : Job.decision? c.engines c.policy g (.create d) (c.slot d.name) =
        some (.change (Phase.creation c.policy d g)) := by
      rw [free.vacant]
      rfl
    rw [Call.alone_eq_result h.titled takes decided]
    simp only [Decision.result, obeys]
    exact ⟨_, rfl, rfl⟩

/-- A deletion is final until the script is removed for good: the name stays hidden and reserved,
whatever is done later and for whatever engines the archive is opened again. The removal frees the
name, and it stays free until a new script takes it, which starts at version 0. -/
theorem deleted_until_freed (engines : EngineSet) (policy : Policy) (records : List Record)
    (before later : List Act) (name : String) (g : Given) :
    let a₀ := MemoryArchive.ofRecords records
    let reached := Act.inTurn before (ofRecords engines policy a₀.all) a₀
    (let deletion := Call.alone ⟨.delete name, g⟩ reached.2.1 reached.2.2
      let last := Act.inTurn later deletion.2.1 deletion.2.2
      deletion.1 = .ok (.removed true) → (∀ p ∈ later.zip last.1, ¬ Act.Frees name p) →
        Hidden name last.2.1 last.2.2) ∧
    (let removal := Call.alone ⟨.forceDelete name, g⟩ reached.2.1 reached.2.2
      let last := Act.inTurn later removal.2.1 removal.2.2
      ∀ reply, removal.1 = .ok reply → Free name removal.2.1 removal.2.2 ∧
        ((∀ p ∈ later.zip last.1, ¬ Act.Creates name p) →
          Free name last.2.1 last.2.2 ∧ Starts name last.2.1 last.2.2)) := by
  have opened := coherent_ofRecords engines policy (MemoryArchive.ordered_ofRecords records)
  have h := Act.coherent_inTurn opened.own before
  refine ⟨fun told kept => ?_, fun reply told => ?_⟩
  · have first := (h.alone ⟨.delete name, g⟩).own
    have buried := Act.kept_inTurn Act.buried_perform first (h.buried_delete told) kept
    exact buried.hidden (Act.coherent_inTurn first later)
  · have first := (h.alone ⟨.forceDelete name, g⟩).own
    have free := h.free_forceDelete told
    refine ⟨free, fun kept => ?_⟩
    have still := Act.kept_inTurn Act.free_perform first free kept
    exact ⟨still, still.starts (Act.coherent_inTurn first later)⟩

theorem deleted_until_freed_reopened :
    let engines : EngineSet :=
      ⟨[⟨.lua, fun _ => .done (), fun source _ => .done ⟨.str source, []⟩⟩]⟩
    let given : Given := ⟨.epoch, fun _ _ => .done (), none⟩
    let body : Json :=
      .obj [("code", .str "return 2"), ("lang", .str "lua"), ("name", .str " a ")]
    let a : MemoryArchive :=
      .ofRecords [⟨⟨"a", "return 1", .lua, none, true, 7, .epoch, .epoch⟩, false⟩]
    let c := ofRecords engines ⟨true, 5000⟩ a.all
    let again : List Act := [.reopen engines ⟨true, 5000⟩ none]
    let later : List Act := again ++ [.call ⟨.create (some body), given⟩]
    (let deletion := Call.alone ⟨.delete "a", given⟩ c a
      let last := Act.inTurn later deletion.2.1 deletion.2.2
      deletion.1 = .ok (.removed true) ∧ Hidden "a" last.2.1 last.2.2) ∧
    (let removal := Call.alone ⟨.forceDelete "a", given⟩ c a
      let last := Act.inTurn again removal.2.1 removal.2.2
      removal.1 = .ok (.removed true) ∧ Free "a" last.2.1 last.2.2 ∧
        Starts "a" last.2.1 last.2.2) := by
  intro engines given body a c again later
  have deletion := (deleted_until_freed engines ⟨true, 5000⟩
    [⟨⟨"a", "return 1", .lua, none, true, 7, .epoch, .epoch⟩, false⟩] [] later "a" given).1
  have removal := (deleted_until_freed engines ⟨true, 5000⟩
    [⟨⟨"a", "return 1", .lua, none, true, 7, .epoch, .epoch⟩, false⟩] [] again "a" given).2
  refine ⟨⟨rfl, deletion rfl ?_⟩, rfl, (removal (.removed true) rfl).2 ?_⟩
  · rintro ⟨act, report⟩ member frees
    have made : act = .reopen engines ⟨true, 5000⟩ none ∨
        act = .call ⟨.create (some body), given⟩ := by
      simpa [later, again] using (List.of_mem_zip member).1
    rcases made with rfl | rfl
    · exact frees
    · obtain ⟨_, same, asked⟩ := frees.request
      cases same
      cases asked
  · rintro ⟨act, report⟩ member creates
    have made : act = .reopen engines ⟨true, 5000⟩ none := by
      simpa [again] using (List.of_mem_zip member).1
    subst made
    exact creates

end Catalog

end ScriptHost
