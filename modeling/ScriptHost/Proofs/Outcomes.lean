import ScriptHost.Proofs.Reopening

/-!
What a call comes to that is made alone. It is decided by what its name stands for, and it touches
this name and the record of this name only.
-/
namespace ScriptHost

open Named (Sorted)

/-- The name that a request is about. A creation is about the name in its body, without the white
space around it; it is about no name when the body has none. -/
def Request.target? : Request → Option String
  | .create body => (body.bind (Admission.text? · "name")).map Text.trim
  | .update name _ | .activate name _ | .delete name | .forceDelete name | .get name
  | .evaluate name _ _ => some name

def Call.decision? (engines : EngineSet) (policy : Policy) (call : Call) (s : Slot) :
    Option Decision :=
  match call.request with
  | .create body =>
    match Admission.review engines.supports body with
    | .error f => some (.answer (.error (.refused f)))
    | .ok d =>
      if s.isVacant then
        match call.given.compile engines policy d with
        | .error f => some (.answer (.error f))
        | .ok () => (Job.create d).decision? engines policy call.given s
      else some (.answer (.error (.alreadyExists d.name)))
  | .update name patch => (Job.update name patch).decision? engines policy call.given s
  | .activate name active => (Job.activate name active).decision? engines policy call.given s
  | .delete name => (Job.delete name).decision? engines policy call.given s
  | .forceDelete name => (Job.forceDelete name).decision? engines policy call.given s
  | .get _ => some (.answer (.ok (.edition s.live?)))
  | .evaluate name input timeoutMs =>
    match s.live? with
    | none => some (.answer (.error (.notFound name)))
    | some e => some (.answer (Evaluation.answer engines e input timeoutMs))

def Phase.creation (policy : Policy) (d : Admitted) (g : Given) : Change :=
  let script := Catalog.newScript policy d g.now
  .keep ⟨script, d.source⟩ (.status ⟨Catalog.createdMessage script, script⟩)

def Phase.switch (e : Edition) (active : Bool) (g : Given) : Change :=
  .keep ⟨{ e.script with active := active, updatedAt := g.now }, e.source⟩ (.activation .changed)

/-- The change that a call asks for when its name stands for `s`: there is one form of it for each
kind of request, with everything that was checked before. -/
inductive Call.Makes (engines : EngineSet) (policy : Policy) (call : Call) (s : Slot) :
    Change → Prop where
  | create {body : Option Json} {d : Admitted} (asked : call.request = .create body)
      (admitted : Admission.review engines.supports body = .ok d)
      (compiled : call.given.compile engines policy d = .ok ()) (vacant : s = .vacant) :
      Makes engines policy call s (Phase.creation policy d call.given)
  | update {name : String} {patch : Option Json} {e : Edition} {d : Admitted}
      (asked : call.request = .update name patch) (live : s = .live e)
      (checked : Catalog.checkVersion name e.script patch = .ok ())
      (merged : Catalog.merge engines.supports e.script patch = .ok d)
      (compiled : call.given.compile engines policy d = .ok ()) :
      Makes engines policy call s (Phase.revision e d call.given)
  | activate {name : String} {active : Bool} {e : Edition}
      (asked : call.request = .activate name active) (live : s = .live e)
      (other : e.script.active ≠ active) :
      Makes engines policy call s (Phase.switch e active call.given)
  | delete {name : String} {e : Edition} (asked : call.request = .delete name)
      (live : s = .live e) : Makes engines policy call s (.hide e)
  | forceDelete {name : String} (asked : call.request = .forceDelete name) :
      Makes engines policy call s (.remove (!s.isVacant))

def Reply.TellsChange : Reply → Prop
  | .status _ | .activation .changed | .removed true => True
  | _ => False

namespace Call

variable {engines : EngineSet} {policy : Policy} {call : Call} {c : Catalog} {a : MemoryArchive}
  {s : Slot} {name : String}

theorem target_of_review {body : Option Json} {d : Admitted}
    (asked : call.request = .create body)
    (admitted : Admission.review engines.supports body = .ok d) :
    call.request.target? = some d.name := by
  obtain ⟨given, rfl, reads⟩ := Admission.reads_of_review admitted
  obtain ⟨text, found, same⟩ := reads.name
  simp only [asked, Request.target?, Option.bind_some, found, Option.map_some, same]

theorem target_of_takes {job : Job} (takes : call.Takes engines policy job) :
    call.request.target? = some job.name := by
  cases job with
  | create d =>
    obtain ⟨⟨body, asked, admitted⟩, _⟩ := takes
    exact target_of_review asked admitted
  | _ =>
    have asked := takes
    simp only [Takes] at asked
    simp only [asked, Request.target?, Job.name]

theorem refused_of_nameless (engines : EngineSet) (nameless : call.request.target? = none) :
    ∃ body f, call.request = .create body ∧
      Admission.review engines.supports body = .error f := by
  cases asked : call.request with
  | create body =>
    cases reviewed : Admission.review engines.supports body with
    | error f => exact ⟨body, f, rfl, reviewed⟩
    | ok d =>
      rw [target_of_review asked reviewed] at nameless
      cases nameless
  | _ =>
    rw [asked] at nameless
    cases nameless

theorem alone_nameless (c : Catalog) (a : MemoryArchive)
    (nameless : call.request.target? = none) :
    ∃ f, call.alone c a = (.error (.refused f), c, a) := by
  obtain ⟨body, f, asked, refused⟩ := refused_of_nameless c.engines nameless
  exact ⟨f, alone_refused asked refused⟩

theorem alone_decided (titled : c.Titled) (about : call.request.target? = some name) :
    ∃ D, call.decision? c.engines c.policy (c.slot name) = some D ∧
      call.alone c a = D.result call.given name c a := by
  have made : ∀ job : Job, call.Takes c.engines c.policy job →
      call.decision? c.engines c.policy (c.slot job.name) =
        job.decision? c.engines c.policy call.given (c.slot job.name) →
      ∃ D, call.decision? c.engines c.policy (c.slot name) = some D ∧
        call.alone c a = D.result call.given name c a := by
    intro job takes same
    have title : some job.name = some name := (target_of_takes takes).symm.trans about
    obtain ⟨D, decided⟩ := job.decided c.engines c.policy call.given (c.slot job.name)
    rw [← Option.some.inj title]
    exact ⟨D, same.trans decided, alone_eq_result titled takes decided⟩
  cases asked : call.request with
  | create body =>
    cases reviewed : Admission.review c.engines.supports body with
    | error f =>
      refine ⟨.answer (.error (.refused f)), ?_, alone_refused asked reviewed⟩
      simp only [decision?, asked, reviewed]
    | ok d =>
      have title : some d.name = some name := (target_of_review asked reviewed).symm.trans about
      cases Option.some.inj title
      cases vacant : (c.slot d.name).isVacant with
      | false =>
        refine ⟨.answer (.error (.alreadyExists d.name)), ?_, alone_taken asked reviewed vacant⟩
        simp only [decision?, asked, reviewed, vacant, if_neg Bool.false_ne_true]
      | true =>
        cases compiled : call.given.compile c.engines c.policy d with
        | error f =>
          refine ⟨.answer (.error f), ?_, alone_unchecked asked reviewed vacant compiled⟩
          simp only [decision?, asked, reviewed, vacant, if_true, compiled]
        | ok _ =>
          refine made (.create d) ⟨⟨body, asked, reviewed⟩, compiled⟩ ?_
          simp only [decision?, asked, reviewed, Job.name, vacant, if_true, compiled]
  | update n patch => exact made (.update n patch) asked (by simp only [decision?, asked, Job.name])
  | activate n active =>
    exact made (.activate n active) asked (by simp only [decision?, asked, Job.name])
  | delete n => exact made (.delete n) asked (by simp only [decision?, asked, Job.name])
  | forceDelete n => exact made (.forceDelete n) asked (by simp only [decision?, asked, Job.name])
  | get other =>
    rw [asked] at about
    cases Option.some.inj about
    refine ⟨.answer (.ok (.edition (c.get? name))), ?_, ?_⟩
    · simp only [decision?, asked]
      rfl
    · simp only [alone, asked]
      rfl
  | evaluate other input timeoutMs =>
    rw [asked] at about
    cases Option.some.inj about
    have shown : c.get? name = (c.slot name).live? := rfl
    cases live : (c.slot name).live? with
    | none =>
      refine ⟨.answer (.error (.notFound name)), ?_, ?_⟩
      · simp only [decision?, asked]
        rw [live]
      · simp only [alone, asked, shown, live]
        rfl
    | some e =>
      refine ⟨.answer (Evaluation.answer c.engines e input timeoutMs), ?_, ?_⟩
      · simp only [decision?, asked]
        rw [live]
      · simp only [alone, asked, shown, live]
        rfl

theorem makes_of_decision {w : Change}
    (decided : call.decision? engines policy s = some (.change w)) :
    call.Makes engines policy s w := by
  unfold decision? at decided
  split at decided
  · rename_i body asked
    split at decided
    · cases decided
    · rename_i d admitted
      split at decided
      · rename_i free
        have vacant : s = .vacant := by
          cases s with
          | vacant => rfl
          | live e => cases free
          | deleted e => cases free
        split at decided
        · cases decided
        · rename_i compiled
          subst vacant
          cases Option.some.inj decided
          exact .create asked admitted compiled rfl
      · cases decided
  · rename_i name patch asked
    simp only [Job.decision?, Job.decide] at decided
    split at decided
    · cases decided
    · rename_i e live
      obtain ⟨d, checked, merged, compiled, rfl⟩ :=
        Decision.ofUpdate_change (Option.some.inj decided)
      exact .update asked (Slot.live?_eq_some.mp live) checked merged compiled
  · rename_i name active asked
    simp only [Job.decision?, Job.decide] at decided
    split at decided
    · cases decided
    · rename_i e live
      split at decided
      · cases decided
      · rename_i other
        cases Option.some.inj decided
        exact .activate asked (Slot.live?_eq_some.mp live) other
  · rename_i name asked
    simp only [Job.decision?, Job.decide] at decided
    split at decided
    · cases decided
    · rename_i e live
      cases Option.some.inj decided
      exact .delete asked (Slot.live?_eq_some.mp live)
  · rename_i name asked
    cases Option.some.inj decided
    exact .forceDelete asked
  · cases decided
  · split at decided <;> cases decided

theorem tells_of_answer {reply : Reply}
    (decided : call.decision? engines policy s = some (.answer (.ok reply))) :
    ¬ reply.TellsChange := by
  unfold decision? at decided
  split at decided
  · split at decided
    · cases decided
    · split at decided
      · split at decided
        · cases decided
        · simp only [Job.decision?, Job.decide] at decided
          split at decided <;> cases decided
      · cases decided
  · simp only [Job.decision?, Job.decide] at decided
    split at decided
    · cases decided
    · obtain ⟨f, failed, _⟩ := Decision.ofUpdate_answer (Option.some.inj decided)
      cases failed
  · simp only [Job.decision?, Job.decide] at decided
    split at decided
    · cases decided
      exact id
    · split at decided <;> cases decided
      exact id
  · simp only [Job.decision?, Job.decide] at decided
    split at decided <;> cases decided
    exact id
  · cases decided
  · cases decided
    exact id
  · split at decided
    · cases decided
    · rename_i input timeoutMs _ _ e _
      have ran := Decision.answer.inj (Option.some.inj decided)
      unfold Evaluation.answer at ran
      cases outcome : (Evaluation.run engines e input timeoutMs).1 with
      | error f =>
        rw [outcome] at ran
        cases ran
      | ok evaluation =>
        rw [outcome] at ran
        cases ran
        exact id

theorem names_of_makes {w : Change} (makes : call.Makes engines policy s w)
    (about : call.request.target? = some name)
    (titled : ∀ e, s = .live e → e.script.name = name) : w.Names name := by
  cases makes with
  | create asked admitted compiled vacant =>
    have title := (target_of_review asked admitted).symm.trans about
    exact Option.some.inj title
  | update asked live checked merged compiled =>
    have title := titled _ live
    exact title
  | activate asked live other =>
    have title := titled _ live
    exact title
  | delete asked live => trivial
  | forceDelete asked => trivial

end Call

namespace Decision

variable {g : Given} {name : String} {c : Catalog} {a : MemoryArchive}

def here (g : Given) (s : Slot) (r : Option Record) : Decision → Answer × Slot × Option Record
  | .answer x => (x, s, r)
  | .change w =>
    match g.fault with
    | some f => (.error (.archive f), s, r)
    | none => (.ok (w.reply (w.found r)), w.slot, w.record r)

theorem result_here (D : Decision) (sorted : Sorted c.slots) (ordered : a.Ordered)
    (names : ∀ w, D = .change w → w.Names name) :
    ((D.result g name c a).1, (D.result g name c a).2.1.slot name,
      (D.result g name c a).2.2.find? name) = D.here g (c.slot name) (a.find? name) := by
  cases D with
  | answer x => rfl
  | change w =>
    cases fault : g.fault with
    | some f => simp only [result, here, fault]
    | none =>
      have record := Change.find?_store_self (names w rfl) ordered
      simp only [result, here, fault, Change.store_found, record,
        Catalog.slot_publish_self sorted]

theorem result_other (D : Decision) (names : ∀ w, D = .change w → w.Names name) {other : String}
    (ne : other ≠ name) : (D.result g name c a).2.1.slot other = c.slot other ∧
      (D.result g name c a).2.2.find? other = a.find? other := by
  cases D with
  | answer x => exact ⟨rfl, rfl⟩
  | change w =>
    cases fault : g.fault with
    | some f => simp only [result, fault, and_self]
    | none =>
      have record := Change.find?_store_other (names w rfl) (a := a) ne
      simp only [result, fault, Catalog.slot_publish_other c ne, record, and_self]

end Decision

namespace Catalog.Coherent

variable {engines : EngineSet} {policy : Policy} {call : Call} {c : Catalog} {a : MemoryArchive}
  {name other : String} (h : Coherent engines policy c a)
include h

theorem names_of_decision {w : Change} (about : call.request.target? = some name)
    (decided : call.decision? engines policy (c.slot name) = some (.change w)) : w.Names name :=
  Call.names_of_makes (Call.makes_of_decision decided) about fun e live =>
    h.titled name e (Slot.live?_eq_some.mpr live)

theorem alone_of_answer {r : Answer} (about : call.request.target? = some name)
    (decided : call.decision? engines policy (c.slot name) = some (.answer r)) :
    call.alone c a = (r, c, a) := by
  obtain ⟨D, same, alone⟩ := Call.alone_decided (a := a) h.titled about
  rw [h.sameEngines, h.samePolicy, decided] at same
  cases same
  exact alone

/-- The answer of a call, and what it leaves of its name and its record, follow from what the name
stood for and from the record. -/
theorem alone_here (about : call.request.target? = some name) :
    ∃ D, call.decision? engines policy (c.slot name) = some D ∧
      ((call.alone c a).1, (call.alone c a).2.1.slot name, (call.alone c a).2.2.find? name) =
        D.here call.given (c.slot name) (a.find? name) := by
  obtain ⟨D, decided, alone⟩ := Call.alone_decided (a := a) h.titled about
  rw [h.sameEngines, h.samePolicy] at decided
  refine ⟨D, decided, ?_⟩
  rw [alone]
  refine D.result_here h.sorted h.ordered fun w change => ?_
  subst change
  exact h.names_of_decision about decided

theorem alone_other (elsewhere : call.request.target? ≠ some other) :
    (call.alone c a).2.1.slot other = c.slot other ∧
      (call.alone c a).2.2.find? other = a.find? other := by
  cases about : call.request.target? with
  | none =>
    obtain ⟨f, refused⟩ := Call.alone_nameless c a about
    rw [refused]
    exact ⟨rfl, rfl⟩
  | some name =>
    have ne : other ≠ name := by
      intro same
      exact elsewhere (by rw [about, same])
    obtain ⟨D, decided, alone⟩ := Call.alone_decided (a := a) h.titled about
    rw [h.sameEngines, h.samePolicy] at decided
    rw [alone]
    refine D.result_other (fun w change => ?_) ne
    subst change
    exact h.names_of_decision about decided

/-- A call that tells of no change has made none, and one that the archive has obeyed tells what it
has made. -/
theorem alone_told (about : call.request.target? = some name) :
    ((call.alone c a).2.1.slot name = c.slot name ∧
        (call.alone c a).2.2.find? name = a.find? name ∧
        ∀ reply, (call.alone c a).1 = .ok reply → ¬ reply.TellsChange) ∨
      ∃ w, call.Makes engines policy (c.slot name) w ∧
        (call.alone c a).1 = .ok (w.reply (w.found (a.find? name))) ∧
        (call.alone c a).2.1.slot name = w.slot ∧
        (call.alone c a).2.2.find? name = w.record (a.find? name) := by
  obtain ⟨D, decided, here⟩ := h.alone_here about
  have told : (call.alone c a).1 = (D.here call.given (c.slot name) (a.find? name)).1 :=
    congrArg (·.1) here
  have stands : (call.alone c a).2.1.slot name =
    (D.here call.given (c.slot name) (a.find? name)).2.1 := congrArg (·.2.1) here
  have kept : (call.alone c a).2.2.find? name =
    (D.here call.given (c.slot name) (a.find? name)).2.2 := congrArg (·.2.2) here
  rw [told, stands, kept]
  cases D with
  | answer r =>
    refine Or.inl ⟨rfl, rfl, fun reply same => ?_⟩
    have answered : r = .ok reply := same
    rw [answered] at decided
    exact Call.tells_of_answer decided
  | change w =>
    simp only [Decision.here]
    cases call.given.fault with
    | some f =>
      refine Or.inl ⟨rfl, rfl, fun reply same => ?_⟩
      cases same
    | none => exact Or.inr ⟨w, Call.makes_of_decision decided, rfl, rfl, rfl⟩

theorem target_of_status {st : Status}
    (told : (call.alone c a).1 = .ok (.status st)) :
    call.request.target? = some st.script.name := by
  cases about : call.request.target? with
  | none =>
    obtain ⟨f, refused⟩ := Call.alone_nameless c a about
    rw [refused] at told
    cases told
  | some title =>
    rcases h.alone_told about with ⟨_, _, silent⟩ | ⟨w, makes, answer, _⟩
    · exact absurd trivial (silent _ told)
    · have names := Call.names_of_makes makes about fun e live =>
        h.titled title e (Slot.live?_eq_some.mpr live)
      rw [told] at answer
      cases makes with
      | create _ _ _ _ | update _ _ _ _ _ =>
        cases answer
        exact congrArg some names.symm
      | activate _ _ _ | delete _ _ | forceDelete _ => cases answer

end Catalog.Coherent

end ScriptHost
