import ScriptHost.Proofs.Changes

/-!
A call inside the gate of its name either answers at once or asks the archive for one change. Which
of the two is decided by what the name stands for; an operation of the catalog does what is decided.
-/
namespace ScriptHost

open Named (Sorted)

inductive Decision where
  | answer (r : Answer)
  | change (w : Change)

variable {engines : EngineSet} {policy : Policy} {g : Given}

namespace Decision

def ofAdmitted (engines : EngineSet) (policy : Policy) (g : Given) (e : Edition) (d : Admitted) :
    Decision :=
  match g.compile engines policy d with
  | .error f => .answer (.error f)
  | .ok () => .change (Phase.revision e d g)

def ofPatch (engines : EngineSet) (policy : Policy) (g : Given) (e : Edition)
    (patch : Option Json) : Decision :=
  match Catalog.merge engines.supports e.script patch with
  | .error f => .answer (.error f)
  | .ok d => ofAdmitted engines policy g e d

def ofUpdate (engines : EngineSet) (policy : Policy) (g : Given) (name : String) (e : Edition)
    (patch : Option Json) : Decision :=
  match Catalog.checkVersion name e.script patch with
  | .error f => .answer (.error f)
  | .ok () => ofPatch engines policy g e patch

end Decision

/-- What is decided in a phase, as far as the archive has not been asked or has only been asked. -/
def Phase.decision? (engines : EngineSet) (policy : Policy) (g : Given) (name : String) :
    Phase → Option Decision
  | .comparing e patch => some (.ofUpdate engines policy g name e patch)
  | .merging e patch => some (.ofPatch engines policy g e patch)
  | .compiling e d => some (.ofAdmitted engines policy g e d)
  | .storing w | .publishing w _ => some (.change w)
  | .leaving r => some (.answer r)
  | _ => none

def Job.decision? (engines : EngineSet) (policy : Policy) (g : Given) (job : Job) (s : Slot) :
    Option Decision :=
  (job.decide policy g s).decision? engines policy g job.name

theorem Decision.ofUpdate_change {name : String} {e : Edition} {patch : Option Json} {w : Change}
    (change : ofUpdate engines policy g name e patch = .change w) :
    ∃ d, Catalog.checkVersion name e.script patch = .ok () ∧
      Catalog.merge engines.supports e.script patch = .ok d ∧
      g.compile engines policy d = .ok () ∧ w = Phase.revision e d g := by
  unfold ofUpdate at change
  split at change
  · cases change
  · rename_i checked
    unfold ofPatch at change
    split at change
    · cases change
    · rename_i d merged
      unfold ofAdmitted at change
      split at change <;> cases change
      rename_i compiled
      exact ⟨d, checked, merged, compiled, rfl⟩

def Failure.OfCheck : Failure → Prop
  | .compile _ | .unchecked _ | .eval _ | .internal _ => True
  | _ => False

theorem Given.compile_ofCheck {g : Given} {d : Admitted} {f : Failure}
    (failed : g.compile engines policy d = .error f) : f.OfCheck := by
  unfold Given.compile Catalog.compile at failed
  split at failed
  · cases failed
    trivial
  · unfold Catalog.compileVerdict at failed
    split at failed
    · cases failed
    · cases failed
      trivial
    · rename_i x notTimeout _
      cases failed
      cases x with
      | timeout ms => exact absurd rfl (notTimeout ms)
      | compile _ | eval _ | io _ => trivial
    · cases failed
      trivial

theorem Given.compile_ne_archive {g : Given} {d : Admitted} {f : Failure}
    (failed : g.compile engines policy d = .error f) (e : ArchiveError) : f ≠ .archive e := by
  rintro rfl
  exact Given.compile_ofCheck failed

namespace Decision

theorem ofUpdate_answer {g : Given} {name : String} {e : Edition} {patch : Option Json}
    {r : Answer} (answer : ofUpdate engines policy g name e patch = .answer r) :
    ∃ f, r = .error f ∧ ∀ x, f ≠ .archive x := by
  unfold ofUpdate at answer
  split at answer
  · rename_i f conflict
    cases answer
    refine ⟨f, rfl, fun x same => ?_⟩
    unfold Catalog.checkVersion at conflict
    repeat' split at conflict
    all_goals
      cases conflict
      try cases same
  · unfold ofPatch at answer
    split at answer
    · rename_i f refused
      cases answer
      refine ⟨f, rfl, fun x same => ?_⟩
      unfold Catalog.merge at refused
      repeat' split at refused
      all_goals
        cases refused
        try cases same
    · unfold ofAdmitted at answer
      split at answer
      · rename_i f failed
        cases answer
        exact ⟨f, rfl, Given.compile_ne_archive failed⟩
      · cases answer

end Decision

theorem Job.decided (engines : EngineSet) (policy : Policy) (g : Given) (job : Job) (s : Slot) :
    ∃ D, job.decision? engines policy g s = some D := by
  cases job <;> simp only [Job.decision?, Job.decide] <;> (repeat' split) <;> exact ⟨_, rfl⟩

theorem Phase.decision?_compare (name : String) (e : Edition) (patch : Option Json) :
    (Phase.compare name e patch).decision? engines policy g name =
      some (.ofUpdate engines policy g name e patch) := by
  unfold Phase.compare Decision.ofUpdate
  cases Catalog.checkVersion name e.script patch <;> rfl

theorem Phase.decision?_merge (name : String) (e : Edition) (patch : Option Json) :
    (Phase.merge engines e patch).decision? engines policy g name =
      some (.ofPatch engines policy g e patch) := by
  unfold Phase.merge Decision.ofPatch
  cases Catalog.merge engines.supports e.script patch <;> rfl

theorem Phase.decision?_compile (name : String) (e : Edition) (d : Admitted) :
    (Phase.compile engines policy g e d).decision? engines policy g name =
      some (.ofAdmitted engines policy g e d) := by
  unfold Phase.compile Decision.ofAdmitted
  cases g.compile engines policy d <;> rfl

def Call.Takes (engines : EngineSet) (policy : Policy) (call : Call) : Job → Prop
  | .create d =>
    (∃ body, call.request = .create body ∧
      Admission.review engines.supports body = .ok d) ∧
      call.given.compile engines policy d = .ok ()
  | .update name patch => call.request = .update name patch
  | .activate name active => call.request = .activate name active
  | .delete name => call.request = .delete name
  | .forceDelete name => call.request = .forceDelete name

theorem EngineSet.get?_checkedBy (check : Language → String → Outcome Unit) (set : EngineSet)
    (l : Language) :
    (set.checkedBy check).get? l =
      (set.get? l).map fun e => { e with check := check e.language } := by
  unfold get? checkedBy
  induction set.engines with
  | nil => rfl
  | cons e es ih =>
    simp only [List.map_cons, List.findRev?, ih]
    cases es.findRev? (·.language = l) with
    | some e' => rfl
    | none =>
      simp only [Option.map_none]
      split <;> rfl

theorem EngineSet.language_of_get? {set : EngineSet} {l : Language} {e : Engine}
    (found : set.get? l = some e) : e.language = l := by
  unfold get? at found
  rw [List.findRev?_eq_find?_reverse] at found
  have spoken := List.find?_some found
  exact of_decide_eq_true spoken

theorem EngineSet.supports_checkedBy (check : Language → String → Outcome Unit)
    (set : EngineSet) : (set.checkedBy check).supports = set.supports := by
  funext l
  simp only [supports, get?_checkedBy, Option.isSome_map]

theorem Catalog.compileVerdict_eq_ok {policy : Policy} {name : String} {o : Outcome Unit} :
    compileVerdict policy name o = .ok () ↔ o = .done () := by
  unfold compileVerdict
  split <;> simp

theorem Given.compile_eq_ok {d : Admitted} :
    g.compile engines policy d = .ok () ↔
      ∃ engine, engines.get? d.language = some engine ∧ g.check d.language d.source = .done () := by
  unfold Given.compile Catalog.compile
  simp only [EngineSet.get?_checkedBy]
  cases found : engines.get? d.language with
  | none => simp
  | some engine =>
    have speaks := EngineSet.language_of_get? found
    simp [Catalog.compileVerdict_eq_ok, speaks]

def Catalog.Titled (c : Catalog) : Prop := ∀ name e, c.get? name = some e → e.script.name = name

/-- What comes of a decision: an answer leaves everything as it was, and so does a change that the
archive fails. -/
def Decision.result (g : Given) (name : String) (c : Catalog) (a : MemoryArchive) :
    Decision → Answer × Catalog × MemoryArchive
  | .answer r => (r, c, a)
  | .change w =>
    match g.fault with
    | some f => (.error (.archive f), c, a)
    | none =>
      let (found, a') := w.store name a
      (.ok (w.reply found), c.publish name w.slot, a')

namespace Given

variable {α : Type} {reply : α → Reply} {c : Catalog} {a : MemoryArchive}
  {operation : Catalog → GivenArchive → Except Failure α × Catalog × GivenArchive}

def catalog (g : Given) (c : Catalog) : Catalog :=
  { c with engines := c.engines.checkedBy g.check }

def archive (g : Given) (a : MemoryArchive) : GivenArchive := ⟨g.fault, 0, a⟩

theorem review_catalog (g : Given) (c : Catalog) (body : Option Json) :
    Admission.review (g.catalog c).engines.supports body =
      Admission.review c.engines.supports body := by
  rw [catalog, EngineSet.supports_checkedBy]

theorem isTaken_catalog (g : Given) (c : Catalog) (name : String) :
    (g.catalog c).isTaken name = !(c.slot name).isVacant := rfl

theorem perform_eq : g.perform reply operation c a =
    let (r, c', a') := operation (g.catalog c) (g.archive a)
    (r.map reply, { c' with engines := c.engines }, a'.memory) := rfl

theorem perform_unchanged {r : Except Failure α}
    (same : operation (g.catalog c) (g.archive a) = (r, g.catalog c, g.archive a)) :
    g.perform reply operation c a = (r.map reply, c, a) := by
  rw [perform_eq, same]
  rfl

def kept (g : Given) (e : Edition) (x : α) (c : Catalog) (a : MemoryArchive) :
    Except Failure α × Catalog × GivenArchive :=
  match g.fault with
  | some f => (.error (.archive f), g.catalog c, ⟨g.fault, 1, a⟩)
  | none => (.ok x, (g.catalog c).publish e.script.name (.live e), ⟨g.fault, 1, a.put e.script⟩)

theorem keep_eq_kept (g : Given) (e : Edition) (c : Catalog) (a : MemoryArchive) :
    Catalog.keep e (g.catalog c) (g.archive a) = g.kept e () c a := by
  obtain ⟨now, check, fault⟩ := g
  cases fault <;> rfl

theorem perform_kept {e : Edition} {x : α}
    (eq : operation (g.catalog c) (g.archive a) = g.kept e x c a) :
    g.perform reply operation c a =
      Decision.result g e.script.name c a (.change (.keep e (reply x))) := by
  rw [perform_eq, eq]
  obtain ⟨now, check, fault⟩ := g
  cases fault <;> rfl

end Given

namespace Call

variable {call : Call} {c : Catalog} {a : MemoryArchive} {D : Decision}

theorem alone_refused {body : Option Json} {f : Refusal} (asked : call.request = .create body)
    (refused : Admission.review c.engines.supports body = .error f) :
    call.alone c a = (.error (.refused f), c, a) := by
  have reviewed := (call.given.review_catalog c body).trans refused
  simp only [alone, asked]
  apply Given.perform_unchanged (r := .error (.refused f))
  simp only [Catalog.create, reviewed]

theorem alone_taken {body : Option Json} {d : Admitted} (asked : call.request = .create body)
    (admitted : Admission.review c.engines.supports body = .ok d)
    (taken : (c.slot d.name).isVacant = false) :
    call.alone c a = (.error (.alreadyExists d.name), c, a) := by
  have reviewed := (call.given.review_catalog c body).trans admitted
  have kept : (call.given.catalog c).isTaken d.name = true := by
    rw [Given.isTaken_catalog, taken]
    rfl
  simp only [alone, asked]
  apply Given.perform_unchanged (r := .error (.alreadyExists d.name))
  simp only [Catalog.create, reviewed, kept, if_true]

theorem alone_unchecked {body : Option Json} {d : Admitted} {f : Failure}
    (asked : call.request = .create body)
    (admitted : Admission.review c.engines.supports body = .ok d)
    (vacant : (c.slot d.name).isVacant = true)
    (failed : call.given.compile c.engines c.policy d = .error f) :
    call.alone c a = (.error f, c, a) := by
  have reviewed := (call.given.review_catalog c body).trans admitted
  have free : (call.given.catalog c).isTaken d.name = false := by
    rw [Given.isTaken_catalog, vacant]
    rfl
  have checked : (call.given.catalog c).compile d = .error f := failed
  simp only [alone, asked]
  apply Given.perform_unchanged (r := .error f)
  simp only [Catalog.create, reviewed, free, checked, if_neg Bool.false_ne_true]

theorem alone_create {d : Admitted} (takes : call.Takes c.engines c.policy (.create d))
    (decided : Job.decision? c.engines c.policy call.given (.create d) (c.slot d.name) = some D) :
    call.alone c a = D.result call.given d.name c a := by
  obtain ⟨⟨body, asked, admitted⟩, compiled⟩ := takes
  simp only [Job.decision?, Job.decide] at decided
  by_cases vacant : (c.slot d.name).isVacant = true
  · rw [if_pos vacant] at decided
    cases Option.some.inj decided
    have reviewed := (call.given.review_catalog c body).trans admitted
    have checked : (call.given.catalog c).compile d = .ok () := compiled
    have free : (call.given.catalog c).isTaken d.name = false := by
      rw [Given.isTaken_catalog, vacant]
      rfl
    simp only [alone, asked]
    apply Given.perform_kept
    simp only [Catalog.create, reviewed, free, checked, if_neg Bool.false_ne_true,
      Given.keep_eq_kept]
    unfold Given.kept
    cases call.given.fault <;> rfl
  · rw [if_neg vacant] at decided
    cases Option.some.inj decided
    exact alone_taken asked admitted (Bool.eq_false_iff.mpr vacant)

theorem update_of_live {name : String} {e : Edition} (patch : Option Json) (g : Given)
    (live : c.get? name = some e) (title : e.script.name = name) :
    g.perform Reply.status (Catalog.update name patch g.now) c a =
      (Decision.ofUpdate c.engines c.policy g name e patch).result g name c a := by
  have shown : (g.catalog c).get? name = some e := live
  have supports : (g.catalog c).engines.supports = c.engines.supports :=
    EngineSet.supports_checkedBy _ _
  have check : ∀ d, (g.catalog c).compile d = g.compile c.engines c.policy d := fun d => rfl
  cases versions : Catalog.checkVersion name e.script patch with
  | error f =>
    simp only [Decision.ofUpdate, versions]
    apply Given.perform_unchanged (r := .error f)
    simp only [Catalog.update, shown, versions, bind, Except.bind]
  | ok _ =>
    cases merged : Catalog.merge c.engines.supports e.script patch with
    | error f =>
      simp only [Decision.ofUpdate, Decision.ofPatch, versions, merged]
      apply Given.perform_unchanged (r := .error f)
      simp only [Catalog.update, shown, versions, supports, merged, bind, Except.bind]
    | ok d =>
      cases compiled : g.compile c.engines c.policy d with
      | error f =>
        simp only [Decision.ofUpdate, Decision.ofPatch, Decision.ofAdmitted, versions, merged,
          compiled]
        apply Given.perform_unchanged (r := .error f)
        simp only [Catalog.update, shown, versions, supports, merged, check, compiled, bind,
          Except.bind]
      | ok _ =>
        simp only [Decision.ofUpdate, Decision.ofPatch, Decision.ofAdmitted, versions, merged,
          compiled, Phase.revision]
        have same : (Catalog.revised e.script d g.now).name = name := title
        rw [← same]
        apply Given.perform_kept
        simp only [Catalog.update, same, shown, versions, supports, merged, check, compiled, bind,
          Except.bind, pure, Except.pure, Given.keep_eq_kept]
        unfold Given.kept
        cases g.fault <;> rfl

theorem alone_update {name : String} {patch : Option Json} (titled : c.Titled)
    (takes : call.Takes c.engines c.policy (.update name patch))
    (decided : Job.decision? c.engines c.policy call.given (.update name patch) (c.slot name) =
      some D) : call.alone c a = D.result call.given name c a := by
  have asked : call.request = .update name patch := takes
  simp only [alone, asked]
  simp only [Job.decision?, Job.decide] at decided
  cases live : (c.slot name).live? with
  | none =>
    rw [live] at decided
    cases Option.some.inj decided
    have shown : (call.given.catalog c).get? name = none := live
    apply Given.perform_unchanged (r := .error (.notFound name))
    simp only [Catalog.update, shown]
  | some e =>
    rw [live] at decided
    cases Option.some.inj decided
    exact update_of_live patch call.given live (titled name e live)

theorem alone_activate {name : String} {active : Bool} (titled : c.Titled)
    (takes : call.Takes c.engines c.policy (.activate name active))
    (decided : Job.decision? c.engines c.policy call.given (.activate name active)
      (c.slot name) = some D) : call.alone c a = D.result call.given name c a := by
  have asked : call.request = .activate name active := takes
  simp only [alone, asked]
  simp only [Job.decision?, Job.decide] at decided
  have shown : (call.given.catalog c).get? name = (c.slot name).live? := rfl
  cases live : (c.slot name).live? with
  | none =>
    rw [live] at decided shown
    cases Option.some.inj decided
    apply Given.perform_unchanged (r := .ok Activation.notFound)
    simp only [Catalog.activate, shown]
  | some e =>
    rw [live] at decided shown
    simp only at decided
    by_cases same : e.script.active = active
    · rw [if_pos same] at decided
      cases Option.some.inj decided
      apply Given.perform_unchanged (r := .ok Activation.unchanged)
      simp only [Catalog.activate, shown, if_pos same]
    · rw [if_neg same] at decided
      cases Option.some.inj decided
      have title : e.script.name = name := titled name e live
      rw [← title]
      apply Given.perform_kept
      simp only [Catalog.activate, title, shown, if_neg same, Given.keep_eq_kept]
      unfold Given.kept
      cases call.given.fault <;> rfl

theorem alone_delete {name : String} (takes : call.Takes c.engines c.policy (.delete name))
    (decided : Job.decision? c.engines c.policy call.given (.delete name) (c.slot name) =
      some D) : call.alone c a = D.result call.given name c a := by
  have asked : call.request = .delete name := takes
  simp only [alone, asked]
  simp only [Job.decision?, Job.decide] at decided
  have shown : (call.given.catalog c).get? name = (c.slot name).live? := rfl
  cases live : (c.slot name).live? with
  | none =>
    rw [live] at decided shown
    cases Option.some.inj decided
    apply Given.perform_unchanged (r := .ok false)
    simp only [Catalog.delete, shown]
  | some e =>
    rw [live] at decided shown
    cases Option.some.inj decided
    have run : Catalog.delete name (call.given.catalog c) (call.given.archive a) =
        match call.given.fault with
        | some f => (.error (.archive f), call.given.catalog c, ⟨call.given.fault, 1, a⟩)
        | none => (.ok true, (call.given.catalog c).publish name (.deleted e),
          ⟨call.given.fault, 1, (a.softDelete name).2⟩) := by
      simp only [Catalog.delete, shown]
      obtain ⟨request, now, check, fault⟩ := call
      cases fault <;> rfl
    rw [Given.perform_eq, run]
    obtain ⟨request, now, check, fault⟩ := call
    cases fault <;> rfl

theorem alone_forceDelete {name : String}
    (takes : call.Takes c.engines c.policy (.forceDelete name))
    (decided : Job.decision? c.engines c.policy call.given (.forceDelete name) (c.slot name) =
      some D) : call.alone c a = D.result call.given name c a := by
  have asked : call.request = .forceDelete name := takes
  simp only [alone, asked]
  cases Option.some.inj decided
  have run : Catalog.forceDelete name (call.given.catalog c) (call.given.archive a) =
      match call.given.fault with
      | some f => (.error (.archive f), call.given.catalog c, ⟨call.given.fault, 1, a⟩)
      | none => (.ok (c.isTaken name || (a.hardDelete name).1),
        (call.given.catalog c).publish name .vacant,
        ⟨call.given.fault, 1, (a.hardDelete name).2⟩) := by
    obtain ⟨request, now, check, fault⟩ := call
    cases fault <;> rfl
  rw [Given.perform_eq, run]
  obtain ⟨request, now, check, fault⟩ := call
  cases fault <;> rfl

/-- A call does alone what it decides inside the gate. -/
theorem alone_eq_result {job : Job} (titled : c.Titled)
    (takes : call.Takes c.engines c.policy job)
    (decided : job.decision? c.engines c.policy call.given (c.slot job.name) = some D) :
    call.alone c a = D.result call.given job.name c a := by
  cases job with
  | create d => exact alone_create takes decided
  | update name patch => exact alone_update titled takes decided
  | activate name active => exact alone_activate titled takes decided
  | delete name => exact alone_delete takes decided
  | forceDelete name => exact alone_forceDelete takes decided

theorem alone_cases (call : Call) (a : MemoryArchive) (titled : c.Titled) :
    (∃ r, call.alone c a = (r, c, a)) ∨
      ∃ job w, call.Takes c.engines c.policy job ∧
        job.decision? c.engines c.policy call.given (c.slot job.name) = some (.change w) ∧
        call.alone c a = (.ok (w.reply (w.store job.name a).1), c.publish job.name w.slot,
          (w.store job.name a).2) := by
  have made : ∀ job, call.Takes c.engines c.policy job → (∃ r, call.alone c a = (r, c, a)) ∨
      ∃ job w, call.Takes c.engines c.policy job ∧
        job.decision? c.engines c.policy call.given (c.slot job.name) = some (.change w) ∧
        call.alone c a = (.ok (w.reply (w.store job.name a).1), c.publish job.name w.slot,
          (w.store job.name a).2) := by
    intro job takes
    obtain ⟨D, decided⟩ := job.decided c.engines c.policy call.given (c.slot job.name)
    have alone := alone_eq_result (a := a) titled takes decided
    cases D with
    | answer r => exact Or.inl ⟨r, alone⟩
    | change w =>
      cases fault : call.given.fault with
      | some f =>
        exact Or.inl ⟨.error (.archive f), alone.trans (by simp only [Decision.result, fault])⟩
      | none =>
        exact Or.inr ⟨job, w, takes, decided, alone.trans (by simp only [Decision.result, fault])⟩
  cases asked : call.request with
  | create body =>
    cases reviewed : Admission.review c.engines.supports body with
    | error f => exact Or.inl ⟨_, alone_refused asked reviewed⟩
    | ok d =>
      cases vacant : (c.slot d.name).isVacant with
      | false => exact Or.inl ⟨_, alone_taken asked reviewed vacant⟩
      | true =>
        cases compiled : call.given.compile c.engines c.policy d with
        | error f => exact Or.inl ⟨_, alone_unchecked asked reviewed vacant compiled⟩
        | ok _ => exact made (.create d) ⟨⟨body, asked, reviewed⟩, compiled⟩
  | update name patch => exact made (.update name patch) asked
  | activate name active => exact made (.activate name active) asked
  | delete name => exact made (.delete name) asked
  | forceDelete name => exact made (.forceDelete name) asked
  | get name => exact Or.inl ⟨_, by simp only [alone, asked]; rfl⟩
  | evaluate name input timeoutMs =>
    cases shown : c.get? name with
    | none => exact Or.inl ⟨_, by simp only [alone, asked, shown]; rfl⟩
    | some e => exact Or.inl ⟨_, by simp only [alone, asked, shown]; rfl⟩

end Call

theorem Job.names_of_decision? {job : Job} {s : Slot} {w : Change}
    (titled : ∀ e, s.live? = some e → e.script.name = job.name)
    (decided : job.decision? engines policy g s = some (.change w)) : w.Names job.name := by
  cases job with
  | create d =>
    simp only [Job.decision?, Job.decide] at decided
    split at decided <;> cases Option.some.inj decided
    rfl
  | update name patch =>
    simp only [Job.decision?, Job.decide] at decided
    split at decided
    · cases Option.some.inj decided
    · rename_i e live
      obtain ⟨d, _, _, _, rfl⟩ := Decision.ofUpdate_change (Option.some.inj decided)
      exact titled e live
  | activate name active =>
    simp only [Job.decision?, Job.decide] at decided
    split at decided
    · cases Option.some.inj decided
    · rename_i e live
      split at decided <;> cases Option.some.inj decided
      exact titled e live
  | delete name =>
    simp only [Job.decision?, Job.decide] at decided
    split at decided <;> cases Option.some.inj decided
    trivial
  | forceDelete name =>
    cases Option.some.inj decided
    trivial

end ScriptHost
