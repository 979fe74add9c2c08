import ScriptHost.Proofs.Outcomes

/-!
Where the code of a live script comes from. It was read from a record when the catalog was opened,
or the last creation or update of the name that succeeded has written it; then every rule for bodies
was kept, and the engine of the language has accepted the source.
-/
namespace ScriptHost

def Call.written? (name : String) : Call × Answer → Option (Call × Script)
  | (call, .ok (.status st)) => if st.script.name = name then some (call, st.script) else none
  | _ => none

def Call.lastWritten? (name : String) (calls : List Call) (answers : List Answer) :
    Option (Call × Script) :=
  ((calls.zip answers).filterMap (written? name)).getLast?

structure Edition.SameCode (e : Edition) (s : Script) : Prop where
  version : e.script.version = s.version
  code : e.script.code = s.code
  language : e.script.language = s.language
  encoding : e.script.encoding = s.encoding

/-- A call has written the code of an edition, after all the checks. -/
structure Edition.WrittenBy (engines : EngineSet) (name : String) (call : Call) (s : Script)
    (e : Edition) : Prop where
  request : (∃ body, call.request = .create body) ∨ ∃ patch, call.request = .update name patch
  same : e.SameCode s
  trimmed : Text.trim name = name
  named : Text.blank name = false
  filled : Text.blank e.source = false
  /-- The engine of the language has accepted just this source when the call was made. -/
  accepted : ∃ engine, engines.get? e.script.language = some engine ∧
    call.given.check e.script.language e.source = .done ()

/-- Where the code of an edition comes from: a call has written it, or else it stands in a record
of the archive `a`. -/
def Edition.Origin (engines : EngineSet) (a : MemoryArchive) (name : String) (e : Edition) :
    Option (Call × Script) → Prop
  | some (call, s) => e.WrittenBy engines name call s
  | none => ∃ s, a.find? name = some ⟨s, false⟩ ∧ e.SameCode s

namespace Edition

variable {engines : EngineSet} {a : MemoryArchive} {name : String} {e : Edition} {call : Call}

theorem origin_switch {w : Option (Call × Script)} (h : e.Origin engines a name w) (active : Bool)
    (now : Time.Instant) :
    Origin engines a name ⟨{ e.script with active := active, updatedAt := now }, e.source⟩ w := by
  cases w with
  | none =>
    obtain ⟨s, found, same⟩ := h
    exact ⟨s, found, same.version, same.code, same.language, same.encoding⟩
  | some written =>
    have same := h.same
    exact { h with same := ⟨same.version, same.code, same.language, same.encoding⟩ }

theorem writtenBy_admitted {body : Option Json} {d : Admitted} {s : Script}
    (request : (∃ body, call.request = .create body) ∨ ∃ patch, call.request = .update name patch)
    (admitted : Admission.review engines.supports body = .ok d) (title : d.name = name)
    {policy : Policy} (compiled : call.given.compile engines policy d = .ok ())
    (language : s.language = d.language) :
    WrittenBy engines name call s ⟨s, d.source⟩ := by
  obtain ⟨_, _, reads⟩ := Admission.reads_of_review admitted
  subst title
  refine ⟨request, ⟨rfl, rfl, rfl, rfl⟩, reads.name_trimmed, reads.name_not_blank,
    reads.not_blank, ?_⟩
  simp only [language]
  exact Given.compile_eq_ok.mp compiled

end Edition

namespace Catalog.Coherent

variable {engines : EngineSet} {policy : Policy} {c : Catalog} {a a₀ : MemoryArchive}
  {name : String}

theorem origin_alone (h : Coherent engines policy c a) {w : String → Option (Call × Script)}
    (origin : ∀ name e, c.slot name = .live e → e.Origin engines a₀ name (w name)) (call : Call) :
    ∀ name e, (call.alone c a).2.1.slot name = .live e →
      e.Origin engines a₀ name
        ((Call.written? name (call, (call.alone c a).1)).or (w name)) := by
  intro name e live
  have silent : (∀ st, (call.alone c a).1 = .ok (.status st) → st.script.name ≠ name) →
      Call.written? name (call, (call.alone c a).1) = none := by
    intro other
    cases answer : (call.alone c a).1 with
    | error f => rfl
    | ok reply =>
      cases reply with
      | status st => simp only [Call.written?, if_neg (other st answer)]
      | _ => rfl
  by_cases about : call.request.target? = some name
  · rcases h.alone_told about with ⟨same, _, untold⟩ | ⟨w', makes, answer, stands, _⟩
    · rw [silent fun st told => absurd trivial (untold _ told)]
      exact origin name e (same.symm.trans live)
    · have names := Call.names_of_makes makes about fun e live =>
        h.titled name e (Slot.live?_eq_some.mpr live)
      rw [live] at stands
      rw [answer]
      cases makes with
      | @create body d asked admitted compiled vacant =>
        cases stands
        have written := Edition.writtenBy_admitted (s := Catalog.newScript policy d call.given.now)
          (Or.inl ⟨body, asked⟩) admitted names compiled rfl
        have kept : (Catalog.newScript policy d call.given.now).name = name := names
        simp only [Phase.creation, Change.reply, Call.written?, if_pos kept]
        exact written
      | @update title patch old d asked before checked merged compiled =>
        cases stands
        obtain ⟨body, _, admitted, same⟩ := merge_eq_ok merged
        rw [asked] at about
        cases Option.some.inj about
        have written := Edition.writtenBy_admitted (s := revised old.script d call.given.now)
          (Or.inr ⟨patch, asked⟩) admitted (same.trans names) compiled rfl
        have kept : (revised old.script d call.given.now).name = name := names
        simp only [Phase.revision, Change.reply, Call.written?, if_pos kept]
        exact written
      | activate asked before other =>
        cases stands
        exact Edition.origin_switch (origin name _ before) _ _
      | delete asked before | forceDelete asked => cases stands
  · rw [silent fun st told same => about (by rw [h.target_of_status told, same])]
    exact origin name e ((h.alone_other about).1.symm.trans live)

theorem lastWritten?_cons (name : String) (call : Call) (calls : List Call) (r : Answer)
    (answers : List Answer) :
    Call.lastWritten? name (call :: calls) (r :: answers) =
      (Call.lastWritten? name calls answers).or (Call.written? name (call, r)) := by
  unfold Call.lastWritten?
  rw [List.zip_cons_cons, List.filterMap_cons]
  cases Call.written? name (call, r) with
  | none => rw [Option.or_none]
  | some first =>
    rw [List.getLast?_cons]
    cases ((calls.zip answers).filterMap (Call.written? name)).getLast? <;> rfl

theorem origin_inTurn (h : Coherent engines policy c a) {w : String → Option (Call × Script)}
    (origin : ∀ name e, c.slot name = .live e → e.Origin engines a₀ name (w name))
    (calls : List Call) :
    ∀ name e, (Call.inTurn calls c a).2.1.slot name = .live e → e.Origin engines a₀ name
      ((Call.lastWritten? name calls (Call.inTurn calls c a).1).or (w name)) := by
  -- `w` tells what was written before these calls.
  induction calls generalizing c a w with
  | nil => exact origin
  | cons call rest ih =>
    intro name e live
    have later := ih (h.alone call) (h.origin_alone origin call) name e live
    have all : (Call.inTurn (call :: rest) c a).1 = (call.alone c a).1 ::
      (Call.inTurn rest (call.alone c a).2.1 (call.alone c a).2.2).1 := rfl
    rw [all, lastWritten?_cons, Option.or_assoc]
    exact later

theorem origin_ofRecords (engines : EngineSet) (policy : Policy) {a : MemoryArchive}
    (ordered : a.Ordered) {name : String} {e : Edition}
    (live : (ofRecords engines policy a.all).slot name = .live e) :
    e.Origin engines a name none := by
  obtain ⟨found, _⟩ := (coherent_ofRecords engines policy ordered).record_of_live live
  exact ⟨e.script, found, rfl, rfl, rfl, rfl⟩

end Catalog.Coherent

/-- What holds of every edition that a catalog shows under a name. -/
structure Edition.Admissible (engines : EngineSet) (a : MemoryArchive) (name : String)
    (written : Option (Call × Script)) (e : Edition) : Prop where
  titled : e.script.name = name
  supported : engines.supports e.script.language = true
  decoded : Encoding.source? e.script.encoding e.script.code = some e.source
  origin : e.Origin engines a name written

/-- Only admitted scripts are live: after any calls on a catalog that was opened for any records,
every live name shows a script of its own name, in a language that has an engine, with the source
that its code decodes to; and if a call has written the code, that call has checked all of it. -/
theorem Catalog.admissible_inTurn (engines : EngineSet) (policy : Policy) (records : List Record)
    (calls : List Call) :
    let a := MemoryArchive.ofRecords records
    let (answers, c, _) := Call.inTurn calls (ofRecords engines policy a.all) a
    ∀ name e, c.get? name = some e →
      e.Admissible engines a name (Call.lastWritten? name calls answers) := by
  intro a
  have first : Coherent engines policy (ofRecords engines policy a.all) a :=
    coherent_ofRecords engines policy (MemoryArchive.ordered_ofRecords records)
  have last := first.inTurn calls
  have read : ∀ name e, (ofRecords engines policy a.all).slot name = .live e →
      e.Origin engines a name none := fun _ _ live =>
    Coherent.origin_ofRecords engines policy (MemoryArchive.ordered_ofRecords records) live
  have origins := first.origin_inTurn (w := fun _ => none) read calls
  intro name e shown
  have live := Slot.live?_eq_some.mp shown
  obtain ⟨_, opened⟩ := last.record_of_live live
  obtain ⟨_, _, supported, decoded⟩ := Slot.ofRecord_eq_live.mp opened
  have origin := origins name e live
  rw [Option.or_none] at origin
  exact ⟨last.titled name e shown, supported, decoded, origin⟩

theorem Catalog.admissible_inTurn_switched :
    let engines : EngineSet :=
      ⟨[⟨.lua, fun _ => .done (), fun source _ => .done ⟨.str source, []⟩⟩]⟩
    let given : Given := ⟨.epoch, fun _ _ => .done (), none⟩
    let body : Json :=
      .obj [("code", .str "return 1"), ("lang", .str "LUA"), ("name", .str " a ")]
    let calls : List Call := [⟨.create (some body), given⟩, ⟨.activate "a" false, given⟩]
    let script : Script := ⟨"a", "return 1", .lua, none, true, 0, .epoch, .epoch⟩
    let shown : Edition := ⟨{ script with active := false }, "return 1"⟩
    let a := MemoryArchive.ofRecords []
    let (answers, c, _) := Call.inTurn calls (ofRecords engines ⟨true, 5000⟩ a.all) a
    c.get? "a" = some shown ∧
      (Call.lastWritten? "a" calls answers).map (·.2) = some script ∧
      shown.Admissible engines a "a" (Call.lastWritten? "a" calls answers) := by
  intro engines given body calls script shown a
  have stands : (Call.inTurn calls (ofRecords engines ⟨true, 5000⟩ a.all) a).2.1.get? "a" =
      some shown := by decide +kernel
  exact ⟨stands, by decide +kernel, admissible_inTurn engines _ [] calls "a" shown stands⟩

end ScriptHost
