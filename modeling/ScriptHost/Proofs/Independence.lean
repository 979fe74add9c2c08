import ScriptHost.Proofs.AllOrNothing
import ScriptHost.Proofs.Outcomes

/-!
Calls for different names do not depend on each other. In whichever order two of them are made, they
answer the same and leave the same behind, but for the times that they have read from the clock.
-/
namespace ScriptHost

open Time (Instant)
open Function (update_of_ne)
open Named (Sorted)

def Call.asOf (now : Instant) (call : Call) : Call :=
  { call with given := { call.given with now := now } }

def Script.mapTimes (f : Instant → Instant) (s : Script) : Script :=
  { s with createdAt := f s.createdAt, updatedAt := f s.updatedAt }

def Edition.mapTimes (f : Instant → Instant) (e : Edition) : Edition :=
  { e with script := e.script.mapTimes f }

def Slot.mapTimes (f : Instant → Instant) : Slot → Slot
  | .vacant => .vacant
  | .live e => .live (e.mapTimes f)
  | .deleted e => .deleted (e.mapTimes f)

def Record.mapTimes (f : Instant → Instant) (r : Record) : Record :=
  { r with script := r.script.mapTimes f }

def MemoryArchive.mapTimes (f : Instant → Instant) (a : MemoryArchive) : MemoryArchive :=
  ⟨Named.mapValues (fun _ => Record.mapTimes f) a.records⟩

def Reply.mapTimes (f : Instant → Instant) : Reply → Reply
  | .status st => .status { st with script := st.script.mapTimes f }
  | .edition e => .edition (e.map (Edition.mapTimes f))
  | reply => reply

def Change.mapTimes (f : Instant → Instant) : Change → Change
  | .keep e reply => .keep (e.mapTimes f) (reply.mapTimes f)
  | .hide e => .hide (e.mapTimes f)
  | .remove taken => .remove taken

def Decision.mapTimes (f : Instant → Instant) : Decision → Decision
  | .answer r => .answer (r.map (Reply.mapTimes f))
  | .change w => .change (w.mapTimes f)

variable {f : Instant → Instant} {now : Instant}

theorem Decision.ofUpdate_asOf (engines : EngineSet) (policy : Policy) {g : Given}
    (same : f now = f g.now) (name : String) (e : Edition) (patch : Option Json) :
    (Decision.ofUpdate engines policy { g with now := now } name e patch).mapTimes f =
      (Decision.ofUpdate engines policy g name e patch).mapTimes f := by
  unfold ofUpdate
  cases Catalog.checkVersion name e.script patch with
  | error f => rfl
  | ok _ =>
    simp only [ofPatch]
    cases Catalog.merge engines.supports e.script patch with
    | error f => rfl
    | ok d =>
      have compiled : Given.compile { g with now := now } engines policy d =
        g.compile engines policy d := rfl
      simp only [ofAdmitted, compiled]
      cases g.compile engines policy d with
      | error f => rfl
      | ok _ =>
        simp only [mapTimes, Change.mapTimes, Phase.revision, Catalog.revised, Edition.mapTimes,
          Script.mapTimes, Reply.mapTimes, Catalog.updatedMessage, same]

theorem Call.decision?_asOf (engines : EngineSet) (policy : Policy) {call : Call}
    (same : f now = f call.given.now) (s : Slot) :
    ((call.asOf now).decision? engines policy s).map (Decision.mapTimes f) =
      (call.decision? engines policy s).map (Decision.mapTimes f) := by
  obtain ⟨request, given⟩ := call
  simp only at same
  cases request with
  | create body =>
    simp only [decision?, asOf]
    cases Admission.review engines.supports body with
    | error f => rfl
    | ok d =>
      have compiled : Given.compile { given with now := now } engines policy d =
        given.compile engines policy d := rfl
      simp only [compiled]
      cases s with
      | vacant =>
        cases given.compile engines policy d with
        | error f => rfl
        | ok _ =>
          simp only [Slot.isVacant, if_true, Job.decision?, Job.decide, Phase.decision?,
            Option.map_some, Decision.mapTimes, Change.mapTimes, Catalog.newScript,
            Edition.mapTimes, Script.mapTimes, Reply.mapTimes, Catalog.createdMessage, same]
      | live e | deleted e => rfl
  | update name patch =>
    cases s with
    | live e => exact congrArg some (Decision.ofUpdate_asOf engines policy same name e patch)
    | vacant | deleted e => rfl
  | activate name active =>
    simp only [decision?, asOf, Job.decision?, Job.decide]
    cases s.live? with
    | none => rfl
    | some e =>
      by_cases other : e.script.active = active
      · simp only [if_pos other]
        rfl
      · simp only [if_neg other, Phase.decision?, Option.map_some, Decision.mapTimes,
          Change.mapTimes, Edition.mapTimes, Script.mapTimes, same]
  | delete _ => cases s <;> rfl
  | forceDelete _ | get _ | evaluate _ _ _ => rfl

def viewTimes (f : Instant → Instant) (x : Answer × Slot × Option Record) :
    Answer × Slot × Option Record :=
  (x.1.map (Reply.mapTimes f), x.2.1.mapTimes f, x.2.2.map (Record.mapTimes f))

theorem Decision.here_mapTimes (g : Given) (s : Slot) (r : Option Record) (D : Decision) :
    viewTimes f (D.here g s r) =
      (D.mapTimes f).here g (s.mapTimes f) (r.map (Record.mapTimes f)) := by
  cases D with
  | answer x => rfl
  | change w =>
    simp only [mapTimes, here]
    cases g.fault with
    | some f => rfl
    | none => cases w <;> cases r <;> rfl

theorem Decision.here_asOf (g : Given) (now : Instant) (s : Slot) (r : Option Record)
    (D : Decision) : D.here { g with now := now } s r = D.here g s r := by
  cases D <;> rfl

namespace Catalog.Coherent

variable {engines : EngineSet} {policy : Policy} {c c' : Catalog} {a a' : MemoryArchive}
  {call : Call}

/-- What a call comes to depends on its own name and the record of it and, as far as times go, on
what `f` tells of the clock. -/
theorem alone_asOf (h : Coherent engines policy c a) (h' : Coherent engines policy c' a')
    (clock : f now = f call.given.now) (same : ∀ name, call.request.target? = some name →
      c'.slot name = c.slot name ∧ a'.find? name = a.find? name) :
    ((call.asOf now).alone c' a').1.map (Reply.mapTimes f) =
        (call.alone c a).1.map (Reply.mapTimes f) ∧
      ∀ name, call.request.target? = some name →
        (((call.asOf now).alone c' a').2.1.slot name).mapTimes f =
            ((call.alone c a).2.1.slot name).mapTimes f ∧
          (((call.asOf now).alone c' a').2.2.find? name).map (Record.mapTimes f) =
            ((call.alone c a).2.2.find? name).map (Record.mapTimes f) := by
  cases about : call.request.target? with
  | none =>
    obtain ⟨body, x, asked, refused⟩ := Call.refused_of_nameless engines about
    have again : (call.asOf now).request = .create body := asked
    refine ⟨?_, fun name other => by cases other⟩
    rw [Call.alone_refused again (by rw [h'.sameEngines]; exact refused),
      Call.alone_refused asked (by rw [h.sameEngines]; exact refused)]
  | some name =>
    obtain ⟨slot, record⟩ := same name about
    obtain ⟨D, decided, here⟩ := h.alone_here about
    have again : (call.asOf now).request.target? = some name := about
    obtain ⟨D', decided', here'⟩ := h'.alone_here again
    rw [slot] at decided' here'
    rw [record] at here'
    have alike : D'.mapTimes f = D.mapTimes f := by
      have both := Call.decision?_asOf engines policy clock (c.slot name)
      rw [decided, decided'] at both
      exact Option.some.inj both
    have view : viewTimes f (D'.here (call.asOf now).given (c.slot name) (a.find? name)) =
        viewTimes f (D.here call.given (c.slot name) (a.find? name)) := by
      rw [Decision.here_mapTimes, alike, Decision.here_mapTimes]
      exact Decision.here_asOf call.given now _ _ _
    rw [← here, ← here'] at view
    refine ⟨congrArg (·.1) view, fun other mine => ?_⟩
    cases mine
    exact ⟨congrArg (·.2.1) view, congrArg (·.2.2) view⟩

/-- Two calls that are about different names commute, but for what the clock has shown. -/
theorem alone_commute (h : Coherent engines policy c a) {first second : Call}
    {now now' : Instant} (clock : f now = f first.given.now) (clock' : f now' = f second.given.now)
    (apart : ∀ name, first.request.target? = some name → second.request.target? ≠ some name) :
    let x₁ := first.alone c a
    let x₁₂ := second.alone x₁.2.1 x₁.2.2
    let x₂ := (second.asOf now').alone c a
    let x₂₁ := (first.asOf now).alone x₂.2.1 x₂.2.2
    (x₂₁.1.map (Reply.mapTimes f) = x₁.1.map (Reply.mapTimes f) ∧
        x₂.1.map (Reply.mapTimes f) = x₁₂.1.map (Reply.mapTimes f)) ∧
      ∀ name, (x₂₁.2.1.slot name).mapTimes f = (x₁₂.2.1.slot name).mapTimes f ∧
        (x₂₁.2.2.find? name).map (Record.mapTimes f) =
          (x₁₂.2.2.find? name).map (Record.mapTimes f) := by
  intro x₁ x₁₂ x₂ x₂₁
  have h₁ : Coherent engines policy x₁.2.1 x₁.2.2 := h.alone first
  have h₂ : Coherent engines policy x₂.2.1 x₂.2.2 := h.alone (second.asOf now')
  have one := h.alone_asOf h₂ clock fun name mine => h.alone_other (apart name mine)
  have two := h₁.alone_asOf h clock' fun name mine => by
    have elsewhere : first.request.target? ≠ some name := fun other => apart name other mine
    obtain ⟨slot, record⟩ := h.alone_other elsewhere
    exact ⟨slot.symm, record.symm⟩
  refine ⟨⟨one.1, two.1⟩, fun name => ?_⟩
  by_cases mine : first.request.target? = some name
  · obtain ⟨slot, record⟩ := h₁.alone_other (apart name mine)
    rw [slot, record]
    exact one.2 name mine
  · have mine' : (first.asOf now).request.target? ≠ some name := mine
    obtain ⟨slot, record⟩ := h₂.alone_other mine'
    rw [slot, record]
    by_cases yours : second.request.target? = some name
    · exact two.2 name yours
    · obtain ⟨slot₁, record₁⟩ := h.alone_other mine
      have yours' : (second.asOf now').request.target? ≠ some name := yours
      obtain ⟨slot₂, record₂⟩ := h.alone_other yours'
      obtain ⟨slot₁₂, record₁₂⟩ := h₁.alone_other yours
      rw [slot₂, record₂, slot₁₂, record₁₂, slot₁, record₁]
      exact ⟨rfl, rfl⟩

end Catalog.Coherent

theorem Slot.isVacant_mapTimes (s : Slot) : (s.mapTimes f).isVacant = s.isVacant := by
  cases s <;> rfl

namespace MemoryArchive

theorem find?_mapTimes (name : String) (a : MemoryArchive) :
    (a.mapTimes f).find? name = (a.find? name).map (Record.mapTimes f) :=
  Named.find?_mapValues (fun _ => Record.mapTimes f) name a.records

theorem ordered_mapTimes {a : MemoryArchive} (ordered : a.Ordered) : (a.mapTimes f).Ordered := by
  refine ⟨Named.sorted_mapValues (fun _ => Record.mapTimes f) ordered.sorted, fun p member => ?_⟩
  obtain ⟨q, kept, rfl⟩ := List.mem_map.mp member
  exact ordered.titled q kept

end MemoryArchive

theorem Change.record_mapTimes (w : Change) (r : Option Record) :
    (w.record r).map (Record.mapTimes f) =
      (w.mapTimes f).record (r.map (Record.mapTimes f)) := by
  cases w <;> cases r <;> rfl

namespace Traffic

variable {calls later : Nat → Call} {m m' : Traffic} {call : Call} {i j k : Nat} {r : Answer}
  {effect : Effect} {s s' : Stage} {c c' : Catalog} {a a' : MemoryArchive} {name : String}

def InOrder (calls : Nat → Call) (m : Traffic) (i j : Nat) (r s : Answer) (last : Traffic) : Prop :=
  ∃ middle, Returns calls m i r middle ∧ Returns calls middle j s last

structure Untouched (name : String) (m m' : Traffic) : Prop where
  slot : m'.slot name = m.slot name
  record : m'.archive.find? name = m.archive.find? name

/-- Every name stands for the same and the archive keeps the same, with the times seen through `f`;
when nobody is under way the same cells are there. -/
structure Alike (f : Instant → Instant) (m m' : Traffic) : Prop where
  slots : ∀ name, (m'.slot name).mapTimes f = (m.slot name).mapTimes f
  archive : m'.archive.mapTimes f = m.archive.mapTimes f
  cells : m.Resting → ∀ name,
    (m'.cell? name).map (Slot.mapTimes f) = (m.cell? name).map (Slot.mapTimes f)

theorem Sound.of_idle (sound : m.Sound calls)
    (same : ∀ k, m.stages k = .idle ∨ later k = calls k) : m.Sound later where
  indexed := sound.indexed
  fits k := by
    rcases same k with idle | same
    · rw [idle]
      trivial
    · rw [same]
      exact sound.fits k
  manned := sound.manned
  attended := sound.attended
  ordered := sound.ordered

structure Apart (name : String) (m m' : Traffic) : Prop where
  index : m'.index name = m.index name
  cell : ∀ {k}, m.index name = some k → m'.cells k = m.cells k

namespace Apart

theorem refl (name : String) (m : Traffic) : Apart name m m := ⟨rfl, fun _ => rfl⟩

theorem trans {m'' : Traffic} (h : Apart name m m') (h' : Apart name m' m'') :
    Apart name m m'' where
  index := h'.index.trans h.index
  cell found := (h'.cell (h.index.trans found)).trans (h.cell found)

theorem slot (h : Apart name m m') : m'.slot name = m.slot name := by
  unfold Traffic.slot
  rw [h.index]
  cases found : m.index name with
  | none => rfl
  | some k => exact congrArg Cell.slot (h.cell found)

theorem holder? (h : Apart name m m') : m'.holder? name = m.holder? name := by
  unfold Traffic.holder?
  rw [h.index]
  cases found : m.index name with
  | none => rfl
  | some k => exact congrArg Cell.holder (h.cell found)

end Apart

theorem apart_inner {job : Job} {p : Phase} (inside : m.Inside call i job k p)
    (other : name ≠ job.name) (eq : m.inner call.given job k p = (effect, s')) :
    Apart name m (effect.apply i m) := by
  have foreign : ∀ {c}, m.index name = some c → c ≠ k := by
    rintro c found rfl
    exact other (inside.owner name found)
  cases p with
  | stale | releasing _ | publishing _ _ =>
    cases eq
    exact ⟨rfl, fun found => update_of_ne (foreign found) ..⟩
  | storing w =>
    simp only [inner] at eq
    split at eq <;> cases eq <;> exact ⟨rfl, fun _ => rfl⟩
  | retiring r =>
    cases eq
    split
    · exact ⟨update_of_ne other .., fun _ => rfl⟩
    · exact .refl name m
  | _ =>
    cases eq
    exact .refl name m

theorem apart_next (indexed : m.Indexed) (fits : m.Fits call i s)
    (elsewhere : call.request.target? ≠ some name) (eq : m.next call s = some (effect, s')) :
    Apart name m (effect.apply i m) := by
  have other : ∀ {job}, call.Takes m.engines m.policy job → name ≠ job.name := by
    rintro job takes rfl
    exact elsewhere (Call.target_of_takes takes)
  cases s with
  | unclaimed d =>
    simp only [next] at eq
    split at eq <;> cases eq <;> exact .refl name m
  | seeking job =>
    simp only [next] at eq
    split at eq <;> cases eq <;> exact .refl name m
  | absent job =>
    simp only [next] at eq
    split at eq <;> cases eq
    · exact .refl name m
    · refine ⟨update_of_ne (other fits) .., fun found => update_of_ne ?_ ..⟩
      exact Nat.ne_of_lt (indexed.made found)
  | waiting job k =>
    obtain ⟨takes, _, owner⟩ := fits
    simp only [next] at eq
    split at eq <;> cases eq
    refine ⟨rfl, fun found => update_of_ne ?_ ..⟩
    rintro rfl
    exact other takes (owner name found)
  | inside job k p => exact apart_inner fits (other fits.takes) (Option.some.inj eq)
  | telling e lines r =>
    cases lines <;> cases eq <;> exact ⟨rfl, fun _ => rfl⟩
  | idle | begun | admitted _ | running _ =>
    cases eq
    exact .refl name m
  | done r => cases eq

theorem apart_of_returns (h : Returns calls m i r m') (sound : m.Sound calls)
    (elsewhere : (calls i).request.target? ≠ some name) : Apart name m m' := by
  obtain ⟨n, rfl⟩ := h.steps
  clear h
  induction n generalizing m with
  | zero => exact .refl name m
  | succ n ih =>
    refine Apart.trans ?_ (ih (sound_step sound i))
    cases eq : m.next (calls i) (m.stages i) with
    | none =>
      simp only [step, eq]
      exact .refl name m
    | some move =>
      have here := apart_next sound.indexed (sound.fits i) elsewhere eq
      rw [step_of_next eq]
      exact ⟨here.index, here.cell⟩

theorem barred_apart (engines : m'.engines = m.engines) (policy : m'.policy = m.policy)
    (apart : ∀ name, call.request.target? = some name → Apart name m m') :
    m'.Barred call .idle ↔ m.Barred call .idle := by
  have same : m'.errand? call = m.errand? call := by
    unfold errand?
    cases asked : call.request with
    | create body =>
      simp only [engines]
      cases admitted : Admission.review m.engines.supports body with
      | error f => rfl
      | ok d =>
        have slot := (apart d.name (Call.target_of_review asked admitted)).slot
        simp only [claim?, creation?, slot, engines, policy]
    | _ => rfl
  refine exists_congr fun job => exists_congr fun i => ?_
  simp only [seeks?, same]
  refine and_congr_right fun errand => ?_
  rw [(apart job.name (Call.target_of_takes (takes_of_errand errand))).holder?]

theorem exists_returns_asOf {now : Instant} (clocked : later i = (calls i).asOf now)
    (sound : m.Sound calls) (sound' : m.Sound later) (idle : m.stages i = .idle) :
    (∃ r m', Returns later m i r m') ↔ ∃ r m', Returns calls m i r m' := by
  have same : m.Barred ((calls i).asOf now) .idle ↔ m.Barred (calls i) .idle := Iff.rfl
  rw [exists_returns_iff sound' idle, exists_returns_iff sound idle, clocked, same]

theorem exists_inOrder_iff (sound : m.Sound calls) (idle : m.stages j = .idle) (ne : i ≠ j)
    (apart : ∀ name, (calls i).request.target? = some name →
      (calls j).request.target? ≠ some name) :
    (∃ r s last, InOrder calls m i j r s last) ↔
      (∃ r m', Returns calls m i r m') ∧ ∃ s m', Returns calls m j s m' := by
  -- What the first call has done does not bar the way of the second one.
  have after : ∀ {r middle}, Returns calls m i r middle →
      ((∃ s m', Returns calls middle j s m') ↔ ∃ s m', Returns calls m j s m') := by
    intro r middle first
    have still : middle.stages j = .idle := (first.stages_other ne.symm).trans idle
    have same := barred_apart first.engines first.policy fun name mine =>
      apart_of_returns first sound fun other => apart name other mine
    rw [exists_returns_iff (first.sound sound) still, exists_returns_iff sound idle, same]
  constructor
  · rintro ⟨r, s, last, middle, first, second⟩
    exact ⟨⟨r, middle, first⟩, (after first).mp ⟨s, last, second⟩⟩
  · rintro ⟨⟨r, middle, first⟩, returns⟩
    obtain ⟨s, last, second⟩ := (after first).mpr returns
    exact ⟨r, s, last, middle, first, second⟩

/-- Two calls for different names return in both orders or not in any. -/
theorem exists_inOrder_swap {now now' : Instant} (laterᵢ : later i = (calls i).asOf now)
    (laterⱼ : later j = (calls j).asOf now') (sound : m.Sound calls) (sound' : m.Sound later)
    (idle : m.stages i = .idle) (idle' : m.stages j = .idle) (ne : i ≠ j)
    (apart : ∀ name, (calls i).request.target? = some name →
      (calls j).request.target? ≠ some name) :
    (∃ r s last, InOrder calls m i j r s last) ↔ ∃ s r last, InOrder later m j i s r last := by
  have apart' : ∀ name, (later j).request.target? = some name →
      (later i).request.target? ≠ some name := by
    rw [laterᵢ, laterⱼ]
    exact fun name yours mine => apart name mine yours
  rw [exists_inOrder_iff sound idle' ne apart, exists_inOrder_iff sound' idle ne.symm apart',
    exists_returns_asOf laterᵢ sound sound' idle, exists_returns_asOf laterⱼ sound sound' idle']
  exact and_comm

/-- Between the archive and the calls that had their turn stands at most one change for a name,
whose call has not published it yet. -/
theorem record_pending (agrees : m.Matches c a) (agrees' : m'.Matches c' a')
    (same : ∀ k, m'.stages k = m.stages k ∨
      ¬ (m.stages k).Publishes name ∧ ¬ (m'.stages k).Publishes name) :
    (m.archive.find? name = a.find? name ∧ m'.archive.find? name = a'.find? name) ∨
      ∃ w : Change, m.archive.find? name = w.record (a.find? name) ∧
        m'.archive.find? name = w.record (a'.find? name) := by
  by_cases pending : ∃ k, (m.stages k).Publishes name
  · obtain ⟨k, publishes⟩ := pending
    have stays : m'.stages k = m.stages k := (same k).resolve_right fun none => none.1 publishes
    cases stage : m.stages k with
    | inside job cell p =>
      cases p with
      | publishing w found =>
        rw [stage] at publishes stays
        cases publishes
        exact Or.inr ⟨w, (agrees.stored stage).1, (agrees'.stored stays).1⟩
      | _ =>
        rw [stage] at publishes
        exact publishes.elim
    | _ =>
      rw [stage] at publishes
      exact publishes.elim
  · have none := not_exists.mp pending
    refine Or.inl ⟨agrees.kept name none, agrees'.kept name fun k publishes => ?_⟩
    rcases same k with stays | ⟨_, quiet⟩
    · rw [stays] at publishes
      exact none k publishes
    · exact quiet publishes

theorem untouched_of_returns (h : Returns calls m i r m') (agrees : m.Matches c a)
    (agrees' : m'.Matches c' a') (idle : m.stages i = .idle)
    (same : c'.slot name = c.slot name ∧ a'.find? name = a.find? name) : Untouched name m m' := by
  refine ⟨by rw [agrees.slots, agrees'.slots, same.1], ?_⟩
  have stages : ∀ k, m'.stages k = m.stages k ∨
      ¬ (m.stages k).Publishes name ∧ ¬ (m'.stages k).Publishes name := by
    intro k
    by_cases mine : k = i
    · rw [mine, idle, h.done]
      exact Or.inr ⟨id, id⟩
    · exact Or.inl (h.stages_other mine)
  rcases record_pending agrees agrees' stages with ⟨here, there⟩ | ⟨w, here, there⟩
  · rw [here, there, same.2]
  · rw [here, there, same.2]

theorem alike_of_names (agrees : m.Matches c a) (agrees' : m'.Matches c' a')
    (sound : m.Sound calls) (sound' : m'.Sound later)
    (stages : ∀ k, m'.stages k = m.stages k ∨
      (∃ r, m.stages k = .done r) ∧ ∃ r, m'.stages k = .done r)
    (same : ∀ name, (c'.slot name).mapTimes f = (c.slot name).mapTimes f ∧
      (a'.find? name).map (Record.mapTimes f) = (a.find? name).map (Record.mapTimes f)) :
    Alike f m m' := by
  have slots : ∀ name, (m'.slot name).mapTimes f = (m.slot name).mapTimes f := by
    intro name
    rw [agrees.slots, agrees'.slots]
    exact (same name).1
  refine ⟨slots, ?_, fun resting name => ?_⟩
  · refine MemoryArchive.eq_of_find? (MemoryArchive.ordered_mapTimes sound'.ordered)
      (MemoryArchive.ordered_mapTimes sound.ordered) fun name => ?_
    rw [MemoryArchive.find?_mapTimes, MemoryArchive.find?_mapTimes]
    have quiet : ∀ k, m'.stages k = m.stages k ∨
        ¬ (m.stages k).Publishes name ∧ ¬ (m'.stages k).Publishes name := by
      intro k
      refine (stages k).imp_right ?_
      rintro ⟨⟨r, done⟩, r', done'⟩
      rw [done, done']
      exact ⟨id, id⟩
    rcases record_pending agrees agrees' quiet with ⟨here, there⟩ | ⟨w, here, there⟩
    · rw [here, there]
      exact (same name).2
    · rw [here, there, Change.record_mapTimes, Change.record_mapTimes, (same name).2]
  · have resting' : m'.Resting := by
      intro k
      rcases stages k with stays | ⟨_, done⟩
      · rw [stays]
        exact resting k
      · exact Or.inr done
    have vacant : (m'.slot name).isVacant = (m.slot name).isVacant := by
      rw [← Slot.isVacant_mapTimes (f := f), slots, Slot.isVacant_mapTimes]
    rw [cell?_resting sound resting, cell?_resting sound' resting', vacant]
    cases (m.slot name).isVacant with
    | true => rfl
    | false => exact congrArg some (slots name)

namespace InOrder

variable {q : Answer} {last last' : Traffic}

theorem alone (h : InOrder calls m i j r q last) (agrees : m.Matches c a) (sound : m.Sound calls)
    (idle : m.stages i = .idle) (idle' : m.stages j = .idle) (ne : i ≠ j) :
    let x := (calls i).alone c a
    let y := (calls j).alone x.2.1 x.2.2
    (r = x.1 ∧ q = y.1 ∧ last.Matches y.2.1 y.2.2) ∧ last.Sound calls := by
  obtain ⟨middle, first, second⟩ := h
  obtain ⟨one, agrees₁⟩ := first.alone agrees sound idle
  obtain ⟨two, agrees₂⟩ := second.alone agrees₁ (first.sound sound)
    ((first.stages_other ne.symm).trans idle')
  exact ⟨⟨one, two, agrees₂⟩, second.sound (first.sound sound)⟩

theorem stages (h : InOrder calls m i j r q last) (k : Nat) :
    (k = i ∨ k = j) ∧ (∃ r, last.stages k = .done r) ∨
      ¬ (k = i ∨ k = j) ∧ last.stages k = m.stages k := by
  obtain ⟨middle, first, second⟩ := h
  by_cases yours : k = j
  · rw [yours]
    exact Or.inl ⟨Or.inr rfl, q, second.done⟩
  · rw [second.stages_other yours]
    by_cases mine : k = i
    · rw [mine]
      exact Or.inl ⟨Or.inl rfl, r, first.done⟩
    · exact Or.inr ⟨not_or.mpr ⟨mine, yours⟩, first.stages_other mine⟩

theorem stages_swap {r' q' : Answer} (h : InOrder calls m i j r q last)
    (h' : InOrder later m j i q' r' last') (k : Nat) : last'.stages k = last.stages k ∨
      (∃ r, last.stages k = .done r) ∧ ∃ r, last'.stages k = .done r := by
  rcases h.stages k with ⟨ours, done⟩ | ⟨others, stays⟩
  · rcases h'.stages k with ⟨_, done'⟩ | ⟨others', _⟩
    · exact Or.inr ⟨done, done'⟩
    · exact absurd ours.symm others'
  · rcases h'.stages k with ⟨ours', _⟩ | ⟨_, stays'⟩
    · exact absurd ours'.symm others
    · exact Or.inl (stays'.trans stays.symm)

end InOrder

/-- A call leaves every name but its own as it was. Two calls for different names do the same in
either order and leave the same behind, as far as it does not tell what the clock has shown. Either
both return in both orders or not in any; when nobody else is under way they do. -/
theorem independent_opened (calls : Nat → Call) (clock : Nat → Instant) (engines : EngineSet)
    (policy : Policy) (records : List Record) (hub : Hub) (schedule : List Nat) (i j : Nat) :
    let m := (opened engines policy records hub).run calls schedule
    let later : Nat → Call := fun k => if k = i ∨ k = j then (calls k).asOf (clock k) else calls k
    m.stages i = .idle →
    (∀ r m', Returns calls m i r m' → ∀ name, (calls i).request.target? ≠ some name →
      Untouched name m m') ∧
    (m.stages j = .idle → i ≠ j →
      (∀ name, (calls i).request.target? = some name →
        (calls j).request.target? ≠ some name) →
      (m.Resting → ∃ r s last, InOrder calls m i j r s last) ∧
      ((∃ r s last, InOrder calls m i j r s last) ↔ ∃ s r last, InOrder later m j i s r last) ∧
      ∀ r s last r' s' last', InOrder calls m i j r s last → InOrder later m j i s' r' last' →
        ∀ f : Instant → Instant, f (clock i) = f (calls i).given.now →
          f (clock j) = f (calls j).given.now →
          r'.map (Reply.mapTimes f) = r.map (Reply.mapTimes f) ∧
          s'.map (Reply.mapTimes f) = s.map (Reply.mapTimes f) ∧ Alike f last last') := by
  intro m later idle
  obtain ⟨c, a, agrees, coherent⟩ := matches_coherent calls engines policy records hub schedule
  have sound : m.Sound calls := sound_opened calls engines policy records hub schedule
  refine ⟨fun r m' returns name elsewhere => ?_, fun idle' ne apart => ?_⟩
  · exact untouched_of_returns returns agrees (returns.alone agrees sound idle).2 idle
      (coherent.alone_other elsewhere)
  · have sound' : m.Sound later := sound.of_idle fun k => by
      by_cases mine : k = i ∨ k = j
      · rcases mine with rfl | rfl
        · exact Or.inl idle
        · exact Or.inl idle'
      · exact Or.inr (if_neg mine)
    have laterᵢ : later i = (calls i).asOf (clock i) := if_pos (Or.inl rfl)
    have laterⱼ : later j = (calls j).asOf (clock j) := if_pos (Or.inr rfl)
    refine ⟨fun resting => ?_, ?_, ?_⟩
    · exact (exists_inOrder_iff sound idle' ne apart).mpr
        ⟨exists_returns sound resting idle, exists_returns sound resting idle'⟩
    · exact exists_inOrder_swap laterᵢ laterⱼ sound sound' idle idle' ne apart
    · intro r s last r' s' last' order order' f forgets forgets'
      have first := order.alone agrees sound idle idle' ne
      have second := order'.alone agrees sound' idle' idle ne.symm
      rw [laterᵢ, laterⱼ] at second
      obtain ⟨⟨rfl, rfl, agrees₁⟩, sound₁⟩ := first
      obtain ⟨⟨rfl, rfl, agrees₂⟩, sound₂⟩ := second
      obtain ⟨⟨answersᵢ, answersⱼ⟩, left⟩ := coherent.alone_commute forgets forgets' apart
      exact ⟨answersᵢ, answersⱼ,
        alike_of_names agrees₁ agrees₂ sound₁ sound₂ (order.stages_swap order') left⟩

theorem independent_opened_two_names :
    let engines : EngineSet :=
      ⟨[⟨.lua, fun _ => .done (), fun source _ => .done ⟨.str source, []⟩⟩]⟩
    let body : Json :=
      .obj [("code", .str "return 1"), ("lang", .str "lua"), ("name", .str " a ")]
    let given : Given := ⟨.epoch, fun _ _ => .done (), none⟩
    let calls : Nat → Call := fun i =>
      ⟨if i = 0 then .create (some body) else .forceDelete "b", given⟩
    let later : Nat → Call := fun k => if k = 0 ∨ k = 1 then (calls k).asOf ⟨1, 0⟩ else calls k
    let m := (opened engines ⟨true, 5000⟩ [] ⟨256, [], 0⟩).run calls []
    ∃ r s last r' s' last', InOrder calls m 0 1 r s last ∧ InOrder later m 1 0 s' r' last' ∧
      Alike (fun _ => .epoch) last last' := by
  intro engines body given calls later m
  have apart : ∀ name, (calls 0).request.target? = some name →
      (calls 1).request.target? ≠ some name := by
    intro name mine yours
    have first : (calls 0).request.target? = some "a" := by decide +kernel
    have second : (calls 1).request.target? = some "b" := rfl
    have same : "a" = "b" :=
      Option.some.inj ((first.symm.trans mine).trans (yours.symm.trans second))
    exact absurd same (by decide)
  obtain ⟨returns, swap, same⟩ := (independent_opened calls (fun _ => ⟨1, 0⟩) engines ⟨true, 5000⟩
    [] ⟨256, [], 0⟩ [] 0 1 rfl).2 rfl (by decide) apart
  obtain ⟨r, s, last, order⟩ := returns fun _ => Or.inl rfl
  obtain ⟨s', r', last', order'⟩ := swap.mp ⟨r, s, last, order⟩
  exact ⟨r, s, last, r', s', last', order, order',
    (same _ _ _ _ _ _ order order' (fun _ => .epoch) rfl rfl).2.2⟩

end Traffic

end ScriptHost
