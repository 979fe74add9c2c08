import ScriptHost.Proofs.Decisions

/-!
Calls under way keep out of each other's way. A call that is inside a gate holds it alone; while it
has a current cell, nobody else takes the cell away or changes what it stands for. So what the call
has read stays true until the call itself changes it.
-/
namespace ScriptHost

open Function (update_self update_of_ne)

def Phase.Current : Phase → Prop
  | .entered | .stale | .releasing _ => False
  | _ => True

def Phase.Decided : Phase → Prop
  | .comparing .. | .merging .. | .compiling .. | .storing _ | .publishing .. => True
  | _ => False

/-- What a call has found out in a phase, beside what it has decided. -/
def Phase.Knows (g : Given) (s : Slot) : Phase → Prop
  | .publishing _ _ => g.fault = none
  | .retiring _ => s = .vacant
  | _ => True

namespace Traffic

/-- Every name has a cell of its own, among those that have been made. -/
structure Indexed (m : Traffic) : Prop where
  made : ∀ {name k}, m.index name = some k → k < m.fresh
  once : ∀ {name other k}, m.index name = some k → m.index other = some k → name = other

structure Inside (m : Traffic) (call : Call) (i : Nat) (job : Job) (k : Nat) (p : Phase) :
    Prop where
  takes : call.Takes m.engines m.policy job
  made : k < m.fresh
  owner : ∀ name, m.index name = some k → name = job.name
  holds : (m.cells k).holder = some i
  current : p.Current → m.index job.name = some k
  decided : p.Decided → p.decision? m.engines m.policy call.given job.name =
    job.decision? m.engines m.policy call.given (m.cells k).slot
  knows : p.Knows call.given (m.cells k).slot

def Fits (m : Traffic) (call : Call) (i : Nat) : Stage → Prop
  | .admitted d | .unclaimed d =>
    ∃ body, call.request = .create body ∧ Admission.review m.engines.supports body = .ok d
  | .seeking job | .absent job => call.Takes m.engines m.policy job
  | .waiting job k =>
    call.Takes m.engines m.policy job ∧ k < m.fresh ∧
      ∀ name, m.index name = some k → name = job.name
  | .inside job k p => m.Inside call i job k p
  | .running _ => ∃ name input timeoutMs, call.request = .evaluate name input timeoutMs
  | _ => True

end Traffic

/-- What makes an effect of a step of call `i` harmless to the other calls. -/
def Effect.Allowed (i : Nat) (m : Traffic) : Effect → Prop
  | .place name => m.index name = Option.none
  | .enter k => (m.cells k).holder = Option.none
  | .leave k | .show k _ => (m.cells k).holder = some i
  | .retire name =>
    ∃ k, m.index name = some k ∧ (m.cells k).holder = some i ∧ (m.cells k).slot = .vacant
  | _ => True

variable {m : Traffic} {call : Call} {i j : Nat} {f : Effect} {s : Stage}

@[simp] theorem Effect.stages_apply : (f.apply i m).stages = m.stages := by
  cases f <;> rfl

@[simp] theorem Effect.engines_apply : (f.apply i m).engines = m.engines := by
  cases f <;> rfl

@[simp] theorem Effect.policy_apply : (f.apply i m).policy = m.policy := by
  cases f <;> rfl

theorem Traffic.slot_setHolder (c k : Nat) (holder : Option Nat) :
    ((m.setHolder c holder).cells k).slot = (m.cells k).slot := by
  by_cases here : k = c
  · simp [setHolder, here]
  · simp [setHolder, here]

@[simp] theorem Traffic.stages_setStage_self : (m.setStage i s).stages i = s := update_self ..

theorem Traffic.stages_setStage_other (other : j ≠ i) :
    (m.setStage i s).stages j = m.stages j := update_of_ne other ..

theorem Effect.indexed_apply (h : m.Indexed) (allowed : f.Allowed i m) :
    (f.apply i m).Indexed := by
  cases f with
  | place name =>
    have free : m.index name = Option.none := allowed
    constructor
    · intro other k found
      by_cases same : other = name
      · subst same
        simp only [apply, update_self, Option.some.injEq] at found ⊢
        omega
      · simp only [apply, update_of_ne same] at found ⊢
        have := h.made found
        omega
    · intro a b k ha hb
      simp only [apply] at ha hb
      by_cases eqA : a = name
      · by_cases eqB : b = name
        · rw [eqA, eqB]
        · rw [eqA, update_self] at ha
          rw [update_of_ne eqB] at hb
          have := h.made hb
          have := Option.some.inj ha
          omega
      · rw [update_of_ne eqA] at ha
        by_cases eqB : b = name
        · rw [eqB, update_self] at hb
          have := h.made ha
          have := Option.some.inj hb
          omega
        · rw [update_of_ne eqB] at hb
          exact h.once ha hb
  | retire name =>
    have kept : ∀ {a k}, (apply i m (.retire name)).index a = some k → m.index a = some k := by
      intro a k found
      by_cases same : a = name
      · simp [apply, same] at found
      · simpa [apply, same] using found
    exact ⟨fun found => h.made (kept found), fun ha hb => h.once (kept ha) (kept hb)⟩
  | _ => exact ⟨h.made, h.once⟩

theorem Traffic.Inside.transfer {m' : Traffic} {job : Job} {k : Nat} {p : Phase}
    (h : m.Inside call j job k p) (engines : m'.engines = m.engines)
    (policy : m'.policy = m.policy) (fresh : m.fresh ≤ m'.fresh)
    (cell : m'.cells k = m.cells k)
    (owner : ∀ name, m'.index name = some k → m.index name = some k)
    (kept : m.index job.name = some k → p.Current → m'.index job.name = some k) :
    m'.Inside call j job k p where
  takes := by rw [engines, policy]; exact h.takes
  made := Nat.lt_of_lt_of_le h.made fresh
  owner name found := h.owner name (owner name found)
  holds := by rw [cell]; exact h.holds
  current current := kept (h.current current) current
  decided := by rw [engines, policy, cell]; exact h.decided
  knows := by rw [cell]; exact h.knows

/-- A step of another call keeps what holds of a call inside a gate. -/
theorem Effect.inside_apply {job : Job} {k : Nat} {p : Phase} (other : j ≠ i)
    (allowed : f.Allowed i m) (h : m.Inside call j job k p) :
    (f.apply i m).Inside call j job k p := by
  -- A cell is changed and taken away by its holder only, and this one is held by `j`.
  have notMine : ∀ {c}, (m.cells c).holder = some i → k ≠ c := by
    intro c mine same
    rw [← same, h.holds] at mine
    exact other (Option.some.inj mine)
  cases f with
  | place name =>
    have free : m.index name = Option.none := allowed
    have ne : k ≠ m.fresh := by have := h.made; omega
    refine h.transfer rfl rfl (Nat.le_succ _) (update_of_ne ne ..) (fun n found => ?_)
      fun found _ => ?_
    · by_cases same : n = name
      · have new : m.fresh = k := by simpa [apply, same] using found
        exact absurd new.symm ne
      · simpa [apply, same] using found
    · have notName : job.name ≠ name := by
        intro same
        rw [same, free] at found
        cases found
      simpa [apply, notName] using found
  | enter c =>
    have free : (m.cells c).holder = Option.none := allowed
    have ne : k ≠ c := by
      intro same
      rw [← same, h.holds] at free
      cases free
    exact h.transfer rfl rfl (Nat.le_refl _) (update_of_ne ne ..) (fun _ => id) fun found _ => found
  | leave c | «show» c _ =>
    exact h.transfer rfl rfl (Nat.le_refl _) (update_of_ne (notMine allowed) ..) (fun _ => id)
      fun found _ => found
  | retire name =>
    obtain ⟨c, found, mine, _⟩ := allowed
    refine h.transfer rfl rfl (Nat.le_refl _) rfl (fun n shown => ?_) fun shown current => ?_
    · by_cases same : n = name
      · simp [apply, same] at shown
      · simpa [apply, same] using shown
    · have ne : job.name ≠ name := by
        intro same
        rw [same, found] at shown
        exact notMine mine (Option.some.inj shown).symm
      simpa [apply, ne] using shown
  | _ => exact h.transfer rfl rfl (Nat.le_refl _) rfl (fun _ => id) fun found _ => found

theorem Effect.fits_apply (other : j ≠ i) (allowed : f.Allowed i m) (h : m.Fits call j s) :
    (f.apply i m).Fits call j s := by
  cases s with
  | inside job k p => exact inside_apply other allowed h
  | waiting job k =>
    obtain ⟨takes, made, owner⟩ := h
    cases f with
    | place name =>
      refine ⟨takes, by simp only [apply]; omega, fun n found => ?_⟩
      simp only [apply] at found
      by_cases same : n = name
      · rw [same, update_self] at found
        have := Option.some.inj found
        omega
      · rw [update_of_ne same] at found
        exact owner n found
    | retire name =>
      refine ⟨takes, made, fun n found => ?_⟩
      by_cases same : n = name
      · simp [apply, same] at found
      · exact owner n (by simpa [apply, same] using found)
    | _ => exact ⟨takes, made, owner⟩
  | idle | begun | telling _ _ _ | done _ => trivial
  | admitted _ | unclaimed _ | seeking _ | absent _ | running _ => cases f <;> exact h

namespace Traffic

theorem inner_allowed {job : Job} {k : Nat} {p : Phase} (h : m.Inside call i job k p) :
    (m.inner call.given job k p).1.Allowed i m := by
  cases p with
  | stale | releasing _ | publishing _ _ => exact h.holds
  | storing w =>
    simp only [inner]
    cases call.given.fault <;> trivial
  | retiring r =>
    have shown := h.current trivial
    simp only [inner, if_pos shown]
    exact ⟨k, shown, h.holds, h.knows⟩
  | entered | reading | comparing _ _ | merging _ _ | compiling _ _ | leaving _ => trivial

theorem next_allowed (h : m.Fits call i s) {s' : Stage} (eq : m.next call s = some (f, s')) :
    f.Allowed i m := by
  cases s with
  | idle | begun | admitted _ | running _ => cases eq; trivial
  | unclaimed d =>
    simp only [next] at eq
    split at eq <;> cases eq <;> trivial
  | seeking job =>
    simp only [next] at eq
    split at eq <;> cases eq <;> trivial
  | absent job =>
    simp only [next] at eq
    split at eq <;> cases eq
    · trivial
    · rename_i free
      exact free
  | waiting job k =>
    simp only [next] at eq
    split at eq <;> cases eq
    rename_i free
    exact free
  | inside job k p =>
    have same : m.inner call.given job k p = (f, s') := Option.some.inj eq
    have allowed := inner_allowed h
    rw [same] at allowed
    exact allowed
  | telling e lines r => cases lines <;> cases eq <;> trivial
  | done r => cases eq

theorem Inside.go_on {job : Job} {k : Nat} {p p' : Phase} (h : m.Inside call i job k p)
    (current : p.Current)
    (decided : p'.Decided → p'.decision? m.engines m.policy call.given job.name =
      job.decision? m.engines m.policy call.given (m.cells k).slot)
    (knows : p'.Knows call.given (m.cells k).slot) : m.Inside call i job k p' :=
  { h with current := fun _ => h.current current, decided := decided, knows := knows }

theorem knows_decide (job : Job) (policy : Policy) (g : Given) (t : Slot) :
    (job.decide policy g t).Knows g t := by
  cases job <;> simp only [Job.decide] <;> (repeat' split) <;> trivial

theorem knows_compare (name : String) (e : Edition) (patch : Option Json) (g : Given)
    (t : Slot) : (Phase.compare name e patch).Knows g t := by
  unfold Phase.compare
  split <;> trivial

theorem knows_merge (engines : EngineSet) (e : Edition) (patch : Option Json) (g : Given)
    (t : Slot) : (Phase.merge engines e patch).Knows g t := by
  unfold Phase.merge
  split <;> trivial

theorem knows_compile (engines : EngineSet) (policy : Policy) (g : Given) (e : Edition)
    (d : Admitted) (t : Slot) : (Phase.compile engines policy g e d).Knows g t := by
  unfold Phase.compile
  split <;> trivial

theorem inner_fits {job : Job} {k : Nat} {p : Phase} (h : m.Inside call i job k p) :
    ((m.inner call.given job k p).1.apply i m).Fits call i (m.inner call.given job k p).2 := by
  cases p with
  | entered =>
    by_cases shown : m.index job.name = some k
    · simp only [inner, if_pos shown]
      exact { h with
        current := fun _ => shown
        decided := fun d => d.elim
        knows := trivial }
    · simp only [inner, if_neg shown]
      exact { h with
        current := fun c => c.elim
        decided := fun d => d.elim
        knows := trivial }
  | stale => exact h.takes
  | reading =>
    exact h.go_on trivial (fun _ => rfl) (knows_decide job _ _ _)
  | comparing e patch =>
    exact h.go_on trivial (fun _ => (Phase.decision?_compare _ e patch).trans (h.decided trivial))
      (knows_compare _ e patch _ _)
  | merging e patch =>
    exact h.go_on trivial (fun _ => (Phase.decision?_merge _ e patch).trans (h.decided trivial))
      (knows_merge _ e patch _ _)
  | compiling e d =>
    exact h.go_on trivial (fun _ => (Phase.decision?_compile _ e d).trans (h.decided trivial))
      (knows_compile _ _ _ e d _)
  | storing w =>
    simp only [inner]
    cases fault : call.given.fault with
    | some f =>
      exact { h with
        current := fun _ => h.current trivial
        decided := fun d => d.elim
        knows := trivial }
    | none =>
      exact { h with
        current := fun _ => h.current trivial
        decided := fun _ => h.decided trivial
        knows := fault }
  | publishing w found =>
    exact { h with
      holds := by simpa [inner, Effect.apply] using h.holds
      current := fun _ => h.current trivial
      decided := fun d => d.elim
      knows := trivial }
  | leaving r =>
    by_cases vacant : (m.cells k).slot.isVacant
    · simp only [inner, if_pos vacant]
      refine h.go_on trivial (fun d => d.elim) ?_
      change (m.cells k).slot = .vacant
      cases slot : (m.cells k).slot with
      | vacant => rfl
      | live e => rw [slot] at vacant; cases vacant
      | deleted e => rw [slot] at vacant; cases vacant
    · simp only [inner, if_neg vacant]
      exact { h with
        current := fun c => c.elim
        decided := fun d => d.elim
        knows := trivial }
  | retiring r =>
    -- Nobody else can have taken the cell away, so the call does.
    have shown := h.current trivial
    simp only [inner, if_pos shown]
    refine { h with
      owner := fun name found => ?_
      current := fun c => c.elim
      decided := fun d => d.elim
      knows := trivial }
    by_cases same : name = job.name
    · exact same
    · exact h.owner name (by simpa [Effect.apply, same] using found)
  | releasing r => trivial

/-- A step of a call leads to a stage that fits. -/
theorem next_fits (indexed : m.Indexed) (h : m.Fits call i s) {s' : Stage}
    (eq : m.next call s = some (f, s')) : (f.apply i m).Fits call i s' := by
  cases s with
  | idle => cases eq; trivial
  | begun =>
    cases eq
    simp only [Effect.apply, enter]
    split
    · rename_i body asked
      split
      · trivial
      · rename_i d admitted
        exact ⟨body, asked, admitted⟩
    · assumption
    · assumption
    · assumption
    · assumption
    · trivial
    · rename_i name input timeoutMs asked
      split
      · trivial
      · exact ⟨name, input, timeoutMs, asked⟩
  | admitted d =>
    cases eq
    split
    · exact h
    · trivial
  | unclaimed d =>
    simp only [next] at eq
    split at eq <;> cases eq
    · trivial
    · rename_i compiled
      exact ⟨h, compiled⟩
  | seeking job =>
    simp only [next] at eq
    split at eq <;> cases eq
    · rename_i k found
      exact ⟨h, indexed.made found, fun name shown => indexed.once shown found⟩
    · exact h
  | absent job =>
    simp only [next] at eq
    split at eq <;> cases eq
    · rename_i k found
      exact ⟨h, indexed.made found, fun name shown => indexed.once shown found⟩
    · refine ⟨h, Nat.lt_succ_self _, fun name shown => ?_⟩
      by_cases same : name = job.name
      · exact same
      · have found : m.index name = some m.fresh := by
          simpa [Effect.apply, same] using shown
        have := indexed.made found
        omega
  | waiting job k =>
    obtain ⟨takes, made, owner⟩ := h
    simp only [next] at eq
    split at eq <;> cases eq
    exact {
      takes := takes
      made := made
      owner := owner
      holds := by simp [Effect.apply, setHolder]
      current := fun c => c.elim
      decided := fun d => d.elim
      knows := trivial }
  | inside job k p =>
    have same : m.inner call.given job k p = (f, s') := Option.some.inj eq
    have fits := inner_fits h
    rw [same] at fits
    exact fits
  | running e =>
    cases eq
    obtain ⟨name, input, timeoutMs, asked⟩ := h
    simp only [Effect.apply, launch, asked]
    trivial
  | telling e lines r => cases lines <;> cases eq <;> trivial
  | done r => cases eq

end Traffic

end ScriptHost
