import ScriptHost.Proofs.Deletions

/-!
A script that the engines at hand cannot run loses nothing. Its name is hidden and reserved like a
deleted one, but the archive keeps it as a live script, and whatever is done meanwhile leaves it so
until it is removed for good. Opened for engines that can run it, the archive shows it again.
-/
namespace ScriptHost

variable {engines : EngineSet} {policy : Policy} {c : Catalog} {a : MemoryArchive} {name : String}
  {s : Script}

def EngineSet.Runs (engines : EngineSet) (s : Script) : Prop :=
  engines.supports s.language = true ∧ (Encoding.source? s.encoding s.code).isSome = true

theorem Slot.ofRecord_of_not_runs (idle : ¬ engines.Runs s) :
    ∃ e, Slot.ofRecord engines ⟨s, false⟩ = .deleted e := by
  unfold ofRecord
  dsimp only
  split
  · exact ⟨_, rfl⟩
  · rename_i usable
    simp only [Bool.false_or, Bool.or_eq_true, Bool.not_eq_true', Option.isNone_iff_eq_none,
      not_or, Bool.not_eq_false] at usable
    exact absurd ⟨usable.1, Option.isSome_iff_ne_none.mpr usable.2⟩ idle

def Act.Wakes (s : Script) : Act × Report → Prop
  | (.reopen engines _ _, .opening (.ok ())) => engines.Runs s
  | _ => False

theorem Act.Wakes.runs {p : Act × Report} (wakes : Wakes s p) :
    ∃ engines policy fault, p.1 = .reopen engines policy fault ∧ engines.Runs s := by
  unfold Act.Wakes at wakes
  split at wakes
  · exact ⟨_, _, _, rfl, wakes⟩
  · exact wakes.elim

namespace Catalog

/-- The name is deleted here, while the archive keeps its script as a live one. -/
structure Dormant (name : String) (s : Script) (c : Catalog) (a : MemoryArchive) : Prop where
  slot : ∃ e, c.slot name = .deleted e
  record : a.find? name = some ⟨s, false⟩

theorem dormant_ofRecords (ordered : a.Ordered) (policy : Policy)
    (kept : a.find? name = some ⟨s, false⟩) (idle : ¬ engines.Runs s) :
    Dormant name s (ofRecords engines policy a.all) a := by
  obtain ⟨e, opened⟩ := Slot.ofRecord_of_not_runs idle
  refine ⟨⟨e, ?_⟩, kept⟩
  rw [slot_ofRecords ordered, kept]
  exact opened

end Catalog

namespace Act

open Catalog

theorem dormant_perform (h : Coherent c.engines c.policy c a) (dormant : Dormant name s c a)
    (act : Act) (kept : ¬ (Frees name (act, (act.perform c a).1) ∨
      Wakes s (act, (act.perform c a).1))) :
    Dormant name s (act.perform c a).2.1 (act.perform c a).2.2 := by
  obtain ⟨⟨e, deleted⟩, found⟩ := dormant
  rcases perform_cases h act name with ⟨slot, record⟩ | ⟨engines, policy, rfl, slot, record⟩ |
    ⟨made, w, rfl, about, makes, told, _⟩
  · exact ⟨⟨e, slot.trans deleted⟩, record.trans found⟩
  · rw [perform_reopen] at kept
    obtain ⟨e', opened⟩ := Slot.ofRecord_of_not_runs fun runs => kept (Or.inr runs)
    rw [found] at slot
    exact ⟨⟨e', slot.trans opened⟩, record.trans found⟩
  · rw [told] at kept
    exact absurd (Or.inl (Call.removes_of_deleted about deleted makes)) kept

end Act

namespace Catalog

theorem Dormant.open_runs (h : Coherent c.engines c.policy c a) (dormant : Dormant name s c a)
    {text : String} (policy : Policy) (supported : engines.supports s.language = true)
    (decoded : Encoding.source? s.encoding s.code = some text) :
    ∃ c', Catalog.open engines policy a = (.ok c', a) ∧ c'.get? name = some ⟨s, text⟩ := by
  refine ⟨_, (coherent_ofRecords engines policy h.ordered).open_eq, ?_⟩
  refine Slot.live?_eq_some.mpr ?_
  rw [slot_ofRecords h.ordered, dormant.record]
  exact Slot.ofRecord_eq_live.mpr ⟨rfl, rfl, supported, decoded⟩

/-- A live record that the engines cannot run, for want of a language or because its code does not
decode, stays in the archive as it is, whatever is done with the catalog that was opened for them:
calls, some of which the archive may fail, listings, and opening the archive again for engines that
cannot run it either, as long as the name is not removed for good. Meanwhile the name is reserved
and hidden. Opened for engines that can run it, the archive shows the script just as it was. -/
theorem dormant_until_woken (engines : EngineSet) (policy : Policy) (records : List Record)
    (acts : List Act) (name : String) (s : Script) :
    let a₀ := MemoryArchive.ofRecords records
    let last := Act.inTurn acts (ofRecords engines policy a₀.all) a₀
    a₀.find? name = some ⟨s, false⟩ →
    (engines.supports s.language = false ∨ Encoding.source? s.encoding s.code = none) →
    (∀ p ∈ acts.zip last.1, ¬ (Act.Frees name p ∨ Act.Wakes s p)) →
    last.2.2.find? name = some ⟨s, false⟩ ∧
      last.2.1.isTaken name = true ∧ Hidden name last.2.1 last.2.2 ∧
      ∀ again policy' text, EngineSet.supports again s.language = true →
        Encoding.source? s.encoding s.code = some text →
        ∃ c, Catalog.open again policy' last.2.2 = (.ok c, last.2.2) ∧
          c.get? name = some ⟨s, text⟩ := by
  intro a₀ last kept idle quiet
  have ordered : a₀.Ordered := MemoryArchive.ordered_ofRecords records
  have opened := (coherent_ofRecords engines policy ordered).own
  have unable : ¬ engines.Runs s := by
    rintro ⟨supported, decoded⟩
    rcases idle with missing | garbled
    · rw [missing] at supported
      cases supported
    · rw [garbled] at decoded
      cases decoded
  have first := dormant_ofRecords ordered policy kept unable
  have h : Coherent last.2.1.engines last.2.1.policy last.2.1 last.2.2 :=
    Act.coherent_inTurn opened acts
  have dormant : Dormant name s last.2.1 last.2.2 :=
    Act.kept_inTurn Act.dormant_perform opened first quiet
  obtain ⟨e, deleted⟩ := dormant.slot
  refine ⟨dormant.record, ?_, h.hidden_of_deleted deleted, fun again policy' text => ?_⟩
  · rw [isTaken, deleted]
    rfl
  · exact dormant.open_runs h policy'

theorem dormant_until_woken_other_engines :
    let engines : EngineSet :=
      ⟨[⟨.lua, fun _ => .done (), fun source _ => .done ⟨.str source, []⟩⟩]⟩
    let again : EngineSet :=
      ⟨[⟨.python, fun _ => .done (), fun source _ => .done ⟨.str source, []⟩⟩]⟩
    let given : Given := ⟨.epoch, fun _ _ => .done (), none⟩
    let body : Json :=
      .obj [("code", .str "return 2"), ("lang", .str "lua"), ("name", .str " a ")]
    let s : Script := ⟨"a", "print(1)", .python, none, false, 7, .epoch, .epoch⟩
    let a₀ := MemoryArchive.ofRecords [⟨s, false⟩]
    let acts : List Act := [.call ⟨.create (some body), given⟩, .call ⟨.delete "a", given⟩,
      .reopen engines ⟨true, 5000⟩ none, .call ⟨.activate "a" true, given⟩]
    let last := Act.inTurn acts (ofRecords engines ⟨true, 5000⟩ a₀.all) a₀
    last.2.2.find? "a" = some ⟨s, false⟩ ∧ Hidden "a" last.2.1 last.2.2 ∧
      ∃ c, Catalog.open again ⟨true, 5000⟩ last.2.2 = (.ok c, last.2.2) ∧
        c.get? "a" = some ⟨s, "print(1)"⟩ := by
  intro engines again given body s a₀ acts last
  obtain ⟨kept, _, hidden, woken⟩ := dormant_until_woken engines ⟨true, 5000⟩ [⟨s, false⟩] acts
    "a" s rfl (Or.inl rfl) (by
      rintro p member (frees | wakes)
      · obtain ⟨made, same, asked⟩ := frees.request
        have listed : .call made ∈ acts := by
          rw [← same]
          exact (List.of_mem_zip member).1
        simp only [acts, List.mem_cons, Act.call.injEq, reduceCtorEq, List.not_mem_nil, or_false,
          false_or] at listed
        rcases listed with rfl | rfl | rfl <;> cases asked
      · obtain ⟨_, _, _, same, runs⟩ := wakes.runs
        have listed : p.1 ∈ acts := (List.of_mem_zip member).1
        simp only [acts, same, List.mem_cons, Act.reopen.injEq, reduceCtorEq, List.not_mem_nil,
          or_false, false_or] at listed
        rw [listed.1] at runs
        exact absurd runs.1 (by decide))
  have supported : again.supports s.language = true := by decide
  have shown := woken again ⟨true, 5000⟩ "print(1)" supported rfl
  with_reducible exact ⟨kept, hidden, shown⟩

end Catalog

end ScriptHost
