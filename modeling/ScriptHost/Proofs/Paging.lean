import ScriptHost.Proofs.ListingOrder
import ScriptHost.Proofs.Reopening

/-!
The pages of a listing. The archive cuts them from its own order, and what is not live is left out
afterwards, so that a page may be short; put together they are everything that is live and matches,
each edition once and in the order of the listing.
-/
namespace ScriptHost

theorem take_pieces {α : Type} (xs : List α) (width count : Nat) :
    xs.take (count * width) =
      (List.range count).flatMap fun k => (xs.drop (k * width)).take width := by
  induction count with
  | zero =>
    rw [Nat.zero_mul]
    rfl
  | succ count ih =>
    have piece : xs.take ((count + 1) * width) =
        xs.take (count * width) ++ (xs.drop (count * width)).take width := by
      rw [Nat.succ_mul, List.take_add]
    rw [piece, List.range_succ, List.flatMap_append, ← ih, List.flatMap_singleton]

namespace Listing

variable {q : Listing} {size : Nat}

def numbered (q : Listing) (size k : Nat) : Listing :=
  { q with limit := some size, offset := some (k * size : Nat) }

theorem whole_numbered (k : Nat) (scripts : List Script) :
    (q.numbered size k).whole scripts = q.whole scripts := rfl

theorem page_numbered (pos : 1 ≤ size) (le : size ≤ 1000) (k : Nat) (scripts : List Script) :
    (q.numbered size k).page scripts = ((q.whole scripts).drop (k * size)).take size := by
  have start : (q.numbered size k).pageStart.toNat = k * size := by
    simp only [pageStart, numbered, Option.getD_some]
    omega
  have width : (q.numbered size k).pageSize.toNat = size := by
    simp only [pageSize, maxLimit, numbered, Option.getD_some]
    omega
  rw [page_eq, whole_numbered, start, width]

end Listing

namespace Catalog

variable {engines : EngineSet} {policy : Policy} {c : Catalog} {a : MemoryArchive} {q : Listing}
  {size : Nat}

def resolved (q : Listing) (c : Catalog) (scripts : List Script) : List Edition :=
  (scripts.filterMap fun s => c.get? s.name).filter fun e => q.accepts e.script

theorem list_numbered (pos : 1 ≤ size) (le : size ≤ 1000) (k : Nat) :
    list (q.numbered size k) c a =
      (.ok (resolved q c (((q.whole a.live).drop (k * size)).take size)), a) := by
  rw [← Listing.page_numbered pos le]
  rfl

theorem length_resolved_le (scripts : List Script) :
    (resolved q c scripts).length ≤ scripts.length :=
  Nat.le_trans (List.length_filter_le _ _) (List.length_filterMap_le _ _)

theorem resolved_flatMap {ks : List Nat} (pages : Nat → List Script) :
    (ks.flatMap fun k => resolved q c (pages k)) = resolved q c (ks.flatMap pages) := by
  simp only [resolved, List.filterMap_flatMap, List.filter_flatMap]

theorem resolved_pages (scripts : List Script) (n : Nat) :
    ((List.range n).flatMap fun k => resolved q c ((scripts.drop (k * size)).take size)) =
      resolved q c (scripts.take (n * size)) := by
  rw [resolved_flatMap, take_pieces]

namespace Coherent

variable (h : Coherent engines policy c a)
include h

theorem script_of_get? {s : Script} {e : Edition} (live : s ∈ a.live)
    (shown : c.get? s.name = some e) : e.script = s := by
  have stands : c.slot s.name = .live e := Slot.live?_eq_some.mp shown
  rw [h.slots, (MemoryArchive.mem_live h.ordered).mp live] at stands
  exact (Slot.ofRecord_eq_live.mp stands).2.1.symm

theorem scripts_sublist {scripts : List Script} (live : ∀ s ∈ scripts, s ∈ a.live) :
    ((resolved q c scripts).map (·.script)).Sublist scripts := by
  have found := Listing.map_filterMap_sublist (f := fun s => c.get? s.name)
    (g := Edition.script) (h := id) scripts fun s member _ shown =>
      h.script_of_get? (live s member) shown
  rw [List.map_id] at found
  exact (List.filter_sublist.map _).trans found

theorem mem_resolved_whole {e : Edition} :
    e ∈ resolved q c (q.whole a.live) ↔
      (∃ name, c.slot name = .live e) ∧ q.accepts e.script = true := by
  rw [resolved, List.mem_filter, List.mem_filterMap]
  refine and_congr_left fun accepted => ?_
  constructor
  · rintro ⟨s, _, shown⟩
    exact ⟨s.name, Slot.live?_eq_some.mp shown⟩
  · rintro ⟨name, live⟩
    obtain ⟨found, _⟩ := h.record_of_live live
    have title : e.script.name = name := MemoryArchive.title_of_find? h.ordered found
    subst title
    have kept : e.script ∈ a.live := (MemoryArchive.mem_live h.ordered).mpr found
    exact ⟨e.script, Listing.mem_whole.mpr ⟨kept, accepted⟩, Slot.live?_eq_some.mpr live⟩

end Coherent

/-- The pages of a listing over an archive, and what they are put together. -/
structure Paged (q : Listing) (size : Nat) (c : Catalog) (a : MemoryArchive)
    (pages : Nat → List Edition) (whole : List Edition) : Prop where
  listed : ∀ k, list (q.numbered size k) c a = (.ok (pages k), a)
  short : ∀ k, (pages k).length ≤ size
  complete : ∀ n, a.live.length ≤ n * size → (List.range n).flatMap pages = whole
  /-- The matching live editions are there, and no other ones. -/
  live : ∀ e, e ∈ whole ↔ (∃ name, c.slot name = .live e) ∧ q.accepts e.script = true
  once : (whole.map (·.script.name)).Nodup
  sorted : whole.Pairwise fun x y => q.order x.script y.script = .lt

theorem Coherent.paged (h : Coherent engines policy c a) (q : Listing) (pos : 1 ≤ size)
    (le : size ≤ 1000) : Paged q size c a
      (fun k => resolved q c (((q.whole a.live).drop (k * size)).take size))
      (resolved q c (q.whole a.live)) := by
  have live : ∀ s ∈ q.whole a.live, s ∈ a.live := fun s member =>
    (Listing.mem_whole.mp member).1
  have sublist := h.scripts_sublist (q := q) live
  have distinct := Listing.nodup_names_whole (q := q) (MemoryArchive.nodup_names_live h.ordered)
  exact {
    listed := list_numbered pos le
    short := fun k => Nat.le_trans (length_resolved_le _) (List.length_take_le _ _)
    complete := by
      intro n enough
      have length : (q.whole a.live).length ≤ a.live.length := by
        rw [(q.whole_perm a.live).length_eq]
        exact List.length_filter_le _ _
      rw [resolved_pages, List.take_of_length_le (by omega)]
    live := fun e => h.mem_resolved_whole
    once := by
      have names := distinct.sublist (sublist.map Script.name)
      rw [List.map_map] at names
      exact names
    sorted := by
      have rises := (Listing.rises_of_ranked (q.ranked_whole a.live) distinct).sublist sublist
      exact List.pairwise_map.mp rises }

theorem Paged.congr {c' : Catalog} {pages : Nat → List Edition} {whole : List Edition}
    (paged : Paged q size c a pages whole) (same : ∀ name, c'.slot name = c.slot name) :
    Paged q size c' a pages whole where
  listed k := by
    have gets : c'.get? = c.get? := funext fun name => congrArg Slot.live? (same name)
    have listed := paged.listed k
    unfold list at listed ⊢
    rw [gets]
    exact listed
  short := paged.short
  complete := paged.complete
  live e := by
    simp only [same]
    exact paged.live e
  once := paged.once
  sorted := paged.sorted

end Catalog

namespace Traffic

/-- While no call is under way the pages of any listing, however many scripts a page may have, put
together are the live editions that match, each once and in the order of the listing. -/
theorem paged_opened (calls : Nat → Call) (engines : EngineSet) (policy : Policy)
    (records : List Record) (hub : Hub) (schedule : List Nat)
    (resting : ((opened engines policy records hub).run calls schedule).Resting) :
    let m := (opened engines policy records hub).run calls schedule
    (∃ c : Catalog, ∀ name, c.slot name = m.slot name) ∧
    ∀ c : Catalog, (∀ name, c.slot name = m.slot name) →
      ∀ (q : Listing) (size : Nat), 1 ≤ size → size ≤ 1000 →
        ∃ pages whole, Catalog.Paged q size c m.archive pages whole := by
  intro m
  obtain ⟨c, a, matching, coherent⟩ := matches_coherent calls engines policy records hub schedule
  have same : m.archive = a :=
    archive_resting matching (sound_opened calls engines policy records hub schedule) resting
  refine ⟨⟨c, fun name => (matching.slots name).symm⟩, fun c' shows q size pos le => ?_⟩
  rw [same]
  refine ⟨_, _, (coherent.paged q pos le).congr fun name => ?_⟩
  exact (shows name).trans (matching.slots name)

theorem paged_opened_between :
    let engines : EngineSet :=
      ⟨[⟨.lua, fun _ => .done (), fun source _ => .done ⟨.str source, []⟩⟩]⟩
    let record (name : String) (language : Language) (deleted : Bool) : Record :=
      ⟨⟨name, "return 1", language, none, true, 0, .epoch, .epoch⟩, deleted⟩
    let records := [record "a" .lua false, record "b" .python false, record "c" .lua true,
      record "d" .lua false]
    let calls : Nat → Call := fun _ => ⟨.get "a", ⟨.epoch, fun _ _ => .done (), none⟩⟩
    let m := (opened engines ⟨true, 5000⟩ records ⟨256, [], 0⟩).run calls []
    let c := Catalog.ofRecords engines ⟨true, 5000⟩ (MemoryArchive.ofRecords records).all
    ∃ pages whole, Catalog.Paged {} 1 c m.archive pages whole ∧
      (pages 0).map (·.script.name) = ["a"] ∧ pages 1 = [] ∧
      (pages 2).map (·.script.name) = ["d"] := by
  intro engines record records calls m c
  have opening := paged_opened calls engines ⟨true, 5000⟩ records ⟨256, [], 0⟩ []
    fun _ => Or.inl rfl
  obtain ⟨pages, whole, paged⟩ := opening.2 c (fun name => (slot_ofCatalog c _ _ name).symm) {} 1
    (by decide) (by decide)
  have ranked : Listing.whole {} m.archive.live = m.archive.live.filter (Listing.accepts {}) :=
    List.mergeSort_of_pairwise (by decide +kernel)
  have page : ∀ k, pages k = Catalog.resolved {} c
      (((m.archive.live.filter (Listing.accepts {})).drop (k * 1)).take 1) := by
    intro k
    have listed := (paged.listed k).symm.trans (Catalog.list_numbered (by decide) (by decide) k)
    rw [← ranked]
    exact Except.ok.inj (congrArg Prod.fst listed)
  refine ⟨pages, whole, paged, ?_, ?_, ?_⟩
  · rw [page]
    decide +kernel
  · rw [page]
    decide +kernel
  · rw [page]
    decide +kernel

end Traffic

end ScriptHost
