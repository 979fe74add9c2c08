import Mathlib.Data.String.Basic
import ScriptHost.Proofs.ListingOrder
import ScriptHost.Proofs.Changes

/-!
A page of an archive in memory follows from what the archive keeps, and not from the order in which
it comes upon its records. Scripts with names of their own are never level, whatever the sort key,
so that they have one rising sequence; a page is a window of it, or of its reverse.
-/
namespace ScriptHost

def Time.Instant.Earlier (t u : Time.Instant) : Prop :=
  t.seconds < u.seconds ∨ t.seconds = u.seconds ∧ t.nanos < u.nanos

instance (t u : Time.Instant) : Decidable (t.Earlier u) :=
  inferInstanceAs (Decidable (_ ∨ _))

theorem Time.Instant.compare_eq_lt {t u : Time.Instant} : t.compare u = .lt ↔ t.Earlier u := by
  rw [compare, Ordering.then_eq_lt, Int.compare_eq_lt, Int.compare_eq_eq, Nat.compare_eq_lt]
  rfl

theorem Time.Instant.compare_eq_eq {t u : Time.Instant} : t.compare u = .eq ↔ t = u := by
  obtain ⟨s, n⟩ := t
  obtain ⟨s', n'⟩ := u
  rw [compare, Ordering.then_eq_eq, Int.compare_eq_eq, Nat.compare_eq_eq, Time.Instant.mk.injEq]

def SortKey.Before (key : SortKey) (a b : Script) : Prop :=
  match key with
  | .name => a.name < b.name
  | .language => a.language.tag < b.language.tag ∨ a.language = b.language ∧ a.name < b.name
  | .updatedAt =>
    a.updatedAt.Earlier b.updatedAt ∨ a.updatedAt = b.updatedAt ∧ a.name < b.name
  | .version => a.version < b.version ∨ a.version = b.version ∧ a.name < b.name

instance (key : SortKey) (a b : Script) : Decidable (key.Before a b) :=
  match key with
  | .name => inferInstanceAs (Decidable (_ < _))
  | .language | .updatedAt | .version => inferInstanceAs (Decidable (_ ∨ _))

namespace Listing

variable {q : Listing} {key : SortKey} {a b : Script} {scripts s t : List Script}
  {records : List Record}

theorem compareBy_eq_lt : compareBy key a b = .lt ↔ key.Before a b := by
  cases key with
  | name => exact compare_lt_iff_lt
  | language =>
    rw [compareBy, Ordering.then_eq_lt, compare_lt_iff_lt, compare_lt_iff_lt,
      Std.compare_eq_iff_eq]
    exact or_congr_right (and_congr_left fun _ => ⟨Language.tag_injective, congrArg _⟩)
  | updatedAt =>
    rw [compareBy, Ordering.then_eq_lt, compare_lt_iff_lt, Time.Instant.compare_eq_lt,
      Time.Instant.compare_eq_eq]
    rfl
  | version =>
    rw [compareBy, Ordering.then_eq_lt, compare_lt_iff_lt, compare_lt_iff_lt, Int.compare_eq_eq]
    rfl

theorem compareBy_eq_gt (h : key.Before a b) : compareBy key b a = .gt := by
  have swapped : compareBy key b a = (compareBy key a b).swap := Std.OrientedCmp.eq_swap
  rw [swapped, compareBy_eq_lt.mpr h]
  rfl

theorem before_asymm (h : key.Before a b) : ¬ key.Before b a := fun back => by
  have gt := compareBy_eq_gt h
  rw [compareBy_eq_lt.mpr back] at gt
  cases gt

/-- Every script that is kept, not deleted and accepted, once and in rising order. -/
structure Sequence (q : Listing) (records : List Record) (s : List Script) : Prop where
  members : ∀ x, x ∈ s ↔ ⟨x, false⟩ ∈ records ∧ q.accepts x = true
  once : s.Nodup
  rising : s.Pairwise q.orderBy.Before

theorem Sequence.unique (first : q.Sequence records s) (second : q.Sequence records t) :
    t = s := by
  have perm : t.Perm s := (List.perm_ext_iff_of_nodup second.once first.once).mpr fun x =>
    (second.members x).trans (first.members x).symm
  exact perm.eq_of_pairwise (fun x y _ _ before after => absurd after (before_asymm before))
    second.rising first.rising

def directed (q : Listing) (s : List Script) : List Script :=
  if q.descending then s.reverse else s

theorem directed_perm : (q.directed s).Perm s := by
  unfold directed
  split
  · exact s.reverse_perm
  · exact List.Perm.refl s

theorem Sequence.ranked (h : q.Sequence records s) : q.Ranked (q.directed s) := by
  unfold Ranked directed
  split
  · rename_i falls
    refine List.pairwise_reverse.mpr (h.rising.imp fun before => ?_)
    rw [order, if_pos falls, compareBy_eq_gt before]
    decide
  · rename_i rises
    refine h.rising.imp fun before => ?_
    rw [order, if_neg rises, compareBy_eq_lt.mpr before]
    decide

theorem sequence_whole (q : Listing) (distinct : (scripts.map Script.name).Nodup)
    (kept : ∀ x, x ∈ scripts ↔ ⟨x, false⟩ ∈ records) :
    q.Sequence records (({ q with descending := false } : Listing).whole scripts) where
  members x := by
    rw [mem_whole, kept]
    rfl
  once := (nodup_names_whole distinct).of_map
  rising := by
    have rises := rises_of_ranked (ranked_whole { q with descending := false } scripts)
      (nodup_names_whole distinct)
    exact rises.imp fun before => compareBy_eq_lt.mp before

theorem Sequence.whole_eq (h : q.Sequence records s)
    (distinct : (scripts.map Script.name).Nodup)
    (kept : ∀ x, x ∈ scripts ↔ ⟨x, false⟩ ∈ records) : q.whole scripts = q.directed s := by
  have once : (q.whole scripts).Nodup := (nodup_names_whole distinct).of_map
  have perm : (q.directed s).Perm (q.whole scripts) := by
    refine directed_perm.trans ((List.perm_ext_iff_of_nodup h.once once).mpr fun x => ?_)
    rw [h.members, mem_whole, kept]
  exact (eq_of_ranked h.ranked (q.ranked_whole scripts) perm (nodup_names_whole distinct)).symm

end Listing

namespace MemoryArchive

/-- What a listing shows of records with names of their own follows from the records alone: in
whatever order the archive comes upon them, the page is the same window of their one rising
sequence, or of its reverse. -/
theorem page_of_content (records : List Record)
    (distinct : (records.map (·.script.name)).Nodup) (q : Listing) :
    (ofRecords records).all.Perm records ∧
    ∃ s, q.Sequence records s ∧ (∀ t, q.Sequence records t → t = s) ∧
      ∀ a : MemoryArchive, a.all.Perm records →
        ∃ shown, Archive.page q a = (.ok shown, a) ∧
          ∀ i, shown[i]? =
            if i < (max 1 (min 1000 (q.limit.getD 100))).toNat then
              (if q.descending then s.reverse else s)[(max 0 (q.offset.getD 0)).toNat + i]?
            else none := by
  have all : (ofRecords records).all.Perm records := by
    have names : ((records.map fun r => (r.script.name, r)).map Prod.fst).Nodup := by
      rw [List.map_map]
      exact distinct
    have kept := (Named.ofList_perm names).map Prod.snd
    rw [List.map_map] at kept
    exact kept.trans (List.Perm.of_eq (List.map_id records))
  have named : ∀ {a : MemoryArchive}, a.all.Perm records → (a.live.map Script.name).Nodup :=
    fun perm => ((perm.map _).nodup_iff.mpr distinct).sublist (names_live_sublist _)
  have kept : ∀ {a : MemoryArchive}, a.all.Perm records → ∀ x, x ∈ a.live ↔ ⟨x, false⟩ ∈ records :=
    fun perm x => (mem_live_iff _).trans perm.mem_iff
  have sequence := q.sequence_whole (named all) (kept all)
  refine ⟨all, _, sequence, fun t => sequence.unique, fun a perm => ?_⟩
  refine ⟨q.page a.live, rfl, fun i => ?_⟩
  rw [Listing.page_eq, sequence.whole_eq (named perm) (kept perm), List.getElem?_take,
    List.getElem?_drop]
  rfl

theorem page_of_content_equal_versions :
    let script (name : String) (version : Int) : Script :=
      ⟨name, "return 1", .lua, none, true, version, .epoch, .epoch⟩
    let records : List Record :=
      [⟨script "c" 1, false⟩, ⟨script "a" 2, false⟩, ⟨script "b" 2, false⟩, ⟨script "d" 3, true⟩]
    let q : Listing :=
      { orderBy := .version, descending := true, limit := some (-7), offset := some 1 }
    let a : MemoryArchive := ⟨(records.map fun r => (r.script.name, r)).reverse⟩
    (records.map (·.script.name)).Nodup ∧ a.all.Perm records ∧
      Archive.page q a = (.ok [script "a" 2], a) ∧
      Archive.page q (ofRecords records) = (.ok [script "a" 2], ofRecords records) := by
  intro script records q a
  have rising : q.Sequence records [script "c" 1, script "a" 2, script "b" 2] := by
    refine ⟨fun x => ?_, by decide, by decide +kernel⟩
    have all : q.accepts x = true := rfl
    simp [records, all]
  have distinct : (records.map (·.script.name)).Nodup := by decide
  have perm : a.all.Perm records := records.reverse_perm
  obtain ⟨all, s, _, unique, shows⟩ := page_of_content records distinct q
  have shown : ∀ b : MemoryArchive, b.all.Perm records →
      Archive.page q b = (.ok [script "a" 2], b) := by
    intro b held
    obtain ⟨page, listed, window⟩ := shows b held
    rw [← unique _ rising] at window
    have content : page = [script "a" 2] := by
      refine List.ext_getElem? fun i => (window i).trans ?_
      cases i with
      | zero => rfl
      | succ i => rfl
    rw [listed, content]
  exact ⟨distinct, perm, shown a perm, shown _ all⟩

end MemoryArchive

end ScriptHost
