import Mathlib.Data.List.Nodup
import Mathlib.Order.Compare
import ScriptHost.Archive.Basic

/-!
The order of a listing. Names decide between scripts that are equal by the sort key, so that scripts
with names of their own have one order only, however they stood before.
-/
namespace ScriptHost.Listing

variable {key : SortKey} {q : Listing} {a b : Script} {scripts rows : List Script}

instance transCmp_compareBy (key : SortKey) : Std.TransCmp (compareBy key) := by
  cases key with
  | name => exact inferInstanceAs (Std.TransCmp (compareOn Script.name))
  | language =>
    exact inferInstanceAs (Std.TransCmp
      (compareLex (compareOn fun s : Script => s.language.tag) (compareOn Script.name)))
  | updatedAt =>
    exact inferInstanceAs (Std.TransCmp
      (compareLex (compareLex (compareOn fun s : Script => s.updatedAt.seconds)
        (compareOn fun s : Script => s.updatedAt.nanos)) (compareOn Script.name)))
  | version =>
    exact inferInstanceAs (Std.TransCmp (compareLex (compareOn Script.version)
      (compareOn Script.name)))

instance transCmp_order (q : Listing) : Std.TransCmp q.order := by
  cases falls : q.descending with
  | false =>
    have same : q.order = compareBy q.orderBy := by
      funext a b
      simp only [order, falls, if_neg Bool.false_ne_true]
    rw [same]
    infer_instance
  | true =>
    have same : q.order = fun a b => compareBy q.orderBy b a := by
      funext a b
      simp only [order, falls, if_true]
      exact Std.OrientedCmp.eq_swap.symm
    rw [same]
    exact Std.TransCmp.opposite

theorem name_of_compareBy (same : compareBy key a b = .eq) : a.name = b.name := by
  cases key with
  | name => exact Std.LawfulEqOrd.eq_of_compare same
  | language | updatedAt | version =>
    exact Std.LawfulEqOrd.eq_of_compare (Ordering.then_eq_eq.mp same).2

theorem name_of_order (same : q.order a b = .eq) : a.name = b.name := by
  unfold order at same
  split at same
  · exact name_of_compareBy (by simpa using same)
  · exact name_of_compareBy same

theorem map_filterMap_sublist {α β γ : Type} {f : α → Option β} {g : β → γ} {h : α → γ}
    (xs : List α) (same : ∀ x ∈ xs, ∀ y, f x = some y → g y = h x) :
    ((xs.filterMap f).map g).Sublist (xs.map h) := by
  induction xs with
  | nil => exact List.Sublist.slnil
  | cons x xs ih =>
    have rest := ih fun x' member => same x' (List.mem_cons_of_mem x member)
    cases found : f x with
    | none =>
      rw [List.filterMap_cons_none found]
      exact rest.cons (h x)
    | some y =>
      rw [List.filterMap_cons_some found, List.map_cons, same x List.mem_cons_self y found]
      exact rest.cons_cons (h x)

def Ranked (q : Listing) (scripts : List Script) : Prop :=
  scripts.Pairwise fun a b => q.order a b ≠ .gt

def whole (q : Listing) (scripts : List Script) : List Script :=
  (scripts.filter q.accepts).mergeSort fun a b => q.order a b != .gt

theorem page_eq (q : Listing) (scripts : List Script) :
    q.page scripts = ((q.whole scripts).drop q.pageStart.toNat).take q.pageSize.toNat := rfl

theorem ranked_whole (q : Listing) (scripts : List Script) : q.Ranked (q.whole scripts) := by
  have rises : ∀ {a b}, (q.order a b != .gt) = (q.order a b).isLE := by
    intro a b
    cases q.order a b <;> rfl
  refine (List.pairwise_mergeSort ?_ ?_ _).imp fun le => by simpa using le
  · intro a b c first second
    rw [rises] at first second ⊢
    exact Std.TransCmp.isLE_trans first second
  · intro a b
    have turned : q.order b a = (q.order a b).swap := Std.OrientedCmp.eq_swap
    rw [rises, rises, turned]
    cases q.order a b <;> rfl

theorem whole_perm (q : Listing) (scripts : List Script) :
    (q.whole scripts).Perm (scripts.filter q.accepts) := List.mergeSort_perm _ _

theorem eq_of_ranked {scripts rows : List Script} (first : q.Ranked rows)
    (second : q.Ranked scripts) (perm : rows.Perm scripts)
    (distinct : (scripts.map Script.name).Nodup) : rows = scripts := by
  refine perm.eq_of_pairwise ?_ first second
  intro a b here there before after
  have equal : q.order a b = .eq :=
    Std.OrientedCmp.isLE_antisymm (Ordering.isLE_iff_ne_gt.mpr before)
      (Ordering.isLE_iff_ne_gt.mpr after)
  exact List.inj_on_of_nodup_map distinct (perm.subset here) there (name_of_order equal)

theorem rises_of_ranked (ranked : q.Ranked scripts)
    (distinct : (scripts.map Script.name).Nodup) :
    scripts.Pairwise fun a b => q.order a b = .lt := by
  refine (List.Pairwise.and ranked (List.pairwise_map.mp distinct)).imp ?_
  rintro a b ⟨le, other⟩
  cases compared : q.order a b with
  | lt => rfl
  | eq => exact absurd (name_of_order compared) other
  | gt => exact absurd compared le

theorem mem_whole {s : Script} :
    s ∈ q.whole scripts ↔ s ∈ scripts ∧ q.accepts s = true := by
  rw [(q.whole_perm scripts).mem_iff, List.mem_filter]

theorem nodup_names_whole (distinct : (scripts.map Script.name).Nodup) :
    ((q.whole scripts).map Script.name).Nodup :=
  ((q.whole_perm scripts).map _).nodup_iff.mpr (distinct.sublist (List.filter_sublist.map _))

theorem nodup_names_page (distinct : (scripts.map Script.name).Nodup) :
    ((q.page scripts).map Script.name).Nodup :=
  (nodup_names_whole distinct).sublist
    (((List.take_sublist _ _).trans (List.drop_sublist _ _)).map _)

theorem length_page_le (q : Listing) (scripts : List Script) :
    (q.page scripts).length ≤ q.pageSize.toNat := List.length_take_le _ _

end ScriptHost.Listing
