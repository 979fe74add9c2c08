import ScriptHost.Named

/-!
Maps whose names stand in strictly rising order. Every operation keeps the order, and in this order
a map is determined by what it finds.
-/
namespace ScriptHost.Named

variable {α β : Type}

def Sorted (m : List (String × α)) : Prop := m.Pairwise fun p q => p.1 < q.1

theorem lt_of_ne_of_not_lt {a b : String} (ne : a ≠ b) (h : ¬ a < b) : b < a := by
  by_cases lt : b < a
  · exact lt
  · exact absurd (String.le_antisymm (String.not_lt.mp lt) (String.not_lt.mp h)) ne

theorem find?_none_of_lt {name : String} {m : List (String × α)}
    (h : ∀ p ∈ m, name < p.1) : find? name m = none := by
  induction m with
  | nil => rfl
  | cons p m ih =>
    have ne : p.1 ≠ name := (String.ne_of_lt (h p List.mem_cons_self)).symm
    rw [find?, if_neg ne]
    exact ih fun q member => h q (List.mem_cons_of_mem p member)

theorem mem_of_find? {name : String} {a : α} {m : List (String × α)}
    (h : find? name m = some a) : (name, a) ∈ m := by
  induction m with
  | nil => cases h
  | cons p m ih =>
    rw [find?] at h
    split at h
    · rename_i same
      have value : p.2 = a := Option.some.inj h
      rw [← same, ← value]
      exact List.mem_cons_self
    · exact List.mem_cons_of_mem p (ih h)

theorem find?_of_mem {name : String} {a : α} {m : List (String × α)} (h : Sorted m)
    (member : (name, a) ∈ m) : find? name m = some a := by
  induction m with
  | nil => cases member
  | cons p m ih =>
    obtain ⟨below, rest⟩ := List.pairwise_cons.mp h
    rcases List.mem_cons.mp member with first | later
    · rw [← first, find?, if_pos rfl]
    · rw [find?, if_neg (String.ne_of_lt (below _ later))]
      exact ih rest later

theorem nodup_names {m : List (String × α)} (h : Sorted m) : (m.map Prod.fst).Nodup :=
  List.pairwise_map.mpr (h.imp fun lt => String.ne_of_lt lt)

theorem mem_insert {name : String} {a : α} {p : String × α} {m : List (String × α)}
    (h : p ∈ insert name a m) : p = (name, a) ∨ p ∈ m := by
  induction m with
  | nil => exact Or.inl (List.mem_singleton.mp h)
  | cons q m ih =>
    rw [insert] at h
    split at h
    · rcases List.mem_cons.mp h with new | old
      · exact Or.inl new
      · exact Or.inr (List.mem_cons_of_mem q old)
    · split at h
      · exact List.mem_cons.mp h
      · rcases List.mem_cons.mp h with first | later
        · exact Or.inr (by rw [first]; exact List.mem_cons_self)
        · exact (ih later).imp id (List.mem_cons_of_mem q)

theorem mem_erase {name : String} {p : String × α} {m : List (String × α)}
    (h : p ∈ erase name m) : p ∈ m := by
  induction m with
  | nil => exact h
  | cons q m ih =>
    rw [erase] at h
    split at h
    · exact List.mem_cons_of_mem q h
    · rcases List.mem_cons.mp h with first | later
      · rw [first]; exact List.mem_cons_self
      · exact List.mem_cons_of_mem q (ih later)

theorem sorted_insert {m : List (String × α)} (h : Sorted m) (name : String) (a : α) :
    Sorted (insert name a m) := by
  induction m with
  | nil => exact List.pairwise_singleton _ _
  | cons p m ih =>
    obtain ⟨below, rest⟩ := List.pairwise_cons.mp h
    rw [insert]
    split
    · rename_i same
      exact List.pairwise_cons.mpr ⟨fun q member => by rw [same]; exact below q member, rest⟩
    · rename_i ne
      split
      · rename_i lt
        refine List.pairwise_cons.mpr ⟨fun q member => ?_, h⟩
        rcases List.mem_cons.mp member with first | later
        · rw [first]; exact lt
        · exact String.lt_trans lt (below q later)
      · rename_i notLt
        refine List.pairwise_cons.mpr ⟨fun q member => ?_, ih rest⟩
        rcases mem_insert member with new | old
        · rw [new]; exact lt_of_ne_of_not_lt ne notLt
        · exact below q old

theorem sorted_erase {m : List (String × α)} (h : Sorted m) (name : String) :
    Sorted (erase name m) := by
  induction m with
  | nil => exact h
  | cons p m ih =>
    obtain ⟨below, rest⟩ := List.pairwise_cons.mp h
    rw [erase]
    split
    · exact rest
    · exact List.pairwise_cons.mpr ⟨fun q member => below q (mem_erase member), ih rest⟩

theorem sorted_foldl_insert {m : List (String × α)} (h : Sorted m) (pairs : List (String × α)) :
    Sorted (pairs.foldl (fun acc (k, v) => insert k v acc) m) := by
  induction pairs generalizing m with
  | nil => exact h
  | cons p pairs ih => exact ih (sorted_insert h p.1 p.2)

theorem sorted_ofList (pairs : List (String × α)) : Sorted (ofList pairs) :=
  sorted_foldl_insert List.Pairwise.nil pairs

theorem mem_foldl_insert {p : String × α} {pairs m : List (String × α)}
    (h : p ∈ pairs.foldl (fun acc (k, v) => insert k v acc) m) : p ∈ m ∨ p ∈ pairs := by
  induction pairs generalizing m with
  | nil => exact Or.inl h
  | cons q pairs ih =>
    rcases ih h with inserted | later
    · rcases mem_insert inserted with new | old
      · exact Or.inr (by rw [new]; exact List.mem_cons_self)
      · exact Or.inl old
    · exact Or.inr (List.mem_cons_of_mem q later)

theorem mem_ofList {p : String × α} {pairs : List (String × α)} (h : p ∈ ofList pairs) :
    p ∈ pairs := by
  rcases mem_foldl_insert h with empty | member
  · cases empty
  · exact member

theorem find?_erase_self {m : List (String × α)} (h : Sorted m) (name : String) :
    find? name (erase name m) = none := by
  induction m with
  | nil => rfl
  | cons p m ih =>
    obtain ⟨below, rest⟩ := List.pairwise_cons.mp h
    rw [erase]
    split
    · rename_i same
      exact find?_none_of_lt fun q member => by rw [← same]; exact below q member
    · rename_i ne
      rw [find?, if_neg ne]
      exact ih rest

theorem find?_insertAll (name : String) (pairs m : List (String × α)) :
    find? name (pairs.foldl (fun acc (k, v) => insert k v acc) m) =
      (find? name (ofList pairs)).or (find? name m) := by
  induction pairs generalizing m with
  | nil => rfl
  | cons p pairs ih =>
    -- Both folds go on from maps with the first pair, to which the later pairs are inserted alike.
    have front : find? name (insert p.1 p.2 m) =
        (find? name (insert p.1 p.2 [])).or (find? name m) := by
      by_cases same : name = p.1
      · subst same
        rw [find?_insert_self, find?_insert_self]
        rfl
      · rw [find?_insert_of_ne same, find?_insert_of_ne same]
        rfl
    have all : ofList (p :: pairs) =
      pairs.foldl (fun acc (k, v) => insert k v acc) (insert p.1 p.2 []) := rfl
    rw [List.foldl_cons, all, ih, ih (insert p.1 p.2 []), front, Option.or_assoc]

theorem eq_of_find? {a b : List (String × α)} (ha : Sorted a) (hb : Sorted b)
    (same : ∀ name, find? name a = find? name b) : a = b := by
  induction a generalizing b with
  | nil =>
    cases b with
    | nil => rfl
    | cons q b => have h := same q.1; simp [find?] at h
  | cons p a ih =>
    cases b with
    | nil => have h := same p.1; simp [find?] at h
    | cons q b =>
      obtain ⟨belowA, restA⟩ := List.pairwise_cons.mp ha
      obtain ⟨belowB, restB⟩ := List.pairwise_cons.mp hb
      have keys : p.1 = q.1 := by
        by_cases eq : p.1 = q.1
        · exact eq
        · by_cases lt : p.1 < q.1
          · have none : find? p.1 (q :: b) = none := find?_none_of_lt fun r member => by
              rcases List.mem_cons.mp member with first | later
              · rw [first]; exact lt
              · exact String.lt_trans lt (belowB r later)
            have h := same p.1
            rw [none] at h
            simp [find?] at h
          · have gt := lt_of_ne_of_not_lt eq lt
            have none : find? q.1 (p :: a) = none := find?_none_of_lt fun r member => by
              rcases List.mem_cons.mp member with first | later
              · rw [first]; exact gt
              · exact String.lt_trans gt (belowA r later)
            have h := same q.1
            rw [none] at h
            simp [find?] at h
      have values : p.2 = q.2 := by
        have h := same p.1
        simpa [find?, keys] using h
      have tails : a = b := by
        refine ih restA restB fun name => ?_
        by_cases eq : p.1 = name
        · have noneA : find? name a = none :=
            find?_none_of_lt fun r member => by rw [← eq]; exact belowA r member
          have noneB : find? name b = none :=
            find?_none_of_lt fun r member => by rw [← eq, keys]; exact belowB r member
          rw [noneA, noneB]
        · have h := same name
          rwa [find?, if_neg eq, find?, if_neg (by rwa [← keys])] at h
      rw [tails, Prod.ext keys values]

def mapValues (f : String → α → β) (m : List (String × α)) : List (String × β) :=
  m.map fun p => (p.1, f p.1 p.2)

theorem find?_mapValues (f : String → α → β) (name : String) (m : List (String × α)) :
    find? name (mapValues f m) = (find? name m).map (f name) := by
  induction m with
  | nil => rfl
  | cons p m ih =>
    rw [mapValues, List.map_cons, find?, find?]
    split
    · rename_i same
      rw [same]
      rfl
    · exact ih

theorem sorted_mapValues (f : String → α → β) {m : List (String × α)} (h : Sorted m) :
    Sorted (mapValues f m) := List.pairwise_map.mpr h

theorem insert_last {m : List (String × α)} {name : String} (a : α)
    (h : ∀ p ∈ m, p.1 < name) : insert name a m = m ++ [(name, a)] := by
  induction m with
  | nil => rfl
  | cons p m ih =>
    have lt := h p List.mem_cons_self
    rw [insert, if_neg (String.ne_of_lt lt).symm, if_neg (String.lt_asymm lt),
      ih fun q member => h q (List.mem_cons_of_mem p member)]
    rfl

theorem foldl_insert_sorted {front rest : List (String × α)} (h : Sorted (front ++ rest)) :
    rest.foldl (fun acc (k, v) => insert k v acc) front = front ++ rest := by
  induction rest generalizing front with
  | nil => exact (List.append_nil front).symm
  | cons p rest ih =>
    have below : ∀ q ∈ front, q.1 < p.1 := fun q member =>
      (List.pairwise_append.mp h).2.2 q member p List.mem_cons_self
    have next : insert p.1 p.2 front = front ++ [p] := insert_last p.2 below
    change rest.foldl _ (insert p.1 p.2 front) = _
    rw [next, ih (by simpa using h)]
    simp

theorem ofList_sorted {m : List (String × α)} (h : Sorted m) : ofList m = m :=
  foldl_insert_sorted h

theorem insert_perm {name : String} (a : α) {m : List (String × α)}
    (free : name ∉ m.map Prod.fst) : (insert name a m).Perm ((name, a) :: m) := by
  induction m with
  | nil => exact List.Perm.refl _
  | cons p m ih =>
    obtain ⟨ne, rest⟩ := not_or.mp fun member => free (List.mem_cons.mpr member)
    rw [insert, if_neg ne]
    split
    · exact List.Perm.refl _
    · exact ((ih rest).cons p).trans (List.Perm.swap (name, a) p m)

theorem foldl_insert_perm {pairs m : List (String × α)}
    (distinct : ((m ++ pairs).map Prod.fst).Nodup) :
    (pairs.foldl (fun acc (k, v) => insert k v acc) m).Perm (m ++ pairs) := by
  induction pairs generalizing m with
  | nil =>
    rw [List.append_nil]
    exact List.Perm.refl m
  | cons p pairs ih =>
    have middle : (m ++ p :: pairs).Perm (p :: m ++ pairs) := List.perm_middle
    have names := (middle.map Prod.fst).nodup_iff.mp distinct
    have front : (m.map Prod.fst).Sublist ((m ++ pairs).map Prod.fst) :=
      (List.sublist_append_left m pairs).map Prod.fst
    have free : p.1 ∉ m.map Prod.fst := fun member =>
      (List.nodup_cons.mp names).1 (front.subset member)
    have next := (insert_perm p.2 free).append_right pairs
    exact ((ih ((next.map Prod.fst).nodup_iff.mpr names)).trans next).trans middle.symm

theorem ofList_perm {pairs : List (String × α)} (distinct : (pairs.map Prod.fst).Nodup) :
    (ofList pairs).Perm pairs := foldl_insert_perm distinct

end ScriptHost.Named
