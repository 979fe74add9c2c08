/-!
Finite maps from names to values: lists of pairs in the order of the names, each name once.
-/
namespace ScriptHost.Named

variable {α : Type}

def find? (name : String) : List (String × α) → Option α
  | [] => none
  | (k, v) :: rest => if k = name then some v else find? name rest

/-- Puts a pair at its place in the order of names, instead of an older one with its name. -/
def insert (name : String) (value : α) : List (String × α) → List (String × α)
  | [] => [(name, value)]
  | (k, v) :: rest =>
    if name = k then (name, value) :: rest
    else if name < k then (name, value) :: (k, v) :: rest
    else (k, v) :: insert name value rest

def erase (name : String) : List (String × α) → List (String × α)
  | [] => []
  | (k, v) :: rest => if k = name then rest else (k, v) :: erase name rest

def ofList (pairs : List (String × α)) : List (String × α) :=
  pairs.foldl (fun acc (k, v) => insert k v acc) []

theorem find?_insert_self (name : String) (value : α) (m : List (String × α)) :
    find? name (insert name value m) = some value := by
  induction m with
  | nil => simp [insert, find?]
  | cons p m ih =>
    obtain ⟨k, v⟩ := p
    by_cases h : name = k
    · simp [insert, find?, h]
    · by_cases hlt : name < k
      · simp [insert, find?, h, hlt]
      · simp [insert, find?, h, hlt, ih, Ne.symm h]

theorem find?_insert_of_ne {name other : String} (h : other ≠ name) (value : α)
    (m : List (String × α)) : find? other (insert name value m) = find? other m := by
  induction m with
  | nil => simp [insert, find?, Ne.symm h]
  | cons p m ih =>
    obtain ⟨k, v⟩ := p
    by_cases hk : name = k
    · subst hk; simp [insert, find?, Ne.symm h]
    · by_cases hlt : name < k
      · simp [insert, find?, hk, hlt, Ne.symm h]
      · simp [insert, find?, hk, hlt, ih]

theorem find?_erase_of_ne {name other : String} (h : other ≠ name) (m : List (String × α)) :
    find? other (erase name m) = find? other m := by
  induction m with
  | nil => rfl
  | cons p m ih =>
    obtain ⟨k, v⟩ := p
    by_cases hk : k = name
    · subst hk; simp [erase, find?, Ne.symm h]
    · simp [erase, find?, hk, ih]

end ScriptHost.Named
