/-!
White space, as Unicode defines it, and the text left when it is cut from both ends.
-/
namespace ScriptHost.Text

/-- The characters with the Unicode property White_Space. -/
def isBlank (c : Char) : Bool :=
  let n := c.toNat
  (0x09 ≤ n && n ≤ 0x0D) || n == 0x20 || n == 0x85 || n == 0xA0 || n == 0x1680
    || (0x2000 ≤ n && n ≤ 0x200A) || n == 0x2028 || n == 0x2029 || n == 0x202F
    || n == 0x205F || n == 0x3000

def trimStart (cs : List Char) : List Char := cs.dropWhile isBlank

def trimEnd (cs : List Char) : List Char := (cs.reverse.dropWhile isBlank).reverse

def trimBoth (cs : List Char) : List Char := trimEnd (trimStart cs)

def trim (s : String) : String := String.ofList (trimBoth s.toList)

def trimRight (s : String) : String := String.ofList (trimEnd s.toList)

def blank (s : String) : Bool := s.toList.all isBlank

def lower (s : String) : String := s.map Char.toLower

def upper (s : String) : String := s.map Char.toUpper

def startsWith (s front : String) : Bool := front.toList.isPrefixOf s.toList

def afterStart? (s front : String) : Option String :=
  if startsWith s front then some (String.ofList (s.toList.drop front.length)) else none

def occurs (part : List Char) : List Char → Bool
  | [] => part.isEmpty
  | c :: cs => part.isPrefixOf (c :: cs) || occurs part cs

def contains (s part : String) : Bool := occurs part.toList s.toList

def splitChars (sep : Char) : List Char → List (List Char)
  | [] => [[]]
  | c :: cs =>
    if c = sep then [] :: splitChars sep cs
    else match splitChars sep cs with
      | [] => [[c]]
      | piece :: more => (c :: piece) :: more

def splitOn (s : String) (sep : Char) : List String :=
  (splitChars sep s.toList).map String.ofList

/-- The lines of a text: a newline ends a line, the last one need not have it, and a carriage
return before the newline belongs to the line's end. -/
def lines (s : String) : List String :=
  let pieces := splitChars '\n' s.toList
  let kept := if pieces.getLast? = some [] then pieces.dropLast else pieces
  let cut (i : Nat) (cs : List Char) : List Char :=
    if i + 1 < pieces.length && cs.getLast? = some '\r' then cs.dropLast else cs
  (kept.zipIdx.map fun (cs, i) => String.ofList (cut i cs))

theorem all_trimStart (cs : List Char) : (trimStart cs).all isBlank = cs.all isBlank := by
  induction cs with
  | nil => rfl
  | cons c cs ih =>
    rw [trimStart, List.dropWhile_cons]
    split
    · rename_i space
      rw [List.all_cons, space, Bool.true_and]
      exact ih
    · rfl

theorem all_trimEnd (cs : List Char) : (trimEnd cs).all isBlank = cs.all isBlank := by
  have start := all_trimStart cs.reverse
  rw [List.all_reverse] at start
  rw [trimEnd, List.all_reverse]
  exact start

theorem all_trimBoth (cs : List Char) : (trimBoth cs).all isBlank = cs.all isBlank :=
  (all_trimEnd _).trans (all_trimStart cs)

/-- The one text is the other without the white space at its two ends. -/
def Trims (cs core : List Char) : Prop :=
  ∃ before after, cs = before ++ core ++ after ∧ before.all isBlank = true ∧
    after.all isBlank = true ∧ (∀ c ∈ core.head?, isBlank c = false) ∧
    ∀ c ∈ core.getLast?, isBlank c = false

theorem trimStart_append {before : List Char} (h : before.all isBlank = true) (cs : List Char) :
    trimStart (before ++ cs) = trimStart cs :=
  List.dropWhile_append_of_pos (List.all_eq_true.mp h)

theorem trimEnd_append {after : List Char} (h : after.all isBlank = true) (cs : List Char) :
    trimEnd (cs ++ after) = trimEnd cs := by
  have turned : after.reverse.all isBlank = true := by rwa [List.all_reverse]
  have same := trimStart_append turned cs.reverse
  unfold trimStart at same
  rw [trimEnd, List.reverse_append, same, trimEnd]

theorem trimStart_of_solid {cs : List Char} (h : ∀ c ∈ cs.head?, isBlank c = false) :
    trimStart cs = cs := by
  cases cs with
  | nil => rfl
  | cons c cs =>
    rw [trimStart, List.dropWhile_cons, if_neg (by rw [h c rfl]; exact Bool.false_ne_true)]

theorem trimEnd_of_solid {cs : List Char} (h : ∀ c ∈ cs.getLast?, isBlank c = false) :
    trimEnd cs = cs := by
  have same : trimStart cs.reverse = cs.reverse :=
    trimStart_of_solid (by rwa [List.head?_reverse])
  unfold trimStart at same
  rw [trimEnd, same, List.reverse_reverse]

theorem solid_trimStart (cs : List Char) : ∀ c ∈ (trimStart cs).head?, isBlank c = false := by
  intro c first
  have solid := List.head?_dropWhile_not isBlank cs
  rw [show (cs.dropWhile isBlank).head? = some c from first] at solid
  exact solid

theorem trimStart_trimStart (cs : List Char) : trimStart (trimStart cs) = trimStart cs :=
  trimStart_of_solid (solid_trimStart cs)

theorem trimEnd_trimEnd (cs : List Char) : trimEnd (trimEnd cs) = trimEnd cs := by
  have again := trimStart_trimStart cs.reverse
  unfold trimStart at again
  unfold trimEnd
  rw [List.reverse_reverse, again]

theorem trimStart_trimEnd {cs : List Char} (h : trimStart cs = cs) :
    trimStart (trimEnd cs) = trimEnd cs := by
  cases cs with
  | nil => rfl
  | cons c cs =>
    have solid : isBlank c = false := by
      by_cases space : isBlank c = true
      · rw [trimStart, List.dropWhile_cons, if_pos space] at h
        have shorter := congrArg List.length h
        have bound := (List.dropWhile_suffix (l := cs) isBlank).length_le
        simp only [List.length_cons] at shorter
        omega
      · exact Bool.eq_false_iff.mpr space
    have kept : trimEnd (c :: cs) = c :: trimEnd cs := by
      unfold trimEnd
      rw [List.reverse_cons, List.dropWhile_append]
      split
      · rename_i empty
        rw [List.isEmpty_iff.mp empty]
        simp [solid]
      · simp
    rw [kept, trimStart, List.dropWhile_cons, if_neg (by rw [solid]; exact Bool.false_ne_true)]

theorem trimBoth_trimBoth (cs : List Char) : trimBoth (trimBoth cs) = trimBoth cs := by
  have start := trimStart_trimEnd (trimStart_trimStart cs)
  unfold trimBoth
  rw [start, trimEnd_trimEnd]

theorem trimStart_eq_append (cs : List Char) :
    ∃ before, cs = before ++ trimStart cs ∧ before.all isBlank = true :=
  ⟨cs.takeWhile isBlank, List.takeWhile_append_dropWhile.symm, List.all_takeWhile⟩

theorem trimEnd_eq_append (cs : List Char) :
    ∃ after, cs = trimEnd cs ++ after ∧ after.all isBlank = true := by
  obtain ⟨before, same, blank⟩ := trimStart_eq_append cs.reverse
  refine ⟨before.reverse, ?_, by rwa [List.all_reverse]⟩
  have turned := congrArg List.reverse same
  rwa [List.reverse_reverse, List.reverse_append] at turned

theorem trims_trimBoth (cs : List Char) : Trims cs (trimBoth cs) := by
  obtain ⟨before, front, blank⟩ := trimStart_eq_append cs
  obtain ⟨after, back, blank'⟩ := trimEnd_eq_append (trimStart cs)
  refine ⟨before, after, ?_, blank, blank', ?_, ?_⟩
  · rw [List.append_assoc, trimBoth, ← back, ← front]
  · have start := trimStart_trimEnd (trimStart_trimStart cs)
    rw [trimBoth, ← start]
    exact solid_trimStart _
  · have turned : (trimBoth cs).getLast? = (trimStart (trimStart cs).reverse).head? := by
      rw [trimBoth, trimEnd, List.getLast?_reverse]
      rfl
    rw [turned]
    exact solid_trimStart _

theorem trimBoth_eq_iff {cs core : List Char} : trimBoth cs = core ↔ Trims cs core := by
  constructor
  · intro same
    rw [← same]
    exact trims_trimBoth cs
  · rintro ⟨before, after, rfl, blank, blank', first, last⟩
    rw [List.append_assoc, trimBoth, trimStart_append blank]
    cases core with
    | nil =>
      have nothing : trimStart after = [] := by
        rw [← List.append_nil after, trimStart_append blank']
        rfl
      rw [List.nil_append, nothing]
      rfl
    | cons c core =>
      have solid : trimStart (c :: core ++ after) = c :: core ++ after :=
        trimStart_of_solid first
      rw [solid, trimEnd_append blank', trimEnd_of_solid last]

theorem trim_eq_iff {s t : String} : trim s = t ↔ Trims s.toList t.toList := by
  rw [← trimBoth_eq_iff, trim, ← String.toList_inj, String.toList_ofList]

theorem trim_trim (s : String) : trim (trim s) = trim s := by
  simp only [trim, String.toList_ofList, trimBoth_trimBoth]

theorem blank_trim (s : String) : blank (trim s) = blank s := by
  simp only [trim, blank, String.toList_ofList, all_trimBoth]

end ScriptHost.Text
