import Mathlib.Data.List.Forall2
import ScriptHost.Proofs.AdmissionRules
import ScriptHost.Settings

/-!
What the texts of settings say: lists with commas between their entries, numbers in decimal digits,
each perhaps with white space around it. Reading them yields what they say and nothing else.
-/
namespace ScriptHost

namespace Text

structure Separates (sep : Char) (cs : List Char) (pieces : List (List Char)) : Prop where
  whole : [sep].intercalate pieces = cs
  nonempty : pieces ≠ []
  apart : ∀ piece ∈ pieces, sep ∉ piece

theorem splitChars_eq_splitOn (sep : Char) (cs : List Char) :
    splitChars sep cs = cs.splitOn sep := by
  induction cs with
  | nil => rfl
  | cons c cs ih =>
    rw [splitChars, List.splitOn_cons_eq_if_modifyHead, ih]
    by_cases same : c = sep
    · rw [if_pos same, if_pos (beq_iff_eq.mpr same)]
    · rw [if_neg same, if_neg (by simpa using same)]
      cases pieces : cs.splitOn sep with
      | nil => exact absurd pieces (List.splitOn_ne_nil _ _)
      | cons piece more => rfl

theorem not_mem_of_mem_splitChars (sep : Char) (cs : List Char) :
    ∀ piece ∈ splitChars sep cs, sep ∉ piece := by
  induction cs with
  | nil => simp [splitChars]
  | cons c cs ih =>
    rw [splitChars]
    split
    · rintro piece (_ | ⟨_, member⟩)
      · exact List.not_mem_nil
      · exact ih piece member
    · rename_i other
      cases pieces : splitChars sep cs with
      | nil => simp [Ne.symm other]
      | cons first more =>
        rw [pieces] at ih
        rintro piece (_ | ⟨_, member⟩)
        · rw [List.mem_cons]
          rintro (same | inside)
          · exact other same.symm
          · exact ih first List.mem_cons_self inside
        · exact ih piece (List.mem_cons_of_mem _ member)

theorem splitChars_eq_iff {sep : Char} {cs : List Char} {pieces : List (List Char)} :
    splitChars sep cs = pieces ↔ Separates sep cs pieces := by
  constructor
  · rintro rfl
    refine ⟨?_, ?_, not_mem_of_mem_splitChars sep cs⟩ <;> rw [splitChars_eq_splitOn]
    · exact List.intercalate_splitOn sep
    · exact List.splitOn_ne_nil sep cs
  · rintro ⟨rfl, nonempty, apart⟩
    rw [splitChars_eq_splitOn]
    exact List.splitOn_intercalate sep apart nonempty

theorem forall₂_trims {pieces cores : List (List Char)} :
    List.Forall₂ Trims pieces cores ↔ pieces.map trimBoth = cores := by
  induction pieces generalizing cores with
  | nil => simp [eq_comm]
  | cons piece pieces ih =>
    simp only [List.forall₂_cons_left_iff, ← trimBoth_eq_iff, ih, List.map_cons]
    constructor
    · rintro ⟨_, _, rfl, rfl, rfl⟩
      rfl
    · rintro rfl
      exact ⟨_, _, rfl, rfl, rfl⟩

/-- The entries of a list with commas between them: the pieces without the white space around them,
those left out of which nothing remains. -/
def Lists (raw : String) (items : List String) : Prop :=
  ∃ pieces cores, Separates ',' raw.toList pieces ∧ List.Forall₂ Trims pieces cores ∧
    items.map String.toList = cores.filter (· ≠ [])

def Writes (cs : List Char) (n : Nat) : Prop :=
  ∃ digits, (cs = digits ∨ cs = '+' :: digits) ∧ digits ≠ [] ∧ digits.all isDecimal = true ∧
    Nat.ofDigitChars 10 digits 0 = n

theorem isDecimal_iff {c : Char} : isDecimal c = true ↔ 48 ≤ c.toNat ∧ c.toNat ≤ 57 := by
  rw [isDecimal, Bool.and_eq_true, decide_eq_true_eq, decide_eq_true_eq]
  exact Iff.rfl

/-- Digits are added to what stands before them as long as the sum is within the bound. Sums only
grow, so the last one is within it exactly when all are. -/
theorem accumulate_eq_ok_iff {high n m : Nat} (bound : n ≤ high) {cs : List Char} :
    (accumulate false 0 high n cs).map Int.toNat = .ok m ↔
      cs.all isDecimal = true ∧ Nat.ofDigitChars 10 cs n = m ∧ m ≤ high := by
  induction cs generalizing n with
  | nil =>
    simp only [accumulate, Except.map, Except.ok.injEq, Int.toNat_natCast, List.all_nil,
      Nat.ofDigitChars_nil, true_and]
    omega
  | cons c cs ih =>
    by_cases digit : isDecimal c = true
    · have range := isDecimal_iff.mp digit
      have sum : (n : Int) * 10 + ((c.toNat : Int) - 48) =
          ((10 * n + (c.toNat - '0'.toNat) : Nat) : Int) := by
        have zero : '0'.toNat = 48 := rfl
        omega
      simp only [accumulate, digit, if_true, Bool.false_eq_true, if_false, sum, List.all_cons,
        Bool.true_and, Nat.ofDigitChars_cons]
      by_cases exceeds : high < 10 * n + (c.toNat - '0'.toNat)
      · rw [if_pos (Int.ofNat_lt.mpr exceeds)]
        have least := le_ofDigitChars cs (10 * n + (c.toNat - '0'.toNat))
        refine iff_of_false nofun ?_
        rintro ⟨_, rfl, within⟩
        omega
      · rw [if_neg (mt Int.ofNat_lt.mp exceeds), if_neg (by omega)]
        exact ih (Nat.le_of_not_lt exceeds)
    · simp [accumulate, digit, Except.map]

theorem writes_digits {cs : List Char} {n : Nat} (unsigned : cs.head? ≠ some '+') :
    Writes cs n ↔ cs ≠ [] ∧ cs.all isDecimal = true ∧ Nat.ofDigitChars 10 cs 0 = n := by
  constructor
  · rintro ⟨digits, rfl | rfl, written⟩
    · exact written
    · exact absurd rfl unsigned
  · intro written
    exact ⟨cs, Or.inl rfl, written⟩

theorem writes_plus {cs : List Char} {n : Nat} :
    Writes ('+' :: cs) n ↔ cs ≠ [] ∧ cs.all isDecimal = true ∧ Nat.ofDigitChars 10 cs 0 = n := by
  constructor
  · rintro ⟨digits, rfl | same, written⟩
    · exact absurd (List.all_eq_true.mp written.2.1 '+' List.mem_cons_self) (by decide)
    · cases same
      exact written
  · intro written
    exact ⟨cs, Or.inr rfl, written⟩

theorem not_writes_minus (cs : List Char) (n : Nat) : ¬ Writes ('-' :: cs) n := by
  rintro ⟨digits, rfl | same, written⟩
  · exact absurd (List.all_eq_true.mp written.2.1 '-' List.mem_cons_self) (by decide)
  · cases same

theorem natural?_eq_ok_iff {bits n : Nat} {s : String} :
    natural? bits s = .ok n ↔ Writes s.toList n ∧ n < twoTo bits := by
  have positive : 0 < twoTo bits := Nat.two_pow_pos bits
  have top : (twoTo bits : Int) - 1 = ((twoTo bits - 1 : Nat) : Int) := by omega
  have least : n ≤ twoTo bits - 1 ↔ n < twoTo bits := by omega
  have digits (cs : List Char) (some : cs ≠ []) :
      (accumulate false 0 (twoTo bits - 1 : Nat) 0 cs).map Int.toNat = .ok n ↔
        (cs ≠ [] ∧ cs.all isDecimal = true ∧ Nat.ofDigitChars 10 cs 0 = n) ∧ n < twoTo bits := by
    refine (accumulate_eq_ok_iff (Nat.zero_le _)).trans ?_
    rw [least, and_iff_right some, and_assoc]
  rw [natural?, integer?, top]
  split
  · rename_i text
    rw [text, writes_digits (by simp)]
    exact iff_of_false nofun fun written => written.1.1 rfl
  · rename_i text
    rw [text, writes_plus]
    exact iff_of_false nofun fun written => written.1.1 rfl
  · rename_i text
    exact iff_of_false nofun fun written => not_writes_minus _ _ (text ▸ written.1)
  · rename_i some text
    rw [text, writes_plus]
    exact digits _ some
  · rename_i text
    rw [if_neg (by omega)]
    exact iff_of_false nofun fun written => not_writes_minus _ _ (text ▸ written.1)
  · rename_i empty _ _ plus _
    rw [writes_digits, digits _ empty]
    intro sign
    obtain ⟨cs, text⟩ := List.head?_eq_some_iff.mp sign
    exact plus cs text

end Text

theorem mapM_eq_ok_iff {α β ε : Type} {read : α → Except ε β} {xs : List α} {ys : List β} :
    xs.mapM read = .ok ys ↔ List.Forall₂ (fun x y => read x = .ok y) xs ys := by
  induction xs generalizing ys with
  | nil =>
    rw [List.mapM_nil, List.forall₂_nil_left_iff]
    exact ⟨fun same => (Except.ok.inj same).symm, fun same => same ▸ rfl⟩
  | cons x xs ih =>
    simp only [List.mapM_cons, List.forall₂_cons_left_iff, ← ih]
    cases read x <;> cases xs.mapM read <;>
      simp [bind, Except.bind, pure, Except.pure, eq_comm]

namespace Settings

open Text

theorem toList_entries (raw : String) :
    (entries raw).map String.toList =
      ((splitChars ',' raw.toList).map trimBoth).filter (· ≠ []) := by
  have kept (cs : List Char) : (!(String.ofList cs).isEmpty) = decide (cs ≠ []) := by
    cases cs <;> simp
  simp only [entries, splitOn, List.map_map, List.filter_map, Function.comp_def, trim,
    String.toList_ofList, kept]

theorem entries_eq_iff {raw : String} {items : List String} :
    entries raw = items ↔ Text.Lists raw items := by
  rw [← List.map_inj_right fun _ _ => String.toList_inj.mp]
  simp only [toList_entries, Text.Lists, forall₂_trims, ← splitChars_eq_iff, exists_and_left,
    exists_eq_left']
  exact eq_comm

theorem natural_eq_ok_iff {bits n : Nat} {key raw : String} :
    natural bits key raw = .ok n ↔
      ∃ core, Trims raw.toList core ∧ Writes core n ∧ n < twoTo bits := by
  have read : natural bits key raw = .ok n ↔ natural? bits (trim raw) = .ok n := by
    rw [natural, reading]
    cases natural? bits (trim raw) <;> simp
  simp only [read, natural?_eq_ok_iff, trim, String.toList_ofList, ← trimBoth_eq_iff,
    exists_eq_left']

def Says (look : String → Option String) (key default : String) (n : Nat) : Prop :=
  ∃ core, Trims ((look key).getD default).toList core ∧ Writes core n ∧ n < twoTo 64

theorem checkOrigin_eq_ok_iff {origin read : String} :
    checkOrigin origin = .ok read ↔ read = origin ∧ origin.toList.all headerChar = true := by
  rw [checkOrigin]
  split <;> simp [*, eq_comm]

theorem mapM_checkOrigin_eq_ok_iff {origins read : List String} :
    origins.mapM checkOrigin = .ok read ↔
      read = origins ∧ ∀ origin ∈ origins, origin.toList.all headerChar = true := by
  simp only [mapM_eq_ok_iff, checkOrigin_eq_ok_iff]
  induction origins generalizing read with
  | nil => simp
  | cons origin origins ih =>
    simp only [List.forall₂_cons_left_iff, ih, List.forall_mem_cons]
    constructor
    · rintro ⟨_, _, ⟨rfl, fits⟩, ⟨rfl, more⟩, rfl⟩
      exact ⟨rfl, fits, more⟩
    · rintro ⟨rfl, fits, more⟩
      exact ⟨_, _, ⟨rfl, fits⟩, ⟨rfl, more⟩, rfl⟩

theorem checkLimits_eq_ok_iff {requestTimeoutSecs defaultTimeoutMs maxTimeoutMs : Nat} :
    checkLimits requestTimeoutSecs defaultTimeoutMs maxTimeoutMs = .ok () ↔
      0 < maxTimeoutMs ∧ maxTimeoutMs < min (requestTimeoutSecs * 1000) (twoTo 64 - 1) ∧
        defaultTimeoutMs ≤ maxTimeoutMs := by
  rw [checkLimits]
  split
  · exact iff_of_false nofun (by omega)
  · split
    · exact iff_of_false nofun (by omega)
    · split
      · exact iff_of_false nofun (by omega)
      · exact iff_of_true rfl (by omega)

structure ReadFrom (look : String → Option String) (s : Settings) : Prop where
  origins : Text.Lists ((look "CORS_ORIGINS").getD "http://localhost:5173") s.corsOrigins
  fit : ∀ origin ∈ s.corsOrigins, origin.toList.all headerChar = true
  request : Says look "REQUEST_TIMEOUT_SECS" "30" s.requestTimeoutSecs
  default : Says look "SCRIPT_DEFAULT_TIMEOUT_MS" "5000" s.runs.defaultTimeoutMs
  maximum : Says look "SCRIPT_MAX_TIMEOUT_MS" "25000" s.runs.maxTimeoutMs
  languages : (match look "SCRIPT_LANGUAGES" with
    | some raw => readLanguages raw
    | none => .ok Language.all) = .ok s.runs.languages
  limits : checkLimits s.requestTimeoutSecs s.runs.defaultTimeoutMs s.runs.maxTimeoutMs = .ok ()

theorem bind_eq_ok_iff {α β ε : Type} {first : Except ε α} {next : α → Except ε β} {b : β} :
    (first >>= next) = .ok b ↔ ∃ a, first = .ok a ∧ next a = .ok b := by
  cases first <;> simp [bind, Except.bind]

theorem readFrom_of_read {look : String → Option String} {s : Settings}
    (accepted : read look = .ok s) : ReadFrom look s := by
  unfold read at accepted
  dsimp only at accepted
  simp only [bind_eq_ok_iff, pure, Except.pure] at accepted
  obtain ⟨port, _, origins, listed, request, saidRequest, shutdown, _, active, _, default,
    saidDefault, maximum, saidMaximum, compile, _, rest⟩ := accepted
  obtain ⟨rfl, fit⟩ := mapM_checkOrigin_eq_ok_iff.mp listed
  split at rest
  all_goals
    rename_i given
    simp only [bind_eq_ok_iff, Except.ok.injEq] at rest
    obtain ⟨languages, named, ⟨⟩, limits, rfl⟩ := rest
    refine ⟨entries_eq_iff.mp rfl, fit, natural_eq_ok_iff.mp saidRequest,
      natural_eq_ok_iff.mp saidDefault, natural_eq_ok_iff.mp saidMaximum, ?_, limits⟩
    rw [given]
    first | exact named | exact congrArg Except.ok named

end Settings

end ScriptHost
