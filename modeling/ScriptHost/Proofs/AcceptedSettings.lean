import Mathlib.Data.List.Induction
import Mathlib.Data.List.Nodup
import ScriptHost.Http.Access
import ScriptHost.Proofs.SettingTexts

/-!
What settings that were read come to. They bound every run: whatever time a run asks for, it gets one
within the maximum, and the maximum ends before the request does. Their languages are those that the
text of the list mentions. The check of an origin at reading and the one at building agree on every
text but the wildcard, which passes the first and brings the second down: with any other origins the
host is built, and all of them are allowed.
-/
namespace ScriptHost

structure FirstMentions {α : Type} [DecidableEq α] (mentioned once : List α) : Prop where
  nodup : once.Nodup
  mem : ∀ a, a ∈ once ↔ a ∈ mentioned
  ordered : once.Pairwise fun a b => mentioned.idxOf a < mentioned.idxOf b

namespace FirstMentions

variable {α : Type} [DecidableEq α] {mentioned once : List α} {a : α}

theorem nil : FirstMentions ([] : List α) [] := ⟨List.nodup_nil, fun _ => Iff.rfl, .nil⟩

theorem ordered_append (h : FirstMentions mentioned once) (a : α) :
    once.Pairwise fun b c => (mentioned ++ [a]).idxOf b < (mentioned ++ [a]).idxOf c :=
  h.ordered.imp_of_mem fun {b c} known known' less => by
    rwa [List.idxOf_append_of_mem ((h.mem b).mp known),
      List.idxOf_append_of_mem ((h.mem c).mp known')]

theorem again (h : FirstMentions mentioned once) (known : a ∈ once) :
    FirstMentions (mentioned ++ [a]) once := by
  refine ⟨h.nodup, fun b => ?_, h.ordered_append a⟩
  rw [List.mem_append, List.mem_singleton, h.mem]
  exact (or_iff_left_of_imp fun same : b = a => (h.mem b).mp (same ▸ known)).symm

theorem fresh (h : FirstMentions mentioned once) (new : a ∉ once) :
    FirstMentions (mentioned ++ [a]) (once ++ [a]) := by
  have unknown : a ∉ mentioned := mt (h.mem a).mpr new
  refine ⟨?_, fun b => ?_, ?_⟩
  · exact List.nodup_append.mpr ⟨h.nodup, List.nodup_singleton a, fun b known c last same =>
      new (List.mem_singleton.mp last ▸ same ▸ known)⟩
  · rw [List.mem_append, List.mem_append, h.mem]
  · refine List.pairwise_append.mpr ⟨h.ordered_append a, List.pairwise_singleton _ a, ?_⟩
    intro b known c last
    rw [List.mem_singleton.mp last, List.idxOf_append_of_mem ((h.mem b).mp known),
      List.idxOf_append_of_notMem unknown]
    exact Nat.lt_add_right _ (List.idxOf_lt_length_of_mem ((h.mem b).mp known))

theorem foldl (mentioned : List α) :
    FirstMentions mentioned
      (mentioned.foldl (fun seen a => if a ∈ seen then seen else seen ++ [a]) []) := by
  induction mentioned using List.reverseRecOn with
  | nil => exact nil
  | append_singleton mentioned a ih =>
    rw [List.foldl_concat]
    split
    · exact ih.again ‹_›
    · exact ih.fresh ‹_›

end FirstMentions

namespace Settings

def Mentions (raw : String) (languages : List Language) : Prop :=
  ∃ items mentioned, Text.Lists raw items ∧ List.Forall₂ Language.Meant items mentioned ∧
    FirstMentions mentioned languages

theorem readLanguage_eq_ok_iff {tag : String} {l : Language} :
    readLanguage tag = .ok l ↔ Language.Meant tag l := by
  rw [← Language.named?_eq_some_iff, readLanguage]
  cases Language.named? tag <;> simp

theorem mentions_of_readLanguages {raw : String} {languages : List Language}
    (read : readLanguages raw = .ok languages) : Mentions raw languages ∧ languages ≠ [] := by
  obtain ⟨mentioned, named, rest⟩ := bind_eq_ok_iff.mp read
  simp only [mapM_eq_ok_iff, readLanguage_eq_ok_iff] at named
  dsimp only at rest
  split at rest
  · cases rest
  · rename_i some
    obtain rfl := Except.ok.inj rest
    exact ⟨⟨_, mentioned, entries_eq_iff.mp rfl, named, FirstMentions.foldl mentioned⟩,
      fun empty => some (List.isEmpty_iff.mpr empty)⟩

/-- What settings promise of the time of runs and of the languages they are written in. -/
structure BoundsRuns (look : String → Option String) (s : Settings) : Prop where
  maximum : Says look "SCRIPT_MAX_TIMEOUT_MS" "25000" s.runs.maxTimeoutMs
  default : Says look "SCRIPT_DEFAULT_TIMEOUT_MS" "5000" s.runs.defaultTimeoutMs
  request : Says look "REQUEST_TIMEOUT_SECS" "30" s.requestTimeoutSecs
  /-- The bounds never cross, so there always is a time. -/
  given : ∀ requested, s.runs.runTimeout? requested = some (s.runs.runTimeout requested)
  least : ∀ requested, 1 ≤ s.runs.runTimeout requested
  most : ∀ requested, s.runs.runTimeout requested ≤ s.runs.maxTimeoutMs
  inTime : ∀ requested, s.runs.runTimeout requested < s.requestTimeoutSecs * 1000
  exact : ∀ requested, 1 ≤ requested.getD s.runs.defaultTimeoutMs →
    requested.getD s.runs.defaultTimeoutMs ≤ s.runs.maxTimeoutMs →
    s.runs.runTimeout requested = requested.getD s.runs.defaultTimeoutMs
  monotone : ∀ a b, a ≤ b → s.runs.runTimeout (some a) ≤ s.runs.runTimeout (some b)
  spoken : s.runs.languages ≠ []
  once : s.runs.languages.Nodup
  mentioned : ∀ raw, look "SCRIPT_LANGUAGES" = some raw → Mentions raw s.runs.languages
  unmentioned : look "SCRIPT_LANGUAGES" = none → s.runs.languages = Language.all

theorem held?_eq_some {low high : Nat} (bounds : low ≤ high) (n : Nat) :
    held? low high n = some (max low (min high n)) := by
  rw [held?, if_pos bounds, Option.some_inj]
  grind

theorem runTimeout_eq {r : RunSettings} (positive : 0 < r.maxTimeoutMs) (requested : Option Nat) :
    r.runTimeout? requested = some (r.runTimeout requested) ∧
      r.runTimeout requested = max 1 (min r.maxTimeoutMs (requested.getD r.defaultTimeoutMs)) := by
  have held := held?_eq_some positive (requested.getD r.defaultTimeoutMs)
  have time : r.runTimeout requested =
      max 1 (min r.maxTimeoutMs (requested.getD r.defaultTimeoutMs)) := by
    rw [RunSettings.runTimeout, RunSettings.runTimeout?, held]
    rfl
  exact ⟨held.trans (congrArg some time.symm), time⟩

theorem runs_bounded (look : String → Option String) (s : Settings)
    (accepted : read look = .ok s) : s.BoundsRuns look := by
  obtain ⟨_, _, request, default, maximum, languages, limits⟩ := readFrom_of_read accepted
  obtain ⟨positive, below, within⟩ := checkLimits_eq_ok_iff.mp limits
  have time := fun requested => (runTimeout_eq positive requested).2
  have spoken : s.runs.languages ≠ [] ∧ s.runs.languages.Nodup := by
    split at languages
    · obtain ⟨⟨_, _, _, _, first⟩, some⟩ := mentions_of_readLanguages languages
      exact ⟨some, first.nodup⟩
    · rw [← Except.ok.inj languages]
      decide
  refine ⟨maximum, default, request, fun requested => (runTimeout_eq positive requested).1,
    fun requested => ?_, fun requested => ?_, fun requested => ?_, fun requested low high => ?_,
    fun a b less => ?_, spoken.1, spoken.2, fun raw given => ?_, fun given => ?_⟩
  · rw [time]
    exact Nat.le_max_left 1 _
  · rw [time]
    omega
  · rw [time]
    omega
  · rw [time]
    omega
  · rw [time, time]
    simp only [Option.getD_some]
    omega
  · rw [given] at languages
    exact (mentions_of_readLanguages languages).1
  · rw [given] at languages
    exact (Except.ok.inj languages).symm

theorem runs_bounded_greatest_limits :
    let look : String → Option String := fun key =>
      [("REQUEST_TIMEOUT_SECS", " 18446744073709551615"), ("SCRIPT_DEFAULT_TIMEOUT_MS", "0"),
        ("SCRIPT_MAX_TIMEOUT_MS", "+18446744073709551614"),
        ("SCRIPT_LANGUAGES", "bash, LUA ,, sh,js,lua")].lookup key
    let s : Settings := ⟨"0.0.0.0", 3000, ["http://localhost:5173"], 18446744073709551615, 30, none,
      ⟨true, 0, 18446744073709551614, 10000, [.shell, .lua, .javascript], {}⟩⟩
    read look = .ok s ∧ s.BoundsRuns look ∧ s.runs.runTimeout none = 1 := by
  intro look s
  have accepted : read look = .ok s := by decide +kernel
  exact ⟨accepted, runs_bounded look s accepted, by decide⟩

end Settings

namespace Http.Access

theorem allowList?_of_fit {origins : List String}
    (fit : ∀ origin ∈ origins, origin.toList.all Settings.headerChar = true) :
    allowList? origins = if "*" ∈ origins then none else some origins := by
  rw [allowList?, List.filter_eq_self.mpr fit]

/-- What settings that were read come to when a host is built with them. -/
structure Built (look : String → Option String) (s : Settings) : Prop where
  listed : Text.Lists ((look "CORS_ORIGINS").getD "http://localhost:5173") s.corsOrigins
  builds : "*" ∉ s.corsOrigins → ∃ front, front? s = some front ∧
    front.origins = s.corsOrigins ∧ front.requestTimeoutSecs = s.requestTimeoutSecs
  fails : "*" ∈ s.corsOrigins → front? s = none

theorem built_of_read (look : String → Option String) (s : Settings)
    (accepted : Settings.read look = .ok s) : Built look s := by
  have known := Settings.readFrom_of_read accepted
  have allowed := allowList?_of_fit known.fit
  refine ⟨known.origins, fun plain => ?_, fun wild => ?_⟩
  · rw [if_neg plain] at allowed
    exact ⟨⟨s.corsOrigins, s.requestTimeoutSecs⟩, by rw [front?, allowed]; rfl, rfl, rfl⟩
  · rw [if_pos wild] at allowed
    rw [front?, allowed]
    rfl

theorem built_of_read_wildcard :
    let look : String → Option String := fun key =>
      [("CORS_ORIGINS", "https://a.example , *")].lookup key
    let s : Settings := ⟨"0.0.0.0", 3000, ["https://a.example", "*"], 30, 30, none,
      ⟨true, 5000, 25000, 10000, [.lua, .shell, .python, .javascript], {}⟩⟩
    Settings.read look = .ok s ∧ Built look s ∧ front? s = none := by
  intro look s
  have accepted : Settings.read look = .ok s := by decide +kernel
  have built := built_of_read look s accepted
  exact ⟨accepted, built, built.fails (by decide)⟩

end Http.Access

end ScriptHost
