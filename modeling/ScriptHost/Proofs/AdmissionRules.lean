import ScriptHost.Proofs.EncodedCode

/-!
The rules for a body, each said of the body alone. A body is admitted exactly when it keeps all of
them, a refusal is that of the first rule that it breaks, and nothing is looked at but the five
members that the rules speak of.
-/
namespace ScriptHost

namespace Language

def words : Language → List String
  | .lua => ["lua"]
  | .shell => ["shell", "sh", "bash"]
  | .python => ["python", "py"]
  | .javascript => ["javascript", "js", "node"]

def Meant (tag : String) (l : Language) : Prop :=
  ∃ word ∈ l.words, ∃ core, Text.Trims tag.toList core ∧ core.map Char.toLower = word.toList

theorem named?_eq_some_iff_mem {tag : String} {l : Language} :
    named? tag = some l ↔ Text.lower (Text.trim tag) ∈ l.words := by
  unfold named?
  cases l <;> simp only [words, List.mem_cons, List.not_mem_nil, or_false] <;> split <;> simp_all

theorem named?_eq_some_iff {tag : String} {l : Language} : named? tag = some l ↔ Meant tag l := by
  have spelled : ∀ word : String, Text.lower (Text.trim tag) = word ↔
      ∃ core, Text.Trims tag.toList core ∧ core.map Char.toLower = word.toList := by
    intro word
    simp only [← Text.trimBoth_eq_iff, ← String.toList_inj, Text.lower, String.toList_map,
      Text.trim, String.toList_ofList, exists_eq_left']
  rw [named?_eq_some_iff_mem]
  constructor
  · intro member
    exact ⟨_, member, (spelled _).mp rfl⟩
  · rintro ⟨word, member, spells⟩
    rwa [(spelled word).mpr spells]

end Language

namespace Encoding

def Meant (tag : String) (e : Encoding) : Prop :=
  ∃ core, Text.Trims tag.toList core ∧ core.map Char.toUpper = e.tag.toList

theorem named?_eq_some_iff {tag : String} {e : Encoding} : named? tag = some e ↔ Meant tag e := by
  have spelled : Meant tag e ↔ Text.upper (Text.trim tag) = e.tag := by
    simp only [Meant, ← Text.trimBoth_eq_iff, ← String.toList_inj, Text.upper, String.toList_map,
      Text.trim, String.toList_ofList, exists_eq_left']
  rw [spelled, named?]
  constructor
  · intro found
    have same := List.find?_some found
    simp only [decide_eq_true_eq] at same
    exact same.symm
  · intro same
    rw [same, ofTag?_tag]

end Encoding

namespace Admission

def member (body : Option Json) (key : String) : Option Json := body.bind (Json.get? key)

def NotGiven (body : Option Json) (key : String) : Prop :=
  member body key = none ∨ member body key = some .null

def Solid (body : Option Json) (key : String) : Prop :=
  ∃ text, member body key = some (.str text) ∧ Text.blank text = false

def Encoded (body : Option Json) (encoding : Option Encoding) : Prop :=
  NotGiven body "encoded" ∧ encoding = none ∨
    ∃ tag e, member body "encoded" = some (.str tag) ∧ Encoding.Meant tag e ∧ encoding = some e

/-- The rules, in the order in which they are tried. -/
inductive Rule where
  | body
  | name
  | code
  | language
  | support
  | encodingText
  | encodingName
  | source
  | active
  deriving DecidableEq, Repr

namespace Rule

def place : Rule → Nat
  | .body => 0
  | .name => 1
  | .code => 2
  | .language => 3
  | .support => 4
  | .encodingText => 5
  | .encodingName => 6
  | .source => 7
  | .active => 8

theorem place_injective {r r' : Rule} (same : r.place = r'.place) : r = r' := by
  cases r <;> cases r' <;> first | rfl | cases same

def Kept (supports : Language → Bool) (body : Option Json) : Rule → Prop
  | .body => ∃ given, body = some given ∧ given ≠ .null
  | .name => Solid body "name"
  | .code => Solid body "code"
  | .language => Solid body "lang"
  | .support =>
    ∃ tag l, member body "lang" = some (.str tag) ∧ Language.Meant tag l ∧ supports l = true
  | .encodingText => NotGiven body "encoded" ∨ ∃ tag, member body "encoded" = some (.str tag)
  | .encodingName => ∃ encoding, Encoded body encoding
  | .source =>
    ∃ code encoding text, member body "code" = some (.str code) ∧ Encoded body encoding ∧
      Encoding.Decodes encoding code text
  | .active => NotGiven body "active" ∨ ∃ b, member body "active" = some (.bool b)

def refusal (body : Option Json) : Rule → Refusal
  | .body => .missingBody
  | .name => .missingName
  | .code => .missingCode
  | .language => .missingLanguage
  | .support =>
    match member body "lang" with
    | some (.str tag) => .unsupportedLanguage tag
    | _ => .missingLanguage
  | .encodingText => .encodingNotText
  | .encodingName => .invalidEncoding
  | .source => .undecodableCode .base64
  | .active => .activeNotBoolean

/-- All rules before a place are kept. -/
def KeptBefore (supports : Language → Bool) (body : Option Json) (n : Nat) : Prop :=
  ∀ earlier : Rule, earlier.place < n → earlier.Kept supports body

theorem KeptBefore.next {supports : Language → Bool} {body : Option Json} {rule : Rule}
    (h : KeptBefore supports body rule.place) (kept : rule.Kept supports body) :
    KeptBefore supports body (rule.place + 1) := by
  intro earlier lt
  rcases Nat.lt_succ_iff_lt_or_eq.mp lt with before | same
  · exact h earlier before
  · rw [place_injective same]
    exact kept

structure FirstBroken (supports : Language → Bool) (body : Option Json) (rule : Rule) : Prop where
  broken : ¬ rule.Kept supports body
  before : KeptBefore supports body rule.place

theorem FirstBroken.unique {supports : Language → Bool} {body : Option Json} {r r' : Rule}
    (h : r.FirstBroken supports body) (h' : r'.FirstBroken supports body) : r = r' := by
  rcases Nat.lt_trichotomy r.place r'.place with lt | same | gt
  · exact absurd (h'.before r lt) h.broken
  · exact place_injective same
  · exact absurd (h.before r' gt) h'.broken

end Rule

/-- What an admitted script carries of its body. -/
structure Carries (body : Option Json) (d : Admitted) : Prop where
  name : ∃ text, member body "name" = some (.str text) ∧ Text.Trims text.toList d.name.toList
  code : member body "code" = some (.str d.code)
  language : ∃ tag, member body "lang" = some (.str tag) ∧ Language.Meant tag d.language
  encoding : Encoded body d.encoding
  source : Encoding.Decodes d.encoding d.code d.source
  active : NotGiven body "active" ∧ d.active = none ∨
    ∃ b, member body "active" = some (.bool b) ∧ d.active = some b

variable {supports : Language → Bool} {given : Json} {d : Admitted} {key : String}

theorem text?_eq_none : text? given key = none ↔ ¬ Solid (some given) key := by
  rw [Option.eq_none_iff_forall_ne_some]
  simp only [ne_eq, text?_eq_some, Solid, member, Option.bind_some, not_exists]

theorem encoding?_eq_ok_iff {encoding : Option Encoding} :
    encoding? given = .ok encoding ↔ Encoded (some given) encoding := by
  simp only [encoding?, Encoded, NotGiven, member, Option.bind_some, ← Encoding.named?_eq_some_iff]
  match given.get? "encoded" with
  | none | some .null => simp [eq_comm]
  | some (.str tag) =>
    cases meant : Encoding.named? tag <;> simp [meant, eq_comm]
  | some (.bool _) | some (.int _) | some (.float _) | some (.arr _) | some (.obj _) => simp

theorem encoding?_eq_error_iff {r : Refusal} :
    encoding? given = .error r ↔
      r = .encodingNotText ∧
          ¬ (NotGiven (some given) "encoded" ∨
            ∃ tag, member (some given) "encoded" = some (.str tag)) ∨
        r = .invalidEncoding ∧
          ∃ tag, member (some given) "encoded" = some (.str tag) ∧ ¬ ∃ e, Encoding.Meant tag e := by
  simp only [encoding?, NotGiven, member, Option.bind_some, ← Encoding.named?_eq_some_iff]
  match given.get? "encoded" with
  | none | some .null => simp
  | some (.str tag) => cases meant : Encoding.named? tag <;> simp [meant, eq_comm]
  | some (.bool _) | some (.int _) | some (.float _) | some (.arr _) | some (.obj _) =>
    simp [eq_comm]

theorem active?_eq_ok_iff {active : Option Bool} :
    active? given = .ok active ↔ NotGiven (some given) "active" ∧ active = none ∨
      ∃ b, member (some given) "active" = some (.bool b) ∧ active = some b := by
  simp only [active?, NotGiven, member, Option.bind_some]
  match given.get? "active" with
  | none | some .null | some (.bool _) => simp [eq_comm]
  | some (.str _) | some (.int _) | some (.float _) | some (.arr _) | some (.obj _) => simp

theorem active?_eq_error_iff {r : Refusal} :
    active? given = .error r ↔ r = .activeNotBoolean ∧
      ¬ (NotGiven (some given) "active" ∨ ∃ b, member (some given) "active" = some (.bool b)) := by
  simp only [active?, NotGiven, member, Option.bind_some]
  match given.get? "active" with
  | none | some .null | some (.bool _) => simp
  | some (.str _) | some (.int _) | some (.float _) | some (.arr _) | some (.obj _) =>
    simp [eq_comm]

theorem Reads.carries (h : Reads supports given d) : Carries (some given) d where
  name := by
    obtain ⟨text, found, same⟩ := h.name
    exact ⟨text, (text?_eq_some.mp found).1, Text.trim_eq_iff.mp same.symm⟩
  code := (text?_eq_some.mp h.code).1
  language := by
    obtain ⟨tag, found, meant⟩ := h.language
    exact ⟨tag, (text?_eq_some.mp found).1, Language.named?_eq_some_iff.mp meant⟩
  encoding := encoding?_eq_ok_iff.mp h.encoding
  source := Encoding.source?_eq_some_iff.mp h.source
  active := active?_eq_ok_iff.mp h.active

theorem Reads.kept (h : Reads supports given d) (rule : Rule) :
    rule.Kept supports (some given) := by
  have carries := h.carries
  cases rule with
  | body =>
    refine ⟨given, rfl, ?_⟩
    rintro rfl
    obtain ⟨text, found, _⟩ := carries.name
    cases found
  | name =>
    obtain ⟨text, found, _⟩ := h.name
    exact ⟨text, text?_eq_some.mp found⟩
  | code => exact ⟨d.code, text?_eq_some.mp h.code⟩
  | language =>
    obtain ⟨tag, found, _⟩ := h.language
    exact ⟨tag, text?_eq_some.mp found⟩
  | support =>
    obtain ⟨tag, found, meant⟩ := carries.language
    exact ⟨tag, d.language, found, meant, h.supported⟩
  | encodingText =>
    rcases carries.encoding with ⟨missing, _⟩ | ⟨tag, _, found, _⟩
    · exact Or.inl missing
    · exact Or.inr ⟨tag, found⟩
  | encodingName => exact ⟨d.encoding, carries.encoding⟩
  | source => exact ⟨d.code, d.encoding, d.source, carries.code, carries.encoding, carries.source⟩
  | active =>
    rcases carries.active with ⟨missing, _⟩ | ⟨b, found, _⟩
    · exact Or.inl missing
    · exact Or.inr ⟨b, found⟩

theorem bind_eq_error {α β : Type} {x : Except Refusal α} {f : α → Except Refusal β} {r : Refusal}
    (h : (x >>= f) = .error r) : x = .error r ∨ ∃ a, x = .ok a ∧ f a = .error r := by
  cases x with
  | error e =>
    cases h
    exact Or.inl rfl
  | ok a => exact Or.inr ⟨a, rfl, h⟩

theorem exists_firstBroken_encoded {code : String} {r : Refusal}
    (coded : member (some given) "code" = some (.str code))
    (kept : Rule.KeptBefore supports (some given) Rule.encodingText.place)
    (make : Option Encoding → String → Option Bool → Except Refusal Admitted)
    (made : ∀ encoding text active, make encoding text active ≠ .error r)
    (refused : (do
      let encoding ← encoding? given
      let text ← source encoding code
      let active ← active? given
      make encoding text active) = .error r) :
    ∃ rule : Rule, rule.FirstBroken supports (some given) ∧ r = rule.refusal (some given) := by
  rcases bind_eq_error refused with unread | ⟨encoding, encoded, refused⟩
  · rcases encoding?_eq_error_iff.mp unread with ⟨rfl, notText⟩ | ⟨rfl, tag, found, foreign⟩
    · exact ⟨.encodingText, ⟨notText, kept⟩, rfl⟩
    · refine ⟨.encodingName, ⟨?_, kept.next (Or.inr ⟨tag, found⟩)⟩, rfl⟩
      rintro ⟨encoding, encoded⟩
      rw [encoding?_eq_ok_iff.mpr encoded] at unread
      cases unread
  have named : Encoded (some given) encoding := encoding?_eq_ok_iff.mp encoded
  have keptText : Rule.KeptBefore supports (some given) Rule.encodingName.place := by
    refine kept.next ?_
    rcases named with ⟨missing, _⟩ | ⟨tag, _, found, _⟩
    · exact Or.inl missing
    · exact Or.inr ⟨tag, found⟩
  have keptName : Rule.KeptBefore supports (some given) Rule.source.place :=
    keptText.next ⟨encoding, named⟩
  rcases bind_eq_error refused with undecoded | ⟨text, decoded, refused⟩
  · obtain ⟨rfl, foreign⟩ := source_eq_error_iff.mp undecoded
    refine ⟨.source, ⟨?_, keptName⟩, rfl⟩
    -- Any encoding that the body names is the one that was read, so that nothing else can decode.
    rintro ⟨code', encoding', text, found, named', decodes⟩
    have same := encoding?_eq_ok_iff.mpr named'
    rw [coded] at found
    rw [encoded] at same
    cases found
    cases same
    exact foreign ⟨text, decodes⟩
  have keptSource : Rule.KeptBefore supports (some given) Rule.active.place :=
    keptName.next ⟨code, encoding, text, coded, named, source_eq_ok_iff.mp decoded⟩
  rcases bind_eq_error refused with unswitched | ⟨active, _, refused⟩
  · obtain ⟨rfl, broken⟩ := active?_eq_error_iff.mp unswitched
    exact ⟨.active, ⟨broken, keptSource⟩, rfl⟩
  · exact absurd refused (made encoding text active)

theorem exists_firstBroken {body : Option Json} {r : Refusal}
    (refused : review supports body = .error r) :
    ∃ rule : Rule, rule.FirstBroken supports body ∧ r = rule.refusal body := by
  have start : Rule.KeptBefore supports body Rule.body.place := fun _ lt =>
    absurd lt (Nat.not_lt_zero _)
  -- At each branch the rule at hand is the broken one, or it joins those that are kept.
  unfold review at refused
  split at refused
  · cases refused
    exact ⟨.body, ⟨by simp [Rule.Kept], start⟩, rfl⟩
  · cases refused
    exact ⟨.body, ⟨by simp [Rule.Kept], start⟩, rfl⟩
  rename_i given there
  have keptBody : Rule.KeptBefore supports (some given) Rule.name.place :=
    start.next ⟨given, rfl, there⟩
  split at refused
  · rename_i unnamed
    cases refused
    exact ⟨.name, ⟨text?_eq_none.mp unnamed, keptBody⟩, rfl⟩
  rename_i name named
  have keptName : Rule.KeptBefore supports (some given) Rule.code.place :=
    keptBody.next ⟨name, text?_eq_some.mp named⟩
  split at refused
  · rename_i uncoded
    cases refused
    exact ⟨.code, ⟨text?_eq_none.mp uncoded, keptName⟩, rfl⟩
  rename_i code coded
  have keptCode : Rule.KeptBefore supports (some given) Rule.language.place :=
    keptName.next ⟨code, text?_eq_some.mp coded⟩
  split at refused
  · rename_i untagged
    cases refused
    exact ⟨.language, ⟨text?_eq_none.mp untagged, keptCode⟩, rfl⟩
  rename_i tag tagged
  have keptTag : Rule.KeptBefore supports (some given) Rule.support.place :=
    keptCode.next ⟨tag, text?_eq_some.mp tagged⟩
  have language : member (some given) "lang" = some (.str tag) := (text?_eq_some.mp tagged).1
  split at refused
  · rename_i unspoken
    cases refused
    refine ⟨.support, ⟨?_, keptTag⟩, by rw [Rule.refusal, language]⟩
    rintro ⟨tag', l, found, meant, supported⟩
    rw [language] at found
    cases found
    rw [Language.named?_eq_some_iff.mpr meant] at unspoken
    simp [supported] at unspoken
  rename_i l spoken
  obtain ⟨meant, supported⟩ := Option.filter_eq_some_iff.mp spoken
  have keptSupport : Rule.KeptBefore supports (some given) Rule.encodingText.place :=
    keptTag.next ⟨tag, l, language, Language.named?_eq_some_iff.mp meant, supported⟩
  refine exists_firstBroken_encoded (text?_eq_some.mp coded).1 keptSupport _ ?_ refused
  intro encoding text active failed
  cases failed

theorem review_congr {ms ms' : List (String × Json)}
    (same : ∀ key ∈ ["name", "code", "lang", "encoded", "active"],
      Named.find? key ms = Named.find? key ms') :
    review supports (some (.obj ms)) = review supports (some (.obj ms')) := by
  have name := same "name" (by simp)
  have code := same "code" (by simp)
  have lang := same "lang" (by simp)
  have encoded := same "encoded" (by simp)
  have active := same "active" (by simp)
  simp only [review, text?, encoding?, active?, Json.get?, name, code, lang, encoded, active]

/-- A body is admitted exactly when it keeps every rule, and refused by the first rule that it
breaks; an admitted script carries what the body says; other members than the five are not looked
at. -/
theorem review_by_rules (supports : Language → Bool) :
    (∀ body, (∃ d, review supports body = .ok d) ↔ ∀ rule : Rule, rule.Kept supports body) ∧
    (∀ body r, review supports body = .error r ↔
      ∃ rule : Rule, rule.FirstBroken supports body ∧ r = rule.refusal body) ∧
    (∀ body d, review supports body = .ok d → Carries body d) ∧
    ∀ ms ms', (∀ key ∈ ["name", "code", "lang", "encoded", "active"],
        Named.find? key ms = Named.find? key ms') →
      review supports (some (.obj ms)) = review supports (some (.obj ms')) := by
  have kept : ∀ {body d}, review supports body = .ok d →
      ∀ rule : Rule, rule.Kept supports body := by
    intro body d admitted
    obtain ⟨given, rfl, reads⟩ := reads_of_review admitted
    exact reads.kept
  refine ⟨fun body => ⟨fun ⟨_, admitted⟩ => kept admitted, fun all => ?_⟩,
    fun body r => ⟨exists_firstBroken, ?_⟩, fun body d admitted => ?_, fun ms ms' => review_congr⟩
  · cases outcome : review supports body with
    | ok d => exact ⟨d, rfl⟩
    | error r =>
      obtain ⟨rule, first, _⟩ := exists_firstBroken outcome
      exact absurd (all rule) first.broken
  · rintro ⟨rule, first, rfl⟩
    cases outcome : review supports body with
    | ok d => exact absurd (kept outcome rule) first.broken
    | error r =>
      obtain ⟨rule', first', same⟩ := exists_firstBroken outcome
      rw [same, first.unique first']
  · obtain ⟨given, rfl, reads⟩ := reads_of_review admitted
    exact reads.carries

theorem review_by_rules_two_faults :
    let supports : Language → Bool := (· == .lua)
    let ms : List (String × Json) := [("code", .str "cmV0dXJuIDQy"), ("encoded", .str "base64"),
      ("lang", .str " LUA "), ("name", .str " a ")]
    let faulty : Json := .obj [("code", .str "c"), ("encoded", .int 7), ("lang", .str "py"),
      ("name", .str "a")]
    Carries (some (.obj ms)) ⟨"a", "cmV0dXJuIDQy", .lua, some .base64, "return 42", none⟩ ∧
    review supports (some (.obj ms)) = review supports (some (.obj (ms ++ [("version", .null)]))) ∧
    Rule.support.FirstBroken supports (some faulty) := by
  intro supports ms faulty
  obtain ⟨_, refuses, carries, same⟩ := review_by_rules supports
  have admitted : review supports (some (.obj ms)) =
      .ok ⟨"a", "cmV0dXJuIDQy", .lua, some .base64, "return 42", none⟩ := by
    have outcome : (review supports (some (.obj ms))).toOption =
        some ⟨"a", "cmV0dXJuIDQy", .lua, some .base64, "return 42", none⟩ := by decide +kernel
    generalize review supports (some (.obj ms)) = result at outcome ⊢
    cases result <;> cases outcome
    rfl
  refine ⟨carries _ _ admitted, same _ _ (by simp [ms, Named.find?]), ?_⟩
  have refused : review supports (some faulty) = .error (.unsupportedLanguage "py") := by
    have python : Language.named? "py" = some .python := by decide +kernel
    have texts : Text.blank "a" = false ∧ Text.blank "c" = false ∧ Text.blank "py" = false := by
      decide +kernel
    simp only [review, text?, Json.get?, Named.find?, faulty, texts, python, supports,
      String.reduceEq, if_true, if_false, Bool.false_eq_true]
    rfl
  obtain ⟨rule, first, answer⟩ := (refuses _ _).mp refused
  cases rule with
  | support => exact first
  | _ => cases answer

end Admission

end ScriptHost
