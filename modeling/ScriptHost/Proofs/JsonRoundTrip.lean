import ScriptHost.Json.Printer
import ScriptHost.Json.Reader
import ScriptHost.Proofs.SortedNames
import ScriptHost.Proofs.Utf8Texts
import ScriptHost.Text.Numeral

/-!
What is written for a JSON value is read as the value, as long as there is no floating-point number
in it and it is not nested deeper than the reader goes.
-/
namespace ScriptHost.Json

open Text.Utf8 (encode encodeChar)

def Gives {α : Type} {P : List UInt8 → Prop} (r : Except Fault (α × {t : List UInt8 // P t}))
    (a : α) (rest : List UInt8) : Prop :=
  ∃ h, r = .ok (a, ⟨rest, h⟩)

theorem gives_widen {α : Type} {s t rest : List UInt8} {a : α} {r : Except Fault (α × NotLonger t)}
    (h : t.length < s.length) (gives : Gives r a rest) :
    Gives (widen h r : Read α s) a rest := by
  obtain ⟨_, rfl⟩ := gives
  exact ⟨_, rfl⟩

theorem encode_cons (c : Char) (cs : List Char) : encode (c :: cs) = encodeChar c ++ encode cs :=
  List.flatMap_cons

theorem encode_append (cs ds : List Char) : encode (cs ++ ds) = encode cs ++ encode ds :=
  List.flatMap_append

theorem next?_solid {b : UInt8} (solid : isSpace b = false) (r : List UInt8) :
    next? (b :: r) = some (b, ⟨r, Nat.lt_succ_self _⟩) := by
  rw [next?, if_neg (by rw [solid]; exact Bool.false_ne_true)]

/-! ### Words -/

theorem readIdent_append (word rest : List UInt8) :
    ∃ h, readIdent word (word ++ rest) = .ok ⟨rest, h⟩ := by
  induction word with
  | nil => exact ⟨Nat.le_refl _, rfl⟩
  | cons l ls ih =>
    obtain ⟨h, read⟩ := ih
    refine ⟨Nat.le_succ_of_le h, ?_⟩
    change readIdent (l :: ls) (l :: (ls ++ rest)) = _
    rw [readIdent, if_pos rfl, read]

theorem readLiteral_gives {α : Type} (word : String) (value : α) (rest : List UInt8) :
    Gives (readLiteral word value (encode word.toList ++ rest)) value rest := by
  obtain ⟨h, read⟩ := readIdent_append (encode word.toList) rest
  exact ⟨h, by rw [readLiteral, letters, Text.Utf8.bytesOf_eq_encode, read]⟩

/-! ### Numbers -/

def byte (c : Char) : UInt8 := .ofNat c.toNat

theorem toNat_of_isDigit {c : Char} (digit : c.isDigit = true) : 48 ≤ c.toNat ∧ c.toNat ≤ 57 :=
  Char.isDigit_iff_toNat.mp digit

def decimals : List Char := "0123456789".toList

theorem mem_decimals {c : Char} (digit : c.isDigit = true) : c ∈ decimals := by
  have range := toNat_of_isDigit digit
  have each : ∀ n < 58, 48 ≤ n → Char.ofNat n ∈ decimals := by decide
  exact Char.ofNat_toNat c ▸ each c.toNat (by omega) range.1

theorem toNat_byte {c : Char} (digit : c.isDigit = true) : (byte c).toNat = c.toNat := by
  have range := toNat_of_isDigit digit
  exact UInt8.toNat_ofNat_of_lt' (show c.toNat < 256 by omega)

theorem encode_digits {cs : List Char} (digits : ∀ c ∈ cs, c.isDigit = true) :
    encode cs = cs.map byte := by
  induction cs with
  | nil => rfl
  | cons c cs ih =>
    obtain ⟨first, rest⟩ := List.forall_mem_cons.mp digits
    have range := toNat_of_isDigit first
    rw [encode_cons, ih rest, Text.Utf8.encodeChar_eq_units, Text.Utf8.units, if_pos (by omega)]
    rfl

theorem isDigit_byte {c : Char} (digit : c.isDigit = true) : isDigit (byte c) = true := by
  have range := toNat_of_isDigit digit
  have number := toNat_byte digit
  simp only [isDigit, Bool.and_eq_true, decide_eq_true_eq, UInt8.le_iff_toNat_le, number]
  exact range

theorem digitOf_byte {c : Char} (digit : c.isDigit = true) :
    digitOf (byte c) = c.toNat - '0'.toNat := by
  rw [digitOf, toNat_byte digit]
  rfl

/-- What may follow a number without being taken for a part of it. -/
def Stops (rest : List UInt8) : Prop :=
  ∀ b ∈ rest.head?, isDigit b = false ∧ b ≠ 0x2E ∧ b ≠ 0x65 ∧ b ≠ 0x45

theorem takeDigits_gives {cs : List Char} (digits : ∀ c ∈ cs, c.isDigit = true)
    {rest : List UInt8} (stops : Stops rest) :
    ∃ h, takeDigits (cs.map byte ++ rest) = (cs.map fun c => digitOf (byte c), ⟨rest, h⟩) := by
  induction cs with
  | nil =>
    cases rest with
    | nil => exact ⟨Nat.le_refl _, rfl⟩
    | cons b rest =>
      refine ⟨Nat.le_refl _, ?_⟩
      change takeDigits (b :: rest) = _
      rw [takeDigits, if_neg (by rw [(stops b rfl).1]; exact Bool.false_ne_true)]
      rfl
  | cons c cs ih =>
    obtain ⟨first, more⟩ := List.forall_mem_cons.mp digits
    obtain ⟨h, taken⟩ := ih more
    refine ⟨Nat.le_succ_of_le h, ?_⟩
    change takeDigits (byte c :: (cs.map byte ++ rest)) = _
    rw [takeDigits, if_pos (isDigit_byte first), taken]
    rfl

theorem gather_digits {cs : List Char} (digits : ∀ c ∈ cs, c.isDigit = true) {n : Nat}
    (fits : Nat.ofDigitChars 10 cs n < twoTo 64) :
    gather n (cs.map fun c => digitOf (byte c)) = (Nat.ofDigitChars 10 cs n, 0) := by
  induction cs generalizing n with
  | nil => rfl
  | cons c cs ih =>
    obtain ⟨first, more⟩ := List.forall_mem_cons.mp digits
    have next : n * 10 + digitOf (byte c) = 10 * n + (c.toNat - '0'.toNat) := by
      rw [digitOf_byte first, Nat.mul_comm]
    rw [Nat.ofDigitChars_cons, ← next] at fits ⊢
    have grows := Text.le_ofDigitChars cs (n * 10 + digitOf (byte c))
    rw [List.map_cons, gather, if_pos (Nat.lt_of_le_of_lt grows fits), ih more fits]

theorem eq_zero_of_head?_toDigits {n : Nat} (zero : (Nat.toDigits 10 n).head? = some '0') :
    n = 0 := by
  induction n using Nat.strongRecOn with
  | ind n ih =>
    rw [Nat.toDigits_eq_if (by decide)] at zero
    split at zero
    · rename_i small
      have each : ∀ m < 10, Nat.digitChar m = '0' → m = 0 := by decide
      exact each n small (Option.some.inj zero)
    · obtain ⟨d, ds, front⟩ := List.exists_cons_of_ne_nil
        (Nat.toDigits_ne_nil : Nat.toDigits 10 (n / 10) ≠ [])
      rw [front] at zero
      have less := ih (n / 10) (by omega) (front ▸ zero)
      omega

theorem readDigits_gives {negative : Bool} {c : Char} {cs : List Char} {rest : List UInt8}
    (digits : ∀ d ∈ c :: cs, d.isDigit = true) (alone : c = '0' → cs = [])
    (fits : Nat.ofDigitChars 10 (c :: cs) 0 < twoTo 64) (stops : Stops rest) :
    Gives (readDigits negative (byte c) (cs.map byte ++ rest))
      (integer negative (Nat.ofDigitChars 10 (c :: cs) 0)) rest := by
  obtain ⟨first, more⟩ := List.forall_mem_cons.mp digits
  have zero : byte c = 0x30 → c = '0' := by
    intro same
    have number := congrArg UInt8.toNat same
    rw [toNat_byte first] at number
    exact Char.toNat_inj.mp number
  have taken : ∃ h, (if byte c = 0x30 then ([], ⟨cs.map byte ++ rest, Nat.le_refl _⟩)
      else takeDigits (cs.map byte ++ rest) : List Nat × NotLonger (cs.map byte ++ rest)) =
      (cs.map fun c => digitOf (byte c), ⟨rest, h⟩) := by
    split
    · obtain rfl := alone (zero ‹_›)
      exact ⟨Nat.le_refl _, rfl⟩
    · exact takeDigits_gives more stops
  have gathered := gather_digits more (n := 10 * 0 + (c.toNat - '0'.toNat))
    (Nat.ofDigitChars_cons ▸ fits)
  rw [← Nat.ofDigitChars_cons, Nat.mul_zero, Nat.zero_add, ← digitOf_byte first] at gathered
  obtain ⟨h, taken⟩ := taken
  unfold readDigits
  rw [if_neg (by rw [isDigit_byte first]; exact Bool.false_ne_true)]
  generalize (if byte c = 0x30 then _ else _ : List Nat × NotLonger (cs.map byte ++ rest)) = front
    at taken ⊢
  subst taken
  simp only [gathered]
  cases rest with
  | nil => exact ⟨h, rfl⟩
  | cons b rest =>
    obtain ⟨plain, point, small, capital⟩ := stops b rfl
    refine ⟨h, ?_⟩
    simp [plain, point, small, capital]

theorem readDigits_toString {n : Nat} (fits : n < twoTo 64) (negative : Bool) {rest : List UInt8}
    (stops : Stops rest) : ∃ (c : Char) (cs : List Char), c.isDigit = true ∧
      encode (toString n).toList = byte c :: cs.map byte ∧
      Gives (readDigits negative (byte c) (cs.map byte ++ rest)) (integer negative n) rest := by
  have text : (toString n).toList = Nat.toDigits 10 n := Nat.toList_repr
  obtain ⟨c, cs, shape⟩ := List.exists_cons_of_ne_nil (Nat.toDigits_ne_nil : Nat.toDigits 10 n ≠ [])
  have digits : ∀ d ∈ c :: cs, d.isDigit = true := fun d member =>
    Nat.isDigit_of_mem_toDigits (by decide) (by decide) (shape ▸ member)
  have value : Nat.ofDigitChars 10 (c :: cs) 0 = n := shape ▸ Nat.ofDigitChars_ten_toDigits
  have alone : c = '0' → cs = [] := by
    rintro rfl
    obtain rfl := eq_zero_of_head?_toDigits (congrArg List.head? shape)
    exact (List.cons.inj (shape.symm.trans (Nat.toDigits_zero 10))).2
  have read : Gives (readDigits negative (byte c) (cs.map byte ++ rest))
      (integer negative (Nat.ofDigitChars 10 (c :: cs) 0)) rest :=
    readDigits_gives digits alone (value.symm ▸ fits) stops
  rw [value] at read
  refine ⟨c, cs, digits c List.mem_cons_self, ?_, read⟩
  rw [text, shape, encode_digits digits, List.map_cons]

/-! ### Strings -/

section

variable {acc bs s rest : List UInt8} {b e x : UInt8} {c : Char}

theorem readBytes_quote (acc rest : List UInt8) : Gives (readBytes acc (0x22 :: rest)) acc rest :=
  ⟨Nat.lt_succ_self _, by rw [readBytes.eq_def]; rfl⟩

def Plain (b : UInt8) : Prop := b ≠ 0x22 ∧ b ≠ 0x5C ∧ ¬ b < 0x20

theorem readBytes_plain (plain : Plain b) (read : Gives (readBytes (b :: acc) s) bs rest) :
    Gives (readBytes acc (b :: s)) bs rest := by
  obtain ⟨quote, backslash, control⟩ := plain
  obtain ⟨h, read⟩ := read
  refine ⟨Nat.lt_succ_of_lt h, ?_⟩
  rw [readBytes.eq_def]
  simp only [if_neg quote, if_neg backslash, if_neg control, read]

theorem readBytes_plains {bytes : List UInt8} (plain : ∀ b ∈ bytes, Plain b)
    (read : Gives (readBytes (bytes.reverse ++ acc) s) bs rest) :
    Gives (readBytes acc (bytes ++ s)) bs rest := by
  induction bytes generalizing acc with
  | nil => exact read
  | cons b bytes ih =>
    obtain ⟨first, more⟩ := List.forall_mem_cons.mp plain
    refine readBytes_plain first (ih more ?_)
    rwa [List.reverse_cons, List.append_assoc] at read

theorem readBytes_simple (stands : simpleEscape? e = some x)
    (read : Gives (readBytes (x :: acc) s) bs rest) :
    Gives (readBytes acc (0x5C :: e :: s)) bs rest := by
  have letter : e ≠ 0x75 := by
    rintro rfl
    cases stands
  obtain ⟨h, read⟩ := read
  refine ⟨Nat.lt_succ_of_lt (Nat.lt_succ_of_lt h), ?_⟩
  rw [readBytes]
  simp only [if_neg letter, stands, read]
  rfl

theorem readBytes_unicode {t : List UInt8} (stands : Gives (readUnicode t) c s)
    (read : Gives (readBytes ((encodeChar c).reverse ++ acc) s) bs rest) :
    Gives (readBytes acc (0x5C :: 0x75 :: t)) bs rest := by
  obtain ⟨h, stands⟩ := stands
  obtain ⟨h', read⟩ := read
  refine ⟨by simp only [List.length_cons]; omega, ?_⟩
  rw [readBytes]
  simp only [stands, read]
  rfl

theorem hexValue?_hexDigit : ∀ n < 16, hexValue? (byte (hexDigit n)) = some n := by decide

theorem encode_hexDigit : ∀ n < 16, encodeChar (hexDigit n) = [byte (hexDigit n)] := by decide

theorem readUnicode_control {c : Char} (control : c.toNat < 0x20) (s : List UInt8) :
    Gives (readUnicode (0x30 :: 0x30 :: byte (hexDigit (c.toNat / 16)) ::
      byte (hexDigit (c.toNat % 16)) :: s)) c s := by
  have high := hexValue?_hexDigit (c.toNat / 16) (by omega)
  have low := hexValue?_hexDigit (c.toNat % 16) (by omega)
  have zero : hexValue? 0x30 = some 0 := rfl
  have number : ((0 * 16 + 0) * 16 + c.toNat / 16) * 16 + c.toNat % 16 = c.toNat := by omega
  have read : ∃ h, readHex (0x30 :: 0x30 :: byte (hexDigit (c.toNat / 16)) ::
      byte (hexDigit (c.toNat % 16)) :: s) = .ok (c.toNat, ⟨s, h⟩) := by
    refine ⟨by simp only [List.length_cons]; omega, ?_⟩
    rw [readHex, zero, high, low]
    dsimp only
    rw [number]
  obtain ⟨h, read⟩ := read
  refine ⟨h, ?_⟩
  rw [readUnicode, read]
  dsimp only
  rw [if_neg (by omega), if_pos (by omega), Char.ofNat_toNat]

theorem plain_encodeChar (quote : c ≠ '\x22') (backslash : c ≠ '\\') (visible : ¬ c.toNat < 0x20) :
    ∀ b ∈ encodeChar c, Plain b := by
  have range := Text.Utf8.valid c
  unfold Nat.isValidChar at range
  intro b member
  rw [Text.Utf8.encodeChar_eq_units] at member
  obtain ⟨n, unit, rfl⟩ := List.mem_map.mp member
  have quote' : c.toNat ≠ 0x22 := fun same => quote (Char.toNat_inj.mp same)
  have backslash' : c.toNat ≠ 0x5C := fun same => backslash (Char.toNat_inj.mp same)
  have numbers : n < 256 ∧ n ≠ 0x22 ∧ n ≠ 0x5C ∧ 0x20 ≤ n := by
    unfold Text.Utf8.units at unit
    repeat' split at unit
    all_goals
      simp only [List.mem_cons, List.not_mem_nil, or_false] at unit
      omega
  have number : (UInt8.ofNat n).toNat = n := Text.Utf8.toNat_ofNat numbers.1
  refine ⟨fun same => ?_, fun same => ?_, fun control => ?_⟩
  · exact numbers.2.1 (number.symm.trans (congrArg UInt8.toNat same))
  · exact numbers.2.2.1 (number.symm.trans (congrArg UInt8.toNat same))
  · have below : n < 0x20 := number ▸ UInt8.lt_iff_toNat_lt.mp control
    omega

theorem readBytes_escape (c : Char)
    (read : Gives (readBytes ((encodeChar c).reverse ++ acc) s) bs rest) :
    Gives (readBytes acc (encode (escape c) ++ s)) bs rest := by
  fun_cases escape c with
  | case8 _ _ _ _ _ _ _ _ control =>
    have high := encode_hexDigit (c.toNat / 16) (by omega)
    have low := encode_hexDigit (c.toNat % 16) (by omega)
    rw [show encode ['\\', 'u', '0', '0', hexDigit (c.toNat / 16), hexDigit (c.toNat % 16)] =
      [0x5C, 0x75, 0x30, 0x30, byte (hexDigit (c.toNat / 16)), byte (hexDigit (c.toNat % 16))] by
        simp only [encode_cons, high, low]
        rfl]
    exact readBytes_unicode (readUnicode_control control s) read
  | case9 _ quote backslash _ _ _ _ _ visible =>
    rw [encode_cons, show encode [] = [] from rfl, List.append_nil]
    exact readBytes_plains (plain_encodeChar quote backslash visible) read
  | _ => exact readBytes_simple rfl read

theorem readBytes_escapes (cs : List Char) (acc rest : List UInt8) :
    Gives (readBytes acc (encode (cs.flatMap escape ++ ['\x22']) ++ rest))
      ((encode cs).reverse ++ acc) rest := by
  induction cs generalizing acc with
  | nil => exact readBytes_quote acc rest
  | cons c cs ih =>
    have more := ih ((encodeChar c).reverse ++ acc)
    rw [← List.append_assoc, ← List.reverse_append, ← encode_cons] at more
    rw [List.flatMap_cons, List.append_assoc, encode_append, List.append_assoc]
    exact readBytes_escape c more

theorem readString_quoted (t : String) (rest : List UInt8) : ∃ more,
    encode (quoted t) ++ rest = 0x22 :: more ∧ Gives (readString more) t rest := by
  refine ⟨encode (t.toList.flatMap escape ++ ['\x22']) ++ rest, rfl, ?_⟩
  obtain ⟨h, read⟩ := readBytes_escapes t.toList [] rest
  rw [List.append_nil] at read
  refine ⟨h, ?_⟩
  have text : Text.Utf8.text? (encode t.toList) = some t :=
    Text.Utf8.text?_eq_some_iff.mpr (Text.Utf8.bytesOf_eq_encode t).symm
  unfold readString
  simp only [read, List.reverse_reverse, text]

end

/-! ### Values -/

/-- A value that is written with nothing lost and read with nothing refused: no number in it is a
floating-point one, and it is nested at most `depth` deep. -/
inductive Whole : Nat → Json → Prop where
  | null {depth : Nat} : Whole depth .null
  | bool {depth : Nat} (b : Bool) : Whole depth (.bool b)
  | int {depth : Nat} {n : Int} (range : IntRange n) : Whole depth (.int n)
  | str {depth : Nat} (s : String) : Whole depth (.str s)
  | arr {depth : Nat} {items : List Json} (whole : ∀ item ∈ items, Whole depth item) :
      Whole (depth + 1) (.arr items)
  | obj {depth : Nat} {members : List (String × Json)} (sorted : Named.Sorted members)
      (whole : ∀ member ∈ members, Whole depth member.2) : Whole (depth + 1) (.obj members)

def openings : List Char := "ntf\"[\x7b-".toList ++ decimals

theorem opening_byte {c : Char} (opening : c ∈ openings) :
    encodeChar c = [byte c] ∧ isSpace (byte c) = false ∧ byte c ≠ 0x5D := by
  have each : openings.all (fun c => encodeChar c == [byte c] && isSpace (byte c) == false &&
      byte c != 0x5D) = true := by decide
  simpa [and_assoc] using List.all_eq_true.mp each c opening

theorem toList_negSucc (n : Nat) :
    (toString (Int.negSucc n)).toList = '-' :: (toString (n + 1)).toList := by
  change ("-" ++ toString (n + 1)).toList = _
  rw [String.toList_append]
  rfl

theorem chars_begins {depth : Nat} {v : Json} (whole : Whole depth v) :
    ∃ c cs, v.chars = c :: cs ∧ c ∈ openings := by
  cases whole with
  | null => exact ⟨'n', _, rfl, by decide⟩
  | bool b => cases b <;> exact ⟨_, _, rfl, by decide⟩
  | @int _ n range =>
    cases n with
    | ofNat n =>
      obtain ⟨c, cs, shape⟩ := List.exists_cons_of_ne_nil
        (Nat.toDigits_ne_nil : Nat.toDigits 10 n ≠ [])
      have digit := Nat.isDigit_of_mem_toDigits (by decide) (by decide)
        (shape ▸ List.mem_cons_self : c ∈ Nat.toDigits 10 n)
      exact ⟨c, cs, Nat.toList_repr.trans shape, List.mem_append_right _ (mem_decimals digit)⟩
    | negSucc n => exact ⟨'-', _, toList_negSucc n, by decide⟩
  | str s | arr | obj => exact ⟨_, _, rfl, by decide⟩

section

variable {depth : Nat} {r rest : List UInt8} {v : Json}

theorem readValue_word {b : UInt8} {word : String} {value : Json}
    (known : (b, word, value) ∈
      [(0x6E, "ull", .null), (0x74, "rue", .bool true), (0x66, "alse", .bool false)])
    (rest : List UInt8) :
    Gives (readValue depth (b :: (encode word.toList ++ rest))) value rest := by
  simp only [List.mem_cons, List.not_mem_nil, Prod.mk.injEq, or_false] at known
  rcases known with ⟨rfl, rfl, rfl⟩ | ⟨rfl, rfl, rfl⟩ | ⟨rfl, rfl, rfl⟩ <;>
  · rw [readValue]
    exact gives_widen (Nat.lt_succ_self _) (readLiteral_gives _ _ rest)

theorem readValue_number {b : UInt8} (starts : b = 0x2D ∨ isDigit b = true)
    (read : Gives (readNumber b r) v rest) : Gives (readValue depth (b :: r)) v rest := by
  have other {b' : UInt8} (foreign : ¬ (b' = 0x2D ∨ isDigit b' = true)) : b ≠ b' :=
    fun same => foreign (same ▸ starts)
  have solid : isSpace b = false := by
    refine Bool.eq_false_iff.mpr fun space => ?_
    simp only [isSpace, Bool.or_eq_true, beq_iff_eq] at space
    rcases space with ((rfl | rfl) | rfl) | rfl <;> revert starts <;> decide
  have null : b ≠ 0x6E := other (by decide)
  have yes : b ≠ 0x74 := other (by decide)
  have no : b ≠ 0x66 := other (by decide)
  rw [readValue]
  simp only [next?_solid solid, if_neg null, if_neg yes, if_neg no, if_pos starts]
  exact gives_widen _ read

theorem readValue_string {t : String} (read : Gives (readString r) t rest) :
    Gives (readValue depth (0x22 :: r)) (.str t) rest := by
  obtain ⟨h, read⟩ := read
  refine ⟨Nat.lt_succ_of_lt h, ?_⟩
  rw [readValue]
  simp only [next?_solid (show isSpace 0x22 = false from rfl), read]
  rfl

theorem readValue_list {items : List Json} (read : Gives (readItems depth true r) items rest) :
    Gives (readValue (depth + 1) (0x5B :: r)) (.arr items) rest := by
  obtain ⟨h, read⟩ := read
  refine ⟨Nat.lt_succ_of_lt h, ?_⟩
  rw [readValue]
  simp only [next?_solid (show isSpace 0x5B = false from rfl), read]
  rfl

theorem readValue_object {members : List (String × Json)}
    (read : Gives (readMembers depth true [] r) members rest) :
    Gives (readValue (depth + 1) (0x7B :: r)) (.obj members) rest := by
  obtain ⟨h, read⟩ := read
  refine ⟨Nat.lt_succ_of_lt h, ?_⟩
  rw [readValue]
  simp only [next?_solid (show isSpace 0x7B = false from rfl), read]
  rfl

theorem readValue_int {n : Int} (range : IntRange n) (stops : Stops rest) :
    Gives (readValue depth (encode (toString n).toList ++ rest)) (.int n) rest := by
  obtain ⟨low, high⟩ := range
  cases n with
  | ofNat n =>
    obtain ⟨c, cs, digit, bytes, read⟩ :=
      readDigits_toString (show n < twoTo 64 from Int.ofNat_lt.mp high) false stops
    have number := isDigit_byte digit
    have unsigned : byte c ≠ 0x2D := by
      intro same
      rw [same] at number
      cases number
    rw [show encode (toString (Int.ofNat n)).toList = byte c :: cs.map byte from bytes,
      List.cons_append]
    refine readValue_number (.inr number) ?_
    rwa [readNumber.eq_def, if_neg unsigned]
  | negSucc n =>
    have size : n + 1 ≤ twoTo 63 := by omega
    have words : twoTo 63 < twoTo 64 := by decide
    obtain ⟨c, cs, _, bytes, h, read⟩ :=
      readDigits_toString (Nat.lt_of_le_of_lt size words) true stops
    rw [toList_negSucc, encode_cons, bytes]
    refine readValue_number (.inl rfl) ⟨Nat.le_succ_of_le h, ?_⟩
    have whole : integer true (n + 1) = .int (Int.negSucc n) := by
      rw [integer, if_pos rfl, if_neg (by omega)]
      rfl
    rw [whole] at read
    change readNumber 0x2D (byte c :: (cs.map byte ++ rest)) = _
    rw [readNumber, if_pos rfl, read]

end

section

variable {depth : Nat} {rest : List UInt8}

/-- The value is read back, whatever follows that does not look like a part of it. -/
def Returns (depth : Nat) (v : Json) : Prop :=
  ∀ {rest : List UInt8}, Stops rest → Gives (readValue depth (encode v.chars ++ rest)) v rest

theorem stops_moreItems (items : List Json) (rest : List UInt8) :
    Stops (encode (moreItemChars items) ++ rest) := by
  cases items <;> · rintro b ⟨⟩; decide

theorem stops_moreMembers (members : List (String × Json)) (rest : List UInt8) :
    Stops (encode (moreMemberChars members) ++ rest) := by
  cases members <;> · rintro b ⟨⟩; decide

theorem encode_begins {v : Json} (whole : Whole depth v) :
    ∃ b r, encode v.chars = b :: r ∧ isSpace b = false ∧ b ≠ 0x5D := by
  obtain ⟨c, cs, shape, opening⟩ := chars_begins whole
  obtain ⟨single, solid, bracket⟩ := opening_byte opening
  exact ⟨byte c, encode cs, by rw [shape, encode_cons, single]; rfl, solid, bracket⟩

theorem readItems_end (isFirst : Bool) (rest : List UInt8) :
    Gives (readItems depth isFirst (0x5D :: rest)) [] rest := by
  refine ⟨Nat.lt_succ_self _, ?_⟩
  rw [readItems]
  rfl

theorem readItems_next {item : Json} {items : List Json} {isFirst : Bool} {s t : List UInt8}
    (goes : ∃ h, nextItem? isFirst s = .ok (.inr ⟨t, h⟩)) {u : List UInt8}
    (first : Gives (readValue depth t) item u) (more : Gives (readItems depth false u) items rest) :
    Gives (readItems depth isFirst s) (item :: items) rest := by
  obtain ⟨h, goes⟩ := goes
  obtain ⟨h', first⟩ := first
  obtain ⟨h'', more⟩ := more
  refine ⟨by omega, ?_⟩
  rw [readItems]
  simp only [goes, first, more]

theorem nextItem?_first {b : UInt8} (solid : isSpace b = false) (goes : b ≠ 0x5D)
    (r : List UInt8) : ∃ h, nextItem? true (b :: r) = .ok (.inr ⟨b :: r, h⟩) := by
  refine ⟨Nat.le_refl _, ?_⟩
  unfold nextItem?
  simp only [next?_solid solid, if_neg goes]
  rfl

theorem nextItem?_comma {b : UInt8} (solid : isSpace b = false) (goes : b ≠ 0x5D)
    (r : List UInt8) : ∃ h, nextItem? false (0x2C :: b :: r) = .ok (.inr ⟨b :: r, h⟩) := by
  refine ⟨Nat.le_succ _, ?_⟩
  unfold nextItem?
  simp only [next?_solid (show isSpace 0x2C = false from rfl), next?_solid solid, if_neg goes]
  rfl

theorem readItems_more {items : List Json} (whole : ∀ item ∈ items, Whole depth item)
    (returns : ∀ item ∈ items, Returns depth item) (rest : List UInt8) :
    Gives (readItems depth false (encode (moreItemChars items) ++ rest)) items rest := by
  induction items with
  | nil => exact readItems_end false rest
  | cons item items ih =>
    obtain ⟨first, others⟩ := List.forall_mem_cons.mp whole
    obtain ⟨returned, more⟩ := List.forall_mem_cons.mp returns
    obtain ⟨b, r, shape, solid, goes⟩ := encode_begins first
    have read := returned (stops_moreItems items rest)
    rw [moreItemChars, encode_cons, encode_append, List.append_assoc, List.append_assoc]
    refine readItems_next ?_ read (ih others more)
    rw [shape]
    exact nextItem?_comma solid goes _

theorem readItems_all {items : List Json} (whole : ∀ item ∈ items, Whole depth item)
    (returns : ∀ item ∈ items, Returns depth item) (rest : List UInt8) :
    Gives (readItems depth true (encode (itemChars items) ++ rest)) items rest := by
  cases items with
  | nil => exact readItems_end true rest
  | cons item items =>
    obtain ⟨first, others⟩ := List.forall_mem_cons.mp whole
    obtain ⟨returned, more⟩ := List.forall_mem_cons.mp returns
    obtain ⟨b, r, shape, solid, goes⟩ := encode_begins first
    have read := returned (stops_moreItems items rest)
    rw [itemChars, encode_append, List.append_assoc]
    refine readItems_next ?_ read (readItems_more others more rest)
    rw [shape]
    exact nextItem?_first solid goes _

theorem readMembers_end (isFirst : Bool) (before : List (String × Json)) (rest : List UInt8) :
    Gives (readMembers depth isFirst before (0x7D :: rest)) before rest := by
  refine ⟨Nat.lt_succ_self _, ?_⟩
  rw [readMembers]
  rfl

theorem readMembers_next {key : String} {value : Json} {before members : List (String × Json)}
    {isFirst : Bool} {s t u w : List UInt8}
    (goes : ∃ h, nextKey? isFirst s = .ok (.inr ⟨t, h⟩))
    (name : Gives (readString t) key (0x3A :: u))
    (first : Gives (readValue depth u) value w)
    (more : Gives (readMembers depth false (Named.insert key value before) w) members rest) :
    Gives (readMembers depth isFirst before s) members rest := by
  obtain ⟨h, goes⟩ := goes
  obtain ⟨hName, name⟩ := name
  obtain ⟨hFirst, first⟩ := first
  obtain ⟨hMore, more⟩ := more
  have colon : readColon (0x3A :: u) = .ok ⟨u, Nat.lt_succ_self _⟩ := rfl
  refine ⟨by simp only [List.length_cons] at hName; omega, ?_⟩
  rw [readMembers]
  simp only [goes, name, colon, first, more]

theorem nextKey?_first (r : List UInt8) : ∃ h, nextKey? true (0x22 :: r) = .ok (.inr ⟨r, h⟩) :=
  ⟨Nat.lt_succ_self _, rfl⟩

theorem nextKey?_comma (r : List UInt8) :
    ∃ h, nextKey? false (0x2C :: 0x22 :: r) = .ok (.inr ⟨r, h⟩) :=
  ⟨Nat.lt_succ_of_lt (Nat.lt_succ_self _), rfl⟩

theorem readMembers_more {before members : List (String × Json)}
    (sorted : Named.Sorted (before ++ members))
    (returns : ∀ member ∈ members, Returns depth member.2) (rest : List UInt8) :
    Gives (readMembers depth false before (encode (moreMemberChars members) ++ rest))
      (before ++ members) rest := by
  induction members generalizing before with
  | nil =>
    rw [List.append_nil]
    exact readMembers_end false before rest
  | cons member members ih =>
    obtain ⟨key, value⟩ := member
    obtain ⟨returned, others⟩ := List.forall_mem_cons.mp returns
    have placed : Named.insert key value before = before ++ [(key, value)] :=
      Named.insert_last value fun p member =>
        (List.pairwise_append.mp sorted).2.2 p member _ List.mem_cons_self
    rw [List.append_cons] at sorted ⊢
    have read := returned (stops_moreMembers members rest)
    obtain ⟨t, shape, name⟩ := readString_quoted key
      (encode (':' :: (value.chars ++ moreMemberChars members)) ++ rest)
    rw [moreMemberChars, encode_cons, encode_append, List.append_assoc, List.append_assoc, shape]
    rw [encode_cons, encode_append, List.append_assoc, List.append_assoc] at name
    refine readMembers_next (nextKey?_comma t) name read ?_
    rw [placed]
    exact ih sorted others

theorem readMembers_all {members : List (String × Json)} (sorted : Named.Sorted members)
    (returns : ∀ member ∈ members, Returns depth member.2) (rest : List UInt8) :
    Gives (readMembers depth true [] (encode (memberChars members) ++ rest)) members rest := by
  cases members with
  | nil => exact readMembers_end true [] rest
  | cons member members =>
    obtain ⟨key, value⟩ := member
    obtain ⟨returned, others⟩ := List.forall_mem_cons.mp returns
    have read := returned (stops_moreMembers members rest)
    obtain ⟨t, shape, name⟩ := readString_quoted key
      (encode (':' :: (value.chars ++ moreMemberChars members)) ++ rest)
    rw [memberChars, encode_append, List.append_assoc, shape]
    rw [encode_cons, encode_append, List.append_assoc, List.append_assoc] at name
    exact readMembers_next (nextKey?_first t) name read (readMembers_more sorted others rest)

theorem returns_of_whole {v : Json} (whole : Whole depth v) : Returns depth v := by
  induction whole with
  | null => exact fun {rest} _ => readValue_word (.head _) rest
  | bool b =>
    cases b with
    | true => exact fun {rest} _ => readValue_word (.tail _ (.head _)) rest
    | false => exact fun {rest} _ => readValue_word (.tail _ (.tail _ (.head _))) rest
  | int range => exact fun stops => readValue_int range stops
  | str t =>
    intro rest _
    obtain ⟨r, shape, read⟩ := readString_quoted t rest
    rw [chars, shape]
    exact readValue_string read
  | arr whole ih => exact fun {rest} _ => readValue_list (readItems_all whole ih rest)
  | obj sorted whole ih => exact fun {rest} _ => readValue_object (readMembers_all sorted ih rest)

/-- What is written for a value is read as the value. -/
theorem parseText_render {v : Json} (whole : Whole depthLimit v) : parseText v.render = .ok v := by
  have ends : Stops [] := fun _ => nofun
  have returned := returns_of_whole whole ends
  rw [List.append_nil] at returned
  obtain ⟨h, read⟩ := returned
  rw [parseText, Text.Utf8.bytesOf_eq_encode, render, String.toList_ofList, parse, readAll, read]
  rfl

end

end ScriptHost.Json
