import ScriptHost.Text.Utf8

/-!
UTF-8 is read exactly as it is written: the bytes of a text read back as the text, and no other
bytes read as it.
-/
namespace ScriptHost.Text.Utf8

theorem toList_loop (bs : ByteArray) (i : Nat) (r : List UInt8) :
    ByteArray.toList.loop bs i r = r.reverse ++ bs.data.toList.drop i := by
  fun_induction ByteArray.toList.loop bs i r with
  | case1 i r inside ih =>
    have bound : i < bs.data.toList.length := inside
    have byte : bs.get! i = bs.data.toList[i] := getElem!_pos bs.data i inside
    rw [ih, List.drop_eq_getElem_cons bound, byte, List.reverse_cons, List.append_assoc]
    rfl
  | case2 i r outside =>
    have bound : bs.data.toList.length ≤ i := Nat.le_of_not_lt outside
    rw [List.drop_eq_nil_of_le bound, List.append_nil]

theorem toList_toByteArray (bytes : List UInt8) : bytes.toByteArray.toList = bytes := by
  rw [ByteArray.toList, toList_loop, List.toList_data_toByteArray]
  rfl

theorem bytesOf_eq_encode (s : String) : bytesOf s = encode s.toList := by
  rw [bytesOf, String.toUTF8_eq_toByteArray, ← String.utf8Encode_toList]
  exact toList_toByteArray _

def units (n : Nat) : List Nat :=
  if n < 0x80 then [n]
  else if n < 0x800 then [n / 64 + 0xC0, n % 64 + 0x80]
  else if n < 0x10000 then [n / 4096 + 0xE0, n / 64 % 64 + 0x80, n % 64 + 0x80]
  else [n / 262144 + 0xF0, n / 4096 % 64 + 0x80, n / 64 % 64 + 0x80, n % 64 + 0x80]

theorem valid (c : Char) : c.toNat.isValidChar := c.valid

theorem encodeChar_eq_units (c : Char) : encodeChar c = (units c.toNat).map UInt8.ofNat := by
  have range : c.toNat < 0x110000 := by
    have := valid c
    unfold Nat.isValidChar at this
    omega
  have number : c.val.toNat = c.toNat := rfl
  simp only [encodeChar, String.utf8EncodeChar, units, number]
  by_cases one : c.toNat < 0x80
  · rw [if_pos (show c.toNat ≤ 127 by omega), if_pos one]
    rfl
  rw [if_neg (show ¬ c.toNat ≤ 127 by omega), if_neg one]
  by_cases two : c.toNat < 0x800
  · have head : c.toNat / 64 % 32 = c.toNat / 64 := Nat.mod_eq_of_lt (by omega)
    rw [if_pos (show c.toNat ≤ 2047 by omega), if_pos two, head]
    rfl
  rw [if_neg (show ¬ c.toNat ≤ 2047 by omega), if_neg two]
  by_cases three : c.toNat < 0x10000
  · have head : c.toNat / 4096 % 16 = c.toNat / 4096 := Nat.mod_eq_of_lt (by omega)
    rw [if_pos (show c.toNat ≤ 65535 by omega), if_pos three, head]
    rfl
  · have head : c.toNat / 262144 % 8 = c.toNat / 262144 := Nat.mod_eq_of_lt (by omega)
    rw [if_neg (show ¬ c.toNat ≤ 65535 by omega), if_neg three, head]
    rfl

theorem zero_mem_encodeChar (c : Char) : 0 ∈ encodeChar c ↔ c = '\x00' := by
  have range : c.toNat < 0x110000 := by
    have := valid c
    unfold Nat.isValidChar at this
    omega
  constructor
  · intro member
    obtain ⟨n, unit, zero⟩ := List.mem_map.mp (encodeChar_eq_units c ▸ member)
    have number : c.toNat = 0 := by
      have zero : n % 256 = 0 := by
        have := congrArg UInt8.toNat zero
        simpa using this
      unfold units at unit
      grind
    exact Char.toNat_inj.mp number
  · rintro rfl
    decide

theorem zero_mem_bytesOf (s : String) : 0 ∈ bytesOf s ↔ '\x00' ∈ s.toList := by
  rw [bytesOf_eq_encode, encode, List.mem_flatMap]
  constructor
  · rintro ⟨c, member, zero⟩
    exact (zero_mem_encodeChar c).mp zero ▸ member
  · exact fun member => ⟨_, member, (zero_mem_encodeChar _).mpr rfl⟩

section

variable {b : Nat}

theorem first_one (h : b < 0x80) : first b = .whole (Char.ofNat b) := if_pos h

theorem first_two (low : 0xC2 ≤ b) (high : b < 0xE0) :
    first b = .opens ⟨1, b - 0xC0, 0x80, 0xBF⟩ := by
  rw [first, if_neg (by omega), if_neg (by omega), if_pos high]

theorem first_three (low : 0xE0 ≤ b) (high : b < 0xF0) :
    first b = .opens ⟨2, b - 0xE0, if b = 0xE0 then 0xA0 else 0x80,
      if b = 0xED then 0x9F else 0xBF⟩ := by
  unfold first
  grind

theorem first_four (low : 0xF0 ≤ b) (high : b < 0xF5) :
    first b = .opens ⟨3, b - 0xF0, if b = 0xF0 then 0x90 else 0x80,
      if b = 0xF4 then 0x8F else 0xBF⟩ := by
  unfold first
  grind

theorem first_bad (h : 0x80 ≤ b ∧ b < 0xC2 ∨ 0xF5 ≤ b) : first b = .bad := by
  unfold first
  grind

end

section

variable {b : UInt8} {bytes rest : List UInt8} {o : Open} {n : Nat}

theorem piecesFrom_whole (h : b.toNat < 0x80) :
    piecesFrom none (b :: rest) = some (Char.ofNat b.toNat) :: piecesFrom none rest := by
  rw [piecesFrom, first_one h]

theorem piecesFrom_opens (h : first b.toNat = .opens o) :
    piecesFrom none (b :: rest) = piecesFrom (some o) rest := by
  rw [piecesFrom, h]

theorem piecesFrom_more (low : o.low ≤ b.toNat) (high : b.toNat ≤ o.high) (more : 1 < o.owed) :
    piecesFrom (some o) (b :: rest) =
      piecesFrom (some ⟨o.owed - 1, o.bits * 64 + (b.toNat - 0x80), 0x80, 0xBF⟩) rest := by
  rw [piecesFrom]
  simp only [if_pos (And.intro low high), if_neg (Nat.not_le.mpr more)]

theorem piecesFrom_last (low : o.low ≤ b.toNat) (high : b.toNat ≤ o.high) (last : o.owed ≤ 1) :
    piecesFrom (some o) (b :: rest) =
      some (Char.ofNat (o.bits * 64 + (b.toNat - 0x80))) :: piecesFrom none rest := by
  rw [piecesFrom]
  simp only [if_pos (And.intro low high), if_pos last]

theorem exists_next (unbroken : none ∉ piecesFrom (some o) bytes) :
    ∃ b rest, bytes = b :: rest ∧ o.low ≤ b.toNat ∧ b.toNat ≤ o.high := by
  cases bytes with
  | nil => exact absurd List.mem_cons_self unbroken
  | cons b rest =>
    by_cases inside : o.low ≤ b.toNat ∧ b.toNat ≤ o.high
    · exact ⟨b, rest, rfl, inside⟩
    · rw [piecesFrom] at unbroken
      simp only [if_neg inside] at unbroken
      exact absurd List.mem_cons_self unbroken

theorem piecesFrom_two {b₁ : UInt8} (low : 0x80 ≤ n) (high : n < 0x800)
    (head : b.toNat = n / 64 + 0xC0) (last : b₁.toNat = n % 64 + 0x80) :
    piecesFrom none (b :: b₁ :: rest) = some (Char.ofNat n) :: piecesFrom none rest := by
  have number : (b.toNat - 0xC0) * 64 + (b₁.toNat - 0x80) = n := by omega
  rw [piecesFrom_opens (first_two (by omega) (by omega)),
    piecesFrom_last (show 0x80 ≤ b₁.toNat by omega) (show b₁.toNat ≤ 0xBF by omega) (Nat.le_refl 1),
    number]

theorem piecesFrom_three {b₁ b₂ : UInt8} (range : n.isValidChar) (low : 0x800 ≤ n)
    (high : n < 0x10000) (head : b.toNat = n / 4096 + 0xE0)
    (second : b₁.toNat = n / 64 % 64 + 0x80) (last : b₂.toNat = n % 64 + 0x80) :
    piecesFrom none (b :: b₁ :: b₂ :: rest) = some (Char.ofNat n) :: piecesFrom none rest := by
  have number : ((b.toNat - 0xE0) * 64 + (b₁.toNat - 0x80)) * 64 + (b₂.toNat - 0x80) = n := by
    omega
  rw [piecesFrom_opens (first_three (by omega) (by omega)),
    piecesFrom_more (by simp only; split <;> omega) (by simp only; split <;> omega)
      (Nat.lt_add_one 1),
    piecesFrom_last (show 0x80 ≤ b₂.toNat by omega) (show b₂.toNat ≤ 0xBF by omega) (Nat.le_refl 1),
    number]

theorem piecesFrom_four {b₁ b₂ b₃ : UInt8} (range : n.isValidChar) (low : 0x10000 ≤ n)
    (head : b.toNat = n / 262144 + 0xF0) (second : b₁.toNat = n / 4096 % 64 + 0x80)
    (third : b₂.toNat = n / 64 % 64 + 0x80) (last : b₃.toNat = n % 64 + 0x80) :
    piecesFrom none (b :: b₁ :: b₂ :: b₃ :: rest) =
      some (Char.ofNat n) :: piecesFrom none rest := by
  have number : (((b.toNat - 0xF0) * 64 + (b₁.toNat - 0x80)) * 64 + (b₂.toNat - 0x80)) * 64
      + (b₃.toNat - 0x80) = n := by
    omega
  rw [piecesFrom_opens (first_four (by omega) (by omega)),
    piecesFrom_more (by simp only; split <;> omega) (by simp only; split <;> omega)
      (show 1 < 3 by decide),
    piecesFrom_more (show 0x80 ≤ b₂.toNat by omega) (show b₂.toNat ≤ 0xBF by omega)
      (Nat.lt_add_one 1),
    piecesFrom_last (show 0x80 ≤ b₃.toNat by omega) (show b₃.toNat ≤ 0xBF by omega) (Nat.le_refl 1),
    number]

end

theorem piecesFrom_units {n : Nat} (range : n.isValidChar) (rest : List UInt8) :
    piecesFrom none ((units n).map UInt8.ofNat ++ rest) =
      some (Char.ofNat n) :: piecesFrom none rest := by
  unfold units
  split
  · rename_i one
    have byte : (UInt8.ofNat n).toNat = n := toNat_ofNat (by omega)
    have read : piecesFrom none (UInt8.ofNat n :: rest) = _ := piecesFrom_whole (by rwa [byte])
    rwa [byte] at read
  · split
    · exact piecesFrom_two (by omega) ‹_› (toNat_ofNat (by omega)) (toNat_ofNat (by omega))
    · split
      · exact piecesFrom_three range (by omega) ‹_› (toNat_ofNat (by omega))
          (toNat_ofNat (by omega)) (toNat_ofNat (by omega))
      · exact piecesFrom_four range (by omega) (toNat_ofNat (by omega))
          (toNat_ofNat (by omega)) (toNat_ofNat (by omega)) (toNat_ofNat (by omega))

/-- What is written for a character is read as that character. -/
theorem piecesFrom_encodeChar (c : Char) (rest : List UInt8) :
    piecesFrom none (encodeChar c ++ rest) = some c :: piecesFrom none rest := by
  rw [encodeChar_eq_units, piecesFrom_units (valid c), Char.ofNat_toNat]

theorem pieces_encode (cs : List Char) : pieces (encode cs) = cs.map some := by
  induction cs with
  | nil => rfl
  | cons c cs ih => exact (piecesFrom_encodeChar c (encode cs)).trans (congrArg (some c :: ·) ih)

theorem eq_encodeChar {n : Nat} (bytes : List UInt8) (range : n.isValidChar)
    (same : bytes.map UInt8.toNat = units n) : bytes = encodeChar (Char.ofNat n) := by
  have number : (Char.ofNat n).toNat = n := by
    rw [Char.ofNat, dif_pos range]
    rfl
  rw [encodeChar_eq_units, number, ← same, List.map_map]
  exact (List.map_id'' (fun b => UInt8.ofNat_toNat) bytes).symm

theorem exists_encodeChar {b : UInt8} {rest : List UInt8}
    (unbroken : none ∉ piecesFrom none (b :: rest)) :
    ∃ c more, b :: rest = encodeChar c ++ more := by
  -- The first byte tells how many bytes the character has.
  by_cases one : b.toNat < 0x80
  · have bytes : [b].map UInt8.toNat = units b.toNat := by
      rw [units, if_pos one]
      rfl
    exact ⟨_, rest, congrArg (· ++ rest) (eq_encodeChar [b] (Or.inl (by omega)) bytes)⟩
  by_cases bad : b.toNat < 0xC2 ∨ 0xF5 ≤ b.toNat
  · rw [piecesFrom, first_bad (by omega)] at unbroken
    exact absurd List.mem_cons_self unbroken
  by_cases two : b.toNat < 0xE0
  · rw [piecesFrom_opens (first_two (by omega) two)] at unbroken
    obtain ⟨b₁, more, rfl, low, high⟩ := exists_next unbroken
    simp only at low high
    refine ⟨Char.ofNat ((b.toNat - 0xC0) * 64 + (b₁.toNat - 0x80)), more, ?_⟩
    refine congrArg (· ++ more) (eq_encodeChar [b, b₁] (Or.inl (by omega)) ?_)
    rw [units, if_neg (by omega), if_pos (by omega)]
    simp only [List.map_cons, List.map_nil, List.cons.injEq, and_true]
    omega
  by_cases three : b.toNat < 0xF0
  · rw [piecesFrom_opens (first_three (by omega) three)] at unbroken
    obtain ⟨b₁, more, rfl, low, high⟩ := exists_next unbroken
    rw [piecesFrom_more low high (Nat.lt_add_one 1)] at unbroken
    obtain ⟨b₂, more, rfl, low', high'⟩ := exists_next unbroken
    simp only at low high low' high'
    -- What the second byte may be keeps out the longer forms of small numbers and the surrogates.
    have least : 0x80 ≤ b₁.toNat ∧ (b.toNat = 0xE0 → 0xA0 ≤ b₁.toNat) := by
      split at low <;> omega
    have greatest : b₁.toNat ≤ 0xBF ∧ (b.toNat = 0xED → b₁.toNat ≤ 0x9F) := by
      split at high <;> omega
    have range : (((b.toNat - 0xE0) * 64 + (b₁.toNat - 0x80)) * 64
        + (b₂.toNat - 0x80)).isValidChar := by
      unfold Nat.isValidChar
      omega
    refine ⟨_, more, congrArg (· ++ more) (eq_encodeChar [b, b₁, b₂] range ?_)⟩
    rw [units, if_neg (by omega), if_neg (by omega), if_pos (by omega)]
    simp only [List.map_cons, List.map_nil, List.cons.injEq, and_true]
    omega
  · rw [piecesFrom_opens (first_four (by omega) (by omega))] at unbroken
    obtain ⟨b₁, more, rfl, low, high⟩ := exists_next unbroken
    rw [piecesFrom_more low high (show 1 < 3 by decide)] at unbroken
    obtain ⟨b₂, more, rfl, low', high'⟩ := exists_next unbroken
    rw [piecesFrom_more low' high' (Nat.lt_add_one 1)] at unbroken
    obtain ⟨b₃, more, rfl, low'', high''⟩ := exists_next unbroken
    simp only at low high low' high' low'' high''
    have least : 0x80 ≤ b₁.toNat ∧ (b.toNat = 0xF0 → 0x90 ≤ b₁.toNat) := by
      split at low <;> omega
    have greatest : b₁.toNat ≤ 0xBF ∧ (b.toNat = 0xF4 → b₁.toNat ≤ 0x8F) := by
      split at high <;> omega
    have range : ((((b.toNat - 0xF0) * 64 + (b₁.toNat - 0x80)) * 64 + (b₂.toNat - 0x80)) * 64
        + (b₃.toNat - 0x80)).isValidChar := by
      unfold Nat.isValidChar
      omega
    refine ⟨_, more, congrArg (· ++ more) (eq_encodeChar [b, b₁, b₂, b₃] range ?_)⟩
    rw [units, if_neg (by omega), if_neg (by omega), if_neg (by omega)]
    simp only [List.map_cons, List.map_nil, List.cons.injEq, and_true]
    omega

theorem length_encodeChar_pos (c : Char) : 0 < (encodeChar c).length := by
  rw [encodeChar, String.length_utf8EncodeChar]
  exact c.utf8Size_pos

theorem exists_encode (bytes : List UInt8) (unbroken : none ∉ pieces bytes) :
    ∃ cs, bytes = encode cs := by
  induction length : bytes.length using Nat.strongRecOn generalizing bytes with
  | ind n ih =>
    cases bytes with
    | nil => exact ⟨[], rfl⟩
    | cons b rest =>
      obtain ⟨c, more, split⟩ := exists_encodeChar unbroken
      have shorter : more.length < n := by
        have nonempty := length_encodeChar_pos c
        rw [split, List.length_append] at length
        omega
      rw [split, pieces, piecesFrom_encodeChar] at unbroken
      obtain ⟨cs, same⟩ := ih more.length shorter more
        (fun broken => unbroken (List.mem_cons_of_mem _ broken)) rfl
      exact ⟨c :: cs, split.trans (congrArg (encodeChar c ++ ·) same)⟩

theorem mapM_id_eq_some {α : Type} {xs : List (Option α)} {ys : List α} :
    xs.mapM id = some ys ↔ xs = ys.map some := by
  induction xs generalizing ys with
  | nil =>
    rw [List.mapM_nil, eq_comm (a := []), List.map_eq_nil_iff]
    exact Option.some_inj.trans eq_comm
  | cons x xs ih =>
    simp only [List.mapM_cons, id_eq, Option.bind_eq_bind, Option.pure_def,
      Option.bind_eq_some_iff, Option.some_inj, ih]
    cases ys with
    | nil => simp
    | cons y ys => simp [and_assoc, and_comm]

theorem decode?_eq_some_iff {bytes : List UInt8} {cs : List Char} :
    decode? bytes = some cs ↔ bytes = encode cs := by
  rw [decode?, mapM_id_eq_some]
  constructor
  · intro read
    obtain ⟨written, same⟩ := exists_encode bytes (by simp [read])
    rw [same, pieces_encode, List.map_inj_right fun _ _ => Option.some.inj] at read
    rw [same, read]
  · intro same
    rw [same, pieces_encode]

/-- Bytes read as a text exactly when they are written for it. -/
theorem text?_eq_some_iff {bytes : List UInt8} {s : String} :
    text? bytes = some s ↔ bytes = bytesOf s := by
  rw [text?, Option.map_eq_some_iff, bytesOf_eq_encode]
  constructor
  · rintro ⟨cs, read, rfl⟩
    rw [String.toList_ofList]
    exact decode?_eq_some_iff.mp read
  · intro same
    exact ⟨s.toList, decode?_eq_some_iff.mpr same, String.ofList_toList⟩

end ScriptHost.Text.Utf8
