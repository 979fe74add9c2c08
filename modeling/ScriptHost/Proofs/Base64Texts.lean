import Mathlib.Algebra.Group.Nat.Defs
import ScriptHost.Text.Base64

/-!
Base64 is read exactly as it is written, and it is written as the format says: the bits of the
bytes in groups of six, the last group filled up with zeros, the last four characters with `=`.
-/
namespace ScriptHost.Text.Base64

theorem value?_digit : ∀ n < 64, value? (digit n) = some n := by decide +kernel

theorem value?_ascii : ∀ n < 128, ∀ v ∈ value? (Char.ofNat n), v < 64 ∧ digit v = Char.ofNat n := by
  decide +kernel

theorem digit_of_value? {c : Char} {v : Nat} (h : value? c = some v) : v < 64 ∧ digit v = c := by
  have small : c.toNat < 128 := by
    unfold value? at h
    grind
  have found := value?_ascii c.toNat small v
  rw [Char.ofNat_toNat] at found
  exact found h

theorem digit_ne_pad {n : Nat} (h : n < 64) : digit n ≠ '=' := by
  intro same
  have found := value?_digit n h
  rw [same] at found
  cases found

def group (w x y z : Nat) (more : List UInt8) : List UInt8 :=
  UInt8.ofNat (w * 4 + x / 16) :: UInt8.ofNat (x % 16 * 16 + y / 4) :: UInt8.ofNat (y % 4 * 64 + z)
    :: more

theorem decode?_group {w x y z : Char} (full : z ≠ '=') (rest : List Char) :
    decode? (w :: x :: y :: z :: rest) = (do
      return group (← value? w) (← value? x) (← value? y) (← value? z) (← decode? rest)) := by
  rw [decode?]
  · rfl
  · exact fun _ last _ => full last
  · exact fun last _ => full last

theorem ofNat_eq {b : UInt8} {n : Nat} (h : n = b.toNat) : UInt8.ofNat n = b := by
  rw [h, UInt8.ofNat_toNat]

theorem decode?_encode (bytes : List UInt8) : decode? (encode bytes) = some bytes := by
  fun_induction encode bytes with
  | case1 => rfl
  | case2 a =>
    have size := a.toNat_lt
    rw [decode?, value?_digit _ (by omega), value?_digit _ (by omega)]
    simp only [Option.bind_eq_bind, Option.bind_some]
    rw [if_pos (by omega), ofNat_eq (b := a) (by omega)]
  | case3 a b =>
    have size := a.toNat_lt
    have size' := b.toNat_lt
    have full : digit (b.toNat % 16 * 4) ≠ '=' := digit_ne_pad (by omega)
    rw [decode?, value?_digit _ (by omega), value?_digit _ (by omega), value?_digit _ (by omega)]
    · simp only [Option.bind_eq_bind, Option.bind_some]
      rw [if_pos (by omega), ofNat_eq (b := a) (by omega), ofNat_eq (b := b) (by omega)]
    · exact full
  | case4 a b c rest ih =>
    have size := a.toNat_lt
    have size' := b.toNat_lt
    have size'' := c.toNat_lt
    rw [decode?_group (digit_ne_pad (by omega)), value?_digit _ (by omega),
      value?_digit _ (by omega), value?_digit _ (by omega), value?_digit _ (by omega), ih]
    simp only [Option.bind_eq_bind, Option.bind_some, Option.pure_def, group]
    rw [ofNat_eq (b := a) (by omega), ofNat_eq (b := b) (by omega), ofNat_eq (b := c) (by omega)]

theorem encode_group {w x y z : Nat} (hw : w < 64) (hx : x < 64) (hy : y < 64) (hz : z < 64)
    (more : List UInt8) :
    encode (group w x y z more) = digit w :: digit x :: digit y :: digit z :: encode more := by
  have first : (w * 4 + x / 16) / 4 = w := by omega
  have second : (w * 4 + x / 16) % 4 * 16 + (x % 16 * 16 + y / 4) / 16 = x := by omega
  have third : (x % 16 * 16 + y / 4) % 16 * 4 + (y % 4 * 64 + z) / 64 = y := by omega
  have fourth : (y % 4 * 64 + z) % 64 = z := by omega
  rw [group, encode, Utf8.toNat_ofNat (by omega), Utf8.toNat_ofNat (by omega),
    Utf8.toNat_ofNat (by omega), first, second, third, fourth]

theorem eq_encode {text : List Char} {bytes : List UInt8} (h : decode? text = some bytes) :
    text = encode bytes := by
  fun_induction decode? text generalizing bytes with
  | case1 =>
    cases h
    rfl
  | case2 w x =>
    simp only [Option.bind_eq_bind, Option.bind_eq_some_iff, Option.ite_none_right_eq_some,
      Option.some_inj] at h
    obtain ⟨w, hw, x, hx, unused, rfl⟩ := h
    obtain ⟨ltW, rfl⟩ := digit_of_value? hw
    obtain ⟨ltX, rfl⟩ := digit_of_value? hx
    have first : (w * 4 + x / 16) / 4 = w := by omega
    have second : (w * 4 + x / 16) % 4 * 16 = x := by omega
    rw [encode, Utf8.toNat_ofNat (by omega), first, second]
  | case3 w x y full =>
    simp only [Option.bind_eq_bind, Option.bind_eq_some_iff, Option.ite_none_right_eq_some,
      Option.some_inj] at h
    obtain ⟨w, hw, x, hx, y, hy, unused, rfl⟩ := h
    obtain ⟨ltW, rfl⟩ := digit_of_value? hw
    obtain ⟨ltX, rfl⟩ := digit_of_value? hx
    obtain ⟨ltY, rfl⟩ := digit_of_value? hy
    have first : (w * 4 + x / 16) / 4 = w := by omega
    have second : (w * 4 + x / 16) % 4 * 16 + (x % 16 * 16 + y / 4) / 16 = x := by omega
    have third : (x % 16 * 16 + y / 4) % 16 * 4 = y := by omega
    rw [encode, Utf8.toNat_ofNat (by omega), Utf8.toNat_ofNat (by omega), first, second, third]
  | case4 w x y z rest _ _ ih =>
    simp only [Option.bind_eq_bind, Option.bind_eq_some_iff, Option.some_inj] at h
    obtain ⟨w, hw, x, hx, y, hy, z, hz, more, read, rfl⟩ := h
    obtain ⟨ltW, rfl⟩ := digit_of_value? hw
    obtain ⟨ltX, rfl⟩ := digit_of_value? hx
    obtain ⟨ltY, rfl⟩ := digit_of_value? hy
    obtain ⟨ltZ, rfl⟩ := digit_of_value? hz
    rw [ih read]
    exact (encode_group ltW ltX ltY ltZ more).symm
  | case5 => cases h

theorem decode?_eq_some_iff {text : List Char} {bytes : List UInt8} :
    decode? text = some bytes ↔ text = encode bytes :=
  ⟨eq_encode, fun same => same ▸ decode?_encode bytes⟩

def bits : Nat → Nat → List Bool
  | 0, _ => []
  | width + 1, n => bits width (n / 2) ++ [n % 2 == 1]

theorem length_bits (width n : Nat) : (bits width n).length = width := by
  induction width generalizing n with
  | zero => rfl
  | succ width ih => rw [bits, List.length_append, ih, List.length_singleton]

theorem bits_append (high low m : Nat) {n : Nat} (h : n < 2 ^ low) :
    bits (high + low) (m * 2 ^ low + n) = bits high m ++ bits low n := by
  induction low generalizing n with
  | zero =>
    have zero : n = 0 := by omega
    rw [zero, Nat.pow_zero, Nat.mul_one]
    exact (List.append_nil _).symm
  | succ low ih =>
    have half : (m * 2 ^ (low + 1) + n) / 2 = m * 2 ^ low + n / 2 := by
      rw [Nat.pow_succ, ← Nat.mul_assoc]
      omega
    have odd : (m * 2 ^ (low + 1) + n) % 2 = n % 2 := by
      rw [Nat.pow_succ, ← Nat.mul_assoc]
      omega
    rw [← Nat.add_assoc, bits, half, odd, ih (by rw [Nat.pow_succ] at h; omega), bits,
      List.append_assoc]

theorem bits_inj {width m n : Nat} (hm : m < 2 ^ width) (hn : n < 2 ^ width)
    (same : bits width m = bits width n) : m = n := by
  induction width generalizing m n with
  | zero => omega
  | succ width ih =>
    rw [Nat.pow_succ] at hm hn
    obtain ⟨high, low⟩ := List.append_inj same (by rw [length_bits, length_bits])
    have halves := ih (by omega) (by omega) high
    have odd : (m % 2 == 1) = (n % 2 == 1) := List.singleton_inj.mp low
    rw [Bool.eq_iff_iff, beq_iff_eq, beq_iff_eq] at odd
    omega

/-- What the format says: the bits of the bytes, and fewer than six zeros after them, are the bits
of the digits; fewer than four `=` make whole groups of four characters. -/
def Written (bytes : List UInt8) (text : List Char) : Prop :=
  ∃ (digits : List Nat) (zeros pads : Nat),
    (∀ d ∈ digits, d < 64) ∧
    digits.flatMap (bits 6) =
      (bytes.flatMap fun b => bits 8 b.toNat) ++ List.replicate zeros false ∧
    zeros < 6 ∧ pads < 4 ∧ (digits.length + pads) % 4 = 0 ∧
    text = digits.map digit ++ List.replicate pads '='

theorem bits_split (high low n : Nat) :
    bits (high + low) n = bits high (n / 2 ^ low) ++ bits low (n % 2 ^ low) := by
  rw [← bits_append high low _ (Nat.mod_lt n (Nat.two_pow_pos low)), Nat.mul_comm, Nat.div_add_mod]

theorem written_group {a b c : UInt8} {rest : List UInt8} {text : List Char}
    (h : Written rest text) :
    Written (a :: b :: c :: rest)
      (digit (a.toNat / 4) :: digit (a.toNat % 4 * 16 + b.toNat / 16)
        :: digit (b.toNat % 16 * 4 + c.toNat / 64) :: digit (c.toNat % 64) :: text) := by
  obtain ⟨digits, zeros, pads, small, same, few, short, whole, rfl⟩ := h
  have sizeA := a.toNat_lt
  have sizeB := b.toNat_lt
  have sizeC := c.toNat_lt
  refine ⟨a.toNat / 4 :: (a.toNat % 4 * 16 + b.toNat / 16) :: (b.toNat % 16 * 4 + c.toNat / 64)
    :: c.toNat % 64 :: digits, zeros, pads, ?_, ?_, few, short, ?_, rfl⟩
  · simp only [List.mem_cons]
    rintro d (rfl | rfl | rfl | rfl | there)
    · omega
    · omega
    · omega
    · omega
    · exact small d there
  · -- The 24 bits of three bytes, cut where the digits end.
    have first := bits_split 6 2 a.toNat
    have second := bits_split 4 4 b.toNat
    have third := bits_split 2 6 c.toNat
    have joined := bits_append 2 4 (a.toNat % 4) (show b.toNat / 16 < 2 ^ 4 by omega)
    have joined' := bits_append 4 2 (b.toNat % 16) (show c.toNat / 64 < 2 ^ 2 by omega)
    simp only [Nat.reduceAdd, Nat.reducePow] at first second third joined joined'
    simp only [List.flatMap_cons, same, joined, joined', first, second, third, List.append_assoc]
  · simp only [List.length_cons]
    omega

theorem written_encode (bytes : List UInt8) : Written bytes (encode bytes) := by
  fun_induction encode bytes with
  | case1 => exact ⟨[], 0, 0, by simp⟩
  | case2 a =>
    have size := a.toNat_lt
    refine ⟨[a.toNat / 4, a.toNat % 4 * 16], 4, 2, ?_, ?_, by decide, by decide, by simp,
      rfl⟩
    · simp only [List.mem_cons, List.not_mem_nil, or_false]
      rintro d (rfl | rfl) <;> omega
    · have first := bits_split 6 2 a.toNat
      have filled := bits_append 2 4 (a.toNat % 4) (show 0 < 2 ^ 4 by decide)
      simp only [Nat.reduceAdd, Nat.reducePow, Nat.add_zero] at first filled
      simp only [List.flatMap_cons, List.flatMap_nil, first, filled, List.append_assoc]
      rfl
  | case3 a b =>
    have sizeA := a.toNat_lt
    have sizeB := b.toNat_lt
    refine ⟨[a.toNat / 4, a.toNat % 4 * 16 + b.toNat / 16, b.toNat % 16 * 4], 2, 1, ?_, ?_,
      by decide, by decide, by simp, rfl⟩
    · simp only [List.mem_cons, List.not_mem_nil, or_false]
      rintro d (rfl | rfl | rfl) <;> omega
    · have first := bits_split 6 2 a.toNat
      have second := bits_split 4 4 b.toNat
      have joined := bits_append 2 4 (a.toNat % 4) (show b.toNat / 16 < 2 ^ 4 by omega)
      have filled := bits_append 4 2 (b.toNat % 16) (show 0 < 2 ^ 2 by decide)
      simp only [Nat.reduceAdd, Nat.reducePow, Nat.add_zero] at first second joined filled
      simp only [List.flatMap_cons, List.flatMap_nil, first, second, joined, filled,
        List.append_assoc]
      rfl
  | case4 a b c rest ih => exact written_group ih

theorem length_flatMap_of {α : Type} {width : Nat} {f : α → List Bool}
    (each : ∀ x, (f x).length = width) (xs : List α) :
    (xs.flatMap f).length = xs.length * width := by
  induction xs with
  | nil => exact (Nat.zero_mul width).symm
  | cons x xs ih =>
    rw [List.flatMap_cons, List.length_append, each, ih, List.length_cons, Nat.succ_mul,
      Nat.add_comm]

theorem digits_inj {ds es : List Nat} (hd : ∀ d ∈ ds, d < 64) (he : ∀ e ∈ es, e < 64)
    (same : ds.flatMap (bits 6) = es.flatMap (bits 6)) : ds = es := by
  induction ds generalizing es with
  | nil =>
    cases es with
    | nil => rfl
    | cons e es => cases congrArg List.length same
  | cons d ds ih =>
    cases es with
    | nil => cases congrArg List.length same
    | cons e es =>
      obtain ⟨first, rest⟩ := List.append_inj same (by rw [length_bits, length_bits])
      have heads := bits_inj (hd d List.mem_cons_self) (he e List.mem_cons_self) first
      have tails := ih (fun d there => hd d (List.mem_cons_of_mem _ there))
        (fun e there => he e (List.mem_cons_of_mem _ there)) rest
      rw [heads, tails]

theorem length_digits {digits : List Nat} {bytes : List UInt8} {zeros : Nat}
    (same : digits.flatMap (bits 6) =
      (bytes.flatMap fun b => bits 8 b.toNat) ++ List.replicate zeros false) :
    digits.length * 6 = bytes.length * 8 + zeros := by
  have length := congrArg List.length same
  rwa [List.length_append, List.length_replicate, length_flatMap_of (length_bits 6),
    length_flatMap_of fun b : UInt8 => length_bits 8 b.toNat] at length

/-- Bytes have one written form. -/
theorem Written.unique {bytes : List UInt8} {text text' : List Char} (h : Written bytes text)
    (h' : Written bytes text') : text = text' := by
  obtain ⟨ds, zeros, pads, small, same, few, short, whole, shape⟩ := h
  obtain ⟨es, zeros', pads', small', same', few', short', whole', shape'⟩ := h'
  -- The number of bytes fixes how many zeros there are, and the digits fix the padding.
  have length := length_digits same
  have length' := length_digits same'
  have zerosEq : zeros = zeros' := by omega
  have digitsEq : ds = es := digits_inj small small' (by rw [same, same', zerosEq])
  have padsEq : pads = pads' := by
    rw [digitsEq] at whole
    omega
  rw [shape, shape', digitsEq, padsEq]

theorem written_iff {bytes : List UInt8} {text : List Char} :
    Written bytes text ↔ text = encode bytes :=
  ⟨fun h => h.unique (written_encode bytes), fun same => same ▸ written_encode bytes⟩

end ScriptHost.Text.Base64
