-- Bytes in hexadecimal digits. A text names bytes if it is two digits of either case for
-- each of them, and bytes read back from the digits that they are written with.
import GraphText.Proofs.LowerForms
import GraphText.Text.Number

namespace GraphText.Hex

theorem value?_hexDigit : ∀ n < 16, value? (hexDigit n) = some n := by decide

/-- Two digits of either case for every byte, the higher one in front. -/
inductive IsWritten : Text → List UInt8 → Prop
  | nil : IsWritten [] []
  | cons {a b : Char} {high low : Nat} {t : Text} {bytes : List UInt8} :
      high < 16 → a.toLower = hexDigit high → low < 16 → b.toLower = hexDigit low →
      IsWritten t bytes → IsWritten (a :: b :: t) (UInt8.ofNat (16 * high + low) :: bytes)

/-! ## One digit -/

theorem value?_toLower (c : Char) : value? c.toLower = value? c := by
  rcases Nat.lt_or_ge c.toNat 128 with low | high
  · exact of_isAscii (P := fun c => value? c.toLower = value? c) (by decide) low
  · rw [toLower_of_le high]

theorem isAscii_of_value? {c : Char} {v : Nat} (h : value? c = some v) : c.toNat < 128 := by
  have le : ∀ d : Char, c ≤ d → d.toNat < 128 → c.toNat < 128 := by
    intro d below small
    exact Nat.lt_of_le_of_lt (UInt32.le_iff_toNat_le.1 below) small
  unfold value? at h
  split at h
  · rename_i range
    exact le '9' range.2 (by decide)
  · split at h
    · rename_i range
      exact le 'f' range.2 (by decide)
    · split at h
      · rename_i range
        exact le 'F' range.2 (by decide)
      · cases h

/-- A character has the value of the digit that is its lower form. -/
theorem value?_eq_some_iff {c : Char} {v : Nat} :
    value? c = some v ↔ v < 16 ∧ c.toLower = hexDigit v := by
  refine ⟨?_, ?_⟩
  · intro h
    have digits : ∀ n < 128, ∀ v ∈ value? (Char.ofNat n),
        v < 16 ∧ (Char.ofNat n).toLower = hexDigit v := by decide +kernel
    exact of_isAscii (P := fun c => ∀ v ∈ value? c, v < 16 ∧ c.toLower = hexDigit v) digits
      (isAscii_of_value? h) v h
  · rintro ⟨small, digit⟩
    rw [← value?_toLower, digit, value?_hexDigit v small]

theorem digit_eq_ok_iff {c : Char} {position v : Nat} :
    digit c position = .ok v ↔ v < 16 ∧ c.toLower = hexDigit v := by
  rw [← value?_eq_some_iff, digit]
  cases value? c <;> simp

theorem utf8Size_of_digit {c : Char} {position v : Nat} (h : digit c position = .ok v) :
    c.utf8Size = 1 := by
  have ascii := isAscii_of_value? (value?_eq_some_iff.2 (digit_eq_ok_iff.1 h))
  exact Char.utf8Size_eq_one_iff.2 (UInt32.le_iff_toNat_le.2 (Nat.le_of_lt_succ ascii))

/-! ## Pairs of digits -/

/-- The text is two digits for every byte, and each of them takes a byte itself. -/
theorem IsWritten.length_eq {t : Text} {bytes : List UInt8} (h : IsWritten t bytes) :
    t.length = 2 * bytes.length ∧ Text.byteLength t = t.length := by
  induction h with
  | nil => exact ⟨rfl, rfl⟩
  | cons high a low b _ ih =>
    have sizeA := utf8Size_of_digit (digit_eq_ok_iff.2 ⟨high, a⟩ : digit _ 0 = _)
    have sizeB := utf8Size_of_digit (digit_eq_ok_iff.2 ⟨low, b⟩ : digit _ 0 = _)
    simp only [List.length_cons, Text.byteLength_cons]
    omega

/-- An even number of bytes makes pairs, if all of them are digits. -/
theorem pairs_eq_ok_iff {t : Text} {position : Nat} {bytes : List UInt8}
    (even : Text.byteLength t % 2 ≠ 1) : pairs position t = .ok bytes ↔ IsWritten t bytes := by
  fun_induction pairs position t generalizing bytes with
  | case1 =>
    refine ⟨?_, ?_⟩
    · rintro ⟨⟩
      exact .nil
    · rintro ⟨⟩
      rfl
  | case2 position c =>
    refine iff_of_false ?_ (by rintro ⟨⟩)
    intro h
    cases digit : digit c position with
    | error f => simp [digit, Except.map] at h
    | ok v => simp [utf8Size_of_digit digit] at even
  | case3 position a b r ih =>
    refine ⟨?_, ?_⟩
    · intro h
      cases digitA : digit a position with
      | error f => simp [digitA, bind, Except.bind] at h
      | ok high =>
        cases digitB : digit b (position + 1) with
        | error f => simp [digitA, digitB, bind, Except.bind] at h
        | ok low =>
          have size := utf8Size_of_digit digitA
          have size' := utf8Size_of_digit digitB
          simp only [Text.byteLength_cons] at even
          cases rest : pairs (position + 2) r with
          | error f => simp [digitA, digitB, rest, bind, Except.bind] at h
          | ok more =>
            simp only [digitA, digitB, rest, bind, Except.bind, Except.ok.injEq] at h
            obtain ⟨small, named⟩ := digit_eq_ok_iff.1 digitA
            obtain ⟨small', named'⟩ := digit_eq_ok_iff.1 digitB
            rw [← h]
            exact .cons small named small' named' ((ih (by omega)).1 rest)
    · intro h
      obtain ⟨length, size⟩ := h.length_eq
      cases h with
      | cons small named small' named' more =>
        obtain ⟨length', size'⟩ := more.length_eq
        rw [digit_eq_ok_iff.2 ⟨small, named⟩, digit_eq_ok_iff.2 ⟨small', named'⟩,
          (ih (by omega)).2 more]
        rfl

/-- A text names bytes if it is written as their digits. -/
theorem decode_eq_ok_iff {t : Text} {bytes : List UInt8} :
    decode t = .ok bytes ↔ IsWritten t bytes := by
  unfold decode
  split
  · rename_i odd
    refine iff_of_false (by simp) ?_
    intro h
    have length := h.length_eq
    omega
  · rename_i even
    exact pairs_eq_ok_iff even

theorem toLower_hexDigit : ∀ n < 16, (hexDigit n).toLower = hexDigit n := by decide

theorem isWritten_encode (bytes : List UInt8) : IsWritten (encode bytes) bytes := by
  induction bytes with
  | nil => exact .nil
  | cons b r ih =>
    have size := b.toNat_lt
    have byte : UInt8.ofNat (16 * (b.toNat / 16) + b.toNat % 16) = b := by
      rw [Nat.div_add_mod, UInt8.ofNat_toNat]
    have high : b.toNat / 16 < 16 := by omega
    have low : b.toNat % 16 < 16 := by omega
    have written := IsWritten.cons high (toLower_hexDigit _ high) low (toLower_hexDigit _ low) ih
    rwa [byte] at written

/-- Bytes read back from their digits. -/
theorem decode_encode (bytes : List UInt8) : decode (encode bytes) = .ok bytes :=
  decode_eq_ok_iff.2 (isWritten_encode bytes)

end GraphText.Hex
