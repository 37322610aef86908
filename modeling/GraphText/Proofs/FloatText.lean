-- Floats in decimal digits read back. The text shows a decimal that rounds to the float,
-- and reading takes the same digits and power of ten from it.
import GraphText.Float64.Decimal
import GraphText.Proofs.Numerals
import GraphText.Proofs.Rounding

namespace GraphText

namespace Float64

/-! ## Digits with and without a point -/

theorem readNumber?_whole {w : Text} (hw : AllDigits w) (shown : w ≠ []) (negative : Bool) :
    readNumber? negative w = some (ofDecimal negative (digitsValue w) 0) := by
  have front := takeWhile_isDigit hw (fun c (hc : c ∈ ([] : Text).head?) => by cases hc)
  have back := dropWhile_isDigit hw (fun c (hc : c ∈ ([] : Text).head?) => by cases hc)
  rw [List.append_nil] at front back
  simp [readNumber?, front, back, cutPlaces, readExponent?, shown]

theorem readNumber?_point {w p : Text} (hw : AllDigits w) (hp : AllDigits p) (shown : w ≠ [])
    (negative : Bool) : readNumber? negative (w ++ '.' :: p) =
      some (ofDecimal negative (digitsValue (w ++ p)) (-p.length)) := by
  have noDigit : ∀ c ∈ ('.' :: p).head?, isDigit c = false := by
    intro c hc
    cases hc
    rfl
  have front := takeWhile_isDigit hp (fun c (hc : c ∈ ([] : Text).head?) => by cases hc)
  have back := dropWhile_isDigit hp (fun c (hc : c ∈ ([] : Text).head?) => by cases hc)
  rw [List.append_nil] at front back
  simp [readNumber?, takeWhile_isDigit hw noDigit, dropWhile_isDigit hw noDigit, cutPlaces, front,
    back, readExponent?, shown]

/-- A decimal reads as the float nearest to it. -/
theorem readNumber?_positional (d : Decimal) (negative : Bool) :
    readNumber? negative d.positional = some (ofDecimal negative d.digits d.exponent) := by
  have digits := allDigits_natText d.digits
  have shown := natText_ne_nil d.digits
  unfold Decimal.positional
  dsimp only
  split
  · rename_i whole
    have power : (0 : Int) + d.exponent.toNat = d.exponent := by omega
    rw [readNumber?_whole (digits.append (allDigits_replicate _)) (by simp [shown]),
      digitsValue_append, digitsValue_natText, digitsValue_replicate, List.length_replicate,
      Nat.add_zero, ofDecimal_mul_pow, power]
  · split
    · rename_i fraction inside
      have places : -(((-d.exponent).toNat : Nat) : Int) = d.exponent := by omega
      have front :
          (natText d.digits).take ((natText d.digits).length - (-d.exponent).toNat) ≠ [] := by
        intro empty
        rw [List.take_eq_nil_iff] at empty
        rcases empty with empty | empty
        · omega
        · exact shown empty
      rw [List.append_assoc, List.singleton_append, readNumber?_point
        (fun c hc => digits c (List.mem_of_mem_take hc))
        (fun c hc => digits c (List.mem_of_mem_drop hc)) front, List.take_append_drop,
        digitsValue_natText, List.length_drop, Nat.sub_sub_self (by omega), places]
    · rename_i fraction outside
      have places : -((((-d.exponent).toNat - (natText d.digits).length +
          (natText d.digits).length : Nat)) : Int) = d.exponent := by omega
      have value : digitsValue (['0'] ++ (List.replicate
          ((-d.exponent).toNat - (natText d.digits).length) '0' ++ natText d.digits)) =
          d.digits := by
        rw [← List.append_assoc, ← List.replicate_one, List.replicate_append_replicate,
          digitsValue_append, digitsValue_replicate, digitsValue_natText, Nat.zero_mul,
          Nat.zero_add]
      have read := readNumber?_point (allDigits_replicate 1)
        ((allDigits_replicate ((-d.exponent).toNat - (natText d.digits).length)).append digits)
        (by simp) negative
      rw [List.replicate_one, value, List.length_append, List.length_replicate, places] at read
      simpa using read

/-! ## The text of a float -/

theorem exists_positional_cons (d : Decimal) : ∃ c r, d.positional = c :: r ∧ isDigit c = true := by
  obtain ⟨c, r, text, digit⟩ := exists_natText_cons d.digits
  unfold Decimal.positional
  dsimp only
  split
  · rw [text]
    exact ⟨c, _, rfl, digit⟩
  · split
    · rename_i fraction inside
      obtain ⟨n, front⟩ : ∃ n, (natText d.digits).length - (-d.exponent).toNat = n + 1 :=
        ⟨_, (Nat.sub_add_cancel (by omega)).symm⟩
      rw [front, text]
      exact ⟨c, _, rfl, digit⟩
    · exact ⟨'0', _, rfl, rfl⟩

/-- The text of a size without its sign. -/
def sizeText (m : Magnitude) : Text := if m.units = 0 then ['0'] else (m.shortest .up).positional

theorem exists_sizeText_cons (m : Magnitude) : ∃ c r, sizeText m = c :: r ∧ isDigit c = true := by
  unfold sizeText
  split
  · exact ⟨'0', [], rfl, rfl⟩
  · exact exists_positional_cons _

theorem readNumber?_sizeText (m : Magnitude) (negative : Bool) :
    readNumber? negative (sizeText m) = some (finite negative m) := by
  unfold sizeText
  split
  · rename_i zero
    have value : ofDecimal negative 0 0 = ofUnits negative (m.units * 1) 1 := by
      simp only [zero, ofDecimal, Int.le_refl, if_true, ofRatio, Nat.zero_mul]
    rw [← ofUnits_of_fitsFloat Nat.one_pos negative m, ← value]
    exact readNumber?_whole (allDigits_replicate 1) (by simp) negative
  · rw [readNumber?_positional, Magnitude.ofDecimal_shortest]

theorem cutSign_of_isDigit {c : Char} (hc : isDigit c = true) (r : Text) :
    cutSign (c :: r) = (false, c :: r) := by
  unfold cutSign
  split
  · rename_i minus
    cases minus
    simp [isDigit] at hc
  · rename_i plus
    cases plus
    simp [isDigit] at hc
  · rfl

/-- Every float that is a number reads back from its text. -/
theorem read_display {x : Float64} (h : x ≠ nan) : read x.display = .ok x := by
  cases x with
  | nan => exact absurd rfl h
  | infinite negative => cases negative <;> rfl
  | finite negative m =>
    have number := readNumber?_sizeText m negative
    obtain ⟨c, r, text, digit⟩ := exists_sizeText_cons m
    change read (signText negative ++ sizeText m) = _
    rw [text] at number ⊢
    cases negative with
    | true => simp [read, signText, cutSign, number]
    | false => simp [read, signText, cutSign_of_isDigit digit, number]

end Float64
end GraphText
