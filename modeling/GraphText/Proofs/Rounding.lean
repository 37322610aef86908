-- Rounding to a float. The float nearest to a fraction depends on the value of the
-- fraction alone, and a fraction that is the size of a float is that float.
import GraphText.Float64.Decimal
import Mathlib.Tactic.DefEqTransformations
import Mathlib.Tactic.Ring

namespace GraphText

/-! ## Fractions of the same value -/

theorem roundEven_mul_right {k : Nat} (hk : 0 < k) (num den : Nat) :
    roundEven (num * k) (den * k) = roundEven num den := by
  have above : 2 * (num % den * k) > den * k ↔ 2 * (num % den) > den := by
    rw [← Nat.mul_assoc]
    exact Nat.mul_lt_mul_right hk
  have tie : 2 * (num % den * k) = den * k ↔ 2 * (num % den) = den := by
    rw [← Nat.mul_assoc]
    exact Nat.mul_left_inj (by omega)
  simp only [roundEven, Nat.mul_div_mul_right _ _ hk, Nat.mul_mod_mul_right, above, tie]

theorem roundUnits_mul_right {k : Nat} (hk : 0 < k) (num den : Nat) :
    roundUnits (num * k) (den * k) = roundUnits num den := by
  have swap : den * k * 2 ^ spareBits (num / den) = den * 2 ^ spareBits (num / den) * k := by ring
  rw [roundUnits, Nat.mul_div_mul_right _ _ hk, swap, roundEven_mul_right hk, roundUnits]

/-- A count that a float has is not rounded. -/
theorem roundUnits_of_fitsFloat {units den : Nat} (h : FitsFloat units) (hd : 0 < den) :
    roundUnits (units * den) den = units := by
  obtain ⟨digits, hdigits⟩ := h.1
  have whole : units * den = digits * (den * 2 ^ spareBits units) := by
    conv => lhs; rw [hdigits]
    ring
  have pos : 0 < den * 2 ^ spareBits units := Nat.mul_pos hd (Nat.two_pow_pos _)
  have round : roundEven (units * den) (den * 2 ^ spareBits units) = digits := by
    rw [whole, roundEven, Nat.mul_mod_left, Nat.mul_div_cancel _ pos, if_neg (by omega)]
  rw [roundUnits, Nat.mul_div_cancel _ hd, round, Nat.mul_comm, ← hdigits]

namespace Float64

theorem ofUnits_mul_right {k : Nat} (hk : 0 < k) (negative : Bool) (num den : Nat) :
    ofUnits negative (num * k) (den * k) = ofUnits negative num den := by
  simp only [ofUnits, roundUnits_mul_right hk]

theorem ofUnits_of_fitsFloat {den : Nat} (hd : 0 < den) (negative : Bool) (m : Magnitude) :
    ofUnits negative (m.units * den) den = .finite negative m := by
  have same := roundUnits_of_fitsFloat m.fits hd
  unfold ofUnits
  split
  · congr 1
    obtain ⟨units, fits⟩ := m
    congr 1
  · rename_i large
    rw [same] at large
    exact absurd m.fits.2 large

/-- The sign takes no part in rounding. -/
theorem ofUnits_finite {num den : Nat} {m : Magnitude}
    (h : ofUnits false num den = .finite false m) (negative : Bool) :
    ofUnits negative num den = .finite negative m := by
  unfold ofUnits at h ⊢
  split at h
  · rename_i small
    rw [dif_pos small]
    simpa using h
  · simp at h

theorem ofRatio_mul_right {k : Nat} (hk : 0 < k) (negative : Bool) (num den : Nat) :
    ofRatio negative (num * k) (den * k) = ofRatio negative num den := by
  rw [ofRatio, Nat.mul_right_comm, ofUnits_mul_right hk, ofRatio]

/-- A decimal is a fraction of powers of ten, whichever two make its exponent. -/
theorem ofDecimal_eq_ofRatio (negative : Bool) (digits : Nat) {exponent : Int} {a b : Nat}
    (h : exponent = a - b) :
    ofDecimal negative digits exponent = ofRatio negative (digits * 10 ^ a) (10 ^ b) := by
  unfold ofDecimal
  split
  · have more : a = exponent.toNat + b := by omega
    rw [more, Nat.pow_add, ← Nat.mul_assoc,
      ← ofRatio_mul_right (Nat.pow_pos (by decide) : 0 < 10 ^ b) _ _ 1, Nat.one_mul]
  · have more : b = (-exponent).toNat + a := by omega
    rw [more, Nat.pow_add,
      ← ofRatio_mul_right (Nat.pow_pos (by decide) : 0 < 10 ^ a) _ digits]

/-- Zeros behind the digits count as a power of ten. -/
theorem ofDecimal_mul_pow (negative : Bool) (digits k : Nat) (exponent : Int) :
    ofDecimal negative (digits * 10 ^ k) exponent = ofDecimal negative digits (exponent + k) := by
  obtain ⟨a, b, h⟩ : ∃ a b : Nat, exponent = a - b :=
    ⟨exponent.toNat, (-exponent).toNat, by omega⟩
  have more : exponent + k = ((k + a : Nat) : Int) - b := by omega
  rw [ofDecimal_eq_ofRatio _ _ h, ofDecimal_eq_ofRatio _ _ more, Nat.pow_add, Nat.mul_assoc]

theorem ofDecimal_finite {digits : Nat} {exponent : Int} {m : Magnitude}
    (h : ofDecimal false digits exponent = .finite false m) (negative : Bool) :
    ofDecimal negative digits exponent = .finite negative m := by
  unfold ofDecimal at h ⊢
  split at h
  · rename_i whole
    rw [if_pos whole]
    exact ofUnits_finite h negative
  · rename_i fraction
    rw [if_neg fraction]
    exact ofUnits_finite h negative

end Float64

/-! ## The shortest decimal -/

theorem Decimal.ofDecimal_trimmed (negative : Bool) (n : Nat) (d : Decimal) :
    Float64.ofDecimal negative (d.trimmed n).digits (d.trimmed n).exponent =
      Float64.ofDecimal negative d.digits d.exponent := by
  induction n generalizing d with
  | zero => rfl
  | succ n ih =>
    rw [trimmed]
    split
    · rename_i h
      have digits : d.digits = d.digits / 10 * 10 ^ 1 := by omega
      rw [ih, digits, Float64.ofDecimal_mul_pow]
      simp
    · rfl

namespace Magnitude

/-- A count of halves of halves has a five for every two of its fraction. -/
theorem ofDecimal_five_pow {k : Nat} (hk : k = 1074) (m : Magnitude) :
    Float64.ofDecimal false (m.units * 5 ^ k) (-k) = .finite false m := by
  have exponent : (-k : Int) = ((0 : Nat) : Int) - k := by omega
  have whole : m.units * 5 ^ k * 10 ^ 0 * 2 ^ k = m.units * 10 ^ k := by
    rw [Nat.pow_zero, Nat.mul_one, Nat.mul_assoc, ← Nat.mul_pow]
  rw [Float64.ofDecimal_eq_ofRatio _ _ exponent, Float64.ofRatio, ← hk, whole]
  exact Float64.ofUnits_of_fitsFloat (Nat.pow_pos (by decide)) false m

theorem readsBack_iff {m : Magnitude} {d : Decimal} :
    m.readsBack d = true ↔ Float64.ofDecimal false d.digits d.exponent = .finite false m :=
  decide_eq_true_iff

/-- All the digits of a size read back, so some decimal always does. -/
theorem readsBack_exact (m : Magnitude) : m.readsBack m.exact = true := by
  -- The power stays a variable, or the kernel would count up to it.
  obtain ⟨k, hk⟩ : ∃ k : Nat, k = 1074 := ⟨_, rfl⟩
  have exponent : (-1074 : Int) = -k := by omega
  rw [readsBack_iff, exact, exponent, ← hk]
  exact ofDecimal_five_pow hk m

theorem readsBack_trimmed (m : Magnitude) (n : Nat) (d : Decimal) :
    m.readsBack (d.trimmed n) = m.readsBack d := by
  rw [Bool.eq_iff_iff, readsBack_iff, readsBack_iff, Decimal.ofDecimal_trimmed]

/-- The definition as a function. Unfolded at one size, the kernel would run the search. -/
theorem shortest_eq : @shortest = fun m tie =>
    match (m.candidates tie).find? m.readsBack with
    | some d => d.trimmed (Decimal.width d.digits)
    | none => m.exact := rfl

theorem readsBack_shortest (m : Magnitude) (tie : Tie) : m.readsBack (m.shortest tie) = true := by
  have all := m.readsBack_exact
  rw [shortest_eq]
  beta_reduce
  generalize m.exact = e at all ⊢
  generalize found : (m.candidates tie).find? m.readsBack = o
  cases o with
  | some d =>
    rw [readsBack_trimmed]
    exact List.find?_some found
  | none => exact all

/-- The shortest decimal reads back, with either sign. -/
theorem ofDecimal_shortest (m : Magnitude) (tie : Tie) (negative : Bool) :
    Float64.ofDecimal negative (m.shortest tie).digits (m.shortest tie).exponent =
      .finite negative m :=
  Float64.ofDecimal_finite (readsBack_iff.1 (m.readsBack_shortest tie)) negative

end Magnitude
end GraphText
