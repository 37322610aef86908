-- Floats of 64 bits. The size of a finite float is a count of the smallest float,
-- 2 ^ -1074, and holds at most 53 binary digits in front of its zeros. A fraction is
-- rounded to the nearest such count, and a tie goes to the even one.

namespace GraphText

-- Powers are those of the core library, whatever else is imported.
attribute [local instance (high)] instPowNat

/-! ## Sizes -/

/-- The zeros that a count must have behind its digits, to leave no more than 53. -/
def spareBits (units : Nat) : Nat := units.log2 - 52

/-- The count is the size of a finite float. -/
def FitsFloat (units : Nat) : Prop := 2 ^ spareBits units ∣ units ∧ units.log2 < 2098

instance (units : Nat) : Decidable (FitsFloat units) :=
  inferInstanceAs (Decidable (_ ∧ _))

/-- The size of a finite float, as a count of 2 ^ -1074. -/
structure Magnitude where
  units : Nat
  fits : FitsFloat units
  deriving DecidableEq

instance : Inhabited Magnitude := ⟨⟨0, by decide⟩⟩

/-! ## Rounding -/

/-- The whole number nearest to a fraction. A tie goes to the even one. -/
def roundEven (num den : Nat) : Nat :=
  if 2 * (num % den) > den ∨ (2 * (num % den) = den ∧ num / den % 2 = 1) then num / den + 1
  else num / den

/-- The count of at most 53 binary digits nearest to a fraction of counts. -/
def roundUnits (num den : Nat) : Nat :=
  roundEven num (den * 2 ^ spareBits (num / den)) * 2 ^ spareBits (num / den)

theorem roundEven_le (num den : Nat) : roundEven num den ≤ num / den + 1 := by
  unfold roundEven
  split <;> omega

theorem lt_pow_spareBits (n : Nat) : n < 2 ^ (53 + spareBits n) := by
  refine Nat.lt_of_lt_of_le Nat.lt_log2_self (Nat.pow_le_pow_right (by decide) ?_)
  unfold spareBits
  omega

/-- At most 53 digits and any number of zeros leave enough zeros. -/
theorem spareBits_dvd {k e : Nat} (h : k ≤ 2 ^ (53 : Nat)) :
    2 ^ spareBits (k * 2 ^ e) ∣ k * 2 ^ e := by
  rcases Nat.lt_or_eq_of_le h with less | rfl
  · refine Nat.dvd_trans (Nat.pow_dvd_pow 2 ?_) (Nat.dvd_mul_left _ _)
    by_cases zero : k = 0
    · simp [zero, spareBits]
    · have bound : (k * 2 ^ e).log2 < 53 + e := by
        rw [Nat.log2_lt (Nat.mul_ne_zero zero (by simp)), Nat.pow_add]
        exact Nat.mul_lt_mul_of_pos_right less (Nat.two_pow_pos e)
      unfold spareBits
      omega
  · rw [← Nat.pow_add]
    exact Nat.pow_dvd_pow 2 (by simp [spareBits])

theorem roundUnits_dvd (num den : Nat) :
    2 ^ spareBits (roundUnits num den) ∣ roundUnits num den := by
  refine spareBits_dvd ?_
  refine Nat.le_trans (roundEven_le _ _) ?_
  rw [← Nat.div_div_eq_div_mul]
  refine Nat.div_lt_of_lt_mul ?_
  rw [← Nat.pow_add, Nat.add_comm]
  exact lt_pow_spareBits _

/-! ## Floats -/

/-- A float of 64 bits. All that are no number count as one. -/
inductive Float64 where
  | nan
  | infinite (negative : Bool)
  | finite (negative : Bool) (size : Magnitude)
  deriving DecidableEq

namespace Float64

/-- The float of a sign and a count, which is infinite if the count is too large. -/
def ofUnits (negative : Bool) (num den : Nat) : Float64 :=
  if h : (roundUnits num den).log2 < 2098 then
    .finite negative ⟨roundUnits num den, roundUnits_dvd num den, h⟩
  else .infinite negative

/-- The float nearest to a fraction. -/
def ofRatio (negative : Bool) (num den : Nat) : Float64 :=
  ofUnits negative (num * 2 ^ (1074 : Nat)) den

/-- The float nearest to some digits with a power of ten. -/
def ofDecimal (negative : Bool) (digits : Nat) (exponent : Int) : Float64 :=
  if 0 ≤ exponent then ofRatio negative (digits * 10 ^ exponent.toNat) 1
  else ofRatio negative digits (10 ^ (-exponent).toNat)

/-- Numeric equality: zero has one value with either sign, and what is no number equals
nothing. -/
def equal : Float64 → Float64 → Bool
  | finite s m, finite t n => m.units == n.units && (m.units == 0 || s == t)
  | infinite s, infinite t => s == t
  | _, _ => false

instance : BEq Float64 := ⟨equal⟩

def isFinite : Float64 → Bool
  | finite _ _ => true
  | _ => false

/-! ## Bits

A sign, eleven bits for the zeros behind the digits, and 52 bits for the digits. The leading
digit of a float that is not tiny is not stored, so that its count of zeros is one higher. -/

/-- The bits of an infinite float, without its sign. -/
def infinityBits : Nat := 2047 * 2 ^ (52 : Nat)

/-- The bits of a size. -/
def magnitudeBits (m : Magnitude) : Nat :=
  spareBits m.units * 2 ^ (52 : Nat) + m.units / 2 ^ spareBits m.units

/-- The bits of a float that is a number. -/
def toBits? : Float64 → Option Nat
  | nan => none
  | infinite s => some (s.toNat * 2 ^ (63 : Nat) + infinityBits)
  | finite s m => some (s.toNat * 2 ^ (63 : Nat) + magnitudeBits m)

/-- The float of 64 bits. -/
def ofBits (bits : Nat) : Float64 :=
  let negative := bits / 2 ^ (63 : Nat) % 2 == 1
  let zeros := bits / 2 ^ (52 : Nat) % 2048
  let digits := bits % 2 ^ (52 : Nat)
  if zeros = 2047 then if digits = 0 then infinite negative else nan
  else if zeros = 0 then ofUnits negative digits 1
  else ofUnits negative ((2 ^ (52 : Nat) + digits) * 2 ^ (zeros - 1)) 1

end Float64
end GraphText
