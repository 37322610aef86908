-- The texts of instants: an instant whose year four digits hold has a timestamp as its text,
-- which reads back. With any other year the text starts with a sign, and no timestamp does.
import GraphText.Proofs.TimestampGrammar

namespace GraphText

-- Powers are those of the core library, whatever else is imported.
attribute [local instance (high)] instPowNat

namespace Instant

/-! ## Fractions -/

theorem isFraction_padded {width n nanos : Nat} (hw : 0 < width) (most : width ≤ 9)
    (h : n < 10 ^ width) (value : n * 10 ^ (9 - width) = nanos) :
    IsFraction ('.' :: padded width n) nanos := by
  have length := length_padded hw h
  have placed : padded width n ≠ [] := fun empty => by simp [empty] at length; omega
  have shape := IsFraction.places placed (allDigits_padded width n)
  rwa [List.take_of_length_le (by omega), digitsValue_padded, length, value] at shape

/-- The places are as many as the nanoseconds need. -/
theorem isFraction_fractionText {nanos : Nat} (h : nanos < billion) :
    IsFraction (fractionText nanos) nanos := by
  unfold billion at h
  unfold fractionText
  split
  · rename_i zero
    rw [zero]
    exact .none
  · split
    · exact isFraction_padded (by decide) (by decide) (by omega) (by omega)
    · split
      · exact isFraction_padded (by decide) (by decide) (by omega) (by omega)
      · exact isFraction_padded (by decide) (by decide) (by omega) (by omega)

/-- The places of a fraction give its nanoseconds again. -/
theorem fraction_fractionText {nanos : Nat} (h : nanos < billion) {r : Text}
    (ends : ∀ c ∈ r.head?, isDigit c = false ∧ c ≠ '.') :
    fraction (fractionText nanos ++ r) = .ok (nanos, r) :=
  fraction_append (isFraction_fractionText h) ends

/-! ## The clock -/

/-- The parts of an instant in universal time make it again. In a leap second the clock
shows second 60, and its nanoseconds lie a billion higher. -/
theorem ofClock?_parts (i : Instant) :
    ofClock? i.date (i.ofDay / 3600) (i.ofDay / 60 % 60) i.ofMinute i.ofSecond = some i := by
  have days : i.date.toDays = i.seconds / 86400 := Date.toDays_ofDays _
  have day : i.ofDay = i.seconds % 86400 := rfl
  have nanos := i.isInstant.2
  have leap : billion ≤ i.nanos → i.ofMinute = 60 ∧ i.ofSecond = i.nanos - billion := by
    intro h
    have last := nanos.2 h
    have below := nanos.1
    refine ⟨?_, ?_⟩
    · rw [ofMinute, if_pos h]
      omega
    · rw [ofSecond, Nat.mod_eq_sub_mod h, Nat.mod_eq_of_lt (by omega)]
  have plain : ¬ billion ≤ i.nanos → i.ofMinute = i.seconds % 60 ∧ i.ofSecond = i.nanos := by
    intro h
    refine ⟨?_, ?_⟩
    · rw [ofMinute, if_neg h]
      omega
    · rw [ofSecond, Nat.mod_eq_of_lt (by omega)]
  by_cases h : billion ≤ i.nanos
  · obtain ⟨minute, second⟩ := leap h
    have last := nanos.2 h
    have start : i.date.toDays * 86400 + i.ofDay / 3600 * 3600 + i.ofDay / 60 % 60 * 60 + 59 =
        i.seconds := by omega
    rw [ofClock?, if_pos ⟨Date.stands_ofDays _, by omega, by omega, by omega⟩]
    dsimp only
    rw [if_pos minute, start, second, Nat.sub_add_cancel h, of?_self]
  · obtain ⟨minute, second⟩ := plain h
    have start : i.date.toDays * 86400 + i.ofDay / 3600 * 3600 + i.ofDay / 60 % 60 * 60 +
        i.seconds % 60 = i.seconds := by omega
    rw [ofClock?, if_pos ⟨Date.stands_ofDays _, by omega, by omega, by omega⟩]
    dsimp only
    rw [if_neg (by omega), minute, start, second, of?_self]

theorem universal?_zero (i : Instant) : i.universal? 0 = some i := by
  rw [universal?, if_pos (by simp), earlier?, Int.sub_zero, of?_self]

/-! ## The text -/

/-- The text of an instant, part by part. -/
theorem display_eq {i : Instant} (h : i.HasPlainYear) : i.display =
    padded 4 i.year.toNat ++ '-' :: (padded 2 i.date.month.toNat ++ '-' ::
      (padded 2 i.date.day.toNat ++ 'T' :: (padded 2 (i.ofDay / 3600).toNat ++ ':' ::
        (padded 2 (i.ofDay / 60 % 60).toNat ++ ':' :: (padded 2 i.ofMinute.toNat ++
          (fractionText i.ofSecond ++ ['Z'])))))) := by
  have year : yearText i.date.year = padded 4 i.year.toNat := if_pos h
  simp only [display, Date.display, year, List.append_assoc, List.cons_append, List.nil_append]

theorem ofMinute_bounds (i : Instant) : 0 ≤ i.ofMinute ∧ i.ofMinute ≤ 60 := by
  rw [ofMinute]
  split <;> omega

theorem ofDay_bounds (i : Instant) : 0 ≤ i.ofDay ∧ i.ofDay < 86400 := by
  rw [ofDay]
  omega

theorem month_bounds (i : Instant) : 1 ≤ i.date.month ∧ i.date.month ≤ 12 :=
  Date.month_ofDays (i.seconds / 86400)

theorem day_bounds (i : Instant) : 1 ≤ i.date.day ∧ i.date.day ≤ 31 :=
  Date.day_ofDays (i.seconds / 86400)

/-- The natural numbers that the text shows are the day. -/
theorem date_eq {i : Instant} (h : i.HasPlainYear) :
    (⟨i.year.toNat, i.date.month.toNat, i.date.day.toNat⟩ : Date) = i.date := by
  have month := i.month_bounds
  have day := i.day_bounds
  have y : (i.year.toNat : Int) = i.date.year := Int.toNat_of_nonneg h.1
  have m : (i.date.month.toNat : Int) = i.date.month := Int.toNat_of_nonneg (by omega)
  have d : (i.date.day.toNat : Int) = i.date.day := Int.toNat_of_nonneg (by omega)
  rw [y, m, d]

/-- The text is the reading of a clock that is not ahead. -/
theorem isWritten_display {i : Instant} (h : i.HasPlainYear) : IsWritten i.display i := by
  have time := i.ofDay_bounds
  have minute := i.ofMinute_bounds
  have year := h.2
  have hour : ((i.ofDay / 3600).toNat : Int) = i.ofDay / 3600 := Int.toNat_of_nonneg (by omega)
  have min : ((i.ofDay / 60 % 60).toNat : Int) = i.ofDay / 60 % 60 :=
    Int.toNat_of_nonneg (by omega)
  have sec : (i.ofMinute.toNat : Int) = i.ofMinute := Int.toNat_of_nonneg (by omega)
  obtain ⟨⟨stands, -⟩, seconds, nanos⟩ := ofClock?_eq_some_iff.1 i.ofClock?_parts
  rw [← date_eq h] at stands seconds
  rw [← hour, ← min, ← sec] at seconds
  rw [← sec] at nanos
  have fraction' : IsFraction (fractionText i.ofSecond) i.ofSecond :=
    isFraction_fractionText (Nat.mod_lt _ (by decide))
  have reads := IsReading.mk (by omega) stands (by decide : 'T' ∈ ['T', 't', ' ']) (by omega)
    (by omega) (by omega) fraction' seconds nanos
  refine ⟨_, ['Z'], i, 0, ?_, reads, .universal (by decide), by decide, by omega, rfl⟩
  simp only [display_eq h, List.append_assoc, List.cons_append]

/-- An instant whose year four digits hold reads back from its text. -/
theorem read_display {i : Instant} (h : i.HasPlainYear) : read i.display = .ok i :=
  read_eq_ok_iff.2 (isWritten_display h)

/-- No timestamp starts with a sign, so any other year does not read back. -/
theorem read_display_of_not_hasPlainYear {i : Instant} (h : ¬ i.HasPlainYear) :
    ∃ f, read i.display = .error f := by
  have year : yearText i.date.year =
      (if i.date.year < 0 then '-' else '+') :: padded 4 i.date.year.natAbs := if_neg h
  obtain ⟨r, text⟩ : ∃ r, i.display = (if i.date.year < 0 then '-' else '+') :: r := by
    rw [display, Date.display, year]
    exact ⟨_, rfl⟩
  have noDigit : isDigit (if i.date.year < 0 then '-' else '+') = false := by split <;> rfl
  rw [read, readFront, text]
  by_cases short : Text.byteLength ((if i.date.year < 0 then '-' else '+') :: r) < 19
  · rw [if_pos short]
    exact ⟨_, rfl⟩
  · rw [if_neg short]
    simp only [number, noDigit]
    exact ⟨_, rfl⟩

/-! ## The characters -/

/-- A digit, or one of the marks between the numbers of a timestamp. -/
def IsStampChar (c : Char) : Prop := isDigit c = true ∨ c ∈ ['-', '+', 'T', ':', '.', 'Z']

instance (c : Char) : Decidable (IsStampChar c) := inferInstanceAs (Decidable (_ ∨ _))

theorem isStampChar_of_mem_padded {width n : Nat} {c : Char} (h : c ∈ padded width n) :
    IsStampChar c := .inl (allDigits_padded width n c h)

theorem isStampChar_of_mem_yearText {y : Int} {c : Char} (h : c ∈ yearText y) :
    IsStampChar c := by
  unfold yearText at h
  split at h
  · exact isStampChar_of_mem_padded h
  · rcases List.mem_cons.1 h with rfl | h
    · split
      · exact .inr (by simp)
      · exact .inr (by simp)
    · exact isStampChar_of_mem_padded h

theorem isStampChar_of_mem_fractionText {n : Nat} {c : Char} (h : c ∈ fractionText n) :
    IsStampChar c := by
  have point : ∀ w k : Nat, c ∈ '.' :: padded w k → IsStampChar c := by
    intro w k hc
    rcases List.mem_cons.1 hc with rfl | hc
    · exact .inr (by simp)
    · exact isStampChar_of_mem_padded hc
  unfold fractionText at h
  split at h
  · simp at h
  · split at h
    · exact point _ _ h
    · split at h
      · exact point _ _ h
      · exact point _ _ h

theorem isStampChar_of_mem_display {i : Instant} {c : Char} (h : c ∈ i.display) :
    IsStampChar c := by
  simp only [display, Date.display, List.mem_append, List.mem_singleton, or_assoc] at h
  rcases h with h | rfl | h | rfl | h | rfl | h | rfl | h | rfl | h | h | rfl
  · exact isStampChar_of_mem_yearText h
  · exact .inr (by simp)
  · exact isStampChar_of_mem_padded h
  · exact .inr (by simp)
  · exact isStampChar_of_mem_padded h
  · exact .inr (by simp)
  · exact isStampChar_of_mem_padded h
  · exact .inr (by simp)
  · exact isStampChar_of_mem_padded h
  · exact .inr (by simp)
  · exact isStampChar_of_mem_padded h
  · exact isStampChar_of_mem_fractionText h
  · exact .inr (by simp)

end Instant
end GraphText
