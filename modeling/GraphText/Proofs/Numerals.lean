-- Numbers in decimal digits: the digits of a number make that number again. A text is a whole
-- number of 64 bits if it is digits, perhaps behind a sign, and what they make has 64 bits.
import GraphText.Text.Number
import GraphText.Proofs.Markers
import Mathlib.Tactic.Ring

namespace GraphText

/-- Every character of the text is a digit. -/
def AllDigits (t : Text) : Prop := ∀ c ∈ t, isDigit c = true

theorem AllDigits.append {s t : Text} (hs : AllDigits s) (ht : AllDigits t) :
    AllDigits (s ++ t) := by
  intro c hc
  rcases List.mem_append.1 hc with h | h
  · exact hs c h
  · exact ht c h

theorem allDigits_replicate (n : Nat) : AllDigits (List.replicate n '0') := by
  intro c hc
  rw [List.eq_of_mem_replicate hc]
  rfl

theorem takeWhile_isDigit {t : Text} (ht : AllDigits t) {r : Text}
    (hr : ∀ c ∈ r.head?, isDigit c = false) : (t ++ r).takeWhile isDigit = t := by
  rw [Text.takeWhile_append_of_stop hr, List.takeWhile_eq_self_iff.2 ht]

theorem dropWhile_isDigit {t : Text} (ht : AllDigits t) {r : Text}
    (hr : ∀ c ∈ r.head?, isDigit c = false) : (t ++ r).dropWhile isDigit = r := by
  rw [Text.dropWhile_append_of_stop hr, List.dropWhile_eq_nil_iff.2 ht, List.nil_append]

/-! ## The value of digits -/

theorem foldl_digits (n : Nat) (t : Text) :
    t.foldl (fun n c => 10 * n + digitValue c) n = n * 10 ^ t.length + digitsValue t := by
  induction t generalizing n with
  | nil => simp [digitsValue]
  | cons c r ih =>
    rw [digitsValue, List.foldl_cons, List.foldl_cons, ih, ih, List.length_cons]
    ring

theorem digitsValue_cons (c : Char) (t : Text) :
    digitsValue (c :: t) = digitValue c * 10 ^ t.length + digitsValue t := by
  rw [digitsValue, List.foldl_cons, foldl_digits, Nat.mul_zero, Nat.zero_add]

theorem digitsValue_append (s t : Text) :
    digitsValue (s ++ t) = digitsValue s * 10 ^ t.length + digitsValue t := by
  rw [digitsValue, List.foldl_append, foldl_digits]
  rfl

theorem digitsValue_replicate (n : Nat) : digitsValue (List.replicate n '0') = 0 := by
  induction n with
  | zero => rfl
  | succ n ih =>
    rw [List.replicate_succ, digitsValue_cons, ih]
    simp [digitValue]

theorem digitsValue_natText (n : Nat) : digitsValue (natText n) = n :=
  Nat.ofDigitChars_toDigits (by simp) (by simp)

theorem allDigits_natText (n : Nat) : AllDigits (natText n) := by
  intro c hc
  have h := Nat.isDigit_of_mem_toDigits (by simp) (by simp) hc
  simpa [Char.isDigit, isDigit, Char.le_def] using h

theorem natText_ne_nil (n : Nat) : natText n ≠ [] := Nat.toDigits_ne_nil

/-- The text of a number starts with a digit. -/
theorem exists_natText_cons (n : Nat) : ∃ c r, natText n = c :: r ∧ isDigit c = true := by
  obtain ⟨c, r, h⟩ := List.exists_cons_of_ne_nil (natText_ne_nil n)
  exact ⟨c, r, h, allDigits_natText n c (h ▸ List.mem_cons_self)⟩

theorem toNat_of_isDigit {c : Char} (h : isDigit c = true) :
    '0'.toNat ≤ c.toNat ∧ c.toNat ≤ '9'.toNat := by
  simp only [isDigit, Bool.and_eq_true, decide_eq_true_eq, Char.le_def] at h
  exact h

theorem digitsValue_lt {t : Text} (ht : AllDigits t) : digitsValue t < 10 ^ t.length := by
  induction t with
  | nil => simp [digitsValue]
  | cons c r ih =>
    have rest := ih fun x hx => ht x (List.mem_cons_of_mem _ hx)
    have digit : digitValue c ≤ 9 := by
      have most := (toNat_of_isDigit (ht c List.mem_cons_self)).2
      have nine : '9'.toNat - '0'.toNat = 9 := rfl
      unfold digitValue
      omega
    have scaled := Nat.mul_le_mul_right (10 ^ r.length) digit
    rw [digitsValue_cons, List.length_cons, Nat.pow_succ]
    omega

/-- Only zero is written with a zero in front. -/
theorem head?_natText {n : Nat} (h : 0 < n) : (natText n).head? ≠ some '0' := by
  intro zero
  obtain ⟨r, text⟩ := List.head?_eq_some_iff.1 zero
  have digits := allDigits_natText n
  have value := digitsValue_natText n
  rw [text] at digits value
  have rest : AllDigits r := fun x hx => digits x (List.mem_cons_of_mem _ hx)
  have zeroDigit : digitValue '0' = 0 := rfl
  rw [digitsValue_cons, zeroDigit, Nat.zero_mul, Nat.zero_add] at value
  have fits := digitsValue_lt rest
  rw [value] at fits
  have longer : 0 < r.length := by
    by_contra empty
    have short : r.length = 0 := by omega
    rw [short] at fits
    omega
  -- The digits behind the zero would be enough.
  have length : (natText n).length ≤ r.length :=
    (Nat.length_toDigits_le_iff (by simp) longer).2 fits
  rw [text, List.length_cons] at length
  omega

/-! ## Whole numbers of 64 bits -/

namespace Int64

/-- The text is a number in digits, perhaps with a sign in front of them. -/
inductive IsWritten : Text → Int → Prop
  | bare {digits : Text} : digits ≠ [] → AllDigits digits → IsWritten digits (digitsValue digits)
  | plus {digits : Text} : digits ≠ [] → AllDigits digits →
      IsWritten ('+' :: digits) (digitsValue digits)
  | minus {digits : Text} : digits ≠ [] → AllDigits digits →
      IsWritten ('-' :: digits) (-digitsValue digits)

/-- Digits make their number if it stays within the limit. -/
theorem number_eq_ok_iff {limit : Nat} {beyond : Fault} {t : Text} {n m : Nat} (h : n ≤ limit) :
    number limit beyond n t = .ok m ↔
      AllDigits t ∧ n * 10 ^ t.length + digitsValue t = m ∧ m ≤ limit := by
  induction t generalizing n with
  | nil =>
    have all : AllDigits [] := fun _ mem => absurd mem List.not_mem_nil
    have value : n * 10 ^ ([] : Text).length + digitsValue [] = n := by simp [digitsValue]
    rw [number, value, Except.ok.injEq]
    refine ⟨?_, fun eq => eq.2.1⟩
    rintro rfl
    exact ⟨all, rfl, h⟩
  | cons c r ih =>
    have more : n * 10 ^ (c :: r).length + digitsValue (c :: r) =
        (10 * n + digitValue c) * 10 ^ r.length + digitsValue r := by
      rw [digitsValue_cons, List.length_cons]
      ring
    have first : 10 * n + digitValue c ≤ (10 * n + digitValue c) * 10 ^ r.length :=
      Nat.le_mul_of_pos_right _ (Nat.pow_pos (by simp))
    have all : AllDigits (c :: r) ↔ isDigit c = true ∧ AllDigits r := List.forall_mem_cons
    rw [number, more, all]
    by_cases digit : isDigit c = true
    · rw [if_neg (by simp [digit])]
      by_cases large : limit < 10 * n + digitValue c
      · rw [if_pos large]
        refine iff_of_false (by simp) ?_
        rintro ⟨-, rfl, fits⟩
        omega
      · rw [if_neg large, ih (Nat.le_of_not_lt large), and_iff_right digit]
    · rw [if_pos (by simpa using digit)]
      exact iff_of_false (by simp) fun all => digit all.1.1

theorem digits_eq_ok_iff {limit : Nat} {beyond : Fault} {t : Text} {m : Nat} :
    digits limit beyond t = .ok m ↔
      t ≠ [] ∧ AllDigits t ∧ digitsValue t = m ∧ m ≤ limit := by
  unfold digits
  split
  · rename_i empty
    rw [List.isEmpty_iff] at empty
    exact iff_of_false (by simp) fun written => written.1 empty
  · rename_i nonempty
    rw [List.isEmpty_iff] at nonempty
    rw [number_eq_ok_iff (Nat.zero_le limit), and_iff_right nonempty, Nat.zero_mul, Nat.zero_add]

/-- A number that was made of digits within a limit is the value that the digits have. -/
theorem map_digits_eq_ok_iff {limit : Nat} {beyond : Fault} {t : Text} {make : Nat → Int64}
    {value : Nat → Int} {n : Int64}
    (makes : ∀ m, m ≤ limit ∧ make m = n ↔ n.toInt = value m) :
    (digits limit beyond t).map make = .ok n ↔
      t ≠ [] ∧ AllDigits t ∧ n.toInt = value (digitsValue t) := by
  rw [← makes]
  cases read : digits limit beyond t with
  | error f =>
    refine iff_of_false (by simp [Except.map]) ?_
    rintro ⟨nonempty, all, fits, -⟩
    rw [digits_eq_ok_iff.2 ⟨nonempty, all, rfl, fits⟩] at read
    cases read
  | ok m =>
    obtain ⟨nonempty, all, rfl, fits⟩ := digits_eq_ok_iff.1 read
    simp [Except.map, nonempty, all, fits]

theorem ofNat_eq_iff {m : Nat} {n : Int64} :
    m ≤ 2 ^ 63 - 1 ∧ Int64.ofNat m = n ↔ n.toInt = m := by
  have high := n.toInt_lt
  refine ⟨?_, ?_⟩
  · rintro ⟨fits, rfl⟩
    exact Int64.toInt_ofNat_of_lt (by omega)
  · intro value
    refine ⟨by omega, ?_⟩
    rw [← Int64.ofInt_eq_ofNat, ← value, Int64.ofInt_toInt]

theorem ofInt_neg_eq_iff {m : Nat} {n : Int64} :
    m ≤ 2 ^ 63 ∧ Int64.ofInt (-m) = n ↔ n.toInt = -m := by
  have low := n.le_toInt
  refine ⟨?_, ?_⟩
  · rintro ⟨fits, rfl⟩
    exact Int64.toInt_ofInt_of_le (by omega) (by omega)
  · intro value
    refine ⟨by omega, ?_⟩
    rw [← value, Int64.ofInt_toInt]

/-! ## The sign -/

theorem isWritten_minus_iff {r : Text} {i : Int} :
    IsWritten ('-' :: r) i ↔ r ≠ [] ∧ AllDigits r ∧ i = -digitsValue r := by
  refine ⟨?_, ?_⟩
  · intro h
    cases h with
    | bare _ all => exact absurd (all '-' List.mem_cons_self) (by decide)
    | minus nonempty all => exact ⟨nonempty, all, rfl⟩
  · rintro ⟨nonempty, all, rfl⟩
    exact .minus nonempty all

theorem isWritten_plus_iff {r : Text} {i : Int} :
    IsWritten ('+' :: r) i ↔ r ≠ [] ∧ AllDigits r ∧ i = digitsValue r := by
  refine ⟨?_, ?_⟩
  · intro h
    cases h with
    | bare _ all => exact absurd (all '+' List.mem_cons_self) (by decide)
    | plus nonempty all => exact ⟨nonempty, all, rfl⟩
  · rintro ⟨nonempty, all, rfl⟩
    exact .plus nonempty all

theorem isWritten_bare_iff {t : Text} {i : Int} (minus : ∀ r, t ≠ '-' :: r)
    (plus : ∀ r, t ≠ '+' :: r) :
    IsWritten t i ↔ t ≠ [] ∧ AllDigits t ∧ i = digitsValue t := by
  refine ⟨?_, ?_⟩
  · intro h
    cases h with
    | bare nonempty all => exact ⟨nonempty, all, rfl⟩
    | plus => exact absurd rfl (plus _)
    | minus => exact absurd rfl (minus _)
  · rintro ⟨nonempty, all, rfl⟩
    exact .bare nonempty all

/-- The digits behind a minus are read as a natural number first. -/
theorem read_minus (r : Text) : read ('-' :: r) =
    (digits (2 ^ 63) .tooSmall r).map fun m : Nat => Int64.ofInt (-m) := by
  rw [read]
  cases digits (2 ^ 63) .tooSmall r <;> rfl

/-- A text is a number of 64 bits if it is written as one. -/
theorem read_eq_ok_iff {t : Text} {n : Int64} : read t = .ok n ↔ IsWritten t n.toInt := by
  fun_cases read t with
  | case1 =>
    refine iff_of_false (by simp) ?_
    rw [isWritten_bare_iff (by simp) (by simp)]
    exact fun h => h.1 rfl
  | case2 r =>
    change read ('-' :: r) = _ ↔ _
    rw [read_minus, isWritten_minus_iff]
    exact map_digits_eq_ok_iff fun m => ofInt_neg_eq_iff
  | case3 r =>
    rw [isWritten_plus_iff]
    exact map_digits_eq_ok_iff fun m => ofNat_eq_iff
  | case4 _ _ minus plus =>
    rw [isWritten_bare_iff minus plus]
    exact map_digits_eq_ok_iff fun m => ofNat_eq_iff

/-- A whole number reads back from its digits. -/
theorem read_intText (n : Int64) : read (intText n.toInt) = .ok n := by
  rw [read_eq_ok_iff, intText]
  generalize n.toInt = i
  have shown := natText_ne_nil i.natAbs
  have all := allDigits_natText i.natAbs
  split
  · rw [isWritten_minus_iff, digitsValue_natText]
    exact ⟨shown, all, by omega⟩
  · have written := IsWritten.bare shown all
    rw [digitsValue_natText] at written
    have value : (i.natAbs : Int) = i := by omega
    rwa [value] at written

end Int64
end GraphText
