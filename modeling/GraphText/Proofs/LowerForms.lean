-- Lower forms in ASCII. The ASCII capitals have them, and no other character has one
-- without a k: a marker or a tag that holds none is spelled in ASCII, in any case.
import GraphText.Text.Classes
import GraphText.Text.Lowercase
import Mathlib.Data.List.Basic

namespace GraphText

/-! ## Codes -/

/-- The lower form of a code is its own or the one that a run gives it. -/
theorem lowerCode_cases (n : Nat) : lowerCode n = n ∨
    ∃ r ∈ CaseRun.all, r.first ≤ n ∧ n ≤ r.last ∧ lowerCode n = (n + r.shift).toNat := by
  unfold lowerCode
  split
  · rename_i r found
    refine .inr ⟨r, ?_, ?_⟩
    · exact (List.takeWhile_sublist _).subset (List.mem_of_find?_eq_some found)
    · have has := List.find?_some found
      simp only [CaseRun.has, Bool.and_eq_true, decide_eq_true_eq] at has
      exact ⟨has.1.1, has.1.2, rfl⟩
  · exact .inl rfl

/-- But for the ASCII capitals and the sign for Kelvin, a run leads to characters outside
ASCII. -/
theorem shift_of_mem_all : ∀ r ∈ CaseRun.all, r.last < 128 ∨
    (r.first = 0x212a ∧ r.last = 0x212a ∧ r.shift = -8383) ∨
    (128 ≤ r.first + r.shift ∧ (r.last + r.shift < 0xd800 ∨
      0xdfff < r.first + r.shift ∧ r.last + r.shift < 0x110000)) := by
  decide +kernel

/-! ## Characters -/

/-- What holds of the characters of ASCII one by one. -/
theorem of_isAscii {P : Char → Prop} (h : ∀ n < 128, P (Char.ofNat n)) {c : Char}
    (ascii : c.toNat < 128) : P c := by
  have own := h c.toNat ascii
  rwa [Char.ofNat_toNat] at own

/-- In ASCII the lower form is that of a capital or the character itself. -/
theorem lowerChar_of_lt {c : Char} (h : c.toNat < 128) : lowerChar c = [c.toLower] :=
  of_isAscii (P := fun c => lowerChar c = [c.toLower]) (by decide) h

/-- Outside ASCII the lower form holds a character outside ASCII, or it is a k. -/
theorem exists_mem_lowerChar {c : Char} (h : 128 ≤ c.toNat) :
    ∃ x ∈ lowerChar c, 128 ≤ x.toNat ∨ x = 'k' := by
  unfold lowerChar
  split
  · exact ⟨'\u0307', by simp, .inl (by decide)⟩
  · refine ⟨_, List.mem_singleton_self _, ?_⟩
    rcases lowerCode_cases c.toNat with own | ⟨r, mem, first, last, code⟩
    · rw [own, Char.ofNat_toNat]
      exact .inl h
    · rw [code]
      rcases shift_of_mem_all r mem with ascii | ⟨kelvin, kelvin', shift⟩ | ⟨high, valid⟩
      · omega
      · have sign : c.toNat = 0x212a := by omega
        rw [sign, shift]
        exact .inr rfl
      · have valid : (c.toNat + r.shift).toNat.isValidChar := by
          unfold Nat.isValidChar
          omega
        have kept : (Char.ofNat (c.toNat + r.shift).toNat).toNat = (c.toNat + r.shift).toNat := by
          rw [Char.ofNat, dif_pos valid]
          rfl
        left
        omega

/-- The character is in ASCII, in lower case if it has case, and no k. -/
def IsLowAscii (c : Char) : Prop := c.toNat < 128 ∧ c.toLower = c ∧ c ≠ 'k'

/-- Only its ASCII capital has the same lower form. -/
theorem IsLowAscii.of_lowerChar {c a : Char} (ha : IsLowAscii a)
    (h : lowerChar c = lowerChar a) : c.toNat < 128 ∧ c.toLower = a := by
  rw [lowerChar_of_lt ha.1, ha.2.1] at h
  rcases Nat.lt_or_ge c.toNat 128 with low | high
  · rw [lowerChar_of_lt low] at h
    exact ⟨low, List.singleton_inj.1 h⟩
  · obtain ⟨x, mem, outside⟩ := exists_mem_lowerChar high
    rw [h, List.mem_singleton] at mem
    subst mem
    rcases outside with far | k
    · exact absurd ha.1 (Nat.not_lt.2 far)
    · exact absurd k ha.2.2

/-- What has no case in ASCII is the lower form of nothing else. -/
theorem IsLowAscii.eq_of_lowerChar {c a : Char} (ha : IsLowAscii a) (noCase : a.isLower = false)
    (h : lowerChar c = lowerChar a) : c = a := by
  obtain ⟨ascii, low⟩ := ha.of_lowerChar h
  have own : c.toLower.isLower = false → c.toLower = c :=
    of_isAscii (P := fun c => c.toLower.isLower = false → c.toLower = c) (by decide) ascii
  rw [← low] at noCase
  rw [← low, own noCase]

/-- Outside ASCII there are no ASCII capitals. -/
theorem toLower_of_le {c : Char} (h : 128 ≤ c.toNat) : c.toLower = c := by
  have outside : ¬ (c.val ≥ 'A'.val ∧ c.val ≤ 'Z'.val) := by
    rintro ⟨-, last⟩
    have code : c.toNat ≤ 'Z'.toNat := UInt32.le_iff_toNat_le.1 last
    exact Nat.not_lt.2 h (Nat.lt_of_le_of_lt code (by decide))
  exact dif_neg outside

theorem IsLowAscii.lowerChar_eq_iff {c a : Char} (ha : IsLowAscii a) :
    lowerChar c = lowerChar a ↔ c.toLower = a := by
  refine ⟨fun h => (ha.of_lowerChar h).2, ?_⟩
  rintro rfl
  rcases Nat.lt_or_ge c.toNat 128 with low | high
  · rw [lowerChar_of_lt low, lowerChar_of_lt ha.1, ha.2.1]
  · rw [toLower_of_le high]

/-- A capital is no blank, and neither is its lower form. -/
theorem isBlank_toLower (c : Char) : isBlank c.toLower = isBlank c := by
  rcases Nat.lt_or_ge c.toNat 128 with low | high
  · exact of_isAscii (P := fun c => isBlank c.toLower = isBlank c) (by decide) low
  · rw [toLower_of_le high]

/-! ## Texts -/

namespace Text

theorem not_mem_of_lowerAscii {t u : Text} {c : Char} (h : lowerAscii t = u)
    (low : c.toLower = c) (hc : c ∉ u) : c ∉ t := by
  rintro mem
  apply hc
  rw [← h, ← low]
  exact List.mem_map_of_mem mem

/-- All of the text is in ASCII, in lower case, and holds no k. -/
def AllLowAscii (t : Text) : Prop := ∀ c ∈ t, IsLowAscii c

instance (t : Text) : Decidable (AllLowAscii t) :=
  decidable_of_iff
    (t.all fun c => decide (c.toNat < 128) && decide (c.toLower = c) && decide (c ≠ 'k'))
    (by simp [AllLowAscii, IsLowAscii, and_assoc])

/-- A text with such a lower form is an ASCII text in some mixture of cases. -/
theorem lowerAscii_of_lowerAfter {before t u : Text} (h : lowerAfter before t = u)
    (hu : AllLowAscii u) : lowerAscii t = u := by
  induction t generalizing before u with
  | nil => exact h
  | cons c r ih =>
    rw [lowerAfter] at h
    by_cases sigma : c.toNat = 0x3a3
    · rw [if_pos sigma] at h
      -- Both lower forms of a sigma lie outside ASCII.
      split at h
      · have low := (hu '\u03c2' (by rw [← h]; simp)).1
        exact absurd low (by decide)
      · have low := (hu '\u03c3' (by rw [← h]; simp)).1
        exact absurd low (by decide)
    · rw [if_neg sigma] at h
      have ascii : c.toNat < 128 := by
        by_contra high
        obtain ⟨x, mem, outside⟩ := exists_mem_lowerChar (Nat.le_of_not_lt high)
        obtain ⟨low, -, other⟩ := hu x (by rw [← h]; exact List.mem_append_left _ mem)
        rcases outside with far | k
        · omega
        · exact other k
      rw [lowerChar_of_lt ascii, List.singleton_append] at h
      subst h
      rw [lowerAscii, List.map_cons, ← lowerAscii,
        ih rfl fun x hx => hu x (List.mem_cons_of_mem _ hx)]

theorem lowerAscii_of_lower {t u : Text} (h : lower t = u) (hu : AllLowAscii u) :
    lowerAscii t = u :=
  lowerAscii_of_lowerAfter h hu

end Text

end GraphText
