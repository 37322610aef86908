-- Keywords in any mixture of cases. A word spells a keyword if it has as many characters and
-- each of them is the letter in its place, small or capital, or a long s for an s. A word in
-- ASCII gives the same keyword whether its capitals alone are lowered or every character.
import GraphText.Proofs.LowerForms
import GraphText.Query.Token
import Mathlib.Data.List.Forall2

namespace GraphText

/-! ## The long s -/

/-- No run leads to the long s. -/
theorem CaseRun.avoids_longS : ∀ r ∈ CaseRun.all,
    r.last + r.shift < 0x17f ∨ 0x17f < r.first + r.shift := by
  decide +kernel

theorem eq_longS_of_lowerCode {n : Nat} (h : lowerCode n = 0x17f) : n = 0x17f := by
  rcases lowerCode_cases n with own | ⟨r, mem, first, last, code⟩
  · rw [← own, h]
  · have avoids := CaseRun.avoids_longS r mem
    omega

/-- No other character has the long s as its lower form. -/
theorem eq_longS_of_lowerChar {c : Char} (h : lowerChar c = ['\u017f']) : c = '\u017f' := by
  unfold lowerChar at h
  split at h
  · simp at h
  · have same := congrArg Char.toNat (List.singleton_inj.1 h)
    have code : lowerCode c.toNat = 0x17f := by
      by_cases valid : (lowerCode c.toNat).isValidChar
      · rw [Char.ofNat, dif_pos valid] at same
        exact same
      · rw [Char.ofNat, dif_neg valid] at same
        exact absurd same (by decide)
    rw [← Char.ofNat_toNat c, eq_longS_of_lowerCode code]

/-! ## Letters -/

/-- The character writes the letter: as it is, as a capital, or as a long s. -/
def IsFormOf (c a : Char) : Prop := c = a ∨ c = a.toUpper ∨ a = 's' ∧ c = '\u017f'

instance (c a : Char) : Decidable (IsFormOf c a) := inferInstanceAs (Decidable (_ ∨ _ ∨ _))

theorem toLower_eq_iff {c a : Char} (ascii : c.toNat < 128) (low : a.toNat < 128)
    (own : a.toLower = a) : c.toLower = a ↔ c = a ∨ c = a.toUpper := by
  have back : c = c.toLower ∨ c = c.toLower.toUpper :=
    of_isAscii (P := fun c => c = c.toLower ∨ c = c.toLower.toUpper) (by decide) ascii
  have there : a.toLower = a → a.toUpper.toLower = a :=
    of_isAscii (P := fun a => a.toLower = a → a.toUpper.toLower = a) (by decide) low
  refine ⟨?_, ?_⟩
  · rintro rfl
    exact back
  · rintro (rfl | rfl)
    · exact own
    · exact there own

namespace Keyword

/-- The folded form of one character. -/
def foldChar (c : Char) : Text := (lowerChar c).map fun x => if x = '\u017f' then 's' else x

theorem fold_cons (c : Char) (r : Text) : fold (c :: r) = foldChar c ++ fold r := by
  unfold fold
  rw [List.flatMap_cons, List.map_append]
  rfl

/-- The folded form is a single character but for one that holds a dot outside ASCII. -/
theorem foldChar_cases (c : Char) : (∃ x, foldChar c = [x]) ∨ '\u0307' ∈ foldChar c := by
  unfold foldChar lowerChar
  split
  · exact .inr (by decide)
  · exact .inl ⟨_, rfl⟩

theorem foldChar_of_lt {c : Char} (h : c.toNat < 128) : foldChar c = [c.toLower] := by
  have other : c.toLower ≠ '\u017f' :=
    of_isAscii (P := fun c => c.toLower ≠ '\u017f') (by decide) h
  unfold foldChar
  rw [lowerChar_of_lt h, List.map_singleton, if_neg other]

theorem foldChar_eq_iff {c a : Char} (ha : IsLowAscii a) :
    foldChar c = [a] ↔ IsFormOf c a := by
  obtain ⟨low, own, other⟩ := ha
  refine ⟨?_, ?_⟩
  · intro h
    obtain ⟨x, form, same⟩ := List.map_eq_singleton_iff.1 h
    split at same
    · rename_i long
      rw [long] at form
      exact .inr (.inr ⟨same.symm, eq_longS_of_lowerChar form⟩)
    · subst same
      rw [← own, ← lowerChar_of_lt low] at form
      obtain ⟨ascii, small⟩ := IsLowAscii.of_lowerChar ⟨low, own, other⟩ form
      rcases (toLower_eq_iff ascii low own).1 small with same | capital
      · exact .inl same
      · exact .inr (.inl capital)
  · rintro (rfl | rfl | ⟨rfl, rfl⟩)
    · rw [foldChar_of_lt low, own]
    · have ascii : a.toUpper.toNat < 128 :=
        of_isAscii (P := fun a => a.toUpper.toNat < 128) (by decide) low
      rw [foldChar_of_lt ascii, (toLower_eq_iff ascii low own).2 (.inr rfl)]
    · decide

/-! ## Words -/

/-- A word folds to a text of small letters if it writes them one by one. -/
theorem fold_eq_iff {w u : Text} (hu : u.AllLowAscii) :
    fold w = u ↔ List.Forall₂ IsFormOf w u := by
  induction w generalizing u with
  | nil =>
    rw [List.forall₂_nil_left_iff]
    exact eq_comm
  | cons c r ih =>
    rw [fold_cons, List.forall₂_cons_left_iff]
    refine ⟨?_, ?_⟩
    · rintro rfl
      rcases foldChar_cases c with ⟨a, one⟩ | dot
      · rw [one] at hu
        refine ⟨a, fold r, ?_, ?_, by rw [one]; rfl⟩
        · exact (foldChar_eq_iff (hu a (by simp))).1 one
        · exact (ih fun x mem => hu x (List.mem_append_right _ mem)).1 rfl
      · have ascii := (hu '\u0307' (List.mem_append_left _ dot)).1
        exact absurd ascii (by decide)
    · rintro ⟨a, v, form, forms, rfl⟩
      rw [(foldChar_eq_iff (hu a (by simp))).2 form,
        (ih fun x mem => hu x (List.mem_cons_of_mem _ mem)).2 forms]
      rfl

/-- In ASCII only the capitals have lower forms. -/
theorem lowerAscii_eq_fold {w : Text} (h : w.isAscii = true) : w.lowerAscii = fold w := by
  induction w with
  | nil => rfl
  | cons c r ih =>
    obtain ⟨ascii, rest⟩ := Bool.and_eq_true_iff.1 (List.all_cons.symm.trans h)
    rw [fold_cons, foldChar_of_lt (of_decide_eq_true ascii), ← ih rest]
    rfl

/-! ## The table -/

theorem allLowAscii_word (k : Keyword) : k.word.AllLowAscii := by
  cases k <;> decide

theorem written?_eq_some_iff {t : Text} {k : Keyword} : written? t = some k ↔ k.word = t := by
  unfold written?
  refine ⟨?_, ?_⟩
  · intro found
    simpa using List.find?_some found
  · rintro rfl
    cases found : all.find? fun j => j.word = k.word with
    | none =>
      have other := List.find?_eq_none.1 found k (mem_all k)
      simp at other
    | some j =>
      have same : j.word = k.word := by simpa using List.find?_some found
      rw [word_injective same]

/-- The word has as many characters as the keyword, and each writes the letter in its place. -/
def Spells (w : Text) (k : Keyword) : Prop := List.Forall₂ IsFormOf w k.word

theorem written?_fold_eq_some_iff {w : Text} {k : Keyword} :
    written? (fold w) = some k ↔ Spells w k := by
  rw [written?_eq_some_iff, eq_comm]
  exact fold_eq_iff (allLowAscii_word k)

theorem ofWord?_eq_written? (w : Text) : ofWord? w = written? (fold w) := by
  unfold ofWord?
  split
  · rename_i ascii
    rw [lowerAscii_eq_fold ascii]
  · rfl

theorem ofWord?_eq_some_iff {w : Text} {k : Keyword} : ofWord? w = some k ↔ Spells w k := by
  rw [ofWord?_eq_written?, written?_fold_eq_some_iff]

/-- Of the 23 keywords, which differ in their words and kinds, a word gives the one that it
spells in some mixture of cases, and it spells one at most. For a word in ASCII it is enough to
lower the capitals. -/
theorem ofWord?_iff_spells (w : Text) :
    (all.length = 23 ∧ (all.map word).Nodup ∧ (all.map TokenType.keyword).Nodup) ∧
    (∀ t, TokenType.ofWord? w = some t ↔ ∃ k ∈ all, t = .keyword k ∧ Spells w k) ∧
    (w.isAscii = true → written? w.lowerAscii = written? (fold w)) ∧
    (∀ j k, Spells w j → Spells w k → j = k) ∧
    (isKeyword w = true ↔ ∃ k, Spells w k) ∧
    ∀ t, TokenType.ofWord? w = some t → t.isKeyword = true := by
  refine ⟨⟨rfl, by decide, by decide⟩, ?_, ?_, ?_, ?_, ?_⟩
  · intro t
    unfold TokenType.ofWord?
    rw [Option.map_eq_some_iff]
    refine ⟨?_, ?_⟩
    · rintro ⟨k, found, rfl⟩
      exact ⟨k, mem_all k, rfl, ofWord?_eq_some_iff.1 found⟩
    · rintro ⟨k, -, rfl, spells⟩
      exact ⟨k, ofWord?_eq_some_iff.2 spells, rfl⟩
  · intro ascii
    rw [lowerAscii_eq_fold ascii]
  · intro j k first second
    apply Option.some.inj
    rw [← ofWord?_eq_some_iff.2 first, ofWord?_eq_some_iff.2 second]
  · unfold isKeyword
    rw [Option.isSome_iff_exists]
    exact exists_congr fun k => ofWord?_eq_some_iff
  · intro t found
    obtain ⟨k, -, rfl⟩ := Option.map_eq_some_iff.1 found
    rfl

/-- A long s and capitals spell a keyword, and a capital I with a dot spells none. -/
theorem ofWord?_iff_spells_of_longS :
    TokenType.ofWord? "di\u017fTinCt".toList = some (.keyword .distinct) ∧
      isKeyword "l\u0130mit".toList = false ∧
      written? (Text.lowerAscii "HAVinG".toList) = written? (fold "HAVinG".toList) := by
  obtain ⟨-, found, -, -, -, -⟩ := ofWord?_iff_spells "di\u017fTinCt".toList
  obtain ⟨-, -, ascii, -, -, -⟩ := ofWord?_iff_spells "HAVinG".toList
  refine ⟨(found _).2 ⟨.distinct, mem_all _, rfl, ?_⟩, by decide, ascii (by decide)⟩
  unfold Spells
  decide

end Keyword
end GraphText
