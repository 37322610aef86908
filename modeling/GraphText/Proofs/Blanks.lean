-- The blanks at the ends of a text and between its parts. A trimmed text starts and
-- ends with a character that is not blank. Trimming takes away the blanks around it.
import GraphText.Proofs.Markers
import GraphText.Text.Classes
import Mathlib.Data.List.Basic

namespace GraphText.Text

/-- Every character of the text is blank. -/
def AllBlank (t : Text) : Prop := ∀ c ∈ t, isBlank c = true

/-- Blanks that set two texts apart. -/
def IsGap (t : Text) : Prop := t ≠ [] ∧ AllBlank t

/-- No blank stands at an end of the text. -/
def IsTrimmed (t : Text) : Prop :=
  (∀ c ∈ t.head?, isBlank c = false) ∧ ∀ c ∈ t.getLast?, isBlank c = false

instance (t : Text) : Decidable (AllBlank t) :=
  decidable_of_iff (t.all isBlank = true) List.all_eq_true

instance (t : Text) : Decidable (IsGap t) := inferInstanceAs (Decidable (_ ∧ _))

theorem AllBlank.append {s t : Text} (hs : AllBlank s) (ht : AllBlank t) : AllBlank (s ++ t) := by
  intro c hc
  rcases List.mem_append.1 hc with h | h
  · exact hs c h
  · exact ht c h

theorem AllBlank.reverse {t : Text} (h : AllBlank t) : AllBlank t.reverse :=
  fun c hc => h c (List.mem_reverse.1 hc)

/-! ## Runs of blanks at the front -/

theorem allBlank_takeWhile (t : Text) : AllBlank (t.takeWhile isBlank) :=
  fun _ hc => List.mem_takeWhile_imp hc

theorem head?_dropWhile_isBlank (t : Text) :
    ∀ c ∈ (t.dropWhile isBlank).head?, isBlank c = false := stop_dropWhile isBlank t

theorem dropWhile_isBlank_append {s : Text} (hs : AllBlank s) (t : Text) :
    (s ++ t).dropWhile isBlank = t.dropWhile isBlank :=
  List.dropWhile_append_of_pos hs

theorem dropWhile_isBlank_of_head? {t : Text} (h : ∀ c ∈ t.head?, isBlank c = false) :
    t.dropWhile isBlank = t := by
  cases t with
  | nil => rfl
  | cons c r => rw [List.dropWhile_cons_of_neg]; simp [h c rfl]

/-- The blanks in front of a text, and the text behind them. -/
theorem cut_gap {s t : Text} (hs : AllBlank s) (ht : ∀ c ∈ t.head?, isBlank c = false) :
    (s ++ t).takeWhile isBlank = s ∧ (s ++ t).dropWhile isBlank = t := by
  refine ⟨?_, ?_⟩
  · rw [takeWhile_append_of_stop ht, List.takeWhile_eq_self_iff.2 hs]
  · rw [dropWhile_isBlank_append hs, dropWhile_isBlank_of_head? ht]

/-! ## Trimming -/

theorem getLast?_closed (s : Text) (c : Char) (w : Text) (z : Char) :
    (s ++ c :: (w ++ [z])).getLast? = some z := by
  rw [← List.cons_append, ← List.append_assoc, List.getLast?_concat]

theorem isTrimmed_of_ends {t : Text} {a z : Char} (front : t.head? = some a)
    (back : t.getLast? = some z) (ha : isBlank a = false) (hz : isBlank z = false) :
    IsTrimmed t := by
  refine ⟨?_, ?_⟩
  · intro c hc
    rw [front] at hc
    cases hc
    exact ha
  · intro c hc
    rw [back] at hc
    cases hc
    exact hz

theorem isTrimmed_append {s t : Text} (hs : IsTrimmed s) (ht : IsTrimmed t) (named : s ≠ [])
    (named' : t ≠ []) (m : Text) : IsTrimmed (s ++ m ++ t) := by
  refine ⟨?_, ?_⟩
  · rw [List.append_assoc, List.head?_append_of_ne_nil _ named]
    exact hs.1
  · rw [List.getLast?_append_of_ne_nil _ named']
    exact ht.2

theorem trim_of_isTrimmed {t : Text} (h : IsTrimmed t) : t.trim = t := by
  have front : t.trimStart = t := dropWhile_isBlank_of_head? h.1
  have back : t.reverse.dropWhile isBlank = t.reverse :=
    dropWhile_isBlank_of_head? (by rw [List.head?_reverse]; exact h.2)
  rw [trim, front, trimEnd, back, List.reverse_reverse]

theorem isTrimmed_trim (t : Text) : IsTrimmed t.trim := by
  refine ⟨?_, ?_⟩
  · intro c hc
    have front : t.trim <+: t.trimStart := by
      rw [← List.reverse_suffix, trim, trimEnd, List.reverse_reverse]
      exact List.dropWhile_suffix isBlank
    obtain ⟨r, hr⟩ := front
    refine head?_dropWhile_isBlank t c ?_
    change c ∈ t.trimStart.head?
    rw [← hr, List.head?_append, hc]
    rfl
  · intro c hc
    rw [trim, trimEnd, List.getLast?_reverse] at hc
    exact head?_dropWhile_isBlank _ c hc

/-- Blanks around a text do not change what trimming leaves. -/
theorem trim_append {a b : Text} (ha : AllBlank a) (hb : AllBlank b) (t : Text) :
    (a ++ t ++ b).trim = t.trim := by
  have front : (a ++ t ++ b).trimStart = (t ++ b).trimStart := by
    rw [List.append_assoc]
    exact dropWhile_isBlank_append ha _
  have back : ∀ s : Text, (s ++ b).trimEnd = s.trimEnd := by
    intro s
    rw [trimEnd, List.reverse_append, dropWhile_isBlank_append hb.reverse, trimEnd]
  by_cases blank : AllBlank t
  · have all : (t ++ b).trimStart = [] := List.dropWhile_eq_nil_iff.2 (blank.append hb)
    have empty : t.trimStart = [] := List.dropWhile_eq_nil_iff.2 blank
    rw [trim, front, all, trim, empty]
  · have kept : (t ++ b).trimStart = t.trimStart ++ b := by
      rw [trimStart, List.dropWhile_append, if_neg, trimStart]
      rw [List.isEmpty_iff, List.dropWhile_eq_nil_iff]
      exact blank
    rw [trim, front, kept, back, trim]

end GraphText.Text
