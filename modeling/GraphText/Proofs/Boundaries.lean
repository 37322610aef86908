-- The boundaries inside a line: a closing character, blanks and an opening character.
-- A line is cut at the first one, so what counts is where boundaries can stand.
import GraphText.Graph.Triple
import GraphText.Proofs.Blanks
import GraphText.Proofs.Escapes

namespace GraphText

open Text (IsGap)

variable {closing c : Char} {opening s t r : Text}

/-- Blanks and then an opening character stand at the front of the text. -/
def Opens (opening t : Text) : Prop := ∃ gap c r, t = gap ++ c :: r ∧ IsGap gap ∧ c ∈ opening

/-- A closing character stands in the text, and blanks and an opening one follow it. -/
def HasBoundary (closing : Char) (opening t : Text) : Prop :=
  ∃ before after, t = before ++ closing :: after ∧ Opens opening after

/-- The text ends with a closing character and blanks. -/
def EndsOpen (closing : Char) (t : Text) : Prop :=
  ∃ before gap, t = before ++ closing :: gap ∧ IsGap gap

/-- The characters at the ends of a boundary can be told from the blanks inside it. -/
structure Delimits (closing : Char) (opening : Text) : Prop where
  closing_solid : isBlank closing = false
  opening_solid : ∀ c ∈ opening, isBlank c = false
  apart : closing ∉ opening

theorem delimits_subject : Delimits '>' ['"'] := by
  refine ⟨by decide, ?_, by simp⟩
  intro c mem
  rw [List.mem_singleton.1 mem]
  decide

theorem delimits_predicate : Delimits ']' ['/', '"'] := by
  refine ⟨by decide, ?_, by simp⟩
  intro c mem
  rcases List.mem_cons.1 mem with rfl | mem
  · decide
  · rw [List.mem_singleton.1 mem]
    decide

/-! ## Boundaries by characters -/

theorem not_opens_nil : ¬ Opens opening [] := by
  rintro ⟨gap, c, r, h, -, -⟩
  simp at h

theorem not_hasBoundary_nil : ¬ HasBoundary closing opening [] := by
  rintro ⟨before, after, h, -⟩
  simp at h

theorem hasBoundary_cons :
    HasBoundary closing opening (c :: r) ↔
      (c = closing ∧ Opens opening r) ∨ HasBoundary closing opening r := by
  refine ⟨?_, ?_⟩
  · rintro ⟨before, after, h, opens⟩
    cases before with
    | nil =>
      obtain ⟨rfl, rfl⟩ := List.cons.inj h
      exact .inl ⟨rfl, opens⟩
    | cons b before =>
      obtain ⟨rfl, rfl⟩ := List.cons.inj h
      exact .inr ⟨before, after, rfl, opens⟩
  · rintro (⟨rfl, opens⟩ | ⟨before, after, rfl, opens⟩)
    · exact ⟨[], r, rfl, opens⟩
    · exact ⟨c :: before, after, rfl, opens⟩

theorem endsOpen_cons :
    EndsOpen closing (c :: r) ↔ (c = closing ∧ IsGap r) ∨ EndsOpen closing r := by
  refine ⟨?_, ?_⟩
  · rintro ⟨before, gap, h, blank⟩
    cases before with
    | nil =>
      obtain ⟨rfl, rfl⟩ := List.cons.inj h
      exact .inl ⟨rfl, blank⟩
    | cons b before =>
      obtain ⟨rfl, rfl⟩ := List.cons.inj h
      exact .inr ⟨before, gap, rfl, blank⟩
  · rintro (⟨rfl, blank⟩ | ⟨before, gap, rfl, blank⟩)
    · exact ⟨[], r, rfl, blank⟩
    · exact ⟨c :: before, gap, rfl, blank⟩

theorem Opens.append (h : Opens opening s) (t : Text) : Opens opening (s ++ t) := by
  obtain ⟨gap, c, r, rfl, blank, mem⟩ := h
  exact ⟨gap, c, r ++ t, by simp, blank, mem⟩

/-- A character that is not blank cannot stand inside a boundary. -/
theorem opens_append_cons (solid : isBlank c = false) :
    Opens opening (s ++ c :: r) ↔ Opens opening s ∨ (c ∈ opening ∧ IsGap s) := by
  refine ⟨?_, ?_⟩
  · rintro ⟨gap, o, r', h, blank, mem⟩
    rcases List.append_eq_append_iff.1 h with ⟨a, rfl, tail⟩ | ⟨a, rfl, tail⟩
    · cases a with
      | nil =>
        obtain ⟨rfl, -⟩ := List.cons.inj tail
        exact .inr ⟨mem, by simpa using blank⟩
      | cons x a =>
        obtain ⟨rfl, -⟩ := List.cons.inj tail
        have := blank.2 c (by simp)
        simp [solid] at this
    · cases a with
      | nil =>
        obtain ⟨rfl, -⟩ := List.cons.inj tail
        exact .inr ⟨mem, by simpa using blank⟩
      | cons x a =>
        obtain ⟨rfl, -⟩ := List.cons.inj tail
        exact .inl ⟨gap, o, a, rfl, blank, mem⟩
  · rintro (h | ⟨mem, blank⟩)
    · exact h.append _
    · exact ⟨s, c, r, rfl, blank, mem⟩

/-- A boundary lies on one side of a character that is not blank, or ends at it. -/
theorem hasBoundary_append_cons (solid : isBlank c = false) :
    HasBoundary closing opening (s ++ c :: r) ↔ HasBoundary closing opening s ∨
      (c ∈ opening ∧ EndsOpen closing s) ∨ HasBoundary closing opening (c :: r) := by
  induction s with
  | nil =>
    have noEnd : ¬ EndsOpen closing [] := by
      rintro ⟨before, gap, h, -⟩
      simp at h
    simp [not_hasBoundary_nil, noEnd]
  | cons a s ih =>
    rw [List.cons_append, hasBoundary_cons, ih, opens_append_cons solid,
      hasBoundary_cons (c := a) (r := s), endsOpen_cons]
    refine ⟨?_, ?_⟩
    · rintro (⟨same, h | ⟨mem, blank⟩⟩ | h | ⟨mem, h⟩ | h)
      · exact .inl (.inl ⟨same, h⟩)
      · exact .inr (.inl ⟨mem, .inl ⟨same, blank⟩⟩)
      · exact .inl (.inr h)
      · exact .inr (.inl ⟨mem, .inr h⟩)
      · exact .inr (.inr h)
    · rintro ((⟨same, h⟩ | h) | ⟨mem, ⟨same, blank⟩ | h⟩ | h)
      · exact .inl ⟨same, .inl h⟩
      · exact .inr (.inl h)
      · exact .inl ⟨same, .inr ⟨mem, blank⟩⟩
      · exact .inr (.inr (.inl ⟨mem, h⟩))
      · exact .inr (.inr (.inr h))

theorem hasBoundary_cons_of_ne (h : c ≠ closing) :
    HasBoundary closing opening (c :: r) ↔ HasBoundary closing opening r := by
  simp [hasBoundary_cons, h]

theorem not_hasBoundary_of_solid (h : ∀ c ∈ t, isBlank c = false) :
    ¬ HasBoundary closing opening t := by
  rintro ⟨before, after, rfl, gap, c, r, rfl, ⟨nonempty, blank⟩, -⟩
  obtain ⟨b, gap, rfl⟩ := List.exists_cons_of_ne_nil nonempty
  have solid := h b (by simp)
  rw [blank b List.mem_cons_self] at solid
  cases solid

theorem not_hasBoundary_of_not_mem (h : closing ∉ t) : ¬ HasBoundary closing opening t := by
  rintro ⟨before, after, rfl, -⟩
  simp at h

theorem not_endsOpen_of_not_mem (h : closing ∉ t) : ¬ EndsOpen closing t := by
  rintro ⟨before, gap, rfl, -⟩
  simp at h

theorem not_hasBoundary_concat (h : closing ∉ t) :
    ¬ HasBoundary closing opening (t ++ [closing]) := by
  induction t with
  | nil => simp [hasBoundary_cons, not_opens_nil, not_hasBoundary_nil]
  | cons c r ih =>
    rw [List.mem_cons, not_or] at h
    rw [List.cons_append, hasBoundary_cons_of_ne (Ne.symm h.1)]
    exact ih h.2

/-! ## Boundaries in a longer text and in an escaped one -/

theorem hasBoundary_iff_isInfix : HasBoundary closing opening t ↔
    ∃ gap c, (closing :: (gap ++ [c])) <:+: t ∧ IsGap gap ∧ c ∈ opening := by
  refine ⟨?_, ?_⟩
  · rintro ⟨before, after, rfl, gap, c, r, rfl, blank, mem⟩
    exact ⟨gap, c, ⟨before, r, by simp⟩, blank, mem⟩
  · rintro ⟨gap, c, ⟨before, r, rfl⟩, blank, mem⟩
    exact ⟨before, gap ++ c :: r, by simp, gap, c, r, rfl, blank, mem⟩

theorem endsOpen_iff_isSuffix :
    EndsOpen closing t ↔ ∃ gap, (closing :: gap) <:+ t ∧ IsGap gap := by
  refine ⟨?_, ?_⟩
  · rintro ⟨before, gap, rfl, blank⟩
    exact ⟨gap, ⟨before, rfl⟩, blank⟩
  · rintro ⟨gap, ⟨before, rfl⟩, blank⟩
    exact ⟨before, gap, rfl, blank⟩

theorem HasBoundary.of_isInfix (h : HasBoundary closing opening s) (part : s <:+: t) :
    HasBoundary closing opening t := by
  rw [hasBoundary_iff_isInfix] at h ⊢
  obtain ⟨gap, c, inside, blank, mem⟩ := h
  exact ⟨gap, c, inside.trans part, blank, mem⟩

theorem hasBoundary_cons_opening : HasBoundary closing (c :: opening) t ↔
    HasBoundary closing [c] t ∨ HasBoundary closing opening t := by
  simp only [hasBoundary_iff_isInfix, List.mem_cons, List.not_mem_nil, or_false]
  refine ⟨?_, ?_⟩
  · rintro ⟨gap, o, inside, blank, rfl | mem⟩
    · exact .inl ⟨gap, o, inside, blank, rfl⟩
    · exact .inr ⟨gap, o, inside, blank, mem⟩
  · rintro (⟨gap, o, inside, blank, rfl⟩ | ⟨gap, o, inside, blank, mem⟩)
    · exact ⟨gap, o, inside, blank, .inl rfl⟩
    · exact ⟨gap, o, inside, blank, .inr mem⟩

theorem isPlain_gap {d : Char} {gap : Text} (solid : isBlank d = false) (blank : IsGap gap) :
    Text.IsPlain d gap := by
  intro c mem
  refine ⟨?_, ?_⟩
  · rintro rfl
    exact absurd (blank.2 _ mem) (by decide)
  · rintro rfl
    rw [blank.2 c mem] at solid
    cases solid

/-- Backslashes in front of other characters make no boundary and break none. -/
theorem hasBoundary_iff_of_sheds {d : Char} (h : Text.Sheds d s t) (solid : isBlank d = false)
    (plain : Text.IsPlain d (closing :: opening)) :
    HasBoundary closing opening s ↔ HasBoundary closing opening t := by
  have same : ∀ gap c, IsGap gap → c ∈ opening →
      ((closing :: (gap ++ [c])) <:+: s ↔ (closing :: (gap ++ [c])) <:+: t) := by
    intro gap c blank mem
    apply h.infix_iff
    intro x hx
    rcases List.mem_cons.1 hx with rfl | hx
    · exact plain x List.mem_cons_self
    rcases List.mem_append.1 hx with hx | hx
    · exact isPlain_gap solid blank x hx
    · rw [List.mem_singleton.1 hx]
      exact plain c (List.mem_cons_of_mem _ mem)
  rw [hasBoundary_iff_isInfix, hasBoundary_iff_isInfix]
  refine ⟨?_, ?_⟩
  · rintro ⟨gap, c, inside, blank, mem⟩
    exact ⟨gap, c, (same gap c blank mem).1 inside, blank, mem⟩
  · rintro ⟨gap, c, inside, blank, mem⟩
    exact ⟨gap, c, (same gap c blank mem).2 inside, blank, mem⟩

theorem endsOpen_iff_of_sheds {d : Char} (h : Text.Sheds d s t) (solid : isBlank d = false)
    (plain : Text.IsPlain d [closing]) : EndsOpen closing s ↔ EndsOpen closing t := by
  have same : ∀ gap, IsGap gap → ((closing :: gap) <:+ s ↔ (closing :: gap) <:+ t) := by
    intro gap blank
    apply h.suffix_iff
    intro x hx
    rcases List.mem_cons.1 hx with rfl | hx
    · exact plain x List.mem_cons_self
    · exact isPlain_gap solid blank x hx
  rw [endsOpen_iff_isSuffix, endsOpen_iff_isSuffix]
  refine ⟨?_, ?_⟩
  · rintro ⟨gap, last, blank⟩
    exact ⟨gap, (same gap blank).1 last, blank⟩
  · rintro ⟨gap, last, blank⟩
    exact ⟨gap, (same gap blank).2 last, blank⟩

/-- The backslash in front of a delimiter keeps it out of every boundary. -/
theorem not_hasBoundary_escape {d : Char} (hd : d ≠ '\\') (t : Text) :
    ¬ HasBoundary closing [d] (Text.escape d t) := by
  rw [hasBoundary_iff_isInfix]
  rintro ⟨gap, c, inside, blank, mem⟩
  rw [List.mem_singleton] at mem
  subst mem
  rcases List.eq_nil_or_concat gap with rfl | ⟨gap, b, rfl⟩
  · exact blank.1 rfl
  · have last : [b, c] <:+: closing :: (gap.concat b ++ [c]) := ⟨closing :: gap, [], by simp⟩
    have backslash := Text.eq_backslash_of_infix_escape hd (last.trans inside)
    have := blank.2 b (by simp)
    rw [backslash] at this
    exact absurd this (by decide)

/-! ## The cut -/

theorem trimStart_gap (blank : Text.AllBlank s) (solid : ∀ c ∈ t.head?, isBlank c = false) :
    Text.trimStart (s ++ t) = t := (Text.cut_gap blank solid).2

/-- The test of the cut. -/
theorem opens_iff (solid : ∀ c ∈ opening, isBlank c = false) : Opens opening r ↔
    r.head?.any isBlank = true ∧ (Text.trimStart r).head?.any (· ∈ opening) = true := by
  refine ⟨?_, ?_⟩
  · rintro ⟨gap, c, rest, rfl, ⟨nonempty, blank⟩, mem⟩
    rw [trimStart_gap blank (by simpa using solid c mem)]
    obtain ⟨b, gap, rfl⟩ := List.exists_cons_of_ne_nil nonempty
    exact ⟨by simpa using blank b List.mem_cons_self, by simpa using mem⟩
  · rintro ⟨front, next⟩
    have parts : r = r.takeWhile isBlank ++ Text.trimStart r :=
      List.takeWhile_append_dropWhile.symm
    cases after : Text.trimStart r with
    | nil => simp [after] at next
    | cons c rest =>
      rw [after] at parts next
      refine ⟨r.takeWhile isBlank, c, rest, parts, ⟨?_, Text.allBlank_takeWhile r⟩, by
        simpa using next⟩
      intro empty
      rw [empty] at parts
      subst parts
      simp only [List.nil_append, List.head?_cons, Option.any_some, decide_eq_true_eq]
        at front next
      rw [solid c next] at front
      cases front

theorem cutBoundary_cons (solid : ∀ c ∈ opening, isBlank c = false) [Decidable (Opens opening r)] :
    cutBoundary closing opening (c :: r) =
      if c = closing ∧ Opens opening r then some ([c], Text.trimStart r)
      else (cutBoundary closing opening r).map fun (before, after) => (c :: before, after) := by
  rw [cutBoundary]
  congr 1
  rw [opens_iff solid]

theorem cutBoundary_eq_none_iff (solid : ∀ c ∈ opening, isBlank c = false) :
    cutBoundary closing opening t = none ↔ ¬ HasBoundary closing opening t := by
  classical
  induction t with
  | nil => simp [cutBoundary, not_hasBoundary_nil]
  | cons c r ih =>
    rw [cutBoundary_cons solid, hasBoundary_cons]
    split
    · rename_i h
      simp [h]
    · rename_i h
      simp [h, ih]

theorem exists_of_cutBoundary (solid : ∀ c ∈ opening, isBlank c = false) {x y : Text}
    (h : cutBoundary closing opening t = some (x, y)) :
    ∃ gap, t = x ++ gap ++ y ∧ IsGap gap ∧ x.getLast? = some closing ∧
      (∃ c ∈ opening, y.head? = some c) ∧ ¬ HasBoundary closing opening x := by
  classical
  induction t generalizing x with
  | nil => simp [cutBoundary] at h
  | cons c r ih =>
    rw [cutBoundary_cons solid] at h
    split at h
    · rename_i found
      obtain ⟨rfl, gap, o, rest, rfl, blank, mem⟩ := found
      rw [trimStart_gap blank.2 (by simpa using solid o mem)] at h
      cases h
      refine ⟨gap, rfl, blank, rfl, ⟨o, mem, rfl⟩, ?_⟩
      simp [hasBoundary_cons, not_opens_nil, not_hasBoundary_nil]
    · rename_i elsewhere
      rw [Option.map_eq_some_iff] at h
      obtain ⟨⟨x', y'⟩, cut, same⟩ := h
      cases same
      obtain ⟨gap, rfl, blank, last, starts, clear⟩ := ih cut
      refine ⟨gap, by simp, blank, ?_, starts, ?_⟩
      · rw [List.getLast?_cons, last]
        rfl
      · rw [hasBoundary_cons]
        rintro (⟨rfl, opens⟩ | inside)
        · exact elsewhere ⟨rfl, by rw [List.append_assoc]; exact opens.append _⟩
        · exact clear inside

theorem cutBoundary_append (d : Delimits closing opening) {gap y : Text} (blank : IsGap gap)
    (mem : c ∈ opening) (starts : y.head? = some c)
    (clear : ¬ HasBoundary closing opening (s ++ [closing])) :
    cutBoundary closing opening (s ++ [closing] ++ gap ++ y) = some (s ++ [closing], y) := by
  classical
  obtain ⟨r, rfl⟩ : ∃ r, y = c :: r := by
    cases y with
    | nil => simp at starts
    | cons z r =>
      cases starts
      exact ⟨r, rfl⟩
  have after : Text.trimStart (gap ++ c :: r) = c :: r :=
    trimStart_gap blank.2 (by simpa using d.opening_solid c mem)
  induction s with
  | nil =>
    simp only [List.nil_append, List.cons_append]
    rw [cutBoundary_cons d.opening_solid, if_pos ⟨rfl, gap, c, r, rfl, blank, mem⟩, after]
  | cons b s ih =>
    rw [List.cons_append, hasBoundary_cons] at clear
    simp only [List.cons_append]
    rw [cutBoundary_cons d.opening_solid, if_neg, ih fun h => clear (.inr h)]
    · rfl
    · rintro ⟨rfl, opens⟩
      refine clear (.inl ⟨rfl, ?_⟩)
      simp only [List.append_assoc, List.cons_append, List.nil_append] at opens
      rw [opens_append_cons d.closing_solid] at opens ⊢
      rcases opens with h | ⟨mem, -⟩
      · exact .inl h
      · exact (d.apart mem).elim

/-- The first part ends with the closing character and has no boundary inside. -/
theorem cutBoundary_eq_some_iff (d : Delimits closing opening) {x y : Text} :
    cutBoundary closing opening t = some (x, y) ↔
      ∃ gap, t = x ++ gap ++ y ∧ IsGap gap ∧ x.getLast? = some closing ∧
        (∃ c ∈ opening, y.head? = some c) ∧ ¬ HasBoundary closing opening x := by
  refine ⟨?_, ?_⟩
  · exact exists_of_cutBoundary d.opening_solid
  · rintro ⟨gap, rfl, blank, last, ⟨c, mem, starts⟩, clear⟩
    obtain ⟨s, rfl⟩ := List.getLast?_eq_some_iff.1 last
    exact cutBoundary_append d blank mem starts clear

end GraphText
