-- Places of markers and characters. What the last place of a marker cuts a text into joins
-- to the text again, and a marker that does not come again is found where it was put. The
-- first place of a character cuts a text in the same way.
import GraphText.Text.Basic
import Mathlib.Data.List.TakeWhile

namespace GraphText.Text

/-- A marker occurs in a text that it is a part of. -/
theorem occursIn_iff {marker t : Text} : occursIn marker t = true ↔ marker <:+: t := by
  induction t with
  | nil => rw [occursIn, List.isEmpty_iff, List.infix_nil]
  | cons c r ih =>
    rw [occursIn, Bool.or_eq_true, ih, List.isPrefixOf_iff_prefix, List.infix_cons_iff]

/-- A marker does not reach into a text without its last character. -/
theorem infix_of_infix_append {m s t : Text} {z : Char} (h : m ++ [z] <:+: s ++ t) (hz : z ∉ t) :
    m ++ [z] <:+: s := by
  obtain ⟨a, b, eq⟩ := h
  rcases List.append_eq_append_iff.1 eq with ⟨w, rfl, -⟩ | ⟨w, parts, rfl⟩
  · exact ⟨a, w, rfl⟩
  · rcases List.eq_nil_or_concat w with rfl | ⟨v, x, rfl⟩
    · rw [List.append_nil] at parts
      exact ⟨a, [], by rw [List.append_nil, parts]⟩
    · rw [List.concat_eq_append] at parts hz
      have last : z = x := by
        have same := congrArg List.getLast? parts
        rw [← List.append_assoc, ← List.append_assoc, List.getLast?_concat,
          List.getLast?_concat] at same
        exact Option.some.inj same
      subst last
      simp at hz

/-- A marker stands in one of two texts, unless a part of it ends the first one and the rest
starts the second one. -/
theorem infix_append_of_apart {m s t : Text}
    (apart : ∀ p q, m = p ++ q → p ≠ [] → q ≠ [] → p <:+ s → ¬ q <+: t) (h : m <:+: s ++ t) :
    m <:+: s ∨ m <:+: t := by
  obtain ⟨a, b, eq⟩ := h
  rcases List.append_eq_append_iff.1 eq with ⟨w, rfl, -⟩ | ⟨w, parts, rfl⟩
  · exact .inl ⟨a, w, rfl⟩
  rcases List.append_eq_append_iff.1 parts with ⟨z, rfl, rfl⟩ | ⟨z, rfl, rfl⟩
  · by_cases none : z = []
    · exact .inr ⟨[], b, by rw [none]; rfl⟩
    · by_cases whole : w = []
      · exact .inl ⟨a, [], by rw [whole]; simp⟩
      · exact absurd ⟨b, rfl⟩ (apart z w rfl none whole ⟨a, rfl⟩)
  · exact .inr ⟨z, b, rfl⟩

/-- A marker lies behind a text that does not hold its first character. -/
theorem infix_append_iff_of_not_mem {c : Char} {m s t : Text} (h : c ∉ s) :
    c :: m <:+: s ++ t ↔ c :: m <:+: t := by
  induction s with
  | nil => rfl
  | cons x s ih =>
    rw [List.mem_cons, not_or] at h
    rw [List.cons_append, List.infix_cons_iff, ih h.2, List.cons_prefix_cons]
    exact or_iff_right fun front => h.1 front.1

/-! ## Texts with a stop behind them -/

variable {p : Char → Bool} {t : Text}

/-- A run stops where it stops. -/
theorem stop_dropWhile (p : Char → Bool) (t : Text) :
    ∀ c ∈ (t.dropWhile p).head?, p c = false := by
  intro c mem
  have first := List.head?_dropWhile_not p t
  rw [mem] at first
  simpa using first

theorem takeWhile_append_of_stop (h : ∀ c ∈ t.head?, p c = false) (s : Text) :
    (s ++ t).takeWhile p = s.takeWhile p := by
  induction s with
  | nil =>
    cases t with
    | nil => rfl
    | cons c t => exact List.takeWhile_cons_of_neg (by simp [h c rfl])
  | cons c s ih =>
    by_cases more : p c = true
    · rw [List.cons_append, List.takeWhile_cons_of_pos more, ih, List.takeWhile_cons_of_pos more]
    · rw [List.cons_append, List.takeWhile_cons_of_neg more, List.takeWhile_cons_of_neg more]

theorem dropWhile_append_of_stop (h : ∀ c ∈ t.head?, p c = false) (s : Text) :
    (s ++ t).dropWhile p = s.dropWhile p ++ t := by
  refine @List.append_cancel_left _ (s.takeWhile p) _ _ ?_
  rw [← List.append_assoc, List.takeWhile_append_dropWhile, ← takeWhile_append_of_stop h s,
    List.takeWhile_append_dropWhile]

/-! ## The last place of a marker -/

theorem cutLast_joins {marker t x y : Text} (h : cutLast marker t = some (x, y)) :
    t = x ++ marker ++ y := by
  induction t generalizing x y with
  | nil =>
    unfold cutLast at h
    split at h
    · rename_i empty
      obtain ⟨rfl, rfl⟩ := Prod.mk.inj (Option.some.inj h)
      simp [List.isEmpty_iff.1 empty]
    · simp at h
  | cons c r ih =>
    unfold cutLast at h
    split at h
    · rename_i before after cut
      obtain ⟨rfl, rfl⟩ := Prod.mk.inj (Option.some.inj h)
      rw [ih cut]
      rfl
    · split at h
      · rename_i front
        obtain ⟨rfl, rfl⟩ := Prod.mk.inj (Option.some.inj h)
        rw [List.nil_append]
        exact (List.prefix_iff_eq_append.1 (List.isPrefixOf_iff_prefix.1 front)).symm
      · simp at h

variable {m : Char} {ms : Text}

/-- The last place is no earlier than any other. -/
theorem exists_cutLast (x y : Text) :
    ∃ w z, cutLast (m :: ms) (x ++ (m :: ms) ++ y) = some (x ++ w, z) := by
  induction x with
  | nil =>
    rw [List.nil_append, List.cons_append, cutLast]
    cases cutLast (m :: ms) (ms ++ y) with
    | some parts => exact ⟨m :: parts.1, parts.2, rfl⟩
    | none => exact ⟨[], y, by simp [List.isPrefixOf]⟩
  | cons c r ih =>
    obtain ⟨w, z, cut⟩ := ih
    refine ⟨w, z, ?_⟩
    rw [List.cons_append, List.cons_append, cutLast, cut]
    rfl

theorem cutLast_eq_none_iff {t : Text} : cutLast (m :: ms) t = none ↔ ¬ (m :: ms) <:+: t := by
  refine ⟨?_, ?_⟩
  · rintro uncut ⟨x, y, rfl⟩
    obtain ⟨w, z, cut⟩ := @exists_cutLast m ms x y
    rw [uncut] at cut
    cases cut
  · intro h
    cases cut : cutLast (m :: ms) t with
    | none => rfl
    | some parts => exact absurd ⟨parts.1, parts.2, (cutLast_joins cut).symm⟩ h

/-- The marker does not come again. -/
theorem cutLast_append_of_not_infix {y : Text} (h : ¬ (m :: ms) <:+: ms ++ y) (x : Text) :
    cutLast (m :: ms) (x ++ (m :: ms) ++ y) = some (x, y) := by
  induction x with
  | nil =>
    rw [List.nil_append, List.cons_append, cutLast, cutLast_eq_none_iff.2 h]
    simp [List.isPrefixOf]
  | cons c r ih =>
    rw [List.cons_append, List.cons_append, cutLast, ih]

/-- A text is cut where a marker stands that does not come again. -/
theorem cutLast_eq_some_iff {t x y : Text} : cutLast (m :: ms) t = some (x, y) ↔
    t = x ++ (m :: ms) ++ y ∧ ¬ (m :: ms) <:+: ms ++ y := by
  refine ⟨fun cut => ⟨cutLast_joins cut, ?_⟩, ?_⟩
  · induction t generalizing x with
    | nil => cases cut
    | cons c r ih =>
      have joins := cutLast_joins cut
      unfold cutLast at cut
      split at cut
      · rename_i before after later
        obtain ⟨rfl, rfl⟩ := Prod.mk.inj (Option.some.inj cut)
        exact ih later
      · rename_i last
        split at cut
        · obtain ⟨rfl, -⟩ := Prod.mk.inj (Option.some.inj cut)
          have behind : r = ms ++ y := (List.cons.inj joins).2
          rw [← behind]
          exact cutLast_eq_none_iff.1 last
        · cases cut
  · rintro ⟨rfl, last⟩
    exact cutLast_append_of_not_infix last x

/-- The first character of the marker stands nowhere behind it. -/
theorem cutLast_append {y : Text} (h : m ∉ ms ++ y) (x : Text) :
    cutLast (m :: ms) (x ++ (m :: ms) ++ y) = some (x, y) :=
  cutLast_append_of_not_infix (fun inside => h (inside.subset List.mem_cons_self)) x

/-! ## The first place of a character -/

variable {c : Char} {s r : Text}

theorem takeWhile_ne (h : c ∉ s) :
    (s ++ c :: r).takeWhile (· ≠ c) = s ∧ (s ++ c :: r).dropWhile (· ≠ c) = c :: r := by
  have all : ∀ x ∈ s, decide (x ≠ c) = true := by
    intro x hx
    have other : x ≠ c := by
      rintro rfl
      exact h hx
    simpa using other
  refine ⟨?_, ?_⟩
  · rw [List.takeWhile_append_of_pos all, List.takeWhile_cons_of_neg (by simp), List.append_nil]
  · rw [List.dropWhile_append_of_pos all, List.dropWhile_cons_of_neg (by simp)]

theorem not_mem_of_dropWhile (h : s.dropWhile (· ≠ c) = []) : c ∉ s := by
  intro mem
  have other := List.dropWhile_eq_nil_iff.1 h c mem
  simp at other

/-- The text up to the first such character, the character, and the rest. -/
theorem cut_of_dropWhile_ne {x : Char} (h : s.dropWhile (· ≠ c) = x :: r) :
    x = c ∧ s = s.takeWhile (· ≠ c) ++ c :: r ∧ c ∉ s.takeWhile (· ≠ c) := by
  have first := List.head?_dropWhile_not (fun x => decide (x ≠ c)) s
  rw [h] at first
  have same : x = c := by simpa using first
  subst same
  refine ⟨rfl, ?_, ?_⟩
  · have parts := List.takeWhile_append_dropWhile (p := (· ≠ x)) (l := s)
    rw [h] at parts
    exact parts.symm
  · intro mem
    have other := List.mem_takeWhile_imp mem
    simp at other

/-- Two texts are the same if both end where a character stands last. -/
theorem eq_of_last {t u v : Text} (hu : c ∉ u) (hv : c ∉ v) (h : s ++ c :: u = t ++ c :: v) :
    s = t ∧ u = v := by
  rcases List.append_eq_append_iff.1 h with ⟨w, rfl, eq⟩ | ⟨w, rfl, eq⟩
  · cases w with
    | nil => simpa using eq
    | cons x w =>
      obtain ⟨rfl, rfl⟩ := List.cons.inj eq
      simp at hu
  · cases w with
    | nil => simpa [eq_comm] using eq
    | cons x w =>
      obtain ⟨rfl, rfl⟩ := List.cons.inj eq
      simp at hv

end GraphText.Text
