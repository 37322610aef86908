-- What escaping leaves alone. Escaping and reading an escaped text only add and drop
-- backslashes in front of delimiters, so all that stands between delimiters stays.
import GraphText.Text.Basic

namespace GraphText.Text

variable {d : Char} {s t u : Text}

/-- The second text is the first without some of the backslashes in front of
delimiters. -/
inductive Sheds (d : Char) : Text → Text → Prop
  | nil : Sheds d [] []
  | keep (c : Char) {s t : Text} : Sheds d s t → Sheds d (c :: s) (c :: t)
  | drop {s t : Text} : Sheds d s t → Sheds d ('\\' :: d :: s) (d :: t)

/-- The text holds no delimiter and no backslash. -/
def IsPlain (d : Char) (u : Text) : Prop := ∀ c ∈ u, c ≠ '\\' ∧ c ≠ d

@[simp] theorem escape_nil : escape d [] = [] := rfl

theorem escape_cons (c : Char) (r : Text) :
    escape d (c :: r) = (if c = d then ['\\', c] else [c]) ++ escape d r := rfl

theorem sheds_escape (t : Text) : Sheds d (escape d t) t := by
  induction t with
  | nil => exact .nil
  | cons c r ih =>
    rw [escape_cons]
    split
    · rename_i same
      subst same
      exact .drop ih
    · exact .keep c ih

theorem sheds_unescape (t : Text) : Sheds d t (unescape d t) := by
  fun_induction unescape d t with
  | case1 => exact .nil
  | case2 c => exact .keep c .nil
  | case3 b c r h ih =>
    obtain ⟨rfl, rfl⟩ := h
    exact .drop ih
  | case4 b c r _ ih => exact .keep b ih

namespace Sheds

theorem count_eq {c : Char} (hc : c ≠ '\\') (h : Sheds d s t) : s.count c = t.count c := by
  induction h with
  | nil => rfl
  | keep x _ ih => rw [List.count_cons, List.count_cons, ih]
  | drop _ ih => rw [List.count_cons_of_ne (Ne.symm hc), List.count_cons, List.count_cons, ih]

theorem mem_iff {c : Char} (hc : c ≠ '\\') (h : Sheds d s t) : c ∈ s ↔ c ∈ t := by
  rw [← List.count_pos_iff, ← List.count_pos_iff, h.count_eq hc]

theorem eq_nil_iff (h : Sheds d s t) : s = [] ↔ t = [] := by
  cases h <;> simp

theorem eq_of_isPlain (h : Sheds d s t) (plain : IsPlain d s ∨ IsPlain d t) : s = t := by
  induction h with
  | nil => rfl
  | keep c _ ih =>
    rw [ih]
    rcases plain with h | h
    · exact .inl fun x hx => h x (List.mem_cons_of_mem _ hx)
    · exact .inr fun x hx => h x (List.mem_cons_of_mem _ hx)
  | drop _ _ =>
    rcases plain with h | h
    · exact absurd rfl (h '\\' List.mem_cons_self).1
    · exact absurd rfl (h d List.mem_cons_self).2

theorem prefix_iff (h : Sheds d s t) (plain : IsPlain d u) : u <+: s ↔ u <+: t := by
  induction h generalizing u with
  | nil => rfl
  | keep c _ ih =>
    cases u with
    | nil => simp
    | cons x u =>
      rw [List.cons_prefix_cons, List.cons_prefix_cons,
        ih fun y hy => plain y (List.mem_cons_of_mem _ hy)]
  | drop _ _ =>
    cases u with
    | nil => simp
    | cons x u =>
      obtain ⟨noBackslash, noDelimiter⟩ := plain x List.mem_cons_self
      simp [List.cons_prefix_cons, noBackslash, noDelimiter]

/-- A plain text stands in both texts or in none. -/
theorem infix_iff (h : Sheds d s t) (plain : IsPlain d u) : u <:+: s ↔ u <:+: t := by
  induction h with
  | nil => rfl
  | keep c step ih =>
    rw [List.infix_cons_iff, List.infix_cons_iff, ih, (Sheds.keep c step).prefix_iff plain]
  | drop step ih =>
    rw [List.infix_cons_iff, List.infix_cons_iff, List.infix_cons_iff, ih,
      (Sheds.keep d step).prefix_iff plain, (Sheds.drop step).prefix_iff plain, ← or_assoc,
      or_self]

/-- A delimiter and a plain text behind it stand in both texts or in none. -/
theorem infix_delimiter_iff (h : Sheds d s t) (hd : d ≠ '\\') (plain : IsPlain d u) :
    d :: u <:+: s ↔ d :: u <:+: t := by
  induction h with
  | nil => rfl
  | keep c step ih =>
    rw [List.infix_cons_iff, List.infix_cons_iff, ih, List.cons_prefix_cons,
      List.cons_prefix_cons, step.prefix_iff plain]
  | drop step ih =>
    rw [List.infix_cons_iff, List.infix_cons_iff, List.infix_cons_iff, ih,
      List.cons_prefix_cons, List.cons_prefix_cons, List.cons_prefix_cons,
      step.prefix_iff plain]
    simp [hd]

/-- A plain text ends both texts or none. -/
theorem suffix_iff (h : Sheds d s t) (plain : IsPlain d u) : u <:+ s ↔ u <:+ t := by
  induction h with
  | nil => rfl
  | @keep c s t step ih =>
    have whole : u = c :: s ↔ u = c :: t := by
      refine ⟨?_, ?_⟩
      · rintro rfl
        rw [(Sheds.keep c step).eq_of_isPlain (.inl plain)]
      · rintro rfl
        rw [(Sheds.keep c step).eq_of_isPlain (.inr plain)]
    rw [List.suffix_cons_iff, List.suffix_cons_iff, ih, whole]
  | @drop s t step ih =>
    have no : ∀ r, u ≠ '\\' :: r := by
      rintro r rfl
      exact (plain '\\' List.mem_cons_self).1 rfl
    have no' : ∀ r, u ≠ d :: r := by
      rintro r rfl
      exact (plain d List.mem_cons_self).2 rfl
    rw [List.suffix_cons_iff, List.suffix_cons_iff, List.suffix_cons_iff, ih]
    simp only [no, no', false_or]

end Sheds

/-- Without a backslash in front of a delimiter there is nothing to unescape. -/
theorem unescape_of_not_infix (h : ¬ ['\\', d] <:+: t) : unescape d t = t := by
  fun_induction unescape d t with
  | case1 => rfl
  | case2 => rfl
  | case3 b c r same _ =>
    obtain ⟨rfl, rfl⟩ := same
    exact absurd ⟨[], r, rfl⟩ h
  | case4 b c r _ ih => rw [ih fun inside => h (inside.trans (List.suffix_cons b _).isInfix)]

theorem unescape_of_not_mem (h : d ∉ t) : unescape d t = t :=
  unescape_of_not_infix fun inside => h (inside.subset (by simp))

/-- In an escaped text a backslash stands in front of every delimiter. -/
theorem eq_backslash_of_infix_escape {x : Char} (hd : d ≠ '\\') (h : [x, d] <:+: escape d t) :
    x = '\\' := by
  induction t with
  | nil => simp at h
  | cons c r ih =>
    have first := head?_escape_ne hd r
    have notFront : ∀ y, [x, d] <+: y :: escape d r → False := by
      rintro y ⟨s, hs⟩
      rw [← (List.cons.inj hs).2] at first
      exact first rfl
    rw [escape_cons] at h
    split at h
    · rename_i same
      subst same
      rcases List.infix_cons_iff.1 h with front | h
      · exact (List.cons_prefix_cons.1 front).1
      · rcases List.infix_cons_iff.1 h with front | h
        · exact (notFront _ front).elim
        · exact ih h
    · rcases List.infix_cons_iff.1 h with front | h
      · exact (notFront _ front).elim
      · exact ih h

/-! ## What reading an escaped text replaces -/

/-- The second marker stands in every place of the first one, and the pieces between these
places stay as they are. -/
def Replaced (old new t u : Text) : Prop :=
  ∃ pieces : List Text, pieces ≠ [] ∧ (∀ p ∈ pieces, ¬ old <:+: p) ∧ t = joined old pieces ∧
    u = joined new pieces

theorem joined_cons_of_ne_nil {m p : Text} {ps : List Text} (h : ps ≠ []) :
    joined m (p :: ps) = p ++ m ++ joined m ps := by
  cases ps with
  | nil => exact absurd rfl h
  | cons q ps => rfl

theorem joined_cons_cons (m p : Text) (ps : List Text) (c : Char) :
    joined m ((c :: p) :: ps) = c :: joined m (p :: ps) := by
  cases ps <;> rfl

/-- The first escape is replaced, and what follows is unescaped on its own. -/
theorem unescape_append (hd : d ≠ '\\') (h : ¬ ['\\', d] <:+: t) (r : Text) :
    unescape d (t ++ '\\' :: d :: r) = t ++ d :: unescape d r := by
  induction t with
  | nil => simp [unescape]
  | cons b t ih =>
    have rest := ih fun inside => h (inside.trans (List.suffix_cons b t).isInfix)
    cases t with
    | nil =>
      have apart : ¬ (b = '\\' ∧ '\\' = d) := fun same => hd same.2.symm
      rw [List.nil_append] at rest
      rw [List.singleton_append, unescape, if_neg apart, rest]
      rfl
    | cons c t =>
      have apart : ¬ (b = '\\' ∧ c = d) := by
        rintro ⟨rfl, rfl⟩
        exact h ⟨[], t, rfl⟩
      rw [List.cons_append, List.cons_append, unescape, if_neg apart, ← List.cons_append, rest]
      rfl

theorem replaced_unescape (t : Text) : Replaced ['\\', d] [d] t (unescape d t) := by
  have short : ∀ p : Text, p.length < 2 → ¬ ['\\', d] <:+: p := by
    intro p less inside
    exact Nat.not_le_of_lt less inside.length_le
  fun_induction unescape d t with
  | case1 => exact ⟨[[]], by simp, by simp, rfl, rfl⟩
  | case2 c => exact ⟨[[c]], by simp, by simpa using short [c] (by simp), rfl, rfl⟩
  | case3 b c r same ih =>
    obtain ⟨rfl, rfl⟩ := same
    obtain ⟨pieces, nonempty, clear, joins, joins'⟩ := ih
    refine ⟨[] :: pieces, by simp, ?_, ?_, ?_⟩
    · exact List.forall_mem_cons.2 ⟨short [] (by simp), clear⟩
    · rw [joined_cons_of_ne_nil nonempty, ← joins]
      rfl
    · rw [joined_cons_of_ne_nil nonempty, ← joins']
      rfl
  | case4 b c r apart ih =>
    obtain ⟨pieces, nonempty, clear, joins, joins'⟩ := ih
    obtain ⟨p, ps, rfl⟩ := List.exists_cons_of_ne_nil nonempty
    obtain ⟨first, others⟩ := List.forall_mem_cons.1 clear
    refine ⟨(b :: p) :: ps, by simp, ?_, ?_, ?_⟩
    · refine List.forall_mem_cons.2 ⟨?_, others⟩
      intro inside
      rcases List.infix_cons_iff.1 inside with front | inside
      · -- The piece starts as the text does, so its first character is no delimiter.
        obtain ⟨rfl, next⟩ := List.cons_prefix_cons.1 front
        obtain ⟨q, rfl⟩ := next
        rw [List.singleton_append, joined_cons_cons] at joins
        exact apart ⟨rfl, (List.cons.inj joins).1⟩
      · exact first inside
    · rw [joined_cons_cons, ← joins]
    · rw [joined_cons_cons, ← joins']

/-- Unescaping replaces every backslash and delimiter by the delimiter. -/
theorem unescape_eq_iff_replaced (hd : d ≠ '\\') :
    unescape d t = u ↔ Replaced ['\\', d] [d] t u := by
  refine ⟨?_, ?_⟩
  · rintro rfl
    exact replaced_unescape t
  · rintro ⟨pieces, nonempty, clear, rfl, rfl⟩
    induction pieces with
    | nil => exact absurd rfl nonempty
    | cons p ps ih =>
      obtain ⟨first, others⟩ := List.forall_mem_cons.1 clear
      by_cases last : ps = []
      · subst last
        exact unescape_of_not_infix first
      · rw [joined_cons_of_ne_nil last, joined_cons_of_ne_nil last, List.append_assoc,
          List.append_assoc]
        change unescape d (p ++ '\\' :: d :: joined ['\\', d] ps) = _
        rw [unescape_append hd first, ih last others]
        rfl

end GraphText.Text
