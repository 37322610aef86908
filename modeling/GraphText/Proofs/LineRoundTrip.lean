-- Triples in writing. What is written stands in three parts with tabs between them, and
-- it reads back if the line is cut at the tabs and every part reads back.
import GraphText.Proofs.LineGrammar

namespace GraphText

/-- Four digits hold the years of both anchors. -/
def Triple.HasPlainYears (t : Triple) : Prop :=
  t.predicate.HasPlainYear ∧ t.object.HasPlainYear

/-- No part of the ids looks like the end of a predicate. -/
structure Triple.IsClear (t : Triple) : Prop where
  subject : ¬ HasBoundary ']' ['/', '"'] t.subject.id
  predicate : ¬ HasBoundary ']' ['/'] t.predicate.id
  predicate_end : ¬ EndsOpen ']' t.predicate.id

namespace Triple

variable {b : Literal.Builder} {s t u : Triple}

/-- The three parts as they are written, with tabs between them. -/
def shown (t : Triple) : Segments :=
  ⟨t.subject.display, ['\t'], t.predicate.display, ['\t'], t.object.display⟩

theorem line_shown (t : Triple) : t.shown.line = t.display := rfl

theorem isGap_tab : Text.IsGap ['\t'] := by
  refine ⟨by simp, ?_⟩
  intro c mem
  rw [List.mem_singleton.1 mem]
  decide

theorem beq_iff : (s == t) = true ↔
    s.subject = t.subject ∧ s.predicate = t.predicate ∧ (s.object == t.object) = true := by
  change equal s t = true ↔ _
  simp only [equal, Bool.and_eq_true, beq_iff_eq, and_assoc]

/-! ## Boundaries in the front of a line -/

/-- The front of a line has a boundary if an id has one as it is written, if the id of the
predicate is open at its end, or if the anchor has one. -/
theorem hasBoundary_written_iff {type w gap v anchor : Text} (ht : Node.IsType type)
    (blank : Text.AllBlank gap) :
    HasBoundary ']' ['/', '"'] (type ++ '<' :: (w ++ ['>']) ++ gap ++
        '"' :: (v ++ Predicate.marker ++ (anchor ++ [']']))) ↔
      HasBoundary ']' ['/', '"'] w ∨ (HasBoundary ']' ['/', '"'] v ∨ EndsOpen ']' v) ∨
        HasBoundary ']' ['/', '"'] (anchor ++ [']']) := by
  have node : HasBoundary ']' ['/', '"'] (type ++ '<' :: w) ↔ HasBoundary ']' ['/', '"'] w := by
    have noBlank : ¬ HasBoundary ']' ['/', '"'] type :=
      not_hasBoundary_of_solid fun c mem => (ht.2.2 c mem).1
    rw [hasBoundary_append_cons (by decide), hasBoundary_cons_of_ne (by simp)]
    simp [noBlank]
  have predicate : HasBoundary ']' ['/', '"'] (v ++ Predicate.marker ++ (anchor ++ [']'])) ↔
      (HasBoundary ']' ['/', '"'] v ∨ EndsOpen ']' v) ∨
        HasBoundary ']' ['/', '"'] (anchor ++ [']']) := by
    rw [Predicate.marker, List.append_assoc, List.cons_append, List.cons_append,
      List.singleton_append, hasBoundary_append_cons (by decide),
      hasBoundary_cons_of_ne (by simp), hasBoundary_cons_of_ne (by simp),
      hasBoundary_cons_of_ne (by simp), or_assoc]
    simp
  rw [← List.cons_append, ← List.append_assoc, Segments.hasBoundary_front_iff blank, node,
    predicate]

theorem hasBoundary_node_iff {s t : Text} (h : Text.Sheds '<' s t) :
    HasBoundary ']' ['/', '"'] s ↔ HasBoundary ']' ['/', '"'] t := by
  apply hasBoundary_iff_of_sheds h (by decide)
  simp [Text.IsPlain]

theorem hasBoundary_slash_iff {s t : Text} (h : Text.Sheds '"' s t) :
    HasBoundary ']' ['/'] s ↔ HasBoundary ']' ['/'] t := by
  apply hasBoundary_iff_of_sheds h (by decide)
  simp [Text.IsPlain]

theorem endsOpen_predicate_iff {s t : Text} (h : Text.Sheds '"' s t) :
    EndsOpen ']' s ↔ EndsOpen ']' t := by
  apply endsOpen_iff_of_sheds h (by decide)
  simp [Text.IsPlain]

theorem hasBoundary_escape_iff (w : Text) :
    HasBoundary ']' ['/', '"'] (Text.escape '"' w) ↔ HasBoundary ']' ['/'] w := by
  rw [hasBoundary_cons_opening, hasBoundary_slash_iff (Text.sheds_escape w)]
  simp [not_hasBoundary_escape (by simp : '"' ≠ '\\') w]

/-- A triple that was read is clear, however its ids were escaped. -/
theorem isClear_of_reads {x : Segments} (h : x.Reads b t) : t.IsClear := by
  obtain ⟨w, subject, type, -, subjectId⟩ := h.subject_eq
  obtain ⟨v, anchor, predicate, predicateId⟩ := h.predicate_eq
  have clear := h.front_clear
  rw [Segments.front, subject, predicate, hasBoundary_written_iff type h.first_gap.2] at clear
  simp only [not_or] at clear
  obtain ⟨clearSubject, ⟨clearPredicate, clearEnd⟩, -⟩ := clear
  refine ⟨?_, ?_, ?_⟩
  · rw [subjectId, ← hasBoundary_node_iff (Text.sheds_unescape w)]
    exact clearSubject
  · rw [predicateId, ← hasBoundary_slash_iff (Text.sheds_unescape v)]
    rw [hasBoundary_cons_opening, not_or] at clearPredicate
    exact clearPredicate.1
  · rw [predicateId, ← endsOpen_predicate_iff (Text.sheds_unescape v)]
    exact clearEnd

theorem not_hasBoundary_front_shown_iff (h : t.Valid) :
    ¬ HasBoundary ']' ['/', '"'] t.shown.front ↔ t.IsClear := by
  have noBracket : ']' ∉ t.predicate.anchorText :=
    t.predicate.not_mem_anchorText (by decide)
  have written : t.shown.front = t.subject.type ++
      '<' :: (Text.escape '<' t.subject.id ++ ['>']) ++ ['\t'] ++
        '"' :: (Text.escape '"' t.predicate.id ++ Predicate.marker ++
          (t.predicate.anchorText ++ [']'])) := by
    simp only [Segments.front, shown, Node.display_eq, Predicate.display_eq]
  rw [written, hasBoundary_written_iff h.1.1 isGap_tab.2, hasBoundary_escape_iff,
    hasBoundary_node_iff (Text.sheds_escape _), endsOpen_predicate_iff (Text.sheds_escape _)]
  refine ⟨?_, ?_⟩
  · intro clear
    simp only [not_or] at clear
    exact ⟨clear.1, clear.2.1.1, clear.2.1.2⟩
  · rintro ⟨subject, predicate, ending⟩
    simp [subject, predicate, ending, not_hasBoundary_concat noBracket]

/-! ## The text of a triple -/

theorem subject_clear_shown (h : t.Valid) : ¬ HasBoundary '>' ['"'] t.subject.display := by
  rw [Node.display_eq]
  exact Segments.not_hasBoundary_node h.1.1 (Node.isId_escape.2 h.1.2)

/-- A clear triple is cut at its tabs. -/
theorem splits_shown (h : t.Valid) (clear : t.IsClear) : t.shown.Splits := by
  have starts : t.predicate.display.head? = some '"' := rfl
  exact ⟨isGap_tab, isGap_tab, t.subject.getLast?_display, starts,
    t.predicate.getLast?_display, Object.head?_display h.2.2, subject_clear_shown h,
    (not_hasBoundary_front_shown_iff h).2 clear⟩

theorem isTrimmed_display (h : t.Valid) : t.display.IsTrimmed := by
  have subject : t.subject.display ≠ [] := by simp [Node.display]
  have object : t.object.display ≠ [] := by
    obtain ⟨c, -, starts⟩ := Object.head?_display h.2.2
    exact List.ne_nil_of_mem (List.mem_of_head? starts)
  have trimmed := Text.isTrimmed_append (Node.isTrimmed_display h.1)
    (Object.isTrimmed_display h.2.2) subject object (['\t'] ++ t.predicate.display ++ ['\t'])
  simpa [display] using trimmed

/-- Of a clear triple the three parts are read one by one. -/
theorem parse_display_eq_ok_iff (h : t.Valid) (clear : t.IsClear) :
    parse b t.display = .ok u ↔ Node.parse t.subject.display = .ok u.subject ∧
      Predicate.parse t.predicate.display = .ok u.predicate ∧
      Object.parse b t.object.display = .ok u.object := by
  rw [parse, Text.trim_of_isTrimmed (isTrimmed_display h), ← line_shown]
  exact ofTrimmed_line_eq_ok_iff (splits_shown h clear)

/-- A clear triple reads back if every part of it does. -/
theorem parse_display (h : t.Valid) (clear : t.IsClear) (allowed : t.object.Allowed b)
    (plain : t.HasPlainYears) (number : ¬ t.object.IsNaN) : parse b t.display = .ok t :=
  (parse_display_eq_ok_iff h clear).2 ⟨Node.parse_display h.1,
    Predicate.parse_display h.2.1 plain.1,
    Object.parse_display h.2.2 allowed plain.2 number⟩

/-- An anchor with any other year makes the text of a clear triple faulty. -/
theorem parse_display_of_not_hasPlainYears (h : t.Valid) (clear : t.IsClear)
    (far : ¬ t.HasPlainYears) : ∃ f, parse b t.display = .error f := by
  cases read : parse b t.display with
  | error f => exact ⟨f, rfl⟩
  | ok u =>
    exfalso
    obtain ⟨-, predicate, object⟩ := (parse_display_eq_ok_iff h clear).1 read
    rw [HasPlainYears, not_and_or] at far
    rcases far with far | far
    · obtain ⟨f, fault⟩ := Predicate.parse_display_of_not_hasPlainYear far
      rw [fault] at predicate
      cases predicate
    · obtain ⟨f, fault⟩ := Object.parse_display_of_not_hasPlainYear (b := b) far
      rw [fault] at object
      cases object

theorem not_isNaN_of_beq (h : (u == t) = true) : ¬ t.object.IsNaN := by
  intro nan
  have objects := (beq_iff.1 h).2.2
  rw [Object.beq_eq_false_of_isNaN nan] at objects
  cases objects

theorem beq_self (number : ¬ t.object.IsNaN) : (t == t) = true :=
  beq_iff.2 ⟨rfl, rfl, Object.beq_self_iff.2 number⟩

/-- A clear triple comes back as it was if and only if four digits hold its years and its
object is not the float that is no number. -/
theorem exists_parse_display_iff (h : t.Valid) (clear : t.IsClear)
    (allowed : t.object.Allowed b) :
    (∃ u, parse b t.display = .ok u ∧ (u == t) = true) ↔
      ¬ t.object.IsNaN ∧ t.HasPlainYears := by
  refine ⟨?_, ?_⟩
  · rintro ⟨u, read, same⟩
    refine ⟨not_isNaN_of_beq same, ?_⟩
    by_contra far
    obtain ⟨f, fault⟩ := parse_display_of_not_hasPlainYears h clear far
    rw [fault] at read
    cases read
  · rintro ⟨number, plain⟩
    exact ⟨t, parse_display h clear allowed plain number, beq_self number⟩

/-! ## Triples that were read -/

theorem exists_reads {line : Text} (h : parse b line = .ok t) :
    ∃ x : Segments, line.trim = x.line ∧ x.Reads b t :=
  (ofTrimmed_eq_ok_iff (Text.isTrimmed_trim line)).1 h

theorem valid_of_parse {line : Text} (h : parse b line = .ok t) : t.Valid := by
  obtain ⟨x, -, reads⟩ := exists_reads h
  exact ⟨Node.valid_of_parse reads.subject_reads, Predicate.valid_of_parse reads.predicate_reads,
    Object.valid_of_parse reads.object_reads⟩

/-- A triple that a line names comes back from its own text, under the same builder, if and
only if its object is not the float that is no number and four digits hold its years. With
any other year its own text is at fault. -/
theorem reparse_display_iff (b : Literal.Builder) (line : Text) (t : Triple)
    (h : parse b line = .ok t) :
    ((∃ u, parse b t.display = .ok u ∧ (u == t) = true) ↔
      ¬ t.object.IsNaN ∧ t.HasPlainYears) ∧
      (¬ t.HasPlainYears → ∃ f, parse b t.display = .error f) := by
  obtain ⟨x, -, reads⟩ := exists_reads h
  have valid := valid_of_parse h
  have clear := isClear_of_reads reads
  have allowed := Object.allowed_of_parse reads.object_reads
  exact ⟨exists_parse_display_iff valid clear allowed,
    parse_display_of_not_hasPlainYears valid clear⟩

/-- The clock shows the last hour of the year 9999, but in universal time the year is over. -/
theorem reparse_display_of_late_anchor : ∃ t,
    parse .unlimited "/u<a> \"p\"@[9999-12-31T23:30:00-01:00] /u<b>".toList = .ok t ∧
      ∃ f, parse .unlimited t.display = .error f := by
  have late : ¬ Instant.HasPlainYear ⟨253402302600, 0, by decide⟩ := by decide
  refine ⟨⟨⟨['/', 'u'], ['a']⟩, ⟨['p'], some ⟨253402302600, 0, by decide⟩⟩,
    .node ⟨['/', 'u'], ['b']⟩⟩, rfl, ?_⟩
  apply (reparse_display_iff .unlimited
    "/u<a> \"p\"@[9999-12-31T23:30:00-01:00] /u<b>".toList _ rfl).2
  rintro ⟨plain, -⟩
  exact late (plain _ rfl)

end Triple
end GraphText
