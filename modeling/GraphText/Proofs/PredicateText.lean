-- Predicates in writing. A text is a predicate in one way at most, since no quote stands in an
-- anchor. A valid predicate reads back if four digits hold the year of its anchor, and
-- otherwise its text is at fault.
import GraphText.Graph.Predicate
import GraphText.Proofs.Blanks
import GraphText.Proofs.Escapes
import GraphText.Proofs.Markers
import GraphText.Proofs.Timestamps

namespace GraphText.Predicate

theorem valid_unescape {w : Text} {anchor : Option Instant} :
    Valid ⟨Text.unescape '"' w, anchor⟩ ↔ w ≠ [] := by
  rw [Valid, ne_eq, ne_eq, ← (Text.sheds_unescape w).eq_nil_iff]

/-- A text that is a predicate holds an id as it may be written, a marker and an anchor. -/
theorem exists_of_ofTrimmed {raw : Text} {p : Predicate} (h : ofTrimmed raw = .ok p) :
    ∃ written anchor, raw = '"' :: (written ++ marker ++ (anchor ++ [']'])) ∧ written ≠ [] ∧
      readAnchor anchor = .ok p.anchor ∧ p.id = Text.unescape '"' written := by
  unfold ofTrimmed at h
  split at h
  · simp at h
  · rename_i opened
    split at h
    · simp at h
    · simp at h
    · rename_i q w a cut
      split at h
      · simp at h
      · rename_i closed
        split at h
        · rename_i anchor read
          have parts := Text.cutLast_joins cut
          obtain ⟨valid, rfl⟩ := make_eq_ok_iff.1 h
          have quote : q = '"' := by simpa [parts] using opened
          subst quote
          rcases List.eq_nil_or_concat a with rfl | ⟨b, z, rfl⟩
          · have last : raw.getLast? = some '[' := by
              rw [parts, List.append_nil]
              exact Text.getLast?_closed ('"' :: w) '"' ['@'] '['
            simp [last] at closed
          · rw [List.concat_eq_append] at parts read
            have last : raw.getLast? = some z := by
              rw [parts, ← List.append_assoc, List.getLast?_concat]
            have closing : z = ']' := by simpa [last] using closed
            subst closing
            rw [List.dropLast_concat] at read
            exact ⟨w, b, by simpa using parts, valid_unescape.1 valid, read, rfl⟩
        · simp at h

theorem exists_of_parse {t : Text} {p : Predicate} (h : parse t = .ok p) :
    ∃ written anchor, t.trim = '"' :: (written ++ marker ++ (anchor ++ [']'])) ∧ written ≠ [] ∧
      readAnchor anchor = .ok p.anchor ∧ p.id = Text.unescape '"' written :=
  exists_of_ofTrimmed h

/-- The predicate that a text names is valid. -/
theorem valid_of_parse {t : Text} {p : Predicate} (h : parse t = .ok p) : p.Valid := by
  obtain ⟨w, a, -, named, -, eq⟩ := exists_of_parse h
  rw [Valid, eq, ne_eq, ← (Text.sheds_unescape w).eq_nil_iff]
  exact named

/-- The last marker cuts the id from the anchor, so only these two can be at fault. -/
theorem parse_of_cutLast {t id anchor : Text}
    (cut : Text.cutLast marker t = some ('"' :: id, anchor)) (closed : t.getLast? = some ']') :
    parse t = (readAnchor anchor.dropLast).bind (make (Text.unescape '"' id)) := by
  have opened : t.head? = some '"' := by
    rw [Text.cutLast_joins cut]
    rfl
  have trimmed : t.IsTrimmed := by
    apply Text.isTrimmed_of_ends opened closed
    · decide
    · decide
  rw [parse, Text.trim_of_isTrimmed trimmed, ofTrimmed, if_neg (not_not_intro opened), cut]
  dsimp only
  rw [if_neg (not_not_intro closed)]
  cases readAnchor anchor.dropLast with
  | ok a => rfl
  | error f => rfl

/-! ## The text of a predicate -/

theorem display_eq (p : Predicate) : p.display =
    '"' :: (Text.escape '"' p.id ++ marker ++ (p.anchorText ++ [']'])) := by
  simp [display]

/-- Only digits and the marks of an instant stand in an anchor. -/
theorem not_mem_anchorText {c : Char} (hc : ¬ Instant.IsStampChar c) (p : Predicate) :
    c ∉ p.anchorText := by
  unfold anchorText
  split
  · intro h
    exact hc (Instant.isStampChar_of_mem_display h)
  · exact List.not_mem_nil

theorem getLast?_display (p : Predicate) : p.display.getLast? = some ']' := by
  rw [display, List.getLast?_concat]

theorem isTrimmed_display (p : Predicate) : p.display.IsTrimmed := by
  apply Text.isTrimmed_of_ends rfl p.getLast?_display
  · decide
  · decide

/-- The last marker of the text is the one in front of the anchor, so only the anchor can
be at fault. -/
theorem parse_display_eq (p : Predicate) :
    parse p.display = (readAnchor p.anchorText).bind (make p.id) := by
  have noQuote : '"' ∉ ['@', '['] ++ (p.anchorText ++ [']']) := by
    simp [p.not_mem_anchorText (by decide : ¬ Instant.IsStampChar '"')]
  have cut : Text.cutLast marker p.display =
      some ('"' :: Text.escape '"' p.id, p.anchorText ++ [']']) := by
    rw [display_eq]
    exact Text.cutLast_append noQuote ('"' :: Text.escape '"' p.id)
  rw [parse_of_cutLast cut p.getLast?_display, List.dropLast_concat,
    Text.unescape_escape (by simp : '"' ≠ '\\')]

theorem readAnchor_anchorText {p : Predicate} (h : p.HasPlainYear) :
    readAnchor p.anchorText = .ok p.anchor := by
  unfold anchorText
  cases hp : p.anchor with
  | none => rfl
  | some i =>
    have shown : i.display ≠ [] := by simp [Instant.display]
    have plain : i.HasPlainYear := h i (by simp [hp])
    simp [readAnchor, shown, Instant.read_display plain]

theorem readAnchor_display_of_not_hasPlainYear {i : Instant} (h : ¬ i.HasPlainYear) :
    ∃ r, readAnchor i.display = .error (.anchor i.display r) := by
  have shown : i.display ≠ [] := by simp [Instant.display]
  obtain ⟨r, read⟩ := Instant.read_display_of_not_hasPlainYear h
  exact ⟨r, by simp [readAnchor, shown, read]⟩

theorem readAnchor_anchorText_of_not_hasPlainYear {p : Predicate} (h : ¬ p.HasPlainYear) :
    ∃ f, readAnchor p.anchorText = .error f := by
  unfold anchorText
  cases hp : p.anchor with
  | none =>
    apply absurd _ h
    intro i hi
    rw [hp] at hi
    cases hi
  | some i =>
    have far : ¬ i.HasPlainYear := by
      intro plain
      apply h
      intro j hj
      rw [hp] at hj
      cases hj
      exact plain
    obtain ⟨r, fault⟩ := readAnchor_display_of_not_hasPlainYear far
    exact ⟨_, fault⟩

/-- A valid predicate whose anchor has a year of four digits reads back. -/
theorem parse_display {p : Predicate} (h : p.Valid) (plain : p.HasPlainYear) :
    parse p.display = .ok p := by
  rw [parse_display_eq, readAnchor_anchorText plain]
  exact make_eq_ok_iff.2 ⟨h, rfl⟩

/-- With any other year the text is at fault. -/
theorem parse_display_of_not_hasPlainYear {p : Predicate} (h : ¬ p.HasPlainYear) :
    ∃ f, parse p.display = .error f := by
  obtain ⟨f, read⟩ := readAnchor_anchorText_of_not_hasPlainYear h
  refine ⟨f, ?_⟩
  rw [parse_display_eq, read]
  rfl

/-! ## The grammar of predicates -/

/-- The text is an id in quotes as it may be written, and behind it in square brackets the
text of the anchor, which may be empty. -/
structure IsWritten (raw written anchor : Text) (a : Option Instant) : Prop where
  joins : raw = ['"'] ++ written ++ marker ++ anchor ++ [']']
  named : written ≠ []
  anchored : (anchor = [] ∧ a = none) ∨ ∃ i, Instant.read anchor = .ok i ∧ a = some i

theorem readAnchor_eq_ok_iff {anchor : Text} {a : Option Instant} : readAnchor anchor = .ok a ↔
    (anchor = [] ∧ a = none) ∨ ∃ i, Instant.read anchor = .ok i ∧ a = some i := by
  unfold readAnchor
  split
  · rename_i absent
    have never : ∀ i, Instant.read [] ≠ .ok i := by
      rintro i ⟨⟩
    rw [List.isEmpty_iff.1 absent]
    simp [never, eq_comm]
  · rename_i given
    rw [List.isEmpty_iff] at given
    cases read : Instant.read anchor with
    | ok i => simp [given, eq_comm]
    | error r => simp [given]

/-- No quote stands behind the marker. -/
theorem IsWritten.not_mem {raw written anchor : Text} {a : Option Instant}
    (h : IsWritten raw written anchor a) : '"' ∉ ['@', '['] ++ (anchor ++ [']']) := by
  have foreign : ¬ Instant.IsPart '"' := by decide
  rcases h.anchored with ⟨rfl, -⟩ | ⟨i, read, -⟩
  · decide
  · simp [Instant.not_mem_of_read foreign read]

theorem IsWritten.unique {raw written anchor written' anchor' : Text} {a a' : Option Instant}
    (h : IsWritten raw written anchor a) (h' : IsWritten raw written' anchor' a') :
    written = written' ∧ anchor = anchor' := by
  have same : ('"' :: written) ++ '"' :: (['@', '['] ++ (anchor ++ [']'])) =
      ('"' :: written') ++ '"' :: (['@', '['] ++ (anchor' ++ [']'])) := by
    have joins := h.joins.symm.trans h'.joins
    simpa [marker] using joins
  obtain ⟨front, back⟩ := Text.eq_of_last h.not_mem h'.not_mem same
  exact ⟨(List.cons.inj front).2, List.append_cancel_right (List.append_cancel_left back)⟩

theorem parse_eq_ok_iff {t : Text} {p : Predicate} : parse t = .ok p ↔
    ∃ written anchor, IsWritten t.trim written anchor p.anchor ∧
      p.id = Text.unescape '"' written := by
  refine ⟨?_, ?_⟩
  · intro h
    obtain ⟨written, anchor, raw, named, read, id⟩ := exists_of_parse h
    refine ⟨written, anchor, ⟨?_, named, readAnchor_eq_ok_iff.1 read⟩, id⟩
    simpa using raw
  · rintro ⟨written, anchor, shape, id⟩
    have raw : t.trim = '"' :: written ++ marker ++ (anchor ++ [']']) := by
      simpa using shape.joins
    have closed : t.trim.getLast? = some ']' := by
      rw [raw, ← List.append_assoc, List.getLast?_concat]
    have cut : Text.cutLast marker t.trim = some ('"' :: written, anchor ++ [']']) := by
      rw [raw]
      exact Text.cutLast_append shape.not_mem _
    have whole : parse t = parse t.trim := by
      rw [parse, parse, Text.trim_of_isTrimmed (Text.isTrimmed_trim t)]
    rw [whole, parse_of_cutLast cut closed, List.dropLast_concat,
      readAnchor_eq_ok_iff.2 shape.anchored]
    refine make_eq_ok_iff.2 ⟨?_, ?_⟩
    · rw [Valid, id]
      exact (@valid_unescape written p.anchor).2 shape.named
    · rw [← id]

theorem parse_display_eq_ok_iff {p : Predicate} :
    parse p.display = .ok p ↔ p.Valid ∧ p.HasPlainYear := by
  refine ⟨?_, ?_⟩
  · intro h
    refine ⟨valid_of_parse h, ?_⟩
    by_contra far
    obtain ⟨f, fault⟩ := parse_display_of_not_hasPlainYear far
    rw [fault] at h
    cases h
  · rintro ⟨valid, plain⟩
    exact parse_display valid plain

/-- A text is a predicate if, without the blanks at its ends, it is written as one, which it
is in one way at most, and the id is what is written with a quote for every backslash and
quote. Of all predicates those read back from their text that have an id and no anchor out of
the years that four digits hold. With such an anchor the anchor is at fault. -/
theorem parse_iff_written_anchored :
    (∀ t p, parse t = .ok p ↔ ∃ written anchor, IsWritten t.trim written anchor p.anchor ∧
      Text.Replaced ['\\', '"'] ['"'] written p.id) ∧
    (∀ raw written anchor a written' anchor' a', IsWritten raw written anchor a →
      IsWritten raw written' anchor' a' → written = written' ∧ anchor = anchor') ∧
    (∀ p : Predicate, parse p.display = .ok p ↔
      p.id ≠ [] ∧ ∀ i ∈ p.anchor, 0 ≤ i.year ∧ i.year ≤ 9999) ∧
    ∀ (p : Predicate) (i : Instant), p.anchor = some i → ¬ (0 ≤ i.year ∧ i.year ≤ 9999) →
      ∃ r, parse p.display = .error (.anchor i.display r) := by
  refine ⟨?_, ?_, ?_, ?_⟩
  · intro t p
    simp only [← Text.unescape_eq_iff_replaced (by decide : '"' ≠ '\\'), @eq_comm _ _ p.id]
    exact parse_eq_ok_iff
  · intro raw written anchor a written' anchor' a' h h'
    exact h.unique h'
  · intro p
    exact parse_display_eq_ok_iff
  · intro p i anchored far
    obtain ⟨r, fault⟩ := readAnchor_display_of_not_hasPlainYear far
    refine ⟨r, ?_⟩
    rw [parse_display_eq, anchorText, anchored]
    dsimp only
    rw [fault]
    rfl

/-- The id holds a whole anchor and an escaped quote. The clock of the last hour of 9999 is
behind universal time, where the year is over. -/
theorem parse_iff_written_anchored_of_late_anchor : ∃ p : Predicate,
    parse "\"a\"@[]\\\"b\"@[9999-12-31T23:30:00-01:00]".toList = .ok p ∧
      p.id = "a\"@[]\"b".toList ∧
      ∃ i, p.anchor = some i ∧ ∃ r, parse p.display = .error (.anchor i.display r) := by
  obtain ⟨grammar, -, -, far⟩ := parse_iff_written_anchored
  have late : ¬ Instant.HasPlainYear ⟨253402302600, 0, by decide⟩ := by decide
  have shape : IsWritten (Text.trim "\"a\"@[]\\\"b\"@[9999-12-31T23:30:00-01:00]".toList)
      "a\"@[]\\\"b".toList "9999-12-31T23:30:00-01:00".toList
      (some ⟨253402302600, 0, by decide⟩) :=
    ⟨rfl, by simp, readAnchor_eq_ok_iff.1 rfl⟩
  refine ⟨⟨"a\"@[]\"b".toList, some ⟨253402302600, 0, by decide⟩⟩, ?_, rfl, _, rfl, ?_⟩
  · exact (grammar _ _).2 ⟨_, _, shape, Text.replaced_unescape _⟩
  · exact far _ _ rfl late

end GraphText.Predicate
