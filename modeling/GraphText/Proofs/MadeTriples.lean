-- Triples that were put together from parts. Their ids may hold what looks like the end
-- of a predicate, and then the line is cut too early: inside the subject there is no
-- predicate left, and inside the predicate another one may be read.
import GraphText.Proofs.LineRoundTrip

namespace GraphText

/-- A type and an id made the node. -/
def Node.IsMade (n : Node) : Prop := ∃ type id, make type id = .ok n

/-- An id and an anchor, or none, made the predicate. -/
def Predicate.IsMade (p : Predicate) : Prop := ∃ id anchor, make id anchor = .ok p

/-- The parts of the object made it, or a builder did. -/
def Object.IsMade : Object → Prop
  | node n => n.IsMade
  | predicate p => p.IsMade
  | literal x => ∃ b : Literal.Builder, ∃ y, b.build y = .ok x

/-- Parts that were made are put together to the triple. -/
def Triple.IsMade (t : Triple) : Prop :=
  t.subject.IsMade ∧ t.predicate.IsMade ∧ t.object.IsMade

theorem Node.isMade_iff {n : Node} : n.IsMade ↔ n.Valid := by
  refine ⟨?_, ?_⟩
  · rintro ⟨type, id, made⟩
    obtain ⟨ht, hi, rfl⟩ := make_eq_ok_iff.1 made
    exact ⟨ht, hi⟩
  · intro h
    exact ⟨n.type, n.id, make_eq_ok_iff.2 ⟨h.1, h.2, rfl⟩⟩

theorem Predicate.isMade_iff {p : Predicate} : p.IsMade ↔ p.Valid := by
  refine ⟨?_, ?_⟩
  · rintro ⟨id, anchor, made⟩
    exact (make_eq_ok_iff.1 made).1
  · intro h
    exact ⟨p.id, p.anchor, make_eq_ok_iff.2 ⟨h, rfl⟩⟩

theorem Object.isMade_iff {o : Object} : o.IsMade ↔ o.Valid := by
  cases o with
  | node n => exact Node.isMade_iff
  | predicate p => exact Predicate.isMade_iff
  | literal x => exact ⟨fun _ => trivial, fun _ => ⟨.unlimited, x, allowed_unlimited (.literal x)⟩⟩

namespace Triple

variable {b : Literal.Builder} {t u : Triple}

/-- The constructors make the valid triples. -/
theorem isMade_iff : t.IsMade ↔ t.Valid := by
  rw [IsMade, Valid, Node.isMade_iff, Predicate.isMade_iff, Object.isMade_iff]

/-! ## Lines that are cut too early -/

/-- The first bracket in front of a quote ends the subject of a valid triple. -/
theorem cutBoundary_display (h : t.Valid) : cutBoundary '>' ['"'] t.display =
    some (t.subject.display, t.predicate.display ++ ['\t'] ++ t.object.display) :=
  cutBoundary_line (x := t.shown) isGap_tab t.subject.getLast?_display rfl
    (subject_clear_shown h)

theorem parts_of_splits (h : t.Valid) {x : Segments} (splits : x.Splits)
    (line : x.line = t.display) : x.subject = t.subject.display ∧
      x.predicate ++ x.second ++ x.object =
        t.predicate.display ++ ['\t'] ++ t.object.display := by
  have cut := cutBoundary_line splits.first_gap splits.subject_ends splits.predicate_starts
    splits.subject_clear
  rw [line, cutBoundary_display h] at cut
  simp only [Option.some.injEq, Prod.mk.injEq] at cut
  exact ⟨cut.1.symm, cut.2.symm⟩

/-- A boundary in the subject leaves no predicate. -/
theorem splitLine_display_eq_none (h : t.Valid)
    (boundary : HasBoundary ']' ['/', '"'] t.subject.id) : splitLine t.display = none := by
  cases cut : splitLine t.display with
  | none => rfl
  | some parts =>
    exfalso
    obtain ⟨s, p, o⟩ := parts
    obtain ⟨first, second, line, splits⟩ := exists_of_splitLine cut
    obtain ⟨subject, -⟩ := parts_of_splits h splits line.symm
    have inside : Text.escape '<' t.subject.id <:+: (Segments.mk s first p second o).front := by
      dsimp only at subject
      refine ⟨t.subject.type ++ ['<'], ['>'] ++ first ++ p, ?_⟩
      rw [Segments.front, subject, Node.display_eq]
      simp
    apply splits.front_clear
    exact ((hasBoundary_node_iff (Text.sheds_escape _)).2 boundary).of_isInfix inside

theorem count_predicate_lt {x : Segments} (reads : x.Reads b u) :
    u.predicate.id.count ']' < x.predicate.count ']' := by
  obtain ⟨w, anchor, eq, id⟩ := reads.predicate_eq
  have same : u.predicate.id.count ']' = w.count ']' := by
    rw [id, (Text.sheds_unescape w).count_eq (by simp)]
  rw [same, eq]
  simp only [List.count_cons, List.count_append, List.count_nil, beq_self_eq_true, if_true]
  omega

/-- A predicate that ends too early stops inside its id, so the id that is read holds fewer
brackets. -/
theorem predicate_ne_of_reads (h : t.Valid) {x : Segments} (reads : x.Reads b u)
    (line : x.line = t.display)
    (early : HasBoundary ']' ['/'] t.predicate.id ∨ EndsOpen ']' t.predicate.id) :
    u.predicate ≠ t.predicate := by
  obtain ⟨-, parts⟩ := parts_of_splits h reads.splits line
  have quoted : HasBoundary ']' ['/', '"'] (Text.escape '"' t.predicate.id ++ ['"']) := by
    rw [hasBoundary_append_cons (by decide), hasBoundary_escape_iff,
      endsOpen_predicate_iff (Text.sheds_escape _)]
    rcases early with inside | atEnd
    · exact .inl inside
    · exact .inr (.inl ⟨by simp, atEnd⟩)
  have whole : x.predicate <+: t.predicate.display ++ ['\t'] ++ t.object.display :=
    ⟨x.second ++ x.object, by rw [← parts, List.append_assoc]⟩
  have upToQuote : '"' :: (Text.escape '"' t.predicate.id ++ ['"']) <+:
      t.predicate.display ++ ['\t'] ++ t.object.display := by
    rw [Predicate.display_eq, Predicate.marker]
    exact ⟨'@' :: '[' :: (t.predicate.anchorText ++ [']', '\t'] ++ t.object.display), by simp⟩
  rcases List.prefix_or_prefix_of_prefix upToQuote whole with longer | shorter
  · exfalso
    apply reads.front_clear
    apply quoted.of_isInfix
    have inFront : x.predicate <:+: x.front := (List.suffix_append _ _).isInfix
    exact (List.suffix_cons _ _).isInfix.trans (longer.isInfix.trans inFront)
  · intro same
    have fewer := count_predicate_lt reads
    have most : x.predicate.count ']' ≤ t.predicate.id.count ']' := by
      calc x.predicate.count ']'
          ≤ ('"' :: (Text.escape '"' t.predicate.id ++ ['"'])).count ']' :=
            shorter.sublist.count_le ']'
        _ = (Text.escape '"' t.predicate.id).count ']' := by simp
        _ = t.predicate.id.count ']' := (Text.sheds_escape _).count_eq (by simp)
    rw [same] at fewer
    omega

/-- A triple that comes back from its text is clear. -/
theorem isClear_of_parse_display (h : t.Valid) (read : parse b t.display = .ok u)
    (same : (u == t) = true) : t.IsClear := by
  obtain ⟨x, line, reads⟩ := exists_reads read
  rw [Text.trim_of_isTrimmed (isTrimmed_display h)] at line
  obtain ⟨subject, predicate, -⟩ := beq_iff.1 same
  have early := predicate_ne_of_reads h reads line.symm
  refine ⟨?_, ?_, ?_⟩
  · rw [← subject]
    exact (isClear_of_reads reads).subject
  · intro inside
    exact early (.inl inside) predicate
  · intro atEnd
    exact early (.inr atEnd) predicate

/-- A triple of parts that their constructors made comes back from its text if and only if
no id has a boundary that ends the predicate too early, four digits hold its years, and its
object is not the float that is no number. With a boundary in the subject the line cannot
be split. -/
theorem reparse_made_iff (t : Triple) (made : t.IsMade) :
    ((∃ u, parse .unlimited t.display = .ok u ∧ (u == t) = true) ↔
      ¬ HasBoundary ']' ['/', '"'] t.subject.id ∧
        (¬ HasBoundary ']' ['/'] t.predicate.id ∧ ¬ EndsOpen ']' t.predicate.id) ∧
        t.HasPlainYears ∧ ¬ t.object.IsNaN) ∧
      (HasBoundary ']' ['/', '"'] t.subject.id →
        parse .unlimited t.display = .error (.split t.display)) := by
  have valid := isMade_iff.1 made
  have allowed := Object.allowed_unlimited t.object
  refine ⟨⟨?_, ?_⟩, ?_⟩
  · rintro ⟨u, read, same⟩
    have clear := isClear_of_parse_display valid read same
    obtain ⟨number, plain⟩ :=
      (exists_parse_display_iff valid clear allowed).1 ⟨u, read, same⟩
    exact ⟨clear.subject, ⟨clear.predicate, clear.predicate_end⟩, plain, number⟩
  · rintro ⟨subject, ⟨predicate, atEnd⟩, plain, number⟩
    exact (exists_parse_display_iff valid ⟨subject, predicate, atEnd⟩ allowed).2 ⟨number, plain⟩
  · intro boundary
    rw [parse, Text.trim_of_isTrimmed (isTrimmed_display valid), ofTrimmed,
      splitLine_display_eq_none valid boundary]

/-- The id of the subject ends a predicate that has not started. -/
theorem reparse_made_of_bracket :
    IsMade ⟨⟨['/', 'u'], "a] /b".toList⟩, ⟨['p'], none⟩, .node ⟨['/', 'u'], ['c']⟩⟩ ∧
      parse .unlimited "/u<a] /b>\t\"p\"@[]\t/u<c>".toList =
        .error (.split "/u<a] /b>\t\"p\"@[]\t/u<c>".toList) := by
  have made : IsMade
      ⟨⟨['/', 'u'], "a] /b".toList⟩, ⟨['p'], none⟩, .node ⟨['/', 'u'], ['c']⟩⟩ :=
    ⟨⟨['/', 'u'], "a] /b".toList, rfl⟩, ⟨['p'], none, rfl⟩, ['/', 'u'], ['c'], rfl⟩
  refine ⟨made, (reparse_made_iff _ made).2 ?_⟩
  exact ⟨['a'], [' ', '/', 'b'], rfl, [' '], '/', ['b'], rfl, by decide, by simp⟩

end Triple
end GraphText
