-- The grammar of lines. A line is cut at boundaries and not read from left to right, and
-- still it is a triple only if three parts with blanks between them make it up, and then
-- in one way only.
import GraphText.Proofs.Boundaries
import GraphText.Proofs.ObjectText

namespace GraphText

open Text (AllBlank IsGap IsTrimmed)

/-- Three parts of a line and what stands between them. -/
structure Segments where
  subject : Text
  first : Text
  predicate : Text
  second : Text
  object : Text

namespace Segments

/-- The line up to the end of its predicate. -/
def front (x : Segments) : Text := x.subject ++ x.first ++ x.predicate

/-- The line. -/
def line (x : Segments) : Text := x.front ++ x.second ++ x.object

/-- The line is cut into these parts. -/
structure Splits (x : Segments) : Prop where
  first_gap : IsGap x.first
  second_gap : IsGap x.second
  subject_ends : x.subject.getLast? = some '>'
  predicate_starts : x.predicate.head? = some '"'
  predicate_ends : x.predicate.getLast? = some ']'
  object_starts : ∃ c ∈ ['/', '"'], x.object.head? = some c
  subject_clear : ¬ HasBoundary '>' ['"'] x.subject
  front_clear : ¬ HasBoundary ']' ['/', '"'] x.front

/-- The three parts are those of a triple, and the predicate ends at the first place where
it can. -/
structure Reads (b : Literal.Builder) (x : Segments) (t : Triple) : Prop where
  first_gap : IsGap x.first
  second_gap : IsGap x.second
  subject_trimmed : IsTrimmed x.subject
  predicate_trimmed : IsTrimmed x.predicate
  object_trimmed : IsTrimmed x.object
  subject_reads : Node.parse x.subject = .ok t.subject
  predicate_reads : Predicate.parse x.predicate = .ok t.predicate
  object_reads : Object.parse b x.object = .ok t.object
  front_clear : ¬ HasBoundary ']' ['/', '"'] x.front

end Segments

namespace Triple

/-! ## The split -/

theorem exists_of_splitLine {raw s p o : Text} (h : splitLine raw = some (s, p, o)) :
    ∃ first second, raw = (Segments.mk s first p second o).line ∧
      (Segments.mk s first p second o).Splits := by
  unfold splitLine at h
  split at h
  · rename_i s fromPredicate front o cutSubject cutFront
    obtain ⟨first, eq, firstGap, subjectEnds, ⟨q, isQuote, fromQuote⟩, subjectClear⟩ :=
      (cutBoundary_eq_some_iff delimits_subject).1 cutSubject
    obtain ⟨second, eq', secondGap, frontEnds, objectStarts, frontClear⟩ :=
      (cutBoundary_eq_some_iff delimits_predicate).1 cutFront
    have start : raw.length - fromPredicate.length = (s ++ first).length := by
      rw [eq, List.length_append, Nat.add_sub_cancel]
    dsimp only at h
    rw [start] at h
    split at h
    · simp at h
    · rename_i notBefore
      simp only [Option.some.injEq, Prod.mk.injEq] at h
      obtain ⟨rfl, rfl, rfl⟩ := h
      obtain ⟨p, rfl⟩ : s ++ first <+: front :=
        List.prefix_of_prefix_length_le ⟨fromPredicate, eq.symm⟩
          ⟨second ++ o, by rw [eq', List.append_assoc]⟩ (Nat.le_of_not_lt notBefore)
      rw [List.drop_left]
      have next : fromPredicate = p ++ second ++ o := by
        have both : s ++ first ++ fromPredicate = s ++ first ++ (p ++ second ++ o) := by
          rw [← eq, eq']
          simp only [List.append_assoc]
        exact List.append_cancel_left both
      have named : p ≠ [] := by
        rintro rfl
        rw [List.append_nil, List.getLast?_append_of_ne_nil _ firstGap.1] at frontEnds
        exact absurd (firstGap.2 ']' (List.mem_of_getLast? frontEnds)) (by decide)
      refine ⟨first, second, eq', firstGap, secondGap, subjectEnds, ?_, ?_, objectStarts,
        subjectClear, frontClear⟩
      · rw [next, List.append_assoc, List.head?_append_of_ne_nil _ named] at fromQuote
        rw [fromQuote, List.mem_singleton.1 isQuote]
      · rwa [List.getLast?_append_of_ne_nil _ named] at frontEnds
  · simp at h

/-- The first closing bracket in front of a quote ends the subject, whatever follows. -/
theorem cutBoundary_line {x : Segments} (gap : IsGap x.first)
    (ends : x.subject.getLast? = some '>') (starts : x.predicate.head? = some '"')
    (clear : ¬ HasBoundary '>' ['"'] x.subject) :
    cutBoundary '>' ['"'] x.line = some (x.subject, x.predicate ++ x.second ++ x.object) := by
  apply (cutBoundary_eq_some_iff delimits_subject).2
  have named : x.predicate ≠ [] := List.ne_nil_of_mem (List.mem_of_head? starts)
  refine ⟨x.first, ?_, gap, ends, ⟨'"', by simp, ?_⟩, clear⟩
  · simp [Segments.line, Segments.front]
  · rw [List.append_assoc, List.head?_append_of_ne_nil _ named, starts]

theorem splitLine_line {x : Segments} (h : x.Splits) :
    splitLine x.line = some (x.subject, x.predicate, x.object) := by
  have cutSubject := cutBoundary_line h.first_gap h.subject_ends h.predicate_starts
    h.subject_clear
  have cutFront : cutBoundary ']' ['/', '"'] x.line = some (x.front, x.object) := by
    apply (cutBoundary_eq_some_iff delimits_predicate).2
    refine ⟨x.second, rfl, h.second_gap, ?_, h.object_starts, h.front_clear⟩
    rw [Segments.front, List.getLast?_append, h.predicate_ends]
    rfl
  have start : x.line.length - (x.predicate ++ x.second ++ x.object).length =
      (x.subject ++ x.first).length := by
    simp only [Segments.line, Segments.front, List.length_append]
    omega
  unfold splitLine
  rw [cutSubject, cutFront]
  dsimp only
  rw [start, if_neg, Segments.front, List.drop_left]
  rw [Segments.front, List.length_append]
  omega

/-- The parts of a line are the only ones that make it up. -/
theorem splitLine_eq_some_iff {raw s p o : Text} : splitLine raw = some (s, p, o) ↔
    ∃ first second, raw = (Segments.mk s first p second o).line ∧
      (Segments.mk s first p second o).Splits := by
  refine ⟨?_, ?_⟩
  · exact exists_of_splitLine
  · rintro ⟨first, second, rfl, splits⟩
    exact splitLine_line splits

/-- The parts of a line that is cut decide what it is. -/
theorem ofTrimmed_line {x : Segments} (h : x.Splits) (b : Literal.Builder) :
    ofTrimmed b x.line = (do
      let subject ← part (.subject x.subject) (Node.parse x.subject)
      let predicate ← part (.predicate x.predicate) (Predicate.parse x.predicate)
      let object ← part (.object x.object) (Object.parse b x.object)
      .ok ⟨subject, predicate, object⟩) := by
  rw [ofTrimmed, splitLine_line h]

theorem ofTrimmed_line_eq_ok_iff {x : Segments} (h : x.Splits) {b : Literal.Builder}
    {t : Triple} : ofTrimmed b x.line = .ok t ↔ Node.parse x.subject = .ok t.subject ∧
      Predicate.parse x.predicate = .ok t.predicate ∧
      Object.parse b x.object = .ok t.object := by
  rw [ofTrimmed_line h]
  obtain ⟨s, p, o⟩ := t
  cases Node.parse x.subject with
  | error f => simp [part, bind, Except.bind]
  | ok n =>
    cases Predicate.parse x.predicate with
    | error f => simp [part, bind, Except.bind]
    | ok q =>
      cases Object.parse b x.object with
      | error f => simp [part, bind, Except.bind]
      | ok z => simp [part, bind, Except.bind]

end Triple

namespace Segments

variable {b : Literal.Builder} {x y : Segments} {t u : Triple}

/-! ## Parts that are read -/

theorem Reads.subject_eq (h : x.Reads b t) : ∃ w,
    x.subject = t.subject.type ++ '<' :: (w ++ ['>']) ∧ Node.IsType t.subject.type ∧
      Node.IsId w ∧ t.subject.id = Text.unescape '<' w := by
  obtain ⟨w, eq, rest⟩ := Node.parse_eq_ok_iff.1 h.subject_reads
  rw [Text.trim_of_isTrimmed h.subject_trimmed] at eq
  exact ⟨w, eq, rest⟩

theorem Reads.predicate_eq (h : x.Reads b t) : ∃ w anchor,
    x.predicate = '"' :: (w ++ Predicate.marker ++ (anchor ++ [']'])) ∧
      t.predicate.id = Text.unescape '"' w := by
  obtain ⟨w, a, eq, -, -, id⟩ := Predicate.exists_of_parse h.predicate_reads
  rw [Text.trim_of_isTrimmed h.predicate_trimmed] at eq
  exact ⟨w, a, eq, id⟩

/-- A node holds one closing bracket, and nothing of it stands behind. -/
theorem not_hasBoundary_node {type w : Text} (ht : Node.IsType type) (hw : Node.IsId w) :
    ¬ HasBoundary '>' ['"'] (type ++ '<' :: (w ++ ['>'])) := by
  have inside : '>' ∉ type ++ '<' :: w := by
    simp only [List.mem_append, List.mem_cons, not_or]
    exact ⟨fun mem => (ht.2.2 _ mem).2.2 rfl, by simp, hw.2⟩
  rw [← List.cons_append, ← List.append_assoc]
  exact not_hasBoundary_concat inside

/-- A line of three parts that are read is cut at the first gap. -/
theorem Reads.splits (h : x.Reads b t) : x.Splits := by
  obtain ⟨w, subject, type, id, -⟩ := h.subject_eq
  have starts := Object.head?_of_predicate h.predicate_reads
  have ends := Object.getLast?_of_predicate h.predicate_reads
  have objectStarts := Object.head?_of_parse h.object_reads
  rw [Text.trim_of_isTrimmed h.predicate_trimmed] at starts ends
  rw [Text.trim_of_isTrimmed h.object_trimmed] at objectStarts
  refine ⟨h.first_gap, h.second_gap, ?_, starts, ends, objectStarts, ?_, h.front_clear⟩
  · rw [subject]
    exact Text.getLast?_closed _ _ _ _
  · rw [subject]
    exact not_hasBoundary_node type id

theorem Splits.head?_line (h : x.Splits) : x.line.head? = x.subject.head? := by
  have named : x.subject ≠ [] := List.ne_nil_of_mem (List.mem_of_getLast? h.subject_ends)
  simp only [line, front, List.append_assoc]
  exact List.head?_append_of_ne_nil _ named

theorem Splits.getLast?_line (h : x.Splits) : x.line.getLast? = x.object.getLast? := by
  obtain ⟨c, -, starts⟩ := h.object_starts
  exact List.getLast?_append_of_ne_nil _ (List.ne_nil_of_mem (List.mem_of_head? starts))

theorem Splits.isTrimmed_line_iff (h : x.Splits) : IsTrimmed x.line ↔
    IsTrimmed x.subject ∧ IsTrimmed x.predicate ∧ IsTrimmed x.object := by
  have closing : ∀ c ∈ x.subject.getLast?, isBlank c = false := by
    rw [h.subject_ends]
    rintro c ⟨⟩
    decide
  have starts : ∀ c ∈ x.object.head?, isBlank c = false := by
    obtain ⟨c, mem, starts⟩ := h.object_starts
    rw [starts]
    rintro c ⟨⟩
    exact delimits_predicate.opening_solid _ mem
  have predicate : IsTrimmed x.predicate :=
    Text.isTrimmed_of_ends h.predicate_starts h.predicate_ends (by decide) (by decide)
  unfold IsTrimmed
  rw [h.head?_line, h.getLast?_line]
  refine ⟨?_, ?_⟩
  · rintro ⟨front, back⟩
    exact ⟨⟨front, closing⟩, predicate, starts, back⟩
  · rintro ⟨⟨front, -⟩, -, -, back⟩
    exact ⟨front, back⟩

/-! ## Other gaps -/

/-- The same parts with other gaps between them. -/
def withGaps (x : Segments) (first second : Text) : Segments :=
  { x with first := first, second := second }

/-- The gap in front of the predicate lies in no boundary, so only the parts beside it can
hold one. -/
theorem hasBoundary_front_iff {s gap r : Text} (blank : AllBlank gap) :
    HasBoundary ']' ['/', '"'] (s ++ ['>'] ++ gap ++ '"' :: r) ↔
      HasBoundary ']' ['/', '"'] s ∨ HasBoundary ']' ['/', '"'] r := by
  have noClosing : ']' ∉ gap := fun mem => absurd (blank _ mem) (by decide)
  have noEnd : ¬ EndsOpen ']' gap := by
    rintro ⟨before, rest, rfl, -⟩
    simp at noClosing
  have after : HasBoundary ']' ['/', '"'] (gap ++ '"' :: r) ↔ HasBoundary ']' ['/', '"'] r := by
    rw [hasBoundary_append_cons (by decide), hasBoundary_cons_of_ne (by simp)]
    simp [not_hasBoundary_of_not_mem noClosing, noEnd]
  rw [List.append_assoc, List.append_assoc, List.singleton_append,
    hasBoundary_append_cons (by decide), hasBoundary_cons_of_ne (by simp), after]
  simp

theorem Splits.withGaps (h : x.Splits) {first second : Text} (firstGap : IsGap first)
    (secondGap : IsGap second) : (x.withGaps first second).Splits := by
  obtain ⟨s, subject⟩ := List.getLast?_eq_some_iff.1 h.subject_ends
  obtain ⟨r, predicate⟩ := List.head?_eq_some_iff.1 h.predicate_starts
  have clear := h.front_clear
  rw [front, subject, predicate, hasBoundary_front_iff h.first_gap.2] at clear
  refine ⟨firstGap, secondGap, h.subject_ends, h.predicate_starts, h.predicate_ends,
    h.object_starts, h.subject_clear, ?_⟩
  change ¬ HasBoundary ']' ['/', '"'] (x.subject ++ first ++ x.predicate)
  rwa [subject, predicate, hasBoundary_front_iff firstGap.2]

/-- The gaps and the blanks around a line do not change what it is, not even its fault. -/
theorem Splits.parse_withGaps (h : x.Splits) (trimmed : IsTrimmed x.line)
    (b : Literal.Builder) {before first second after : Text} (hb : AllBlank before)
    (firstGap : IsGap first) (secondGap : IsGap second) (ha : AllBlank after) :
    Triple.parse b (before ++ (x.withGaps first second).line ++ after) =
      Triple.parse b x.line := by
  have splits := h.withGaps firstGap secondGap
  have trimmed' : IsTrimmed (x.withGaps first second).line :=
    splits.isTrimmed_line_iff.2 (h.isTrimmed_line_iff.1 trimmed)
  rw [Triple.parse, Triple.parse, Text.trim_append hb ha, Text.trim_of_isTrimmed trimmed,
    Text.trim_of_isTrimmed trimmed', Triple.ofTrimmed_line splits, Triple.ofTrimmed_line h]
  rfl

/-! ## One way to cut a line -/

theorem Splits.eq_of_line_eq (hx : x.Splits) (hy : y.Splits) (h : x.line = y.line) : x = y := by
  have cut := Triple.splitLine_line hy
  rw [← h, Triple.splitLine_line hx] at cut
  obtain ⟨s, v, p, w, o⟩ := x
  obtain ⟨s', v', p', w', o'⟩ := y
  simp only [Option.some.injEq, Prod.mk.injEq] at cut
  obtain ⟨rfl, rfl, rfl⟩ := cut
  simp only [line, front, List.append_assoc] at h
  have fromFirst := List.append_cancel_left h
  have solid : ∀ r, ∀ c ∈ (p ++ r).head?, isBlank c = false := by
    intro r c mem
    rw [List.head?_append, hx.predicate_starts] at mem
    cases mem
    rfl
  have first : v = v' := by
    have blank : AllBlank v := hx.first_gap.2
    have blank' : AllBlank v' := hy.first_gap.2
    have gaps := congrArg (List.takeWhile isBlank) fromFirst
    rwa [(Text.cut_gap blank (solid _)).1, (Text.cut_gap blank' (solid _)).1] at gaps
  subst first
  have second : w = w' :=
    List.append_cancel_right (List.append_cancel_left (List.append_cancel_left fromFirst))
  rw [second]

end Segments

namespace Triple

open Segments

/-- A text is a triple if it can be written as three parts that are read. -/
theorem ofTrimmed_eq_ok_iff {b : Literal.Builder} {raw : Text} (trimmed : IsTrimmed raw)
    {t : Triple} : ofTrimmed b raw = .ok t ↔ ∃ x : Segments, raw = x.line ∧ x.Reads b t := by
  refine ⟨?_, ?_⟩
  · intro h
    cases cut : splitLine raw with
    | none => simp [ofTrimmed, cut] at h
    | some parts =>
      obtain ⟨s, p, o⟩ := parts
      obtain ⟨first, second, rfl, splits⟩ := exists_of_splitLine cut
      obtain ⟨subject, predicate, object⟩ := (ofTrimmed_line_eq_ok_iff splits).1 h
      obtain ⟨hs, hp, ho⟩ := splits.isTrimmed_line_iff.1 trimmed
      exact ⟨_, rfl, splits.first_gap, splits.second_gap, hs, hp, ho, subject, predicate,
        object, splits.front_clear⟩
  · rintro ⟨x, rfl, reads⟩
    exact (ofTrimmed_line_eq_ok_iff reads.splits).2
      ⟨reads.subject_reads, reads.predicate_reads, reads.object_reads⟩

/-- A line is a triple if, without the blanks at its ends, it is three parts that are read,
and then no other three parts with blanks between them make it up. Other gaps and other
blanks around it leave what it is, also where a part is at fault. -/
theorem parse_iff_reads (b : Literal.Builder) (line : Text) :
    (∀ t, parse b line = .ok t ↔ ∃ x : Segments, line.trim = x.line ∧ x.Reads b t) ∧
      (∀ x y : Segments, ∀ t u, x.Reads b t → y.Reads b u → x.line = line.trim →
        y.line = line.trim → x = y) ∧
      (∀ x : Segments, ∀ t, x.line = line.trim → x.Reads b t →
        ∀ before first second after, AllBlank before → IsGap first → IsGap second →
          AllBlank after →
          parse b (before ++ (x.withGaps first second).line ++ after) = .ok t) ∧
      ∀ x : Segments, x.line = line.trim → x.Splits →
        ∀ before first second after, AllBlank before → IsGap first → IsGap second →
          AllBlank after →
          parse b (before ++ (x.withGaps first second).line ++ after) = parse b line := by
  have accepts : ∀ t, parse b line = .ok t ↔
      ∃ x : Segments, line.trim = x.line ∧ x.Reads b t :=
    fun t => ofTrimmed_eq_ok_iff (Text.isTrimmed_trim line)
  have regap : ∀ x : Segments, x.line = line.trim → x.Splits →
      ∀ before first second after, AllBlank before → IsGap first → IsGap second →
        AllBlank after →
        parse b (before ++ (x.withGaps first second).line ++ after) = parse b line := by
    intro x eq splits before first second after hb firstGap secondGap ha
    have trimmed : IsTrimmed x.line := by
      rw [eq]
      exact Text.isTrimmed_trim line
    rw [splits.parse_withGaps trimmed b hb firstGap secondGap ha, parse,
      Text.trim_of_isTrimmed trimmed, eq]
    rfl
  refine ⟨accepts, ?_, ?_, regap⟩
  · intro x y t u hx hy lineX lineY
    exact hx.splits.eq_of_line_eq hy.splits (lineX.trans lineY.symm)
  · intro x t eq reads before first second after hb firstGap secondGap ha
    rw [regap x eq reads.splits before first second after hb firstGap secondGap ha, accepts]
    exact ⟨x, eq.symm, reads⟩

/-- Two spaces or a tab, a line end or a space: the triple stays. -/
theorem parse_friends_with_gaps :
    parse .unlimited " /u<a>  \"p\"@[]\t/u<b>".toList =
        .ok ⟨⟨['/', 'u'], ['a']⟩, ⟨['p'], none⟩, .node ⟨['/', 'u'], ['b']⟩⟩ ∧
      parse .unlimited "/u<a>\n\"p\"@[] /u<b> ".toList =
        .ok ⟨⟨['/', 'u'], ['a']⟩, ⟨['p'], none⟩, .node ⟨['/', 'u'], ['b']⟩⟩ := by
  have reads : (Segments.mk "/u<a>".toList [' ', ' '] "\"p\"@[]".toList ['\t']
      "/u<b>".toList).Reads .unlimited
        ⟨⟨['/', 'u'], ['a']⟩, ⟨['p'], none⟩, .node ⟨['/', 'u'], ['b']⟩⟩ := by
    have subject : IsTrimmed "/u<a>".toList :=
      Text.isTrimmed_of_ends (a := '/') (z := '>') rfl rfl (by decide) (by decide)
    have predicate : IsTrimmed "\"p\"@[]".toList :=
      Text.isTrimmed_of_ends (a := '"') (z := ']') rfl rfl (by decide) (by decide)
    have object : IsTrimmed "/u<b>".toList :=
      Text.isTrimmed_of_ends (a := '/') (z := '>') rfl rfl (by decide) (by decide)
    refine ⟨by decide, by decide, subject, predicate, object, rfl, rfl, rfl, ?_⟩
    apply (cutBoundary_eq_none_iff delimits_predicate.opening_solid).1
    decide
  obtain ⟨accepts, -, regap, -⟩ :=
    parse_iff_reads .unlimited " /u<a>  \"p\"@[]\t/u<b>".toList
  refine ⟨(accepts _).2 ⟨_, by decide, reads⟩, ?_⟩
  exact regap _ _ (by decide) reads [] ['\n'] [' '] [' '] (by decide) (by decide) (by decide)
    (by decide)

end Triple
end GraphText
