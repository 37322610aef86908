-- The faults of lines. A line has no parts if a boundary is missing or the two are out of
-- order, which is a matter of where the first ones start and end. In any other line the first
-- part that does not read is at fault, with the text between its boundaries.
import GraphText.Proofs.LineGrammar
import GraphText.Text.Basic

namespace GraphText

open Text (AllBlank IsGap)

variable {closing c : Char} {opening t x y gap : Text} {first last first' last' : Nat}

/-! ## Where boundaries stand -/

/-- A boundary of the text starts and ends at these bytes. -/
def BoundaryAt (closing : Char) (opening t : Text) (first last : Nat) : Prop :=
  ∃ before gap c after, t = before ++ closing :: (gap ++ c :: after) ∧ IsGap gap ∧
    c ∈ opening ∧ first = before.byteLength ∧
    last = (before ++ closing :: (gap ++ [c])).byteLength

/-- No boundary of the text starts before this one. -/
structure FirstBoundary (closing : Char) (opening t : Text) (first last : Nat) : Prop where
  stands : BoundaryAt closing opening t first last
  least : ∀ other past, BoundaryAt closing opening t other past → first ≤ other

theorem BoundaryAt.hasBoundary (h : BoundaryAt closing opening t first last) :
    HasBoundary closing opening t := by
  obtain ⟨before, gap, c, after, rfl, blank, mem, -, -⟩ := h
  exact ⟨before, _, rfl, gap, c, after, rfl, blank, mem⟩

/-- Where a boundary starts, it ends in one place only. -/
theorem BoundaryAt.last_eq (d : Delimits closing opening)
    (h : BoundaryAt closing opening t first last)
    (h' : BoundaryAt closing opening t first last') : last = last' := by
  obtain ⟨before, gap, c, after, eq, blank, mem, rfl, rfl⟩ := h
  obtain ⟨before', gap', c', after', eq', blank', mem', same, rfl⟩ := h'
  have front : before = before' := by
    rw [← Text.upToByte_append before (closing :: (gap ++ c :: after)), ← eq, same, eq',
      Text.upToByte_append]
  subst front
  have back : gap ++ c :: after = gap' ++ c' :: after' :=
    (List.cons.inj (List.append_cancel_left (eq.symm.trans eq'))).2
  have gaps := congrArg (List.takeWhile isBlank) back
  rw [(Text.cut_gap blank.2 (by simpa using d.opening_solid c mem)).1,
    (Text.cut_gap blank'.2 (by simpa using d.opening_solid c' mem')).1] at gaps
  subst gaps
  rw [(List.cons.inj (List.append_cancel_left back)).1]

theorem FirstBoundary.unique (d : Delimits closing opening)
    (h : FirstBoundary closing opening t first last)
    (h' : FirstBoundary closing opening t first' last') : first = first' ∧ last = last' := by
  have same := Nat.le_antisymm (h.least _ _ h'.stands) (h'.least _ _ h.stands)
  subst same
  exact ⟨rfl, h.stands.last_eq d h'.stands⟩

/-- A text without a boundary and what follows it: the boundary between them is the first. -/
theorem exists_firstBoundary (d : Delimits closing opening) (blank : IsGap gap)
    (ends : x.getLast? = some closing) (mem : c ∈ opening) (starts : y.head? = some c)
    (clear : ¬ HasBoundary closing opening x) :
    ∃ first, FirstBoundary closing opening (x ++ gap ++ y) first
        ((x ++ gap).byteLength + c.utf8Size) ∧ x.byteLength = first + closing.utf8Size := by
  obtain ⟨s, rfl⟩ := List.getLast?_eq_some_iff.1 ends
  obtain ⟨r, rfl⟩ := List.head?_eq_some_iff.1 starts
  refine ⟨Text.byteLength s, ⟨⟨s, gap, c, r, by simp, blank, mem, rfl, ?_⟩, ?_⟩, by simp⟩
  · simp only [Text.byteLength_append, Text.byteLength_cons, Text.byteLength_nil]
    omega
  · rintro other past ⟨before, gap', c', after, eq, blank', mem', rfl, -⟩
    have text : s ++ closing :: (gap ++ c :: r) = before ++ closing :: (gap' ++ c' :: after) := by
      rw [← eq]
      simp
    rcases List.append_eq_append_iff.1 text with ⟨w, rfl, -⟩ | ⟨w, rfl, tail⟩
    · rw [Text.byteLength_append]
      omega
    · cases w with
      | nil => simp
      | cons b w =>
        -- A boundary that starts before the closing character cannot pass it.
        obtain ⟨rfl, behind⟩ := List.cons.inj tail
        have opens : Opens opening (w ++ closing :: (gap ++ c :: r)) :=
          ⟨gap', c', after, behind.symm, blank', mem'⟩
        rcases (opens_append_cons d.closing_solid).1 opens with inside | ⟨mem, -⟩
        · exact absurd ⟨before, w ++ [closing], by simp, inside.append _⟩ clear
        · exact absurd mem d.apart

/-- A text is cut in its first boundary. -/
theorem exists_firstBoundary_of_cut (d : Delimits closing opening)
    (h : cutBoundary closing opening t = some (x, y)) : ∃ gap c first, t = x ++ gap ++ y ∧
      FirstBoundary closing opening t first ((x ++ gap).byteLength + Char.utf8Size c) ∧
      x.byteLength = first + closing.utf8Size := by
  obtain ⟨gap, rfl, blank, ends, ⟨c, mem, starts⟩, clear⟩ := (cutBoundary_eq_some_iff d).1 h
  obtain ⟨first, boundary, past⟩ := exists_firstBoundary d blank ends mem starts clear
  exact ⟨gap, c, first, rfl, boundary, past⟩

namespace Segments

variable {z : Segments}

/-- The parts end and start in the first boundaries of the line. -/
structure MarkedBy (z : Segments) (first last first' last' : Nat) : Prop where
  subject_boundary : FirstBoundary '>' ['"'] z.line first last
  predicate_boundary : FirstBoundary ']' ['/', '"'] z.line first' last'
  subject_ends : z.subject.byteLength = first + 1
  predicate_starts : (z.subject ++ z.first).byteLength + 1 = last
  predicate_ends : z.front.byteLength = first' + 1
  object_starts : (z.front ++ z.second).byteLength + 1 = last'

theorem Splits.exists_markedBy (h : z.Splits) :
    ∃ first last first' last', z.MarkedBy first last first' last' := by
  obtain ⟨c, mem, starts⟩ := h.object_starts
  have named : z.predicate ≠ [] := List.ne_nil_of_mem (List.mem_of_head? h.predicate_starts)
  have size : c.utf8Size = 1 := by
    rcases List.mem_cons.1 mem with rfl | mem
    · rfl
    · rw [List.mem_singleton.1 mem]
      rfl
  have behind : (z.predicate ++ z.second ++ z.object).head? = some '"' := by
    rw [List.append_assoc, List.head?_append_of_ne_nil _ named, h.predicate_starts]
  have ends : z.front.getLast? = some ']' := by
    rw [front, List.getLast?_append_of_ne_nil _ named, h.predicate_ends]
  have line : z.line = z.subject ++ z.first ++ (z.predicate ++ z.second ++ z.object) := by
    simp [Segments.line, front]
  obtain ⟨first, boundary, subjectEnds⟩ := exists_firstBoundary delimits_subject h.first_gap
    h.subject_ends (List.mem_singleton.2 rfl) behind h.subject_clear
  obtain ⟨first', boundary', predicateEnds⟩ := exists_firstBoundary delimits_predicate
    h.second_gap ends mem starts h.front_clear
  rw [← line] at boundary
  rw [size] at boundary'
  exact ⟨first, _, first', _, boundary, boundary', subjectEnds, rfl, predicateEnds, rfl⟩

/-- The predicate starts before it ends. -/
theorem Splits.last_le (h : z.Splits) (marked : z.MarkedBy first last first' last') :
    last ≤ first' := by
  have starts := marked.predicate_starts
  have ends := marked.predicate_ends
  obtain ⟨r, predicate⟩ := List.head?_eq_some_iff.1 h.predicate_starts
  have more : 0 < Text.byteLength r := by
    apply Text.byteLength_pos
    rintro rfl
    have last := h.predicate_ends
    rw [predicate] at last
    cases last
  have quote : '"'.utf8Size = 1 := rfl
  rw [front, Text.byteLength_append, predicate, Text.byteLength_cons, quote] at ends
  omega

/-- What a line of these parts is: the first part that does not read is at fault, with its own
text, and a triple has all three. -/
inductive Outcome (b : Literal.Builder) (z : Segments) : Except Triple.Fault Triple → Prop where
  | subject {e} (fault : Node.parse z.subject = .error e) :
    Outcome b z (.error (.subject z.subject e))
  | predicate {n e} (subject : Node.parse z.subject = .ok n)
    (fault : Predicate.parse z.predicate = .error e) :
    Outcome b z (.error (.predicate z.predicate e))
  | object {n p e} (subject : Node.parse z.subject = .ok n)
    (predicate : Predicate.parse z.predicate = .ok p)
    (fault : Object.parse b z.object = .error e) :
    Outcome b z (.error (.object z.object e))
  | triple {n p o} (subject : Node.parse z.subject = .ok n)
    (predicate : Predicate.parse z.predicate = .ok p)
    (object : Object.parse b z.object = .ok o) :
    Outcome b z (.ok ⟨n, p, o⟩)

theorem Splits.outcome (h : z.Splits) (b : Literal.Builder) :
    z.Outcome b (Triple.ofTrimmed b z.line) := by
  rw [Triple.ofTrimmed_line h]
  cases subject : Node.parse z.subject with
  | error e => exact .subject subject
  | ok n =>
    cases predicate : Predicate.parse z.predicate with
    | error e => exact .predicate subject predicate
    | ok p =>
      cases object : Object.parse b z.object with
      | error e => exact .object subject predicate object
      | ok o => exact .triple subject predicate object

end Segments

namespace Triple

open Segments

variable {b : Literal.Builder} {raw : Text}

/-! ## Lines without parts -/

/-- A boundary is missing, or the first one behind a predicate starts before the first one
behind a subject ends. -/
def CannotSplit (raw : Text) : Prop :=
  ¬ HasBoundary '>' ['"'] raw ∨ ¬ HasBoundary ']' ['/', '"'] raw ∨
    ∃ first last first' last', FirstBoundary '>' ['"'] raw first last ∧
      FirstBoundary ']' ['/', '"'] raw first' last' ∧ first' < last

theorem cannotSplit_of_splitLine (h : splitLine raw = none) : CannotSplit raw := by
  unfold splitLine at h
  cases cutSubject : cutBoundary '>' ['"'] raw with
  | none => exact .inl ((cutBoundary_eq_none_iff delimits_subject.opening_solid).1 cutSubject)
  | some parts =>
    cases cutFront : cutBoundary ']' ['/', '"'] raw with
    | none =>
      exact .inr (.inl ((cutBoundary_eq_none_iff delimits_predicate.opening_solid).1 cutFront))
    | some parts' =>
      obtain ⟨s, fromPredicate⟩ := parts
      obtain ⟨front, o⟩ := parts'
      obtain ⟨gap, c, first, eq, boundary, -⟩ :=
        exists_firstBoundary_of_cut delimits_subject cutSubject
      obtain ⟨gap', c', first', eq', boundary', frontEnds⟩ :=
        exists_firstBoundary_of_cut delimits_predicate cutFront
      have start : raw.length - fromPredicate.length = (s ++ gap).length := by
        rw [eq, List.length_append, Nat.add_sub_cancel]
      have before : front.length < (s ++ gap).length := by
        rw [← start]
        by_contra notBefore
        simp [cutSubject, cutFront, notBefore] at h
      -- Both are in front of the line, so the shorter one is in front of the longer one.
      obtain ⟨w, whole⟩ : front <+: s ++ gap :=
        List.prefix_of_prefix_length_le ⟨gap' ++ o, by rw [eq', List.append_assoc]⟩
          ⟨fromPredicate, eq.symm⟩ (Nat.le_of_lt before)
      refine .inr (.inr ⟨first, _, first', _, boundary, boundary', ?_⟩)
      rw [← whole, Text.byteLength_append]
      have bracket : ']'.utf8Size = 1 := rfl
      omega

theorem splitLine_eq_none_iff : splitLine raw = none ↔ CannotSplit raw := by
  refine ⟨cannotSplit_of_splitLine, ?_⟩
  intro cannot
  cases cut : splitLine raw with
  | none => rfl
  | some parts =>
    obtain ⟨s, p, o⟩ := parts
    obtain ⟨gap, gap', rfl, splits⟩ := splitLine_eq_some_iff.1 cut
    obtain ⟨first, last, first', last', marked⟩ := splits.exists_markedBy
    rcases cannot with without | without | ⟨f, l, f', l', boundary, boundary', before⟩
    · exact absurd marked.subject_boundary.stands.hasBoundary without
    · exact absurd marked.predicate_boundary.stands.hasBoundary without
    · have order := splits.last_le marked
      obtain ⟨-, ends⟩ := marked.subject_boundary.unique delimits_subject boundary
      obtain ⟨starts, -⟩ := marked.predicate_boundary.unique delimits_predicate boundary'
      omega

/-! ## The part at fault -/

/-- A line has no parts if its first boundaries are missing or out of order, and only then the
whole line is at fault. Any other line is cut in its first boundaries, and the first part that
does not read is at fault. -/
theorem parse_blames_segment (b : Literal.Builder) (line : Text) :
    (parse b line = .error (.split line.trim) ↔ CannotSplit line.trim) ∧
      (¬ CannotSplit line.trim → ∃ x : Segments, line.trim = x.line ∧ x.Splits ∧
        (∃ first last first' last', x.MarkedBy first last first' last') ∧
        x.Outcome b (parse b line)) := by
  have cut : ¬ CannotSplit line.trim → ∃ x : Segments, line.trim = x.line ∧ x.Splits := by
    intro can
    rw [← splitLine_eq_none_iff] at can
    obtain ⟨⟨s, p, o⟩, parts⟩ := Option.ne_none_iff_exists'.1 can
    obtain ⟨gap, gap', eq, splits⟩ := splitLine_eq_some_iff.1 parts
    exact ⟨_, eq, splits⟩
  have outcome : ∀ x : Segments, line.trim = x.line → x.Splits → x.Outcome b (parse b line) := by
    intro x eq splits
    rw [parse, eq]
    exact splits.outcome b
  refine ⟨⟨?_, ?_⟩, ?_⟩
  · intro fault
    by_contra can
    obtain ⟨x, eq, splits⟩ := cut can
    have parts := outcome x eq splits
    rw [fault] at parts
    cases parts
  · intro cannot
    rw [parse, ofTrimmed, splitLine_eq_none_iff.2 cannot]
  · intro can
    obtain ⟨x, eq, splits⟩ := cut can
    exact ⟨x, eq, splits, splits.exists_markedBy, outcome x eq splits⟩

/-- The id of the first subject holds the boundary behind a predicate, so the line has no
parts, though all three of them would read. The second line has parts, and the predicate is
at fault with its own text. -/
theorem parse_blames_segment_of_early_boundary :
    parse .unlimited " /u<a] /b> \"p\"@[] /u<c>".toList =
        .error (.split "/u<a] /b> \"p\"@[] /u<c>".toList) ∧
      ∃ x : Segments, x.line = "/u<a> \"p\"@[x] /u<c>".toList ∧ x.Splits ∧
        x.Outcome .unlimited
          (.error (.predicate "\"p\"@[x]".toList (.anchor ['x'] .tooShort))) := by
  have first := parse_blames_segment .unlimited " /u<a] /b> \"p\"@[] /u<c>".toList
  have second := parse_blames_segment .unlimited "/u<a> \"p\"@[x] /u<c>".toList
  have cannot : CannotSplit (Text.trim " /u<a] /b> \"p\"@[] /u<c>".toList) :=
    splitLine_eq_none_iff.1 rfl
  have can : ¬ CannotSplit (Text.trim "/u<a> \"p\"@[x] /u<c>".toList) := by
    rw [← splitLine_eq_none_iff]
    decide
  obtain ⟨x, eq, splits, -, outcome⟩ := second.2 can
  exact ⟨first.1.2 cannot, x, eq.symm, splits, outcome⟩

end Triple
end GraphText
