-- Limits on the size of literals. They count what a literal holds and not how it is written,
-- so a written literal is allowed if the literal is. A limit puts nothing in the place of a
-- literal that is too large: a line keeps its triple or its fault under any limits, or else its
-- object is at fault, because no other form takes a literal.
import GraphText.Proofs.LineGrammar

namespace GraphText

/-- The limits allow no text and no blob that the others do not allow. -/
def Literal.Limits.Within (m n : Limits) : Prop := m.text ≤ n.text ∧ m.blob ≤ n.blob

/-- A text or a run of bytes is larger than the limits allow. -/
def Literal.Exceeds (m : Limits) : Literal → Prop
  | text t => m.text < Text.byteLength t
  | blob b => m.blob < b.length
  | _ => False

/-- The object is a literal that is larger than the limits allow. -/
def Object.Exceeds (m : Literal.Limits) : Object → Prop
  | literal x => x.Exceeds m
  | _ => False

namespace Literal

/-! ## Literals -/

theorem Exceeds.of_within {m n : Limits} {x : Literal} (h : x.Exceeds n)
    (wider : m.Within n) : x.Exceeds m := by
  cases x with
  | text t => exact Nat.lt_of_le_of_lt wider.1 h
  | blob b => exact Nat.lt_of_le_of_lt wider.2 h
  | _ => exact h

namespace Builder

theorem build_of_not_exceeds {m : Limits} {x : Literal} (h : ¬ x.Exceeds m) :
    (bounded m).build x = .ok x := by
  cases x with
  | text t => exact if_neg h
  | blob b => exact if_neg h
  | _ => rfl

theorem build_of_exceeds {m : Limits} {x : Literal} (h : x.Exceeds m) :
    ∃ f, (bounded m).build x = .error f := by
  cases x with
  | text t => exact ⟨_, if_pos h⟩
  | blob b => exact ⟨_, if_pos h⟩
  | _ => exact h.elim

/-- A builder reads the literal that stands there and then decides on it. -/
theorem parse_eq_bind (b : Builder) (t : Text) :
    b.parse t = (unlimited.parse t).bind b.build := by
  unfold parse
  cases split t.trim with
  | error f => rfl
  | ok kv =>
    cases value : decode kv.1 kv.2 with
    | error f => simp [bind, Except.bind, value]
    | ok x => simp [bind, Except.bind, value, build_unlimited]

/-- Reading the text of a literal gives what building the literal gives, whatever the text
holds: the literal again if no limit stands against it, and otherwise the limit and the size
without the escapes and the digits that writing needs. -/
theorem parse_display_as_built (b : Builder) (x : Literal) (number : x ≠ .float64 .nan) :
    b.parse x.display = b.build x ∧
      ((∀ m, b = bounded m → ¬ x.Exceeds m) → b.parse x.display = .ok x ∧ (x == x) = true) ∧
      (∀ m t, b = bounded m → x = .text t → m.text < Text.byteLength t →
        b.parse x.display = .error (.tooLong .text (Text.byteLength t) m.text)) ∧
      ∀ m bytes, b = bounded m → x = .blob bytes → m.blob < bytes.length →
        b.parse x.display = .error (.tooLong .blob bytes.length m.blob) := by
  rw [parse_display b number]
  refine ⟨rfl, ?_, ?_, ?_⟩
  · intro small
    refine ⟨?_, Object.literal_beq_self_iff.2 number⟩
    cases b with
    | unlimited => exact build_unlimited x
    | bounded m => exact build_of_not_exceeds (small m rfl)
  · rintro m t rfl rfl large
    exact if_pos large
  · rintro m bytes rfl rfl large
    exact if_pos large

/-- The text is a letter of two bytes, a marker with the name of a type, and a backslash. -/
theorem parse_display_as_built_of_marker_in_text :
    (bounded ⟨13, 99⟩).parse (display (.text "\u00e9\"^^type:blob\\".toList)) =
      .error (.tooLong .text 15 13) := by
  obtain ⟨-, -, text, -⟩ := parse_display_as_built (bounded ⟨13, 99⟩)
    (.text "\u00e9\"^^type:blob\\".toList) (by simp)
  exact text ⟨13, 99⟩ _ rfl rfl (by decide)

end Builder
end Literal

/-- A text that opens with a quote and does not end with a bracket fails as a predicate for
its marker or for its end. -/
theorem Predicate.parse_of_not_closed {t : Text} (opened : t.trim.head? = some '"')
    (unclosed : t.trim.getLast? ≠ some ']') :
    parse t = .error (.noAnchor t.trim) ∨ parse t = .error (.noAnchorEnd t.trim) := by
  unfold parse ofTrimmed
  rw [if_neg (not_not_intro opened)]
  split
  · exact .inl rfl
  · exact .inl rfl
  · rw [if_pos unclosed]
    exact .inr rfl

namespace Object

/-! ## Objects -/

variable {b : Literal.Builder} {t : Text} {o : Object} {x : Literal} {f : Predicate.Fault}

/-- What is no object without limits is none under any, and for the same reason. -/
theorem parse_of_unlimited_error (h : parse .unlimited t = .error f) : parse b t = .error f := by
  unfold parse at h ⊢
  cases node : Node.parse t with
  | ok n => simp [node] at h
  | error e =>
    cases literal : Literal.Builder.unlimited.parse t with
    | ok x => simp [node, literal] at h
    | error e' =>
      have same : b.parse t = .error e' := by
        rw [Literal.Builder.parse_eq_bind, literal]
        rfl
      simp only [node, literal] at h
      simp only [same, h]

/-- An object that the builder allows is the object without limits. -/
theorem parse_of_allowed (h : parse .unlimited t = .ok o) (allowed : o.Allowed b) :
    parse b t = .ok o := by
  unfold parse at h ⊢
  cases node : Node.parse t with
  | ok n =>
    simp only [node] at h
    exact h
  | error e =>
    rw [Literal.Builder.parse_eq_bind]
    cases literal : Literal.Builder.unlimited.parse t with
    | ok x =>
      simp only [node, literal, Except.ok.injEq] at h
      subst h
      have built : b.build x = .ok x := allowed
      simp only [Except.bind, built]
    | error e' =>
      simp only [node, literal] at h
      exact h

/-- A literal that the builder does not allow opens with a quote and does not end with a
bracket, so the text is at fault as a predicate. -/
theorem parse_of_build_error {e : Literal.Fault} (h : parse .unlimited t = .ok (literal x))
    (refused : b.build x = .error e) :
    parse b t = .error (.noAnchor t.trim) ∨ parse b t = .error (.noAnchorEnd t.trim) := by
  rcases cases_of_parse h with ⟨n, -, same⟩ | ⟨y, read, same⟩ | ⟨p, -, same⟩
  · cases same
  · cases same
    obtain ⟨k, v, cut, -, -⟩ := Literal.Builder.exists_of_parse read
    have opened := Literal.head?_of_split cut
    obtain ⟨e', noNode⟩ := node_error_of_quote opened
    have noLiteral : b.parse t = .error e := by
      rw [Literal.Builder.parse_eq_bind, read]
      exact refused
    have fault := Predicate.parse_of_not_closed opened (Literal.getLast?_of_split cut)
    unfold parse
    rw [noNode, noLiteral]
    rcases fault with marker | ending
    · rw [marker]
      exact .inl rfl
    · rw [ending]
      exact .inr rfl
  · cases same

theorem allowed_or_refused (b : Literal.Builder) (o : Object) :
    o.Allowed b ∨ ∃ x e, o = literal x ∧ b.build x = .error e := by
  cases o with
  | literal x =>
    cases built : b.build x with
    | ok y =>
      obtain rfl := Literal.Builder.eq_of_build built
      exact .inl built
    | error e => exact .inr ⟨x, e, rfl, built⟩
  | _ => exact .inl trivial

theorem allowed_of_not_exceeds {m : Literal.Limits} (h : ¬ o.Exceeds m) :
    o.Allowed (.bounded m) := by
  cases o with
  | literal x => exact Literal.Builder.build_of_not_exceeds h
  | _ => trivial

theorem refused_of_exceeds {m : Literal.Limits} (h : o.Exceeds m) :
    ∃ x e, o = literal x ∧ (Literal.Builder.bounded m).build x = .error e := by
  cases o with
  | literal x =>
    obtain ⟨e, refused⟩ := Literal.Builder.build_of_exceeds h
    exact ⟨x, e, rfl, refused⟩
  | _ => exact h.elim

theorem not_exceeds_of_allowed {m : Literal.Limits} (h : o.Allowed (.bounded m)) :
    ¬ o.Exceeds m := by
  intro large
  obtain ⟨x, e, rfl, refused⟩ := refused_of_exceeds large
  have built : (Literal.Builder.bounded m).build x = .ok x := h
  rw [refused] at built
  cases built

theorem Exceeds.of_within {m n : Literal.Limits} (h : o.Exceeds n) (wider : m.Within n) :
    o.Exceeds m := by
  cases o with
  | literal x => exact Literal.Exceeds.of_within h wider
  | _ => exact h

end Object

namespace Triple

/-! ## Lines -/

variable {b : Literal.Builder} {line : Text} {t : Triple}

/-- A line is at fault in front of its object under every builder, or its object alone
decides. -/
theorem cases_of_line (line : Text) : (∃ f, ∀ b, parse b line = .error f) ∨
    ∃ s p o n q, splitLine line.trim = some (s, p, o) ∧ o.trim = o ∧
      ∀ b, parse b line = (part (.object o) (Object.parse b o)).map (Triple.mk n q) := by
  cases cut : splitLine line.trim with
  | none =>
    refine .inl ⟨.split line.trim, ?_⟩
    intro b
    rw [parse, ofTrimmed, cut]
  | some parts =>
    obtain ⟨s, p, o⟩ := parts
    obtain ⟨first, second, eq, splits⟩ := exists_of_splitLine cut
    have trimmed : o.IsTrimmed := by
      have whole := Text.isTrimmed_trim line
      rw [eq] at whole
      exact (splits.isTrimmed_line_iff.1 whole).2.2
    cases subject : Node.parse s with
    | error e =>
      refine .inl ⟨.subject s e, ?_⟩
      intro b
      rw [parse, eq, ofTrimmed_line splits, subject]
      rfl
    | ok n =>
      cases predicate : Predicate.parse p with
      | error e =>
        refine .inl ⟨.predicate p e, ?_⟩
        intro b
        rw [parse, eq, ofTrimmed_line splits, subject, predicate]
        rfl
      | ok q =>
        refine .inr ⟨s, p, o, n, q, rfl, Text.trim_of_isTrimmed trimmed, ?_⟩
        intro b
        rw [parse, eq, ofTrimmed_line splits, subject, predicate]
        cases object : Object.parse b o with
        | error e => rfl
        | ok z => rfl

/-- A line at fault without limits has the same fault under any. -/
theorem parse_of_unlimited_error {f : Fault} (h : parse .unlimited line = .error f) :
    parse b line = .error f := by
  rcases cases_of_line line with ⟨g, fault⟩ | ⟨s, p, o, n, q, -, -, object⟩
  · rw [fault] at h ⊢
    exact h
  · rw [object] at h ⊢
    cases read : Object.parse .unlimited o with
    | error e =>
      rw [read] at h
      rw [Object.parse_of_unlimited_error read]
      exact h
    | ok z =>
      rw [read] at h
      cases h

/-- A triple whose object the builder allows is the triple without limits. -/
theorem parse_of_allowed (h : parse .unlimited line = .ok t) (allowed : t.object.Allowed b) :
    parse b line = .ok t := by
  rcases cases_of_line line with ⟨g, fault⟩ | ⟨s, p, o, n, q, -, -, object⟩
  · rw [fault] at h
    cases h
  · rw [object] at h ⊢
    cases read : Object.parse .unlimited o with
    | error e =>
      rw [read] at h
      cases h
    | ok z =>
      rw [read] at h
      cases h
      rw [Object.parse_of_allowed read allowed]
      rfl

/-- A triple whose literal the builder does not allow leaves its object at fault. -/
theorem parse_of_refused {x : Literal} {e : Literal.Fault} (h : parse .unlimited line = .ok t)
    (object : t.object = .literal x) (refused : b.build x = .error e) :
    ∃ s p o, splitLine line.trim = some (s, p, o) ∧
      (parse b line = .error (.object o (.noAnchor o)) ∨
        parse b line = .error (.object o (.noAnchorEnd o))) := by
  rcases cases_of_line line with ⟨g, fault⟩ | ⟨s, p, o, n, q, cut, trimmed, decides⟩
  · rw [fault] at h
    cases h
  · refine ⟨s, p, o, cut, ?_⟩
    rw [decides] at h ⊢
    cases read : Object.parse .unlimited o with
    | error e' =>
      rw [read] at h
      cases h
    | ok z =>
      rw [read] at h
      cases h
      obtain rfl : z = .literal x := object
      have fault := Object.parse_of_build_error read refused
      rw [trimmed] at fault
      rcases fault with marker | ending
      · rw [marker]
        exact .inl rfl
      · rw [ending]
        exact .inr rfl

/-- A triple that a builder gives is the triple without limits, and the builder allows its
object. -/
theorem unlimited_of_parse (h : parse b line = .ok t) :
    parse .unlimited line = .ok t ∧ t.object.Allowed b := by
  cases read : parse .unlimited line with
  | error f =>
    rw [parse_of_unlimited_error read] at h
    cases h
  | ok u =>
    rcases Object.allowed_or_refused b u.object with allowed | ⟨x, e, object, refused⟩
    · rw [parse_of_allowed read allowed] at h
      cases h
      exact ⟨rfl, allowed⟩
    · obtain ⟨s, p, o, -, marker | ending⟩ := parse_of_refused read object refused
      · rw [marker] at h
        cases h
      · rw [ending] at h
        cases h

/-- Under limits a line keeps the fault that it has without them, and it keeps its triple if
no literal exceeds them. If one does, the object is at fault, as a predicate without a marker
or without an end. So wider limits keep every triple, and no two builders read two different
triples. -/
theorem parse_bounded (line : Text) (m : Literal.Limits) :
    (∀ f, parse .unlimited line = .error f → parse (.bounded m) line = .error f) ∧
      (∀ t, parse .unlimited line = .ok t → ¬ t.object.Exceeds m →
        parse (.bounded m) line = .ok t) ∧
      (∀ t, parse .unlimited line = .ok t → t.object.Exceeds m →
        ∃ s p o, splitLine line.trim = some (s, p, o) ∧
          (parse (.bounded m) line = .error (.object o (.noAnchor o)) ∨
            parse (.bounded m) line = .error (.object o (.noAnchorEnd o)))) ∧
      (∀ n t, m.Within n → parse (.bounded m) line = .ok t →
        parse (.bounded n) line = .ok t ∧ parse .unlimited line = .ok t) ∧
      ∀ b c t u, parse b line = .ok t → parse c line = .ok u → t = u := by
  refine ⟨?_, ?_, ?_, ?_, ?_⟩
  · intro f fault
    exact parse_of_unlimited_error fault
  · intro t read small
    exact parse_of_allowed read (Object.allowed_of_not_exceeds small)
  · intro t read large
    obtain ⟨x, e, object, refused⟩ := Object.refused_of_exceeds large
    exact parse_of_refused read object refused
  · intro n t wider read
    obtain ⟨whole, allowed⟩ := unlimited_of_parse read
    refine ⟨parse_of_allowed whole ?_, whole⟩
    apply Object.allowed_of_not_exceeds
    intro large
    exact Object.not_exceeds_of_allowed allowed (large.of_within wider)
  · intro b c t u readT readU
    have both := (unlimited_of_parse readT).1
    rw [(unlimited_of_parse readU).1] at both
    exact (Except.ok.inj both).symm

/-- The text holds what looks like an anchor, and with its two characters too many it still
does not become a predicate. -/
theorem parse_bounded_of_anchor_in_text : ∃ t o,
    parse .unlimited "/u<a> \"p\"@[] \"x\\\"@[]\"^^type:text".toList = .ok t ∧
      t.object.Exceeds ⟨3, 0⟩ ∧
      (parse (.bounded ⟨3, 0⟩) "/u<a> \"p\"@[] \"x\\\"@[]\"^^type:text".toList =
          .error (.object o (.noAnchor o)) ∨
        parse (.bounded ⟨3, 0⟩) "/u<a> \"p\"@[] \"x\\\"@[]\"^^type:text".toList =
          .error (.object o (.noAnchorEnd o))) := by
  have large : Object.Exceeds ⟨3, 0⟩ (.literal (.text "x\"@[]".toList)) := by
    change 3 < Text.byteLength "x\"@[]".toList
    decide
  obtain ⟨-, -, exceeding, -⟩ :=
    parse_bounded "/u<a> \"p\"@[] \"x\\\"@[]\"^^type:text".toList ⟨3, 0⟩
  obtain ⟨s, p, o, -, fault⟩ := exceeding
    ⟨⟨['/', 'u'], ['a']⟩, ⟨['p'], none⟩, .literal (.text "x\"@[]".toList)⟩ rfl large
  exact ⟨_, o, rfl, large, fault⟩

end Triple
end GraphText
