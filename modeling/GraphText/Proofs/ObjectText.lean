-- Objects in writing. The three forms never stand for the same text: a node starts with
-- a slash, and of the two that start with a quote only a predicate ends with a bracket.
import GraphText.Graph.Object
import GraphText.Proofs.LiteralText
import GraphText.Proofs.NodeText
import GraphText.Proofs.PredicateText

namespace GraphText

namespace Object

/-- The object is the float that is no number. -/
def IsNaN (o : Object) : Prop := o = literal (.float64 .nan)

/-- The anchor of the object, if it has one, has a year that four digits hold. -/
def HasPlainYear : Object → Prop
  | predicate p => p.HasPlainYear
  | _ => True

/-- The builder allows the object, which only a literal needs. -/
def Allowed (b : Literal.Builder) : Object → Prop
  | literal x => b.build x = .ok x
  | _ => True

theorem allowed_unlimited (o : Object) : o.Allowed .unlimited := by
  cases o with
  | literal x => exact Literal.Builder.build_unlimited x
  | _ => trivial

/-! ## The three forms -/

theorem head?_of_node {t : Text} {n : Node} (h : Node.parse t = .ok n) :
    t.trim.head? = some '/' := by
  obtain ⟨w, eq, type, -, -⟩ := Node.parse_eq_ok_iff.1 h
  rw [eq]
  exact type.head?_append _

theorem head?_of_literal {b : Literal.Builder} {t : Text} {x : Literal} (h : b.parse t = .ok x) :
    t.trim.head? = some '"' := by
  obtain ⟨k, v, cut, -, -⟩ := Literal.Builder.exists_of_parse h
  exact Literal.head?_of_split cut

theorem head?_of_predicate {t : Text} {p : Predicate} (h : Predicate.parse t = .ok p) :
    t.trim.head? = some '"' := by
  obtain ⟨w, a, eq, -, -, -⟩ := Predicate.exists_of_parse h
  rw [eq]
  rfl

theorem getLast?_of_predicate {t : Text} {p : Predicate} (h : Predicate.parse t = .ok p) :
    t.trim.getLast? = some ']' := by
  obtain ⟨w, a, eq, -, -, -⟩ := Predicate.exists_of_parse h
  rw [eq, ← List.append_assoc]
  exact Text.getLast?_closed [] '"' _ ']'

theorem node_error_of_quote {t : Text} (h : t.trim.head? = some '"') :
    ∃ f, Node.parse t = .error f := by
  cases read : Node.parse t with
  | error f => exact ⟨f, rfl⟩
  | ok n =>
    rw [head?_of_node read] at h
    exact absurd h (by simp)

theorem literal_error_of_bracket {b : Literal.Builder} {t : Text}
    (h : t.trim.getLast? = some ']') : ∃ f, b.parse t = .error f := by
  cases read : b.parse t with
  | error f => exact ⟨f, rfl⟩
  | ok x =>
    obtain ⟨k, v, cut, -, -⟩ := Literal.Builder.exists_of_parse read
    exact absurd h (Literal.getLast?_of_split cut)

/-- A text that is an object is one of the three forms. -/
theorem cases_of_parse {b : Literal.Builder} {t : Text} {o : Object} (h : parse b t = .ok o) :
    (∃ n, Node.parse t = .ok n ∧ o = node n) ∨ (∃ x, b.parse t = .ok x ∧ o = literal x) ∨
      ∃ p, Predicate.parse t = .ok p ∧ o = predicate p := by
  unfold parse at h
  split at h
  · rename_i n read
    exact .inl ⟨n, read, (Except.ok.inj h).symm⟩
  · split at h
    · rename_i x read
      exact .inr (.inl ⟨x, read, (Except.ok.inj h).symm⟩)
    · cases read : Predicate.parse t with
      | error f => simp [read, Except.map] at h
      | ok p =>
        simp only [read, Except.map, Except.ok.injEq] at h
        exact .inr (.inr ⟨p, rfl, h.symm⟩)

/-- An object starts with a slash or a quote. -/
theorem head?_of_parse {b : Literal.Builder} {t : Text} {o : Object} (h : parse b t = .ok o) :
    ∃ c ∈ ['/', '"'], t.trim.head? = some c := by
  rcases cases_of_parse h with ⟨n, read, -⟩ | ⟨x, read, -⟩ | ⟨p, read, -⟩
  · exact ⟨'/', by simp, head?_of_node read⟩
  · exact ⟨'"', by simp, head?_of_literal read⟩
  · exact ⟨'"', by simp, head?_of_predicate read⟩

theorem valid_of_parse {b : Literal.Builder} {t : Text} {o : Object} (h : parse b t = .ok o) :
    o.Valid := by
  rcases cases_of_parse h with ⟨n, read, rfl⟩ | ⟨x, -, rfl⟩ | ⟨p, read, rfl⟩
  · exact Node.valid_of_parse read
  · trivial
  · exact Predicate.valid_of_parse read

theorem allowed_of_parse {b : Literal.Builder} {t : Text} {o : Object} (h : parse b t = .ok o) :
    o.Allowed b := by
  rcases cases_of_parse h with ⟨n, -, rfl⟩ | ⟨x, read, rfl⟩ | ⟨p, -, rfl⟩
  · trivial
  · exact Literal.Builder.build_of_parse read
  · trivial

/-! ## The text of an object -/

theorem isTrimmed_display {o : Object} (h : o.Valid) : o.display.IsTrimmed := by
  cases o with
  | node n => exact Node.isTrimmed_display h
  | predicate p => exact p.isTrimmed_display
  | literal x => exact x.isTrimmed_display

theorem head?_display {o : Object} (h : o.Valid) :
    ∃ c ∈ ['/', '"'], o.display.head? = some c := by
  cases o with
  | node n =>
    refine ⟨'/', by simp, ?_⟩
    rw [display, Node.display_eq]
    exact h.1.head?_append _
  | predicate p => exact ⟨'"', by simp, rfl⟩
  | literal x => exact ⟨'"', by simp, rfl⟩

theorem parse_predicate_display (b : Literal.Builder) (p : Predicate) :
    parse b p.display = (Predicate.parse p.display).map predicate := by
  have trimmed := Text.trim_of_isTrimmed p.isTrimmed_display
  obtain ⟨f, noNode⟩ : ∃ f, Node.parse p.display = .error f :=
    node_error_of_quote (by rw [trimmed]; rfl)
  obtain ⟨g, noLiteral⟩ : ∃ g, b.parse p.display = .error g :=
    literal_error_of_bracket (by rw [trimmed, p.getLast?_display])
  rw [parse, noNode, noLiteral]

theorem parse_literal_display {b : Literal.Builder} {x : Literal} (h : x ≠ .float64 .nan)
    (allowed : b.build x = .ok x) : parse b x.display = .ok (literal x) := by
  obtain ⟨f, noNode⟩ : ∃ f, Node.parse x.display = .error f :=
    node_error_of_quote (by rw [Text.trim_of_isTrimmed x.isTrimmed_display]; rfl)
  rw [parse, noNode, Literal.Builder.parse_display b h, allowed]

/-- A valid object reads back if the builder allows it, if it is not the float that is no
number, and if four digits hold the year of its anchor. -/
theorem parse_display {b : Literal.Builder} {o : Object} (valid : o.Valid)
    (allowed : o.Allowed b) (plain : o.HasPlainYear) (number : ¬ o.IsNaN) :
    parse b o.display = .ok o := by
  cases o with
  | node n => rw [display, parse, Node.parse_display valid]
  | predicate p =>
    rw [display, parse_predicate_display, Predicate.parse_display valid plain]
    rfl
  | literal x =>
    have nan : x ≠ .float64 .nan := fun nan => number (by rw [IsNaN, nan])
    exact parse_literal_display nan allowed

/-- With any other year of its anchor the text is at fault. -/
theorem parse_display_of_not_hasPlainYear {b : Literal.Builder} {o : Object}
    (h : ¬ o.HasPlainYear) : ∃ f, parse b o.display = .error f := by
  cases o with
  | node n => exact absurd trivial h
  | literal x => exact absurd trivial h
  | predicate p =>
    obtain ⟨f, read⟩ := Predicate.parse_display_of_not_hasPlainYear h
    refine ⟨f, ?_⟩
    rw [display, parse_predicate_display, read]
    rfl

/-! ## Equality -/

theorem float_beq_self_iff {x : Float64} : (x == x) = true ↔ x ≠ .nan := by
  change Float64.equal x x = true ↔ _
  cases x with
  | nan => simp [Float64.equal]
  | infinite s => simp [Float64.equal]
  | finite s m => simp [Float64.equal]

theorem literal_beq_self_iff {x : Literal} : (x == x) = true ↔ x ≠ .float64 .nan := by
  change Literal.equal x x = true ↔ _
  cases x with
  | float64 x => simp [Literal.equal, float_beq_self_iff]
  | _ => simp [Literal.equal]

/-- An object equals itself, unless it is the float that is no number. -/
theorem beq_self_iff {o : Object} : (o == o) = true ↔ ¬ o.IsNaN := by
  change Object.equal o o = true ↔ _
  cases o with
  | literal x => simp [equal, IsNaN, literal_beq_self_iff]
  | _ => simp [equal, IsNaN]

/-- The float that is no number equals no object. -/
theorem beq_eq_false_of_isNaN {o : Object} (h : o.IsNaN) (o' : Object) : (o' == o) = false := by
  change Object.equal o' o = false
  rw [h]
  cases o' with
  | literal x =>
    change Literal.equal x _ = false
    cases x with
    | float64 x =>
      change Float64.equal x _ = false
      cases x <;> rfl
    | _ => rfl
  | _ => rfl

end Object
end GraphText
