-- Reified statements in writing. The statements about a statement have a subject and a
-- predicate of their own, and its ids stand in their objects, where they end no predicate.
-- So they come back from their text also where the statement itself does not.
import GraphText.Graph.Reify
import GraphText.Proofs.MadeTriples

namespace GraphText

/-! ## Random ids -/

namespace Uuid

theorem mem_group {width n : Nat} {c : Char} (h : c ∈ group width n) :
    ∃ d < 16, c = hexDigit d := by
  induction width generalizing n with
  | zero => cases h
  | succ w ih =>
    unfold group at h
    rcases List.mem_append.1 h with front | last
    · exact ih front
    · exact ⟨n % 16, Nat.mod_lt _ (by decide), List.mem_singleton.1 last⟩

/-- Hexadecimal digits and dashes make up a random id. -/
theorem mem_ofRandom {n : Nat} {c : Char} (h : c ∈ ofRandom n) :
    c = '-' ∨ ∃ d < 16, c = hexDigit d := by
  unfold ofRandom at h
  simp only [List.mem_append, List.mem_cons, List.not_mem_nil, or_false] at h
  rcases h with ((((((((h | h) | h) | h) | (h | h)) | h) | h) | h) | h)
  all_goals first | exact .inl h | exact .inr (mem_group h) | exact .inr ⟨4, by decide, h⟩

theorem not_mem_ofRandom {c : Char} (dash : c ≠ '-') (digit : ∀ d < 16, c ≠ hexDigit d)
    (n : Nat) : c ∉ ofRandom n := by
  intro h
  rcases mem_ofRandom h with same | ⟨d, small, same⟩
  · exact dash same
  · exact digit d small same

theorem isId_ofRandom (n : Nat) : Node.IsId (ofRandom n) := by
  refine ⟨?_, ?_⟩
  · simp [ofRandom]
  · apply not_mem_ofRandom
    · decide
    · decide

end Uuid

theorem Node.valid_blank {id : Text} (h : IsId id) : (blank id).Valid := by
  have named : blankType ≠ ['/'] := by decide
  refine ⟨⟨rfl, named, ?_⟩, h⟩
  · intro c mem
    change c ∈ ['/', '_'] at mem
    rcases List.mem_cons.1 mem with rfl | mem
    · decide
    · rw [List.mem_singleton.1 mem]
      decide

namespace Triple

variable {t : Triple} {blank : Node}

/-- The triple comes back from its own text. -/
def ComesBack (t : Triple) : Prop :=
  ∃ u, parse .unlimited t.display = .ok u ∧ (u == t) = true

/-! ## Statements about a statement -/

theorem valid_component (h : t.Valid) (c : Component) : (t.component c).Valid := by
  cases c with
  | subject => exact h.1
  | predicate => exact h.2.1
  | object => exact h.2.2

theorem valid_naming (h : t.Valid) (hb : blank.Valid) (c : Component) :
    (t.naming blank c).Valid := by
  have named : c.reified ≠ [] := by cases c <;> decide
  exact ⟨hb, named, valid_component h c⟩

/-- Neither a blank node nor the name of a part holds a bracket that could end a predicate. -/
theorem isClear_naming (h : ']' ∉ blank.id) (t : Triple) (c : Component) :
    (t.naming blank c).IsClear := by
  have named : ']' ∉ c.reified := by cases c <;> decide
  refine ⟨?_, ?_, ?_⟩
  · exact not_hasBoundary_of_not_mem h
  · exact not_hasBoundary_of_not_mem named
  · exact not_endsOpen_of_not_mem named

/-- Only the part that is named can keep its statement from coming back. -/
theorem comesBack_naming_iff (h : t.Valid) (hb : blank.Valid) (bracket : ']' ∉ blank.id)
    (c : Component) : (t.naming blank c).ComesBack ↔
      ¬ (t.component c).IsNaN ∧ (t.component c).HasPlainYear := by
  have anyTime : (t.naming blank c).predicate.HasPlainYear := by
    intro i mem
    cases mem
  unfold ComesBack
  rw [exists_parse_display_iff (valid_naming h hb c) (isClear_naming bracket t c)
    (Object.allowed_unlimited _)]
  exact and_congr_right' (and_iff_right anyTime)

/-- Of the three statements about a statement at an instant, the one that names the subject
comes back from its text, the one that names the predicate does if and only if four digits
hold the year of the instant, and the one that names the object does if and only if the
object is not the float that is no number and four digits hold its year. -/
theorem reify_comesBack (t : Triple) (made : t.IsMade) (temporal : t.predicate.kind = .temporal)
    (random : Nat) : ∃ names namesPredicate namesObject,
      t.reify (.blank (Uuid.ofRandom random)) =
          .ok [t, names, namesPredicate, namesObject] ∧
        names.ComesBack ∧
        (namesPredicate.ComesBack ↔ t.predicate.HasPlainYear) ∧
        (namesObject.ComesBack ↔ ¬ t.object.IsNaN ∧ t.object.HasPlainYear) := by
  have valid := isMade_iff.1 made
  have bracket : ']' ∉ Uuid.ofRandom random := by
    apply Uuid.not_mem_ofRandom
    · decide
    · decide
  let b := Node.blank (Uuid.ofRandom random)
  have comesBack : ∀ c, (t.naming b c).ComesBack ↔
      ¬ (t.component c).IsNaN ∧ (t.component c).HasPlainYear :=
    comesBack_naming_iff valid (Node.valid_blank (Uuid.isId_ofRandom random)) bracket
  refine ⟨t.naming b .subject, t.naming b .predicate, t.naming b .object, ?_, ?_, ?_,
    comesBack .object⟩
  · unfold reify
    cases anchor : t.predicate.anchor with
    | none =>
      unfold Predicate.kind at temporal
      rw [anchor] at temporal
      cases temporal
    | some i => rfl
  · rw [comesBack]
    refine ⟨?_, trivial⟩
    intro nan
    cases nan
  · rw [comesBack]
    refine and_iff_right ?_
    intro nan
    cases nan

/-- Both ids hold what looks like the end of a predicate, so the statement is split at the
wrong place, but the three about it are not. -/
theorem reify_comesBack_of_brackets : ∃ t names namesPredicate namesObject : Triple,
    t.display =
        "/u<a] /b>\t\"p\\\"@[x] /q\"@[1970-01-01T00:00:00Z]\t\"] /c\"^^type:text".toList ∧
      ¬ t.ComesBack ∧
      t.reify (.blank (Uuid.ofRandom 0)) = .ok [t, names, namesPredicate, namesObject] ∧
      names.ComesBack ∧ namesPredicate.ComesBack ∧ namesObject.ComesBack := by
  let t : Triple := ⟨⟨['/', 'u'], "a] /b".toList⟩,
    ⟨"p\"@[x] /q".toList, some ⟨0, 0, by decide⟩⟩, .literal (.text "] /c".toList)⟩
  have made : t.IsMade :=
    ⟨⟨['/', 'u'], "a] /b".toList, rfl⟩, ⟨"p\"@[x] /q".toList, some ⟨0, 0, by decide⟩, rfl⟩,
      .unlimited, .text "] /c".toList, rfl⟩
  have early : parse .unlimited t.display = .error (.split t.display) := by
    have boundary : HasBoundary ']' ['/', '"'] t.subject.id :=
      ⟨['a'], [' ', '/', 'b'], rfl, [' '], '/', ['b'], rfl, by decide, by simp⟩
    rw [parse, Text.trim_of_isTrimmed (isTrimmed_display (isMade_iff.1 made)), ofTrimmed,
      splitLine_display_eq_none (isMade_iff.1 made) boundary]
  obtain ⟨r, s, u, reified, names, namesPredicate, namesObject⟩ := reify_comesBack t made rfl 0
  refine ⟨t, r, s, u, ?_, ?_, reified, names, namesPredicate.2 ?_, namesObject.2 ⟨?_, trivial⟩⟩
  · decide
  · rintro ⟨v, read, -⟩
    rw [early] at read
    cases read
  · intro i mem
    cases mem
    decide
  · intro nan
    cases nan

end Triple
end GraphText
