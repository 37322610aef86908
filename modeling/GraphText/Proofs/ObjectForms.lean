-- The forms of objects side by side. A text has at most one of them, so it does not matter
-- which is tried first, and the text of an object has the form of the object.
import GraphText.Proofs.MadeTriples

namespace GraphText
namespace Object

/-- The object that the text names in one form alone. -/
def readAs? (b : Literal.Builder) (t : Text) : ObjectType → Option Object
  | .node => (Node.parse t).toOption.map node
  | .predicate => (Predicate.parse t).toOption.map predicate
  | .literal => (b.parse t).toOption.map literal

variable {b : Literal.Builder} {t : Text} {o o' : Object} {j k : ObjectType}

/-! ## One form at most -/

theorem toOption_map_eq_some_iff {ε α : Type} {x : Except ε α} {f : α → Object} :
    x.toOption.map f = some o ↔ ∃ a, x = .ok a ∧ o = f a := by
  cases x with
  | error e => simp [Except.toOption]
  | ok a => simp [Except.toOption, eq_comm]

/-- The form is the one of the object that is read. -/
theorem type_of_readAs? (h : readAs? b t k = some o) : o.type = k := by
  cases k with
  | node =>
    obtain ⟨n, -, rfl⟩ := toOption_map_eq_some_iff.1 h
    rfl
  | predicate =>
    obtain ⟨p, -, rfl⟩ := toOption_map_eq_some_iff.1 h
    rfl
  | literal =>
    obtain ⟨x, -, rfl⟩ := toOption_map_eq_some_iff.1 h
    rfl

/-- What a text reads as is what it reads as in the form of the object. The forms that are
tried before that one fail, because they start or end with another character. -/
theorem readAs?_type_iff : readAs? b t o.type = some o ↔ parse b t = .ok o := by
  refine ⟨?_, ?_⟩
  · intro h
    cases o with
    | node n =>
      obtain ⟨m, read, same⟩ := toOption_map_eq_some_iff.1 h
      rw [parse, read, same]
    | literal x =>
      obtain ⟨y, read, same⟩ := toOption_map_eq_some_iff.1 h
      obtain ⟨f, noNode⟩ := node_error_of_quote (head?_of_literal read)
      rw [parse, noNode, read, same]
    | predicate p =>
      obtain ⟨q, read, same⟩ := toOption_map_eq_some_iff.1 h
      obtain ⟨f, noNode⟩ := node_error_of_quote (head?_of_predicate read)
      obtain ⟨g, noLiteral⟩ := literal_error_of_bracket (b := b) (getLast?_of_predicate read)
      rw [parse, noNode, noLiteral, read, same]
      rfl
  · intro h
    rcases cases_of_parse h with ⟨n, read, rfl⟩ | ⟨x, read, rfl⟩ | ⟨p, read, rfl⟩
    · exact toOption_map_eq_some_iff.2 ⟨n, read, rfl⟩
    · exact toOption_map_eq_some_iff.2 ⟨x, read, rfl⟩
    · exact toOption_map_eq_some_iff.2 ⟨p, read, rfl⟩

theorem readAs?_eq_some_iff : readAs? b t k = some o ↔ parse b t = .ok o ∧ o.type = k := by
  refine ⟨?_, ?_⟩
  · intro h
    have type := type_of_readAs? h
    rw [← type] at h
    exact ⟨readAs?_type_iff.1 h, type⟩
  · rintro ⟨read, rfl⟩
    exact readAs?_type_iff.2 read

/-- A text that has a form has no other. -/
theorem readAs?_unique (h : readAs? b t j = some o) (h' : readAs? b t k = some o') : j = k := by
  obtain ⟨read, rfl⟩ := readAs?_eq_some_iff.1 h
  obtain ⟨read', rfl⟩ := readAs?_eq_some_iff.1 h'
  rw [read] at read'
  rw [Except.ok.inj read']

/-- A text that is no object has none of the forms. -/
theorem readAs?_eq_none {f : Predicate.Fault} (h : parse b t = .error f) (k : ObjectType) :
    readAs? b t k = none := by
  refine Option.eq_none_iff_forall_ne_some.2 fun o read => ?_
  rw [(readAs?_eq_some_iff.1 read).1] at h
  cases h

/-! ## The forms one after the other -/

/-- The forms may be tried in any order, and one of them more than once. -/
theorem findSome?_readAs? {forms : List ObjectType} (all : ∀ k, k ∈ forms) :
    forms.findSome? (readAs? b t) = (parse b t).toOption := by
  cases read : parse b t with
  | ok o =>
    cases found : forms.findSome? (readAs? b t) with
    | none =>
      have fails := List.findSome?_eq_none_iff.1 found o.type (all _)
      rw [readAs?_type_iff.2 read] at fails
      cases fails
    | some o' =>
      obtain ⟨k, -, read'⟩ := List.exists_of_findSome?_eq_some found
      have same := (readAs?_eq_some_iff.1 read').1
      rw [read] at same
      rw [Except.ok.inj same]
      rfl
  | error f => exact List.findSome?_eq_none_iff.2 fun k _ => readAs?_eq_none read k

theorem predicate_error_of_parse {f : Predicate.Fault} (h : parse b t = .error f) :
    Predicate.parse t = .error f := by
  unfold parse at h
  split at h
  · cases h
  · split at h
    · cases h
    · cases read : Predicate.parse t with
      | ok p => simp [read, Except.map] at h
      | error g =>
        simp only [read, Except.map, Except.error.injEq] at h
        rw [h]

/-- A text that has none of the forms has the fault that it has as a predicate. -/
theorem parse_eq_error_iff {f : Predicate.Fault} : parse b t = .error f ↔
    (∀ k, readAs? b t k = none) ∧ Predicate.parse t = .error f := by
  refine ⟨?_, ?_⟩
  · intro h
    exact ⟨readAs?_eq_none h, predicate_error_of_parse h⟩
  · rintro ⟨formless, fault⟩
    cases read : parse b t with
    | ok o =>
      have found := readAs?_type_iff.2 read
      rw [formless] at found
      cases found
    | error g =>
      rw [predicate_error_of_parse read] at fault
      rw [Except.error.inj fault]

/-! ## The text of an object -/

/-- Equal objects have the same form. -/
theorem type_eq_of_beq (h : (o' == o) = true) : o'.type = o.type := by
  change equal o' o = true at h
  cases o' <;> cases o <;> first | rfl | cases h

/-- The objects that equal themselves and whose anchor has a plain year read back, and no
others do. -/
theorem parse_display_beq_iff (valid : o.Valid) (allowed : o.Allowed b) :
    (∃ o', parse b o.display = .ok o' ∧ (o' == o) = true) ↔ ¬ o.IsNaN ∧ o.HasPlainYear := by
  refine ⟨?_, ?_⟩
  · rintro ⟨o', read, same⟩
    refine ⟨?_, ?_⟩
    · intro nan
      rw [beq_eq_false_of_isNaN nan] at same
      cases same
    · by_contra far
      obtain ⟨f, fault⟩ := parse_display_of_not_hasPlainYear (b := b) far
      rw [read] at fault
      cases fault
  · rintro ⟨number, plain⟩
    exact ⟨o, parse_display valid allowed plain number, beq_self_iff.2 number⟩

theorem hasPlainYear_iff : o.HasPlainYear ↔
    ∀ p i, o = predicate p → p.anchor = some i → 0 ≤ i.year ∧ i.year ≤ 9999 := by
  cases o with
  | predicate p =>
    refine ⟨?_, ?_⟩
    · rintro plain q i same anchor
      cases same
      exact plain i anchor
    · intro plain i anchor
      exact plain p i rfl anchor
  | node n => exact iff_of_true trivial fun p i other => nomatch other
  | literal x => exact iff_of_true trivial fun p i other => nomatch other

/-- No text has two of the forms, so an object is found whichever order they are tried in, and
if there is none, the fault is that of a predicate. An object that was made and that the
builder allows reads back as an equal object of its own form, unless it is the float that is
no number or four digits do not hold the year of its anchor. -/
theorem parse_inAnyOrder (b : Literal.Builder) :
    (∀ t j k o o', readAs? b t j = some o → readAs? b t k = some o' → j = k) ∧
    (∀ t (forms : List ObjectType), (∀ k, k ∈ forms) →
      forms.findSome? (readAs? b t) = (parse b t).toOption) ∧
    (∀ t f, parse b t = .error f ↔
      (∀ k, readAs? b t k = none) ∧ Predicate.parse t = .error f) ∧
    ∀ o : Object, o.IsMade → o.Allowed b →
      ((∃ o', parse b o.display = .ok o' ∧ (o' == o) = true) ↔
        ¬ o.IsNaN ∧
          ∀ p i, o = predicate p → p.anchor = some i → 0 ≤ i.year ∧ i.year ≤ 9999) ∧
      ∀ o', (o' == o) = true → o'.type = o.type := by
  refine ⟨?_, ?_, ?_, ?_⟩
  · intro t j k o o' h h'
    exact readAs?_unique h h'
  · intro t forms all
    exact findSome?_readAs? all
  · intro t f
    exact parse_eq_error_iff
  · intro o made allowed
    refine ⟨?_, fun o' => type_eq_of_beq⟩
    rw [← hasPlainYear_iff]
    exact parse_display_beq_iff (isMade_iff.1 made) allowed

/-- The first text looks like a node, then like a predicate and then like a truth value, and
still it is a text. The id of the second object ends like a text does. -/
theorem parse_inAnyOrder_of_lookalikes :
    (∃ o, [ObjectType.predicate, .node, .literal].findSome? (readAs? (.bounded ⟨21, 0⟩)
        (literal (.text "/t<a>\"@[]\"^^type:bool".toList)).display) = some o ∧
      (o == literal (.text "/t<a>\"@[]\"^^type:bool".toList)) = true) ∧
    ∃ o, [ObjectType.literal, .predicate, .node].findSome? (readAs? (.bounded ⟨21, 0⟩)
        (predicate ⟨"a\"^^type:text".toList, none⟩).display) = some o ∧
      (o == predicate ⟨"a\"^^type:text".toList, none⟩) = true := by
  obtain ⟨-, anyOrder, -, back⟩ := parse_inAnyOrder (.bounded ⟨21, 0⟩)
  obtain ⟨o, read, same⟩ := (back (literal (.text "/t<a>\"@[]\"^^type:bool".toList))
    (isMade_iff.2 trivial) rfl).1.2 ⟨nofun, hasPlainYear_iff.1 trivial⟩
  have plain : HasPlainYear (predicate ⟨"a\"^^type:text".toList, none⟩) :=
    fun i anchored => absurd anchored (Option.not_mem_none i)
  obtain ⟨o', read', same'⟩ := (back (predicate ⟨"a\"^^type:text".toList, none⟩)
    (isMade_iff.2 (List.cons_ne_nil _ _)) trivial).1.2 ⟨nofun, hasPlainYear_iff.1 plain⟩
  refine ⟨⟨o, ?_, same⟩, o', ?_, same'⟩
  · rw [anyOrder _ _ fun k => by cases k <;> decide, read]
    rfl
  · rw [anyOrder _ _ fun k => by cases k <;> decide, read']
    rfl

end Object
end GraphText
