-- What reification gives. A statement at an instant gives itself and three statements that
-- hold at any time, and its parts can be taken from these three again. A statement that
-- holds at any time gives none, so it goes one level deep and no further.
import GraphText.Graph.Reify
import Mathlib.Data.List.Perm.Basic

namespace GraphText

/-! ## The predicates of the parts -/

theorem Component.reified_injective {c d : Component} (h : c.reified = d.reified) : c = d := by
  cases c <;> cases d
  all_goals first | rfl | exact absurd h (by decide)

namespace Predicate

variable {p : Predicate}

theorem kind_of_none (h : p.anchor = none) : p.kind = .immutable := by
  unfold kind
  rw [h]
  rfl

theorem kind_of_some {i : Instant} (h : p.anchor = some i) : p.kind = .temporal := by
  unfold kind
  rw [h]
  rfl

theorem forPart_of_none (h : p.anchor = none) (c : Component) :
    p.forPart c = .error (.noAnchor p.display) := by
  unfold forPart
  rw [kind_of_none h, h]

/-- The names of the parts are not empty, so nothing is wrong with the predicate. -/
theorem forPart_of_some {i : Instant} (h : p.anchor = some i) (c : Component) :
    p.forPart c = .ok ⟨c.reified, none⟩ := by
  unfold forPart
  rw [kind_of_some h]
  cases c <;> rfl

end Predicate

namespace Triple

variable {t : Triple}

/-! ## Whether there are statements about a statement -/

theorem reify_of_none (h : t.predicate.anchor = none) (blank : Node) :
    t.reify blank = .error (.noAnchor t.predicate) := by
  unfold reify
  rw [h]

theorem reify_of_some {i : Instant} (h : t.predicate.anchor = some i) (blank : Node) :
    t.reify blank =
      .ok [t, t.naming blank .subject, t.naming blank .predicate, t.naming blank .object] := by
  unfold reify
  rw [h]

theorem reifyByParts_of_none (h : t.predicate.anchor = none) (blank : Node) :
    t.reifyByParts blank = .error (.noAnchor t.predicate.display) := by
  unfold reifyByParts
  rw [Predicate.forPart_of_none h]
  rfl

theorem reifyByParts_of_some {i : Instant} (h : t.predicate.anchor = some i) (blank : Node) :
    t.reifyByParts blank =
      .ok [t, t.naming blank .subject, t.naming blank .predicate, t.naming blank .object] := by
  unfold reifyByParts
  rw [Predicate.forPart_of_some h, Predicate.forPart_of_some h, Predicate.forPart_of_some h]
  rfl

/-! ## The statement from those about it -/

/-- What the statement in the list that names the part says of it. -/
def named? (ts : List Triple) (c : Component) : Option Object :=
  (ts.find? fun u => u.predicate = ⟨c.reified, none⟩).map object

/-- The statement whose parts the statements of the list name. -/
def ofNamings? (ts : List Triple) : Option Triple :=
  match named? ts .subject, named? ts .predicate, named? ts .object with
  | some (.node s), some (.predicate p), some o => some ⟨s, p, o⟩
  | _, _, _ => none

theorem named?_eq {blank : Node} {us : List Triple} {c : Component}
    (mem : t.naming blank c ∈ us) (all : ∀ u ∈ us, ∃ d, u = t.naming blank d) :
    named? us c = some (t.component c) := by
  unfold named?
  cases found : us.find? fun u => u.predicate = ⟨c.reified, none⟩ with
  | none =>
    have other := List.find?_eq_none.1 found _ mem
    simp [naming] at other
  | some u =>
    obtain ⟨d, rfl⟩ := all u (List.mem_of_find?_eq_some found)
    have same : d.reified = c.reified := by simpa [naming] using List.find?_some found
    rw [Component.reified_injective same]
    rfl

/-- In whatever order the three statements stand, they give the one they are about. -/
theorem ofNamings?_of_perm {blank : Node} {us : List Triple} (h : us.Perm
    [t.naming blank .subject, t.naming blank .predicate, t.naming blank .object]) :
    ofNamings? us = some t := by
  have all : ∀ u ∈ us, ∃ d, u = t.naming blank d := by
    intro u mem
    have three := h.mem_iff.1 mem
    simp only [List.mem_cons, List.not_mem_nil, or_false] at three
    rcases three with rfl | rfl | rfl
    · exact ⟨.subject, rfl⟩
    · exact ⟨.predicate, rfl⟩
    · exact ⟨.object, rfl⟩
  have readsBack : ∀ c, named? us c = some (t.component c) := by
    intro c
    apply named?_eq (h.mem_iff.2 _) all
    cases c <;> simp
  unfold ofNamings?
  rw [readsBack, readsBack, readsBack]
  rfl

/-! ## One level deep -/

/-- A statement that holds at any time has no statements about it, and that is the only fault
there can be. A statement at an instant has three, which hold at any time and have the blank
node as their subject. They give the statement back, it has three again, and they have none. -/
theorem reify_oneLevel (t : Triple) (random : Nat) :
    let b := Node.blank (Uuid.ofRandom random)
    let namings : List Triple := [⟨b, ⟨"_subject".toList, none⟩, .node t.subject⟩,
      ⟨b, ⟨"_predicate".toList, none⟩, .predicate t.predicate⟩,
      ⟨b, ⟨"_object".toList, none⟩, t.object⟩]
    (∀ f, t.reify b = .error f ↔ t.predicate.anchor = none ∧ f = .noAnchor t.predicate) ∧
    (∀ f, t.reify b = .error f → f.message = "cannot reify predicate ".toList ++
      t.predicate.display ++ ": immutable predicates carry no time anchor".toList) ∧
    (∀ f, t.reifyByParts b = .error f ↔
      t.predicate.anchor = none ∧ f = .noAnchor t.predicate.display) ∧
    (t.predicate.anchor ≠ none → t.reify b = .ok (t :: namings) ∧
      t.reifyByParts b = .ok (t :: namings) ∧ b.isBlank = true ∧
      (∀ us, us.Perm namings → ofNamings? us = some t) ∧
      ∀ again,
        (∃ ts, t.reify again = .ok ts ∧ t.reifyByParts again = .ok ts ∧ ts.length = 4) ∧
        ∀ u ∈ namings, u.reify again = .error (.noAnchor u.predicate) ∧
          u.reifyByParts again = .error (.noAnchor u.predicate.display)) := by
  intro b namings
  cases anchor : t.predicate.anchor with
  | none =>
    rw [reify_of_none anchor, reifyByParts_of_none anchor]
    refine ⟨?_, ?_, ?_, fun temporal => absurd rfl temporal⟩
    · intro f
      rw [Except.error.injEq, and_iff_right rfl, eq_comm]
    · rintro f fault
      rw [← Except.error.inj fault]
      rfl
    · intro f
      rw [Except.error.injEq, and_iff_right rfl, eq_comm]
  | some i =>
    rw [reify_of_some anchor, reifyByParts_of_some anchor]
    refine ⟨by simp, by simp, by simp, ?_⟩
    intro _
    refine ⟨rfl, rfl, rfl, fun us perm => ofNamings?_of_perm perm, ?_⟩
    intro again
    refine ⟨⟨_, reify_of_some anchor again, reifyByParts_of_some anchor again, rfl⟩, ?_⟩
    intro u mem
    have timeless : u.predicate.anchor = none := by
      simp only [namings, List.mem_cons, List.not_mem_nil, or_false] at mem
      rcases mem with rfl | rfl | rfl
      all_goals rfl
    exact ⟨reify_of_none timeless again, reifyByParts_of_none timeless again⟩

/-- Both ids are empty, four digits do not hold the year, and the object is the float that is
no number. From its three statements the statement comes back in another order, too. -/
theorem reify_oneLevel_of_unchecked_parts :
    let t : Triple := ⟨⟨[], []⟩, ⟨[], some ⟨-62167219201, 0, by decide⟩⟩, .literal (.float64 .nan)⟩
    let b := Node.blank (Uuid.ofRandom 0)
    ∃ s p o : Triple, t.reify b = .ok [t, s, p, o] ∧ ofNamings? [o, s, p] = some t ∧
      p.reifyByParts t.subject = .error (.noAnchor "\"_predicate\"@[]".toList) := by
  intro t b
  have temporal : t.predicate.anchor ≠ none := by simp [t]
  obtain ⟨-, -, -, level⟩ := reify_oneLevel t 0
  obtain ⟨reified, -, -, back, again⟩ := level temporal
  refine ⟨_, _, _, reified, back _ ?_, ((again t.subject).2 _ ?_).2⟩
  · exact (List.perm_append_singleton _ [_, _]).symm
  · simp

end Triple
end GraphText
