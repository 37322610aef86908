-- Drafts over whole runs. Parts are set in any order and any number of times, as values or
-- as texts that are read first. The last value of each part is the one that counts, and the
-- parts that were never set are those that a draft misses.
import GraphText.Graph.Triple
import Mathlib.Data.List.Induction

namespace GraphText

/-- The parts of a triple, in their order. -/
def Component.all : List Component := [.subject, .predicate, .object]

namespace Draft

/-! ## Runs -/

/-- A part with its value. An object is a node, a predicate or a literal. -/
inductive Part where
  | subject (n : Node)
  | predicate (p : Predicate)
  | object (o : Object)

/-- A part as a text. An object may be asked for in one of its forms. -/
inductive WrittenPart where
  | subject (t : Text)
  | predicate (t : Text)
  | object (b : Literal.Builder) (t : Text)
  | objectNode (t : Text)
  | objectPredicate (t : Text)
  | objectLiteral (b : Literal.Builder) (t : Text)

/-- The part that a text names. -/
def WrittenPart.read? : WrittenPart → Option Part
  | subject t => (Node.parse t).toOption.map .subject
  | predicate t => (Predicate.parse t).toOption.map .predicate
  | object b t => (Object.parse b t).toOption.map .object
  | objectNode t => (Node.parse t).toOption.map fun n => .object (.node n)
  | objectPredicate t => (Predicate.parse t).toOption.map fun p => .object (.predicate p)
  | objectLiteral b t => (b.parse t).toOption.map fun x => .object (.literal x)

/-- What is done to a draft: a part is set, or a text is tried as one. -/
inductive Step where
  | set (p : Part)
  | attempt (w : WrittenPart)

/-- Which part of a triple it is. -/
def Part.component : Part → Component
  | subject _ => .subject
  | predicate _ => .predicate
  | object _ => .object

/-- The part that a step sets. A text that names none sets none. -/
def Step.part? : Step → Option Part
  | set p => some p
  | attempt w => w.read?

/-- The draft with the part set. -/
def setPart (d : Draft) : Part → Draft
  | .subject n => d.withSubject n
  | .predicate p => d.withPredicate p
  | .object o => d.withObject o

/-- The draft after one step. -/
def step (d : Draft) (s : Step) : Draft :=
  match s.part? with
  | some p => d.setPart p
  | none => d

/-- The draft after the steps, from the one without any part. -/
def run (steps : List Step) : Draft := steps.foldl step empty

/-! ## What was set -/

/-- The parts that the steps set, the last one at the end. -/
def partsSet (steps : List Step) : List Part := steps.filterMap Step.part?

def Part.subject? : Part → Option Node
  | subject n => some n
  | _ => none

def Part.predicate? : Part → Option Predicate
  | predicate p => some p
  | _ => none

def Part.object? : Part → Option Object
  | object o => some o
  | _ => none

/-- The last subject among the parts. -/
def lastSubject (parts : List Part) : Option Node := (parts.filterMap Part.subject?).getLast?

/-- The last predicate among the parts. -/
def lastPredicate (parts : List Part) : Option Predicate :=
  (parts.filterMap Part.predicate?).getLast?

/-- The last object among the parts. -/
def lastObject (parts : List Part) : Option Object := (parts.filterMap Part.object?).getLast?

/-- One of the parts is that part of the triple. -/
def IsSet (parts : List Part) (c : Component) : Prop := ∃ p ∈ parts, p.component = c

instance (parts : List Part) (c : Component) : Decidable (IsSet parts c) :=
  inferInstanceAs (Decidable (∃ p ∈ parts, p.component = c))

/-! ## One step -/

/-- The draft has the part. -/
def has (d : Draft) : Component → Bool
  | .subject => d.subject.isSome
  | .predicate => d.predicate.isSome
  | .object => d.object.isSome

/-- Setting a part leaves the others as they are. -/
theorem has_setPart (d : Draft) (p : Part) (c : Component) :
    (d.setPart p).has c = true ↔ d.has c = true ∨ p.component = c := by
  cases p <;> cases c <;>
    simp [setPart, has, Part.component, withSubject, withPredicate, withObject]

theorem setPart_comm (d : Draft) {p q : Part} (h : p.component ≠ q.component) :
    (d.setPart p).setPart q = (d.setPart q).setPart p := by
  cases p <;> cases q
  all_goals first | exact absurd rfl h | rfl

theorem step_of_part {s : Step} {p : Part} (h : s.part? = some p) (d : Draft) :
    d.step s = d.setPart p := by
  unfold step
  rw [h]

theorem step_of_none {s : Step} (h : s.part? = none) (d : Draft) : d.step s = d := by
  unfold step
  rw [h]

/-! ## The run -/

theorem run_append (before after : List Step) :
    run (before ++ after) = after.foldl step (run before) :=
  List.foldl_append

theorem partsSet_concat_of_part {s : Step} {p : Part} (h : s.part? = some p)
    (steps : List Step) : partsSet (steps ++ [s]) = partsSet steps ++ [p] := by
  simp [partsSet, h]

theorem partsSet_concat_of_none {s : Step} (h : s.part? = none) (steps : List Step) :
    partsSet (steps ++ [s]) = partsSet steps := by
  simp [partsSet, h]

/-- Every run leaves the last value of each part. -/
theorem run_eq (steps : List Step) : run steps =
    ⟨lastSubject (partsSet steps), lastPredicate (partsSet steps),
      lastObject (partsSet steps)⟩ := by
  induction steps using List.reverseRecOn with
  | nil => rfl
  | append_singleton steps s ih =>
    rw [run_append, List.foldl_cons, List.foldl_nil]
    cases part : s.part? with
    | none => rw [step_of_none part, partsSet_concat_of_none part, ih]
    | some p =>
      rw [step_of_part part, partsSet_concat_of_part part, ih]
      cases p <;>
        simp [setPart, withSubject, withPredicate, withObject, lastSubject, lastPredicate,
          lastObject, Part.subject?, Part.predicate?, Part.object?]

theorem has_run (steps : List Step) (c : Component) :
    (run steps).has c = true ↔ IsSet (partsSet steps) c := by
  induction steps using List.reverseRecOn with
  | nil => cases c <;> simp [run, empty, has, IsSet, partsSet]
  | append_singleton steps s ih =>
    rw [run_append, List.foldl_cons, List.foldl_nil]
    cases part : s.part? with
    | none => rw [step_of_none part, partsSet_concat_of_none part, ih]
    | some p =>
      rw [step_of_part part, partsSet_concat_of_part part, has_setPart, ih]
      simp [IsSet, or_and_right, exists_or]

/-! ## Building -/

theorem build_eq_ok_iff {d : Draft} {t : Triple} : d.build = .ok t ↔
    d.subject = some t.subject ∧ d.predicate = some t.predicate ∧ d.object = some t.object := by
  obtain ⟨s', p', o'⟩ := t
  obtain ⟨_ | s, _ | p, _ | o⟩ := d
  all_goals simp [build]

theorem missing_eq (d : Draft) : d.missing = Component.all.filter fun c => !d.has c := by
  obtain ⟨_ | s, _ | p, _ | o⟩ := d <;> rfl

theorem exists_build_iff {d : Draft} : (∃ t, d.build = .ok t) ↔ ∀ c, d.has c = true := by
  refine ⟨?_, ?_⟩
  · rintro ⟨t, h⟩ c
    obtain ⟨subject, predicate, object⟩ := build_eq_ok_iff.1 h
    cases c <;> simp [has, subject, predicate, object]
  · intro h
    obtain ⟨s, subject⟩ := Option.isSome_iff_exists.1 (h .subject)
    obtain ⟨p, predicate⟩ := Option.isSome_iff_exists.1 (h .predicate)
    obtain ⟨o, object⟩ := Option.isSome_iff_exists.1 (h .object)
    exact ⟨⟨s, p, o⟩, build_eq_ok_iff.2 ⟨subject, predicate, object⟩⟩

theorem build_of_missing {d : Draft} (h : ¬ ∀ c, d.has c = true) :
    d.build = .error (.missing d.missing) := by
  rw [← exists_build_iff] at h
  obtain ⟨_ | s, _ | p, _ | o⟩ := d
  all_goals first | rfl | exact absurd ⟨_, rfl⟩ h

theorem missing_run (steps : List Step) : (run steps).missing =
    Component.all.filter fun c => ¬ IsSet (partsSet steps) c := by
  rw [missing_eq]
  congr 1
  funext c
  rw [Bool.eq_iff_iff, decide_eq_true_iff, ← has_run, Bool.not_eq_true', Bool.not_eq_true]

/-! ## What a run builds -/

/-- A run builds a triple if and only if it sets every part, and then the triple has the last
value of each. Otherwise the parts that the run never sets are missing, in the order of a
triple. So two parts that are set one after the other may change places if they are different
parts, and a text that names no part changes nothing. -/
theorem build_run (steps : List Step) :
    ((∃ t, (run steps).build = .ok t) ↔ ∀ c, IsSet (partsSet steps) c) ∧
    (∀ t, (run steps).build = .ok t ↔ lastSubject (partsSet steps) = some t.subject ∧
      lastPredicate (partsSet steps) = some t.predicate ∧
      lastObject (partsSet steps) = some t.object) ∧
    ((¬ ∀ c, IsSet (partsSet steps) c) → (run steps).build =
      .error (.missing (Component.all.filter fun c => ¬ IsSet (partsSet steps) c))) ∧
    (∀ p q after, p.component ≠ q.component →
      (run (steps ++ .set p :: .set q :: after)).build =
        (run (steps ++ .set q :: .set p :: after)).build) ∧
    ∀ w after, w.read? = none →
      (run (steps ++ .attempt w :: after)).build = (run (steps ++ after)).build := by
  have every : (∀ c, (run steps).has c = true) ↔ ∀ c, IsSet (partsSet steps) c :=
    forall_congr' (has_run steps)
  refine ⟨?_, ?_, ?_, ?_, ?_⟩
  · rw [exists_build_iff, every]
  · intro t
    rw [build_eq_ok_iff, run_eq]
  · intro h
    rw [build_of_missing (mt every.1 h), missing_run]
  · intro p q after apart
    rw [run_append, run_append]
    simp only [List.foldl_cons]
    rw [step_of_part rfl, step_of_part rfl, step_of_part rfl, step_of_part rfl,
      setPart_comm _ apart]
  · intro w after unread
    have noPart : (Step.attempt w).part? = none := unread
    rw [run_append, run_append, List.foldl_cons, step_of_none noPart]

/-- The object is set as a node and then as a literal, and the subject only at the end. A text
without brackets is no subject. -/
theorem build_run_of_overwritten_object :
    let n : Node := ⟨"/u".toList, ['a']⟩
    let p : Predicate := ⟨['p'], none⟩
    let steps : List Step := [.set (.object (.node n)), .set (.predicate p),
      .set (.object (.literal (.text ['x'])))]
    (run steps).build = .error (.missing [.subject]) ∧
      (run (steps ++ [.attempt (.subject ['x'])])).build = .error (.missing [.subject]) ∧
      (run (steps ++ [.set (.subject n)])).build = .ok ⟨n, p, .literal (.text ['x'])⟩ ∧
      (run (steps ++ [.set (.object (.predicate p)), .set (.subject n)])).build =
        .ok ⟨n, p, .predicate p⟩ := by
  intro n p steps
  obtain ⟨-, -, faulty, swaps, unread⟩ := build_run steps
  have unset : ¬ ∀ c, IsSet (partsSet steps) c := fun h => absurd (h .subject) (by decide)
  have missing : (run steps).build = .error (.missing [.subject]) := faulty unset
  refine ⟨missing, (unread (.subject ['x']) [] rfl).trans ?_, ?_, ?_⟩
  · rw [List.append_nil, missing]
  · obtain ⟨-, built, -⟩ := build_run (steps ++ [.set (.subject n)])
    exact (built ⟨n, p, .literal (.text ['x'])⟩).2 ⟨rfl, rfl, rfl⟩
  · rw [← swaps (.subject n) (.object (.predicate p)) [] (by decide)]
    obtain ⟨-, built, -⟩ := build_run (steps ++ [.set (.subject n), .set (.object (.predicate p))])
    exact (built ⟨n, p, .predicate p⟩).2 ⟨rfl, rfl, rfl⟩

end Draft
end GraphText
