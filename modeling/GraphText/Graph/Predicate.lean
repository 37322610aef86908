-- Predicates of the graph. A predicate is written as its id in quotes and its anchor
-- in square brackets. Without an anchor it holds at any time.
import GraphText.Instant.Timestamp

namespace GraphText

/-- A relation between a subject and an object, at an instant or at any time. -/
structure Predicate where
  id : Text
  anchor : Option Instant
  deriving DecidableEq

/-- Whether a predicate has an anchor. -/
inductive PredicateKind where
  | immutable
  | temporal
  deriving DecidableEq

/-- The name that answers show. -/
def PredicateKind.name : PredicateKind → String
  | immutable => "IMMUTABLE"
  | temporal => "TEMPORAL"

namespace Predicate

/-! ## Faults -/

/-- Why a text is no predicate. -/
inductive Fault where
  | noQuote (text : Text)
  | noAnchor (text : Text)
  | noAnchorEnd (text : Text)
  | emptyId
  | anchor (anchor : Text) (reason : Instant.Fault)
  deriving DecidableEq

/-- The words for a fault. -/
def Fault.message : Fault → Text
  | noQuote t =>
    "predicate ".toList ++ Text.quoted t ++ " should start with a \" delimiter".toList
  | noAnchor t =>
    "predicate ".toList ++ Text.quoted t ++
      " requires time anchor information; missing \"@[".toList
  | noAnchorEnd t =>
    "predicate ".toList ++ Text.quoted t ++
      " time anchor should end with a ] delimiter".toList
  | emptyId => "predicate id must not be empty".toList
  | anchor a r => "invalid time anchor ".toList ++ Text.quoted a ++ ": ".toList ++ r.message

/-! ## Construction -/

/-- The predicate of an id and an anchor, if the id is not empty. -/
def make (id : Text) (anchor : Option Instant) : Except Fault Predicate :=
  if id.isEmpty then .error .emptyId else .ok ⟨id, anchor⟩

/-- The predicate has an id. -/
def Valid (p : Predicate) : Prop := p.id ≠ []

/-- The anchor, if there is one, has a year that four digits hold. -/
def HasPlainYear (p : Predicate) : Prop := ∀ i ∈ p.anchor, i.HasPlainYear

theorem make_eq_ok_iff {id : Text} {anchor : Option Instant} {p : Predicate} :
    make id anchor = .ok p ↔ p.Valid ∧ p = ⟨id, anchor⟩ := by
  unfold make Valid
  split
  · rename_i h
    rw [List.isEmpty_iff] at h
    simp only [reduceCtorEq, false_iff, not_and]
    rintro named rfl
    exact named h
  · rename_i h
    rw [List.isEmpty_iff] at h
    simp only [Except.ok.injEq]
    constructor
    · rintro rfl; exact ⟨h, rfl⟩
    · rintro ⟨-, rfl⟩; rfl

def kind (p : Predicate) : PredicateKind := if p.anchor.isSome then .temporal else .immutable

/-! ## Text -/

/-- What stands between the id and the anchor. -/
def marker : Text := ['"', '@', '[']

/-- The anchor as it is written. -/
def anchorText (p : Predicate) : Text :=
  match p.anchor with
  | some i => i.display
  | none => []

/-- The predicate as it is written. -/
def display (p : Predicate) : Text :=
  ['"'] ++ Text.escape '"' p.id ++ marker ++ p.anchorText ++ [']']

/-- The anchor that a text names. An empty text names none. -/
def readAnchor (a : Text) : Except Fault (Option Instant) :=
  if a.isEmpty then .ok none
  else
    match Instant.read a with
    | .ok i => .ok (some i)
    | .error r => .error (.anchor a r)

/-- The predicate that a text without blanks at its ends names. An anchor holds no
quote, so the last marker is the one that ends the id. -/
def ofTrimmed (raw : Text) : Except Fault Predicate :=
  if raw.head? ≠ some '"' then .error (.noQuote raw)
  else
    match Text.cutLast marker raw with
    | none | some ([], _) => .error (.noAnchor raw)
    | some (_ :: id, anchor) =>
      if raw.getLast? ≠ some ']' then .error (.noAnchorEnd raw)
      else
        match readAnchor anchor.dropLast with
        | .ok a => make (Text.unescape '"' id) a
        | .error f => .error f

/-- The predicate that a text names. -/
def parse (t : Text) : Except Fault Predicate := ofTrimmed (Text.trim t)

end Predicate
end GraphText
