-- Triples: statements of the graph with a subject, a predicate and an object. A
-- triple is put together from parts, and every part that is missing is named, or it is read
-- from a line.
import GraphText.Graph.Object

namespace GraphText

/-- A statement of the graph. -/
structure Triple where
  subject : Node
  predicate : Predicate
  object : Object

/-- The parts of a triple. -/
inductive Component where
  | subject
  | predicate
  | object
  deriving DecidableEq

/-- The name of a part. -/
def Component.name : Component → Text
  | subject => "subject".toList
  | predicate => "predicate".toList
  | object => "object".toList

namespace Triple

/-- Why there is no triple. -/
inductive Fault where
  | missing (parts : List Component)
  | split (line : Text)
  | subject (segment : Text) (reason : Node.Fault)
  | predicate (segment : Text) (reason : Predicate.Fault)
  | object (segment : Text) (reason : Predicate.Fault)
  | noAnchor (p : Predicate)
  deriving DecidableEq

/-- The words for a fault. -/
def Fault.message : Fault → Text
  | missing parts =>
    "cannot create triple with missing ".toList ++
      Text.joined ", ".toList (parts.map Component.name)
  | split line =>
    "could not split subject, predicate and object out of ".toList ++ Text.quoted line
  | subject s r =>
    "failed to parse subject ".toList ++ Text.quoted s ++ ": ".toList ++ r.message
  | predicate s r =>
    "failed to parse predicate ".toList ++ Text.quoted s ++ ": ".toList ++ r.message
  | object s r =>
    "failed to parse object ".toList ++ Text.quoted s ++ ": ".toList ++ r.message
  | noAnchor p =>
    "cannot reify predicate ".toList ++ p.display ++
      ": immutable predicates carry no time anchor".toList

/-- All three parts are valid. -/
def Valid (t : Triple) : Prop := t.subject.Valid ∧ t.predicate.Valid ∧ t.object.Valid

/-- Equality of triples. Floats are compared as numbers. -/
def equal (s t : Triple) : Bool :=
  s.subject == t.subject && s.predicate == t.predicate && s.object == t.object

instance : BEq Triple := ⟨equal⟩

/-- The triple as it is written, with tabs between its parts. -/
def display (t : Triple) : Text :=
  t.subject.display ++ ['\t'] ++ t.predicate.display ++ ['\t'] ++ t.object.display

end Triple

/-! ## Drafts -/

/-- A triple whose parts may still be missing. -/
structure Draft where
  subject : Option Node
  predicate : Option Predicate
  object : Option Object

namespace Draft

/-- The draft without any part. -/
def empty : Draft := ⟨none, none, none⟩

def withSubject (d : Draft) (n : Node) : Draft := { d with subject := some n }

def withPredicate (d : Draft) (p : Predicate) : Draft := { d with predicate := some p }

def withObject (d : Draft) (o : Object) : Draft := { d with object := some o }

/-- The parts that are missing, in the order of a triple. -/
def missing (d : Draft) : List Component :=
  (if d.subject.isNone then [.subject] else []) ++
    (if d.predicate.isNone then [.predicate] else []) ++
    if d.object.isNone then [.object] else []

/-- The triple, if no part is missing. -/
def build (d : Draft) : Except Triple.Fault Triple :=
  match d.subject, d.predicate, d.object with
  | some s, some p, some o => .ok ⟨s, p, o⟩
  | _, _, _ => .error (.missing d.missing)

end Draft

/-! ## Lines

Three parts with blanks between them. The subject ends with the first closing bracket that
blanks and a quote follow. The predicate ends with the first square bracket that blanks and the
start of an object follow. -/

/-- The text up to the first closing character that blanks and an opening one follow,
and the text from the opening one. -/
def cutBoundary (closing : Char) (opening : Text) : Text → Option (Text × Text)
  | [] => none
  | c :: r =>
    if c = closing ∧ r.head?.any isBlank ∧ (Text.trimStart r).head?.any (· ∈ opening) then
      some ([c], Text.trimStart r)
    else (cutBoundary closing opening r).map fun (before, after) => (c :: before, after)

namespace Triple

/-- The three parts of a line. The predicate must start before it ends. -/
def splitLine (raw : Text) : Option (Text × Text × Text) :=
  match cutBoundary '>' ['"'] raw, cutBoundary ']' ['/', '"'] raw with
  | some (subject, fromPredicate), some (upToPredicate, object) =>
    let start := raw.length - fromPredicate.length
    if upToPredicate.length < start then none
    else some (subject, upToPredicate.drop start, object)
  | _, _ => none

/-- The value of a part, or its fault in the triple. -/
def part (wrap : ε → Fault) : Except ε α → Except Fault α
  | .ok a => .ok a
  | .error e => .error (wrap e)

/-- The triple that a line without blanks at its ends names. The first part at fault
decides. -/
def ofTrimmed (b : Literal.Builder) (raw : Text) : Except Fault Triple :=
  match splitLine raw with
  | none => .error (.split raw)
  | some (s, p, o) => do
    let subject ← part (.subject s) (Node.parse s)
    let predicate ← part (.predicate p) (Predicate.parse p)
    let object ← part (.object o) (Object.parse b o)
    .ok ⟨subject, predicate, object⟩

/-- The triple that a line names. -/
def parse (b : Literal.Builder) (line : Text) : Except Fault Triple :=
  ofTrimmed b (Text.trim line)

end Triple

end GraphText
