-- Reification: a statement at an instant becomes a subject itself. Three statements
-- about a blank node name the subject, the predicate and the object.
import GraphText.Graph.Triple

namespace GraphText

-- Powers are those of the core library, whatever else is imported.
attribute [local instance (high)] instPowNat

/-! ## Random ids

The ids of blank nodes: 128 bits of which six are fixed, in hexadecimal digits with dashes
between groups of 8, 4, 4, 4 and 12. -/

namespace Uuid

/-- A number in so many hexadecimal digits, the last ones if it has more. -/
def group : (width n : Nat) → Text
  | 0, _ => []
  | w + 1, n => group w (n / 16) ++ [hexDigit (n % 16)]

/-- The id of random bits. The third group starts with the version, which is 4, and the
fourth with two bits that are always the same. -/
def ofRandom (n : Nat) : Text :=
  group 8 (n / 2 ^ (90 : Nat)) ++ ['-'] ++ group 4 (n / 2 ^ (74 : Nat)) ++ ['-'] ++
    '4' :: group 3 (n / 2 ^ (62 : Nat)) ++ ['-'] ++
    group 4 (0x8000 + n / 2 ^ (48 : Nat) % 0x4000) ++ ['-'] ++ group 12 n

/-- The text has the form of a random id. -/
def isRandom (t : Text) : Bool :=
  t.length == 36 && t.zipIdx.all fun (c, i) =>
    if i ∈ [8, 13, 18, 23] then c == '-'
    else if i = 14 then c == '4'
    else if i = 19 then c ∈ ['8', '9', 'a', 'b']
    else c ∈ "0123456789abcdef".toList

end Uuid

/-! ## Statements about a statement -/

namespace Component

/-- The id of the predicate that names a part. -/
def reified : Component → Text
  | subject => "_subject".toList
  | predicate => "_predicate".toList
  | object => "_object".toList

end Component

namespace Triple

/-- A part of a triple, as the object of a statement. -/
def component (t : Triple) : Component → Object
  | .subject => .node t.subject
  | .predicate => .predicate t.predicate
  | .object => t.object

/-- The statement that names one part. -/
def naming (t : Triple) (blank : Node) (c : Component) : Triple :=
  ⟨blank, ⟨c.reified, none⟩, t.component c⟩

/-- The statement and the three about it, with the blank node as their subject. A
statement that holds at any time has none. -/
def reify (t : Triple) (blank : Node) : Except Fault (List Triple) :=
  match t.predicate.anchor with
  | none => .error (.noAnchor t.predicate)
  | some _ =>
    .ok [t, t.naming blank .subject, t.naming blank .predicate, t.naming blank .object]

end Triple

/-! ## Part by part -/

/-- Why there is no predicate for the statement that names a part. -/
inductive NamingFault where
  | noAnchor (shown : Text)
  | predicate (reason : Predicate.Fault)
  deriving DecidableEq

/-- The predicate of the statement that names a part, for a statement with the predicate `p`.
It holds at any time if `p` holds at an instant. If `p` holds at any time, it would hold at
the instant of `p`, which there is not. -/
def Predicate.forPart (p : Predicate) (c : Component) : Except NamingFault Predicate :=
  match p.kind with
  | .immutable =>
    match p.anchor with
    | none => .error (.noAnchor p.display)
    | some i => (make c.reified (some i)).mapError .predicate
  | .temporal => (make c.reified none).mapError .predicate

/-- The statement and the three about it, where the predicate of each of the three is made
first, as any predicate is. -/
def Triple.reifyByParts (t : Triple) (blank : Node) : Except NamingFault (List Triple) := do
  let subject ← t.predicate.forPart .subject
  let predicate ← t.predicate.forPart .predicate
  let object ← t.predicate.forPart .object
  return [t, ⟨blank, subject, .node t.subject⟩, ⟨blank, predicate, .predicate t.predicate⟩,
    ⟨blank, object, t.object⟩]

end GraphText
