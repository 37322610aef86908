-- Objects of the graph: what a statement says of its subject is a node, a predicate
-- or a literal. The three are written in forms of their own.
import GraphText.Graph.Literal
import GraphText.Graph.Node
import GraphText.Graph.Predicate

namespace GraphText

/-- The third part of a statement. -/
inductive Object where
  | node (n : Node)
  | predicate (p : Predicate)
  | literal (x : Literal)

/-- The forms of objects. -/
inductive ObjectType where
  | node
  | predicate
  | literal
  deriving DecidableEq

/-- The name of a form. -/
def ObjectType.name : ObjectType → String
  | node => "node"
  | predicate => "predicate"
  | literal => "literal"

namespace Object

def type : Object → ObjectType
  | node _ => .node
  | predicate _ => .predicate
  | literal _ => .literal

/-- The node or the predicate is valid. A literal always is. -/
def Valid : Object → Prop
  | node n => n.Valid
  | predicate p => p.Valid
  | literal _ => True

/-- Equality of objects. Floats are compared as numbers. -/
def equal : Object → Object → Bool
  | node m, node n => m == n
  | predicate p, predicate q => p == q
  | literal x, literal y => x == y
  | _, _ => false

instance : BEq Object := ⟨equal⟩

/-- The object as it is written. -/
def display : Object → Text
  | node n => n.display
  | predicate p => p.display
  | literal x => x.display

/-- The object that a text names. If it has none of the forms, the fault is that of a
predicate. -/
def parse (b : Literal.Builder) (t : Text) : Except Predicate.Fault Object :=
  match Node.parse t with
  | .ok n => .ok (.node n)
  | .error _ =>
    match b.parse t with
    | .ok x => .ok (.literal x)
    | .error _ => (Predicate.parse t).map .predicate

end Object
end GraphText
