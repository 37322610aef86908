-- Nodes of the graph. A node is written as its type and, between angle brackets, its
-- id. An opening bracket inside the id has a backslash in front of it. A list of nodes in
-- order and without repeats is canonical.
import GraphText.Text.Quoted

namespace GraphText

/-- A node of the graph, with its id as it is meant and not as it is written. -/
structure Node where
  type : Text
  id : Text
  deriving DecidableEq

namespace Node

/-! ## Faults -/

/-- Why a text is no type of a node. -/
inductive TypeFault where
  | noSlash
  | nameless
  | forbidden
  deriving DecidableEq

/-- Why a text is no id of a node. -/
inductive IdFault where
  | empty
  | closing
  deriving DecidableEq

/-- Why a text is no node. -/
inductive Fault where
  | noIdStart (text : Text)
  | noIdEnd (text : Text)
  | type (type : Text) (reason : TypeFault)
  | id (id : Text) (reason : IdFault)
  deriving DecidableEq

/-- The words for a fault of a type. -/
def TypeFault.message : TypeFault → Text
  | noSlash => "must start with /".toList
  | nameless => "must name a type after /".toList
  | forbidden => "must not contain whitespace or angle brackets".toList

/-- The words for a fault of an id. -/
def IdFault.message : IdFault → Text
  | empty => "must not be empty".toList
  | closing => "must not contain >".toList

/-- The words for a fault. -/
def Fault.message : Fault → Text
  | noIdStart t =>
    "node ".toList ++ Text.quoted t ++ " should start ID section with a < delimiter".toList
  | noIdEnd t => "node ".toList ++ Text.quoted t ++ " should end with a > delimiter".toList
  | type t r => "invalid node type ".toList ++ Text.quoted t ++ ": ".toList ++ r.message
  | id t r => "invalid node id ".toList ++ Text.quoted t ++ ": ".toList ++ r.message

/-! ## Construction -/

/-- What is wrong with a type. It is a slash and a name without blanks and brackets. -/
def typeFault? (t : Text) : Option TypeFault :=
  if t.head? ≠ some '/' then some .noSlash
  else if t = ['/'] then some .nameless
  else if t.any fun c => isBlank c || c = '<' || c = '>' then some .forbidden
  else none

/-- What is wrong with an id. It has a character and no closing bracket. -/
def idFault? (t : Text) : Option IdFault :=
  if t.isEmpty then some .empty else if '>' ∈ t then some .closing else none

/-- The node of a type and an id, if both are in order. A fault of the type comes first. -/
def make (type id : Text) : Except Fault Node :=
  match typeFault? type with
  | some r => .error (.type type r)
  | none =>
    match idFault? id with
    | some r => .error (.id id r)
    | none => .ok ⟨type, id⟩

/-- The text is a type of nodes. -/
def IsType (t : Text) : Prop :=
  t.head? = some '/' ∧ t ≠ ['/'] ∧ ∀ c ∈ t, isBlank c = false ∧ c ≠ '<' ∧ c ≠ '>'

/-- The text is an id of nodes. -/
def IsId (t : Text) : Prop := t ≠ [] ∧ '>' ∉ t

/-- The node has a type and an id that are in order. -/
def Valid (n : Node) : Prop := IsType n.type ∧ IsId n.id

theorem typeFault?_eq_none_iff {t : Text} : typeFault? t = none ↔ IsType t := by
  unfold typeFault? IsType
  split
  · simp_all
  · split
    · simp_all
    · split
      · rename_i h
        simp only [reduceCtorEq, false_iff]
        rintro ⟨-, -, clean⟩
        simp only [List.any_eq_true, Bool.or_eq_true, decide_eq_true_eq] at h
        obtain ⟨c, mem, (blank | less) | greater⟩ := h
        · simp [(clean c mem).1] at blank
        · exact (clean c mem).2.1 less
        · exact (clean c mem).2.2 greater
      · simp_all

theorem idFault?_eq_none_iff {t : Text} : idFault? t = none ↔ IsId t := by
  unfold idFault? IsId
  split
  · simp_all
  · split <;> simp_all

/-- A type and an id that are in order make a node, and no others do. -/
theorem make_eq_ok_iff {type id : Text} {n : Node} :
    make type id = .ok n ↔ IsType type ∧ IsId id ∧ n = ⟨type, id⟩ := by
  rw [← typeFault?_eq_none_iff, ← idFault?_eq_none_iff]
  unfold make
  split
  · simp_all
  · split
    · simp_all
    · simp_all only [Except.ok.injEq, true_and]
      exact eq_comm

/-- The type of the nodes that stand for a statement. -/
def blankType : Text := ['/', '_']

/-- A node that stands for a statement. -/
def blank (id : Text) : Node := ⟨blankType, id⟩

def isBlank (n : Node) : Bool := n.type = blankType

/-! ## Text -/

/-- The id as it is written. -/
def idText (n : Node) : Text := Text.escape '<' n.id

/-- The node as it is written. -/
def display (n : Node) : Text := n.type ++ ['<'] ++ n.idText ++ ['>']

/-- The node that a text without blanks at its ends names. The first bracket ends the
type, also behind a backslash. -/
def ofTrimmed (raw : Text) : Except Fault Node :=
  match raw.dropWhile (· ≠ '<') with
  | [] => .error (.noIdStart raw)
  | _ :: r =>
    if raw.getLast? ≠ some '>' then .error (.noIdEnd raw)
    else make (raw.takeWhile (· ≠ '<')) (Text.unescape '<' r.dropLast)

/-- The node that a text names. -/
def parse (t : Text) : Except Fault Node := ofTrimmed (Text.trim t)

/-! ## Order -/

/-- The first node comes before the second or is the same. -/
def before (m n : Node) : Bool :=
  if m.type = n.type then Text.before m.id n.id else Text.before m.type n.type

/-- The list with one node for every run of the same node. -/
def dropRepeats : List Node → List Node
  | [] => []
  | [n] => [n]
  | m :: n :: r => if m = n then dropRepeats (n :: r) else m :: dropRepeats (n :: r)

/-- The nodes in order, each of them once. -/
def canonical (ns : List Node) : List Node := dropRepeats (ns.mergeSort before)

/-- The nodes that the texts name, in order, each of them once. The first text that names
none is at fault. -/
def canonicalOf (texts : List Text) : Except Fault (List Node) := (texts.mapM parse).map canonical

end Node
end GraphText
