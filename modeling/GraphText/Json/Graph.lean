-- Graph values in JSON. A structure is an object with a field for every part, and a
-- part that may be absent is left out. A literal is an object with its variant as the
-- one field. An object of the graph has its form in one field and its value in
-- another. Other fields are passed over, and nothing is validated. A structure is also
-- read from an array of its parts, and it is not read where a part stands twice.
import GraphText.Graph.Triple
import GraphText.Json.Basic

namespace GraphText

-- Powers are those of the core library, whatever else is imported.
attribute [local instance (high)] instPowNat

/-! ## Nodes -/

def Node.toJson (n : Node) : Json :=
  .object [("node_type".toList, .string n.type), ("id".toList, .string n.id)]

/-- The names of the parts, in order. -/
def Node.fieldNames : List Text := ["node_type".toList, "id".toList]

def Node.ofJson? (j : Json) : Option Node := do
  let fs ← j.fields? fieldNames 2
  let type ← (Json.field? "node_type".toList fs).bind Json.text?
  let id ← (Json.field? "id".toList fs).bind Json.text?
  some ⟨type, id⟩

/-! ## Predicates -/

def Instant.toJson (i : Instant) : Json := .string i.display

def Instant.ofJson? (j : Json) : Option Instant := j.text?.bind readLoosely?

def Predicate.toJson (p : Predicate) : Json :=
  .object (("id".toList, .string p.id) ::
    match p.anchor with
    | some i => [("anchor".toList, i.toJson)]
    | none => [])

/-- The names of the parts, in order. -/
def Predicate.fieldNames : List Text := ["id".toList, "anchor".toList]

def Predicate.ofJson? (j : Json) : Option Predicate := do
  let fs ← j.fields? fieldNames 1
  let id ← (Json.field? "id".toList fs).bind Json.text?
  let anchor ← Json.optional? Instant.ofJson? (Json.field? "anchor".toList fs)
  some ⟨id, anchor⟩

/-- A kind of predicates by its name. -/
def PredicateKind.ofJson? (j : Json) : Option PredicateKind :=
  j.constant?.bind fun t =>
    if t = "Immutable".toList then some .immutable
    else if t = "Temporal".toList then some .temporal
    else none

/-! ## Literals -/

/-- A whole number of 64 bits. -/
def Json.int64? : Json → Option Int64
  | .integer n => if -2 ^ (63 : Nat) ≤ n ∧ n < 2 ^ (63 : Nat) then some (Int64.ofInt n) else none
  | _ => none

/-- A float. An integer is one as well, after rounding. -/
def Json.float? : Json → Option Float64
  | .integer n => some (.ofRatio (n < 0) n.natAbs 1)
  | .float x => some x
  | _ => none

/-- A truth value. -/
def Json.bool? : Json → Option Bool
  | .bool b => some b
  | _ => none

/-- A byte. -/
def Json.byte? : Json → Option UInt8
  | .integer n => if 0 ≤ n ∧ n < 256 then some (UInt8.ofNat n.toNat) else none
  | _ => none

/-- A run of bytes. -/
def Json.bytes? : Json → Option (List UInt8)
  | .array items => items.mapM Json.byte?
  | _ => none

/-- The float, or null where there is none to write. -/
def Float64.toJson (x : Float64) : Json := if x.isFinite then .float x else .null

/-- The value of a literal under the name of its variant. -/
def Literal.variant : Literal → Text × Json
  | bool b => ("Bool".toList, .bool b)
  | int64 n => ("Int64".toList, .integer n.toInt)
  | float64 x => ("Float64".toList, x.toJson)
  | text t => ("Text".toList, .string t)
  | blob b => ("Blob".toList, .array (b.map fun x => .integer x.toNat))

/-- The literal of a variant and its value. -/
def Literal.ofVariant? (name : Text) (j : Json) : Option Literal :=
  if name = "Bool".toList then j.bool?.map .bool
  else if name = "Int64".toList then j.int64?.map .int64
  else if name = "Float64".toList then j.float?.map .float64
  else if name = "Text".toList then j.text?.map .text
  else if name = "Blob".toList then j.bytes?.map .blob
  else none

def Literal.toJson (x : Literal) : Json := .object [("value".toList, .object [x.variant])]

/-- The names of the parts, in order. -/
def Literal.fieldNames : List Text := ["value".toList]

def Literal.ofJson? (j : Json) : Option Literal := do
  let fs ← j.fields? fieldNames 1
  match Json.field? "value".toList fs with
  | some (.object [(name, value)]) => Literal.ofVariant? name value
  | _ => none

/-- A type of literals by its name. -/
def LiteralType.ofJson? (j : Json) : Option LiteralType :=
  j.constant?.bind fun t => all.find? fun k => k.name = t

/-! ## Objects -/

/-- The form of an object and the JSON of its value. -/
def Object.variant : Object → ObjectType × Json
  | node n => (.node, n.toJson)
  | predicate p => (.predicate, p.toJson)
  | literal x => (.literal, x.toJson)

def Object.toJson (o : Object) : Json :=
  .object [("type".toList, .string o.variant.1.name.toList), ("value".toList, o.variant.2)]

/-- The form that a field names. -/
def ObjectType.ofTag? (j : Json) : Option ObjectType :=
  j.constant?.bind fun t => [node, predicate, literal].find? fun k => k.name.toList = t

/-- The object of a form and the JSON of its value. -/
def Object.ofVariant? (j : Json) : ObjectType → Option Object
  | .node => (Node.ofJson? j).map .node
  | .predicate => (Predicate.ofJson? j).map .predicate
  | .literal => (Literal.ofJson? j).map .literal

/-- The value stands in front of the form that says how to read it. -/
def Object.valueFirst (fields : List (Text × Json)) : Bool :=
  (fields.find? fun f => f.1 = "type".toList || f.1 = "value".toList).any
    fun f => f.1 = "value".toList

/-- The names of the parts, in order. -/
def Object.fieldNames : List Text := ["type".toList, "value".toList]

/-- The object that stands so many levels deep. A value in front of its form has to be
put aside until the form is known. -/
def Object.ofJson? (level : Nat) (j : Json) : Option Object := do
  let fs ← j.fields? fieldNames 2
  let type ← (Json.field? "type".toList fs).bind ObjectType.ofTag?
  let value ← Json.field? "value".toList fs
  if Object.valueFirst fs && !value.canWait level then none else Object.ofVariant? value type

/-- A form by the name of its variant. -/
def ObjectType.ofJson? (j : Json) : Option ObjectType :=
  j.constant?.bind fun t =>
    if t = "Node".toList then some .node
    else if t = "Predicate".toList then some .predicate
    else if t = "Literal".toList then some .literal
    else none

/-! ## Triples -/

def Triple.toJson (t : Triple) : Json :=
  .object [("subject".toList, t.subject.toJson), ("predicate".toList, t.predicate.toJson),
    ("object".toList, t.object.toJson)]

/-- The names of the parts, in order. -/
def Triple.fieldNames : List Text := ["subject".toList, "predicate".toList, "object".toList]

def Triple.ofJson? (j : Json) : Option Triple := do
  let fs ← j.fields? fieldNames 3
  let subject ← (Json.field? "subject".toList fs).bind Node.ofJson?
  let predicate ← (Json.field? "predicate".toList fs).bind Predicate.ofJson?
  let object ← (Json.field? "object".toList fs).bind (Object.ofJson? 2)
  some ⟨subject, predicate, object⟩

/-! ## Limits -/

/-- The names of the parts, in order. -/
def Literal.Limits.fieldNames : List Text := ["max_text_len".toList, "max_blob_len".toList]

def Literal.Limits.ofJson? (j : Json) : Option Literal.Limits := do
  let fs ← j.fields? fieldNames 2
  let text ← (Json.field? "max_text_len".toList fs).bind Json.size?
  let blob ← (Json.field? "max_blob_len".toList fs).bind Json.size?
  some ⟨text, blob⟩

end GraphText
