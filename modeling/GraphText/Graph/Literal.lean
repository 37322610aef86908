-- Literals of the graph: truth values, whole numbers of 64 bits, floats, texts and
-- runs of bytes. A literal is written as its value in quotes and the name of its type.
import GraphText.Float64.Decimal

namespace GraphText

/-- The types of literals. -/
inductive LiteralType where
  | bool
  | int64
  | float64
  | text
  | blob
  deriving DecidableEq

/-- A value that is no node. -/
inductive Literal where
  | bool (b : Bool)
  | int64 (n : Int64)
  | float64 (x : Float64)
  | text (t : Text)
  | blob (bytes : List UInt8)

namespace LiteralType

/-- Every type. -/
def all : List LiteralType := [bool, int64, float64, text, blob]

/-- The name of a type, in lower case. -/
def name : LiteralType → Text
  | bool => "bool".toList
  | int64 => "int64".toList
  | float64 => "float64".toList
  | text => "text".toList
  | blob => "blob".toList

/-- The type that a name has in any mixture of ASCII cases, or else the lowered name. -/
def ofName (t : Text) : Except Text LiteralType :=
  match all.find? fun k => k.name = Text.lowerAscii t with
  | some k => .ok k
  | none => .error (Text.lowerAscii t)

end LiteralType

namespace Literal

def type : Literal → LiteralType
  | bool _ => .bool
  | int64 _ => .int64
  | float64 _ => .float64
  | text _ => .text
  | blob _ => .blob

/-- Equality of values. Floats are compared as numbers. -/
def equal : Literal → Literal → Bool
  | bool a, bool b => a == b
  | int64 m, int64 n => m == n
  | float64 x, float64 y => x == y
  | text s, text t => s == t
  | blob a, blob b => a == b
  | _, _ => false

instance : BEq Literal := ⟨equal⟩

/-! ## Faults -/

/-- Why a text is no value of its type. -/
inductive ValueFault where
  | bool
  | int64 (reason : Int64.Fault)
  | float64 (reason : Float64.Fault)
  | blob (reason : Hex.Fault)
  deriving DecidableEq

/-- Why a text is no literal, or is one that is not allowed. -/
inductive Fault where
  | noQuote (text : Text)
  | noType (text : Text)
  | unknownType (name : Text)
  | value (type : LiteralType) (value : Text) (reason : ValueFault)
  | tooLong (type : LiteralType) (length limit : Nat)
  deriving DecidableEq

/-- The words for a fault of a value. -/
def ValueFault.message : ValueFault → Text
  | bool => "provided string was not `true` or `false`".toList
  | int64 r => r.message
  | float64 .empty => "cannot parse float from empty string".toList
  | float64 .invalid => "invalid float literal".toList
  | blob r => r.message

/-- The words for a fault. -/
def Fault.message : Fault → Text
  | noQuote t => "literal ".toList ++ Text.quoted t ++ " should start with a \" delimiter".toList
  | noType t =>
    "literal ".toList ++ Text.quoted t ++ " requires a type definition; missing ^^type:".toList
  | unknownType n => "invalid literal type ".toList ++ n
  | value k v r =>
    "invalid ".toList ++ k.name ++ " value ".toList ++ Text.quoted v ++ ": ".toList ++ r.message
  | tooLong k n m =>
    k.name ++ " literal of ".toList ++ natText n ++ " bytes exceeds the maximum of ".toList ++
      natText m

/-! ## Limits -/

/-- The most bytes that texts and blobs may have. -/
structure Limits where
  text : Nat
  blob : Nat
  deriving DecidableEq

/-- Which literals may be made. -/
inductive Builder where
  | unlimited
  | bounded (limits : Limits)
  deriving DecidableEq

/-- The value if its length is within the limit. -/
def bounded (x : Literal) (length limit : Nat) : Except Fault Literal :=
  if limit < length then .error (.tooLong x.type length limit) else .ok x

/-- The literal if the builder allows it. -/
def Builder.build : Builder → Literal → Except Fault Literal
  | bounded m, .text t => Literal.bounded (.text t) (Text.byteLength t) m.text
  | bounded m, .blob b => Literal.bounded (.blob b) b.length m.blob
  | _, x => .ok x

/-! ## Text -/

/-- What stands between the value and the type. -/
def marker : Text := "\"^^type:".toList

/-- The value as it is written. -/
def valueText : Literal → Text
  | bool true => "true".toList
  | bool false => "false".toList
  | int64 n => intText n.toInt
  | float64 x => x.display
  | text t => Text.escape '"' t
  | blob b => Hex.encode b

/-- The literal as it is written. -/
def display (x : Literal) : Text := ['"'] ++ x.valueText ++ marker ++ x.type.name

/-- The fault of a value, with the value. -/
def withValue (k : LiteralType) (v : Text) (wrap : ε → ValueFault) (make : α → Literal) :
    Except ε α → Except Fault Literal
  | .ok a => .ok (make a)
  | .error e => .error (.value k v (wrap e))

/-- The truth value that a text names. -/
def readBool (v : Text) : Except Unit Bool :=
  if v = "true".toList then .ok true else if v = "false".toList then .ok false else .error ()

/-- The value that a text names as a given type. -/
def decode (k : LiteralType) (v : Text) : Except Fault Literal :=
  match k with
  | .bool => withValue k v (fun _ => .bool) .bool (readBool v)
  | .int64 => withValue k v .int64 .int64 (Int64.read v)
  | .float64 => withValue k v .float64 .float64 (Float64.read v)
  | .text => .ok (.text v)
  | .blob => withValue k v .blob .blob (Hex.decode v)

/-- The type and the value that a text without blanks at its ends names. -/
def split (raw : Text) : Except Fault (LiteralType × Text) :=
  if raw.head? ≠ some '"' then .error (.noQuote raw)
  else
    match Text.cutLast marker raw with
    | none | some ([], _) => .error (.noType raw)
    | some (_ :: value, name) =>
      match LiteralType.ofName name with
      | .ok k => .ok (k, Text.unescape '"' value)
      | .error n => .error (.unknownType n)

/-- The literal that a text names, if the builder allows it. -/
def Builder.parse (b : Builder) (t : Text) : Except Fault Literal := do
  let (k, v) ← split (Text.trim t)
  let x ← decode k v
  b.build x

end Literal
end GraphText
