-- JSON values, as they are stored. A part of a text may be well formed and still
-- have no value, such as a number out of all range. Such a part can be passed over
-- but not used.
import GraphText.Float64.Basic
import GraphText.Text.Basic

namespace GraphText

-- Powers are those of the core library, whatever else is imported.
attribute [local instance (high)] instPowNat

/-- A JSON value. The fields of an object keep their order. -/
inductive Json where
  | null
  | bool (b : Bool)
  | integer (n : Int)
  | float (x : Float64)
  | string (t : Text)
  | array (items : List Json)
  | object (fields : List (Text × Json))
  | unreadable

namespace Json

/-! ## Access -/

/-- The fields of a structure. In an object they stand under their names, each of them once at
most. In an array their values stand in the order of the names, and there are at least so many:
only fields at the end can be left out. -/
def fields? (names : List Text) (least : Nat) : Json → Option (List (Text × Json))
  | object fs => if names.all fun n => (fs.map Prod.fst).count n ≤ 1 then some fs else none
  | array items =>
    if least ≤ items.length ∧ items.length ≤ names.length then some (names.zip items) else none
  | _ => none

/-- The value of a field. -/
def field? (name : Text) (fields : List (Text × Json)) : Option Json := fields.lookup name

/-- The text of a string. -/
def text? : Json → Option Text
  | string t => some t
  | _ => none

/-- The number of an integer that is not negative and has 64 bits. -/
def size? : Json → Option Nat
  | integer n => if 0 ≤ n ∧ n < 2 ^ (64 : Nat) then some n.toNat else none
  | _ => none

/-- The value of a field that may be absent or null. -/
def optional? (read : Json → Option α) : Option Json → Option (Option α)
  | none | some null => some none
  | some j => (read j).map some

/-- The name of a constant. It stands alone, or as a field without a value. -/
def constant? : Json → Option Text
  | string t => some t
  | object [(t, null)] => some t
  | _ => none

/-! ## Size -/

mutual

/-- How deeply arrays and objects are nested. -/
def depth : Json → Nat
  | array items => depthItems items + 1
  | object fields => depthFields fields + 1
  | _ => 0

def depthItems : List Json → Nat
  | [] => 0
  | j :: js => max (depth j) (depthItems js)

def depthFields : List (Text × Json) → Nat
  | [] => 0
  | (_, j) :: fs => max (depth j) (depthFields fs)

end

mutual

/-- Every part has a value. -/
def isReadable : Json → Bool
  | array items => areReadable items
  | object fields => haveReadable fields
  | unreadable => false
  | _ => true

def areReadable : List Json → Bool
  | [] => true
  | j :: js => isReadable j && areReadable js

def haveReadable : List (Text × Json) → Bool
  | [] => true
  | (_, j) :: fs => isReadable j && haveReadable fs

end

/-- The most levels that a value may have which is put aside while it is read. -/
def deepest : Nat := 127

/-- A value that stands so many levels deep can be put aside and read later. -/
def canWait (level : Nat) (j : Json) : Bool := j.isReadable && level + j.depth ≤ deepest

end Json
end GraphText
