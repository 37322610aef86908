-- Reading JSON. The text is first cut into signs, strings and words. A machine then
-- takes one after the other, with a frame for every array and object that is open.
import GraphText.Float64.Decimal
import GraphText.Json.Basic

namespace GraphText.Json

-- Powers are those of the core library, whatever else is imported.
attribute [local instance (high)] instPowNat

/-! ## Numbers

A number without a point and without a power of ten is an integer if it has 64 bits. Any
other number is the nearest float, and it has no value if that is infinite. -/

/-- The parts of a number as it is written. -/
structure Numeral where
  negative : Bool
  whole : Text
  places : Text
  exponent : Option Int

/-- The float nearest to the number, unless that one is infinite. The number is rounded once,
and its digits are no float before that: 6719e-39 is not the quotient of the floats 6719 and
1e39, which is another one, and 1.7976931348623158e308 is finite. -/
def Numeral.float? (n : Numeral) : Option Float64 :=
  let nearest := Float64.ofDecimal n.negative (digitsValue (n.whole ++ n.places))
    (n.exponent.getD 0 - n.places.length)
  if nearest.isFinite then some nearest else none

/-- The number as a value. -/
def Numeral.value (n : Numeral) : Json :=
  let whole := digitsValue n.whole
  let isWhole := n.places.isEmpty && n.exponent.isNone
  if isWhole && !n.negative && whole < 2 ^ (64 : Nat) then integer whole
  else if isWhole && n.negative && whole ≠ 0 && whole ≤ 2 ^ (63 : Nat) then integer (-whole)
  else
    match n.float? with
    | some x => float x
    | none => unreadable

/-- The whole part, which has no zero in front of other digits, and the text behind it. -/
def cutWhole? : Text → Option (Text × Text)
  | [] => none
  | c :: r =>
    if c = '0' then some (['0'], r)
    else if isDigit c then some (c :: r.takeWhile isDigit, r.dropWhile isDigit)
    else none

/-- The places behind a point, at least one, and the text behind them. -/
def cutPlaces? : Text → Option (Text × Text)
  | '.' :: r =>
    if (r.takeWhile isDigit).isEmpty then none
    else some (r.takeWhile isDigit, r.dropWhile isDigit)
  | t => some ([], t)

/-- The power of ten, if there is one. -/
def readPower? (t : Text) : Option (Option Int) :=
  if t.isEmpty then some none else (Float64.readExponent? t).map some

/-- The number that a text names. -/
def readNumber? (t : Text) : Option Json := do
  let (negative, t) : Bool × Text := match t with
    | '-' :: r => (true, r)
    | r => (false, r)
  let (whole, t) ← cutWhole? t
  let (places, t) ← cutPlaces? t
  let exponent ← readPower? t
  some (Numeral.value ⟨negative, whole, places, exponent⟩)

/-! ## Strings -/

/-- A piece of a string: a character, or half of one by its code. -/
inductive Piece where
  | char (c : Char)
  | half (code : Nat)

/-- The piece of a code of four digits. -/
def Piece.ofCode (n : Nat) : Piece :=
  if 0xd800 ≤ n ∧ n < 0xe000 then .half n else .char (Char.ofNat n)

/-- The character of an escape of one letter. -/
def shortEscape? (c : Char) : Option Char :=
  if c = '"' || c = '\\' || c = '/' then some c
  else if c = 'b' then some '\x08'
  else if c = 'f' then some '\x0c'
  else if c = 'n' then some '\n'
  else if c = 'r' then some '\r'
  else if c = 't' then some '\t'
  else none

/-- The code of four hexadecimal digits. -/
def code? (a b c d : Char) : Option Nat := do
  let a ← Hex.value? a
  let b ← Hex.value? b
  let c ← Hex.value? c
  let d ← Hex.value? d
  some (((a * 16 + b) * 16 + c) * 16 + d)

/-- The pieces of a string, if its escapes are in order. -/
def pieces? : Text → Option (List Piece)
  | [] => some []
  | '\\' :: 'u' :: a :: b :: c :: d :: r => do
    let n ← code? a b c d
    let more ← pieces? r
    some (.ofCode n :: more)
  | '\\' :: e :: r => do
    let c ← shortEscape? e
    let more ← pieces? r
    some (.char c :: more)
  | c :: r => if c = '\\' ∨ c.toNat < 0x20 then none else (pieces? r).map (.char c :: ·)

/-- The text of pieces. The halves of a character must follow each other. -/
def join? : List Piece → Option Text
  | [] => some []
  | .char c :: r => (join? r).map (c :: ·)
  | .half m :: .half n :: r =>
    if m < 0xdc00 ∧ 0xdc00 ≤ n then
      (join? r).map (Char.ofNat (0x10000 + (m - 0xd800) * 0x400 + (n - 0xdc00)) :: ·)
    else none
  | .half _ :: _ => none

/-- The text before the quote that ends a string, and the text behind it. A backslash
protects the character behind it. -/
def cutString : Text → Option (Text × Text)
  | [] => none
  | '"' :: r => some ([], r)
  | '\\' :: c :: r => (cutString r).map fun (x, y) => ('\\' :: c :: x, y)
  | c :: r => (cutString r).map fun (x, y) => (c :: x, y)

theorem cutString_length {t x y : Text} (h : cutString t = some (x, y)) :
    y.length < t.length := by
  fun_induction cutString t generalizing x y with
  | case1 => simp at h
  | case2 => simp at h; simp [h.2]
  | case3 c r ih | case4 c r _ _ ih =>
    simp only [Option.map_eq_some_iff, Prod.exists, Prod.mk.injEq] at h
    obtain ⟨u, v, huv, -, rfl⟩ := h
    have := ih huv
    simp only [List.length_cons]
    omega

/-! ## Signs -/

/-- What a JSON text is made of. -/
inductive Sign where
  | openArray
  | closeArray
  | openObject
  | closeObject
  | colon
  | comma
  /-- A string, without a text if half a character stands alone in it. -/
  | string (t : Option Text)
  | scalar (j : Json)

/-- The sign of a character that stands alone. -/
def Sign.ofChar? (c : Char) : Option Sign :=
  if c = '[' then some openArray
  else if c = ']' then some closeArray
  else if c = '{' then some openObject
  else if c = '}' then some closeObject
  else if c = ':' then some colon
  else if c = ',' then some comma
  else none

/-- The blanks of JSON. -/
def isGap (c : Char) : Bool := c = ' ' || c = '\t' || c = '\n' || c = '\r'

/-- A character that words and numbers are made of. -/
def isInner (c : Char) : Bool := (Sign.ofChar? c).isNone && !isGap c && c ≠ '"'

/-- The value of a word or a number. -/
def readWord? (t : Text) : Option Json :=
  if t = "null".toList then some null
  else if t = "true".toList then some (bool true)
  else if t = "false".toList then some (bool false)
  else readNumber? t

/-- The signs of a text. -/
def signs? : Text → Option (List Sign)
  | [] => some []
  | c :: r =>
    if isGap c then signs? r
    else
      match Sign.ofChar? c with
      | some s => (signs? r).map (s :: ·)
      | none =>
        if c = '"' then
          match _h : cutString r with
          | none => none
          | some (body, rest) => do
            let ps ← pieces? body
            let more ← signs? rest
            some (.string (join? ps) :: more)
        else do
          let j ← readWord? (c :: r.takeWhile isInner)
          let more ← signs? (r.dropWhile isInner)
          some (.scalar j :: more)
termination_by t => t.length
decreasing_by
  · simp
  · simp
  · have := cutString_length _h
    simp only [List.length_cons]
    omega
  · have := (List.dropWhile_suffix isInner (l := r)).length_le
    simp only [List.length_cons]
    omega

/-! ## The machine -/

/-- An array or object that is open, with its parts in reverse. An object also has the
name of the field that is being read. -/
inductive Frame where
  | items (done : List Json)
  | fields (done : List (Option Text × Json)) (name : Option Text)

/-- What may follow. -/
inductive Stage where
  | value
  | firstItem
  | firstName
  | name
  | colon
  | behind
  | whole (j : Json)

/-- The open arrays and objects, and what may follow. -/
structure Machine where
  frames : List Frame
  stage : Stage

namespace Machine

/-- The machine before the first sign. -/
def start : Machine := ⟨[], .value⟩

/-- The value of the fields of an object, which is unreadable if a name is. -/
def objectOf (done : List (Option Text × Json)) : Json :=
  match done.reverse.mapM fun (name, j) => name.map (·, j) with
  | some fs => object fs
  | none => unreadable

/-- The machine behind a value. -/
def place (j : Json) : List Frame → Machine
  | [] => ⟨[], .whole j⟩
  | .items done :: fs => ⟨.items (j :: done) :: fs, .behind⟩
  | .fields done name :: fs => ⟨.fields ((name, j) :: done) name :: fs, .behind⟩

/-- The machine inside a new array, inside a new object, or behind a value. -/
def takeValue (frames : List Frame) : Sign → Option Machine
  | .openArray => some ⟨.items [] :: frames, .firstItem⟩
  | .openObject => some ⟨.fields [] none :: frames, .firstName⟩
  | .string (some t) => some (place (string t) frames)
  | .string none => some (place unreadable frames)
  | .scalar j => some (place j frames)
  | _ => none

/-- The machine behind the array or object that ends. -/
def close : Sign → List Frame → Option Machine
  | .closeArray, .items done :: fs => some (place (array done.reverse) fs)
  | .closeObject, .fields done _ :: fs => some (place (objectOf done) fs)
  | _, _ => none

/-- The machine behind the name of a field. -/
def takeName : Sign → List Frame → Option Machine
  | .string name, .fields done _ :: fs => some ⟨.fields done name :: fs, .colon⟩
  | _, _ => none

/-- The machine behind one more sign. -/
def step (m : Machine) (s : Sign) : Option Machine :=
  match m.stage with
  | .value => takeValue m.frames s
  | .firstItem => close s m.frames <|> takeValue m.frames s
  | .firstName => close s m.frames <|> takeName s m.frames
  | .name => takeName s m.frames
  | .colon =>
    match s with
    | .colon => some ⟨m.frames, .value⟩
    | _ => none
  | .behind =>
    match s, m.frames with
    | .comma, .items _ :: _ => some ⟨m.frames, .value⟩
    | .comma, .fields _ _ :: _ => some ⟨m.frames, .name⟩
    | _, _ => close s m.frames
  | .whole _ => none

end Machine

/-- The value that a text names. -/
def read? (t : Text) : Option Json := do
  let signs ← signs? t
  let last ← signs.foldlM Machine.step .start
  match last.stage with
  | .whole j => some j
  | _ => none

end GraphText.Json
