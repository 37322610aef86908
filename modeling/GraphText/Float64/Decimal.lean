-- Floats in decimal digits. A text reads as the nearest float. A float is written in the
-- fewest digits that read back.
import GraphText.Float64.Basic
import GraphText.Text.Lowercase
import GraphText.Text.Number

namespace GraphText

-- Powers are those of the core library, whatever else is imported.
attribute [local instance (high)] instPowNat

/-! ## Reading

A sign, digits with or without a point, and a power of ten, or a word for infinity or for no
number. The value is rounded once. -/

namespace Float64

/-- Why a text is no float. -/
inductive Fault where
  | empty
  | invalid
  deriving DecidableEq

/-- The text without its sign, and whether the sign is a minus. -/
def cutSign : Text → Bool × Text
  | '-' :: r => (true, r)
  | '+' :: r => (false, r)
  | t => (false, t)

/-- A power of ten stops to grow once it is larger than any float can use. -/
def exponentValue (t : Text) : Nat :=
  t.foldl (fun n c => if n < 65536 then 10 * n + digitValue c else n) 0

/-- The power of ten behind the digits, which is nothing or a marker, a sign and digits. -/
def readExponent? : Text → Option Int
  | [] => some 0
  | c :: r =>
    let (negative, digits) := cutSign r
    if (c = 'e' || c = 'E') && !digits.isEmpty && digits.all isDigit then
      some (if negative then -(exponentValue digits : Int) else exponentValue digits)
    else none

/-- The places behind a point, and the text behind them. -/
def cutPlaces : Text → Text × Text
  | '.' :: r => (r.takeWhile isDigit, r.dropWhile isDigit)
  | t => ([], t)

/-- A number without its sign. -/
def readNumber? (negative : Bool) (t : Text) : Option Float64 :=
  let whole := t.takeWhile isDigit
  let (places, tail) := cutPlaces (t.dropWhile isDigit)
  if whole.isEmpty && places.isEmpty then none
  else
    (readExponent? tail).map fun e =>
      ofDecimal negative (digitsValue (whole ++ places)) (e - places.length)

/-- A word for a float, in any case. -/
def readWord? (negative : Bool) (t : Text) : Option Float64 :=
  let w := Text.lowerAscii t
  if w = "inf".toList ∨ w = "infinity".toList then some (infinite negative)
  else if w = "nan".toList then some nan
  else none

/-- The float that a text stands for. -/
def read (t : Text) : Except Fault Float64 :=
  if t.isEmpty then .error .empty
  else
    let (negative, rest) := cutSign t
    match readNumber? negative rest <|> readWord? negative rest with
    | some x => .ok x
    | none => .error .invalid

end Float64

/-! ## The fewest digits

Of all decimals with that many digits the nearest to the float is taken, and a format says where
a tie goes. -/

/-- Digits with a power of ten. -/
structure Decimal where
  digits : Nat
  exponent : Int
  deriving DecidableEq

/-- Where a decimal goes that lies between two others at the same distance. -/
inductive Tie where
  | up
  | even
  deriving DecidableEq

namespace Decimal

/-- How many digits a number has. -/
def width (n : Nat) : Nat := (natText n).length

/-- The decimal without zeros at its end, if it has no more than the given number. -/
def trimmed : Nat → Decimal → Decimal
  | 0, d => d
  | n + 1, d =>
    if d.digits ≠ 0 ∧ d.digits % 10 = 0 then trimmed n ⟨d.digits / 10, d.exponent + 1⟩ else d

end Decimal

namespace Magnitude

/-- The power of ten of the leading digit of a size that is not zero. -/
def leading (m : Magnitude) : Int :=
  Decimal.width (m.units * 10 ^ (400 : Nat) / 2 ^ (1074 : Nat)) - 401

/-- The decimal has this size. -/
def readsBack (m : Magnitude) (d : Decimal) : Bool :=
  Float64.ofDecimal false d.digits d.exponent = .finite false m

/-- The size as a fraction of a power of ten. -/
def scaled (m : Magnitude) (exponent : Int) : Nat × Nat :=
  if 0 ≤ exponent then (m.units, 2 ^ (1074 : Nat) * 10 ^ exponent.toNat)
  else (m.units * 10 ^ (-exponent).toNat, 2 ^ (1074 : Nat))

/-- The decimals on both sides of a size with the given power of ten, the nearer first. -/
def neighbours (m : Magnitude) (tie : Tie) (exponent : Int) : List Decimal :=
  let (num, den) := m.scaled exponent
  let low := num / den
  if den < 2 * (num % den) ∨ (2 * (num % den) = den ∧ (tie = .up ∨ low % 2 = 1)) then
    [⟨low + 1, exponent⟩, ⟨low, exponent⟩]
  else [⟨low, exponent⟩, ⟨low + 1, exponent⟩]

/-- All the digits of a size. -/
def exact (m : Magnitude) : Decimal := ⟨m.units * 5 ^ (1074 : Nat), -1074⟩

/-- The decimals with one digit, with two, and so on. Seventeen always suffice. -/
def candidates (m : Magnitude) (tie : Tie) : List Decimal :=
  (List.range 17).flatMap fun (n : Nat) => m.neighbours tie (m.leading - n)

/-- The shortest decimal that reads back as a size. -/
def shortest (m : Magnitude) (tie : Tie) : Decimal :=
  match (m.candidates tie).find? m.readsBack with
  | some d => d.trimmed (Decimal.width d.digits)
  | none => m.exact

end Magnitude

/-! ## Without a power of ten

As a literal shows floats: a point only in front of digits, a tie goes up, and words for what is
no number. -/

/-- The decimal with its point, or with the zeros that it stands for. -/
def Decimal.positional (d : Decimal) : Text :=
  let shown := natText d.digits
  if 0 ≤ d.exponent then shown ++ List.replicate d.exponent.toNat '0'
  else
    let places := (-d.exponent).toNat
    if places < shown.length then
      shown.take (shown.length - places) ++ ['.'] ++ shown.drop (shown.length - places)
    else ['0', '.'] ++ List.replicate (places - shown.length) '0' ++ shown

/-- The sign of a negative number. -/
def signText (negative : Bool) : Text := if negative then ['-'] else []

/-- The text of a float. -/
def Float64.display : Float64 → Text
  | nan => "NaN".toList
  | infinite s => signText s ++ "inf".toList
  | finite s m =>
    signText s ++ if m.units = 0 then ['0'] else (m.shortest .up).positional

end GraphText
