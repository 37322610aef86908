-- Timestamps: instants in writing. They are written and read with a fixed width for every
-- part, and stored data may write them loosely.
import GraphText.Instant.Basic
import GraphText.Text.Lowercase
import GraphText.Text.Number

namespace GraphText

-- Powers are those of the core library, whatever else is imported.
attribute [local instance (high)] instPowNat

/-! ## Writing

The day and the time with a T between them and a Z behind them. A fraction has three, six or
nine places, as many as it needs. Years of more or fewer than four digits, and those before
zero, have a sign. -/

/-- A number in at least so many digits. -/
def padded (width n : Nat) : Text :=
  List.replicate (width - (natText n).length) '0' ++ natText n

/-- A year, which has a sign where four digits do not hold it. -/
def yearText (y : Int) : Text :=
  if 0 ≤ y ∧ y ≤ 9999 then padded 4 y.toNat
  else (if y < 0 then '-' else '+') :: padded 4 y.natAbs

/-- A fraction of a second, or nothing. -/
def fractionText (nanos : Nat) : Text :=
  if nanos = 0 then []
  else if nanos % 1000000 = 0 then '.' :: padded 3 (nanos / 1000000)
  else if nanos % 1000 = 0 then '.' :: padded 6 (nanos / 1000)
  else '.' :: padded 9 nanos

/-- The day, with dashes. -/
def Date.display (d : Date) : Text :=
  yearText d.year ++ ['-'] ++ padded 2 d.month.toNat ++ ['-'] ++ padded 2 d.day.toNat

/-- The instant in universal time. -/
def Instant.display (i : Instant) : Text :=
  i.date.display ++ ['T'] ++ padded 2 (i.ofDay / 3600).toNat ++ [':'] ++
    padded 2 (i.ofDay / 60 % 60).toNat ++ [':'] ++ padded 2 i.ofMinute.toNat ++
    fractionText i.ofSecond ++ ['Z']

/-! ## Reading

A day, a T or a blank, a time, perhaps a fraction, and how far the clock is off. The parts are
read from the left, and the first that fails says what is wrong. Last of all the clock is set
right. -/

namespace Instant

/-- Why a text is no timestamp. -/
inductive Fault where
  | tooShort
  | invalid
  | outOfRange
  | trailing
  deriving DecidableEq

/-- The words for a fault. -/
def Fault.message : Fault → Text
  | tooShort => "premature end of input".toList
  | invalid => "input contains invalid characters".toList
  | outOfRange => "input is out of range".toList
  | trailing => "trailing input".toList

/-- The number that the next digits make, and the text behind them. -/
def number : (digits value : Nat) → Text → Except Fault (Nat × Text)
  | 0, value, t => .ok (value, t)
  | _ + 1, _, [] => .error .tooShort
  | n + 1, value, c :: r =>
    if isDigit c then number n (10 * value + digitValue c) r else .error .invalid

/-- The text behind one of the given characters. -/
def sign (allowed : Text) : Text → Except Fault Text
  | [] => .error .tooShort
  | c :: r => if c ∈ allowed then .ok r else .error .invalid

/-- The nanoseconds that the places behind a point make. Places behind the ninth are
passed over. -/
def places (t : Text) : Except Fault (Nat × Text) :=
  let digits := t.takeWhile isDigit
  if t.isEmpty then .error .tooShort
  else if digits.isEmpty then .error .invalid
  else .ok (digitsValue (digits.take 9) * 10 ^ (9 - digits.length), t.dropWhile isDigit)

/-- The nanoseconds behind a second, if there is a point. -/
def fraction : Text → Except Fault (Nat × Text)
  | '.' :: r => places r
  | t => .ok (0, t)

/-- The next two digits. A character of several bytes is not too short to be two. -/
def pair : Text → Except Fault (Nat × Nat × Text)
  | [] => .error .tooShort
  | [c] => .error (if c.utf8Size = 1 then .tooShort else .invalid)
  | a :: b :: r =>
    if isDigit a && isDigit b then .ok (digitValue a, digitValue b, r) else .error .invalid

/-- Hours and minutes behind a sign, in seconds. -/
def clockOffset (t : Text) : Except Fault (Int × Text) := do
  let (a, b, t) ← pair t
  let t ← sign [':'] t
  let (c, d, t) ← pair t
  if 6 ≤ c then .error .outOfRange
  else .ok (((10 * a + b) * 3600 + (10 * c + d) * 60 : Nat), t)

/-- How far the clock is ahead of universal time, in seconds. -/
def zone : Text → Except Fault (Int × Text)
  | [] => .error .tooShort
  | c :: r =>
    if c = 'Z' || c = 'z' then .ok (0, r)
    else if c = '+' then clockOffset r
    else if c = '-' || c = '\u2212' then do
      let (seconds, t) ← clockOffset r
      .ok (-seconds, t)
    else .error .invalid

/-- The value, or a fault if there is none. -/
def orFault (f : Fault) : Option α → Except Fault α
  | some a => .ok a
  | none => .error f

/-- The clock at the front of a text, how far it is ahead of universal time, and the
text behind both. -/
def readFront (t : Text) : Except Fault (Instant × Int × Text) := do
  if Text.byteLength t < 19 then .error .tooShort
  let (year, t) ← number 4 0 t
  let t ← sign ['-'] t
  let (month, t) ← number 2 0 t
  let t ← sign ['-'] t
  let (day, t) ← number 2 0 t
  let date : Date := ⟨year, month, day⟩
  if ¬ date.Stands then .error .outOfRange
  let t ← sign ['T', 't', ' '] t
  let (hour, t) ← number 2 0 t
  let t ← sign [':'] t
  let (minute, t) ← number 2 0 t
  let t ← sign [':'] t
  let (second, t) ← number 2 0 t
  let (nanos, t) ← fraction t
  let clock ← orFault .outOfRange (ofClock? date hour minute second nanos)
  let (ahead, t) ← zone t
  .ok (clock, ahead, t)

/-- The instant that a whole text names. Nothing may follow, and only then does it count
how far the clock is ahead. -/
def read (t : Text) : Except Fault Instant := do
  let (clock, ahead, rest) ← readFront t
  if rest.isEmpty then orFault .outOfRange (clock.universal? ahead) else .error .trailing

end Instant

/-! ## Reading loosely

Blanks between the parts, numbers without zeros in front, years with a sign and any number of
digits, and an offset without a colon. -/

namespace Instant

/-- The number that at least one and at most so many digits make. -/
def looseNumber? (most : Nat) (t : Text) : Option (Nat × Text) :=
  let digits : Text := (t.takeWhile isDigit).take most
  if digits.isEmpty then none else some (digitsValue digits, t.drop digits.length)

/-- A number behind blanks. -/
def looseField? (most : Nat) (t : Text) : Option (Nat × Text) :=
  looseNumber? most (Text.trimStart t)

/-- A year behind blanks. Only a year with a sign may have more than four digits. -/
def looseYear? (t : Text) : Option (Int × Text) :=
  match Text.trimStart t with
  | '-' :: r => (looseNumber? r.length r).map fun (n, t) => (-(n : Int), t)
  | '+' :: r => (looseNumber? r.length r).map fun (n, t) => ((n : Int), t)
  | t => (looseNumber? 4 t).map fun (n, t) => ((n : Int), t)

/-- The text behind a mark that blanks may precede. -/
def looseMark? (c : Char) (t : Text) : Option Text :=
  match Text.trimStart t with
  | d :: r => if d = c then some r else none
  | [] => none

/-- The text behind one of the marks between day and time. -/
def dayMark? : Text → Option Text
  | c :: r => if c = 'T' || c = 't' || c = ' ' then some r else none
  | [] => none

/-- Hours and minutes behind a sign, with any colons and blanks between them. -/
def looseClock? (t : Text) : Option (Int × Text) := do
  let (a, b, t) ← (pair t).toOption
  let (c, d, t) ← (pair (t.dropWhile fun c => c = ':' || isBlank c)).toOption
  if 6 ≤ c then none else some (((10 * a + b) * 3600 + (10 * c + d) * 60 : Nat), t)

/-- How far the clock is ahead of universal time, which has a name of its own here. -/
def looseZone? (t : Text) : Option (Int × Text) :=
  if Text.lowerAscii (t.take 3) = "utc".toList then some (0, t.drop 3)
  else
    match t with
    | [] => none
    | c :: r =>
      if c = 'Z' || c = 'z' then some (0, r)
      else if c = '+' then looseClock? r
      else if c = '-' || c = '\u2212' then (looseClock? r).map fun (s, t) => (-s, t)
      else none

/-- The instant that a text names, loosely written. -/
def readLoosely? (t : Text) : Option Instant := do
  let (year, t) ← looseYear? t
  let t ← looseMark? '-' t
  let (month, t) ← looseField? 2 t
  let t ← looseMark? '-' t
  let (day, t) ← looseField? 2 t
  let t ← dayMark? t
  let (hour, t) ← looseField? 2 t
  let t ← looseMark? ':' t
  let (minute, t) ← looseField? 2 t
  let t ← looseMark? ':' t
  let (second, t) ← looseField? 2 t
  let (nanos, t) ← (fraction t).toOption
  let clock ← ofClock? ⟨year, month, day⟩ hour minute second nanos
  let (ahead, t) ← looseZone? (Text.trimStart t)
  let instant ← clock.universal? ahead
  if (Text.trimStart t).isEmpty then some instant else none

end Instant

end GraphText
