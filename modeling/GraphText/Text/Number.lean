-- Numbers in texts: decimal digits, whole numbers of 64 bits, and bytes in hexadecimal
-- digits.
import GraphText.Text.Quoted

namespace GraphText

-- Powers are those of the core library, whatever else is imported.
attribute [local instance (high)] instPowNat

/-! ## Digits -/

/-- A decimal digit. -/
def isDigit (c : Char) : Bool := '0' ≤ c && c ≤ '9'

/-- The value of a digit. -/
def digitValue (c : Char) : Nat := c.toNat - '0'.toNat

/-- The number that digits make. -/
def digitsValue (t : Text) : Nat := t.foldl (fun n c => 10 * n + digitValue c) 0

/-- A number in decimal digits. -/
def natText (n : Nat) : Text := Nat.toDigits 10 n

/-- A whole number in decimal digits, with a minus if it is negative. -/
def intText (n : Int) : Text := if n < 0 then '-' :: natText n.natAbs else natText n.natAbs

/-! ## Whole numbers

An optional sign and digits. The digits are read from the left, and the first that is none, or
that leaves the range, decides. -/

namespace Int64

/-- Why a text is no whole number of 64 bits. -/
inductive Fault where
  | empty
  | invalidDigit
  | tooLarge
  | tooSmall
  deriving DecidableEq

/-- The words for a fault. -/
def Fault.message : Fault → Text
  | empty => "cannot parse integer from empty string".toList
  | invalidDigit => "invalid digit found in string".toList
  | tooLarge => "number too large to fit in target type".toList
  | tooSmall => "number too small to fit in target type".toList

/-- The number that more digits make, as long as it is within the limit. -/
def number (limit : Nat) (beyond : Fault) : Nat → Text → Except Fault Nat
  | n, [] => .ok n
  | n, c :: r =>
    if !isDigit c then .error .invalidDigit
    else if limit < 10 * n + digitValue c then .error beyond
    else number limit beyond (10 * n + digitValue c) r

/-- The number that one digit or more make. -/
def digits (limit : Nat) (beyond : Fault) (t : Text) : Except Fault Nat :=
  if t.isEmpty then .error .invalidDigit else number limit beyond 0 t

/-- The number that a text names. -/
def read : Text → Except Fault Int64
  | [] => .error .empty
  | '-' :: r => (digits (2 ^ (63 : Nat)) .tooSmall r).map fun n => Int64.ofInt (-n)
  | '+' :: r => (digits (2 ^ (63 : Nat) - 1) .tooLarge r).map Int64.ofNat
  | t => (digits (2 ^ (63 : Nat) - 1) .tooLarge t).map Int64.ofNat

end Int64

/-! ## Bytes

Two digits for every byte. Both cases are read, and small letters are written. -/

namespace Hex

/-- Why a text is no run of bytes. A character of several bytes is at fault with the
first of them. -/
inductive Fault where
  | odd
  | invalid (byte : Char) (position : Nat)
  deriving DecidableEq

/-- The words for a fault. -/
def Fault.message : Fault → Text
  | odd => "Odd number of digits".toList
  | invalid c n =>
    "Invalid character ".toList ++ quotedChar c ++ " at position ".toList ++ natText n

/-- The value of a digit of either case. -/
def value? (c : Char) : Option Nat :=
  if '0' ≤ c ∧ c ≤ '9' then some (c.toNat - '0'.toNat)
  else if 'a' ≤ c ∧ c ≤ 'f' then some (c.toNat - 'a'.toNat + 10)
  else if 'A' ≤ c ∧ c ≤ 'F' then some (c.toNat - 'A'.toNat + 10)
  else none

/-- The first byte of a character in UTF-8. -/
def leadByte (c : Char) : Char :=
  if c.toNat < 0x80 then c
  else if c.toNat < 0x800 then Char.ofNat (0xc0 + c.toNat / 0x40)
  else if c.toNat < 0x10000 then Char.ofNat (0xe0 + c.toNat / 0x1000)
  else Char.ofNat (0xf0 + c.toNat / 0x40000)

/-- The value of the digit at a position. -/
def digit (c : Char) (position : Nat) : Except Fault Nat :=
  match value? c with
  | some v => .ok v
  | none => .error (.invalid (leadByte c) position)

/-- The bytes of pairs of digits, the first of which stands at the given position. -/
def pairs (position : Nat) : Text → Except Fault (List UInt8)
  | [] => .ok []
  | [c] => (digit c position).map fun _ => []
  | a :: b :: r => do
    let high ← digit a position
    let low ← digit b (position + 1)
    let more ← pairs (position + 2) r
    .ok (UInt8.ofNat (16 * high + low) :: more)

/-- The bytes that a text names. -/
def decode (t : Text) : Except Fault (List UInt8) :=
  if Text.byteLength t % 2 = 1 then .error .odd else pairs 0 t

/-- The two digits of a byte. -/
def byteText (b : UInt8) : Text := [hexDigit (b.toNat / 16), hexDigit (b.toNat % 16)]

/-- The digits of a run of bytes. -/
def encode (bytes : List UInt8) : Text := bytes.flatMap byteText

end Hex

end GraphText
