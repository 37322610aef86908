-- Writing JSON without blanks. A float has a point or a power of ten, so that it does
-- not read as an integer, and what is no number is written as null.
import GraphText.Float64.Decimal
import GraphText.Json.Basic

namespace GraphText.Json

/-- Four hexadecimal digits. -/
def fourHex (n : Nat) : Text :=
  [hexDigit (n / 4096 % 16), hexDigit (n / 256 % 16), hexDigit (n / 16 % 16), hexDigit (n % 16)]

/-- A character inside a string. -/
def escaped (c : Char) : Text :=
  if c = '"' then ['\\', '"']
  else if c = '\\' then ['\\', '\\']
  else if c = '\x08' then ['\\', 'b']
  else if c = '\x0c' then ['\\', 'f']
  else if c = '\n' then ['\\', 'n']
  else if c = '\r' then ['\\', 'r']
  else if c = '\t' then ['\\', 't']
  else if c.toNat < 0x20 then ['\\', 'u'] ++ fourHex c.toNat
  else [c]

/-- A string. -/
def writeText (t : Text) : Text := ['"'] ++ t.flatMap escaped ++ ['"']

/-- A decimal that is not zero. The point stands among up to 16 places in front of it
or behind up to 4 zeros, and otherwise behind the first digit. -/
def writeDecimal (d : Decimal) : Text :=
  let shown := natText d.digits
  let point := shown.length + d.exponent
  if 0 ≤ d.exponent ∧ point ≤ 16 then
    shown ++ List.replicate d.exponent.toNat '0' ++ ['.', '0']
  else if 0 < point ∧ point ≤ 16 then
    shown.take point.toNat ++ ['.'] ++ shown.drop point.toNat
  else if -5 < point ∧ point ≤ 0 then
    ['0', '.'] ++ List.replicate (-point).toNat '0' ++ shown
  else
    shown.take 1 ++ (if shown.length = 1 then [] else '.' :: shown.drop 1) ++ ['e'] ++
      intText (point - 1)

/-- A float. -/
def writeFloat : Float64 → Text
  | .finite s m =>
    (if s then ['-'] else []) ++
      if m.units = 0 then ['0', '.', '0'] else writeDecimal (m.shortest .even)
  | _ => "null".toList

mutual

/-- A value in writing. -/
def write : Json → Text
  | null | unreadable => "null".toList
  | bool true => "true".toList
  | bool false => "false".toList
  | integer n => intText n
  | float x => writeFloat x
  | string t => writeText t
  | array items => ['['] ++ Text.joined [','] (writeItems items) ++ [']']
  | object fields => ['{'] ++ Text.joined [','] (writeFields fields) ++ ['}']

def writeItems : List Json → List Text
  | [] => []
  | j :: js => write j :: writeItems js

def writeFields : List (Text × Json) → List Text
  | [] => []
  | (name, j) :: fs => (writeText name ++ [':'] ++ write j) :: writeFields fs

end

end GraphText.Json
