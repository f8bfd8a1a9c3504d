import Mosaic.Json.Value

/-!
Writing a JSON value as one line without blanks.  Strings escape only what must
be escaped, and members are written in the order they are held.
-/

namespace Mosaic
namespace Json

/-- Reals are written without an exponent from `10 ^ -5` up to `10 ^ 16`, whole
ones with a zero after the point; a positive exponent has its sign, and an
exact tie goes to the even digit. -/
def numberStyle : Decimal.Style where
  tie := .toEven
  positional place := -5 ≤ place && place < 16
  wholeMark := ".0"
  exponentMark := "+"

def integerText (value : Int) : String :=
  if value < 0 then "-" ++ Decimal.natText value.natAbs else Decimal.natText value.natAbs

/-- A number as written; what is not finite has no number text. -/
def numberText : Number → String
  | .integer value => integerText value
  | .real value => if value.isFinite then Decimal.text numberStyle value else "null"

def hexGlyph (value : Nat) : Char :=
  if value < 10 then Char.ofNat ('0'.toNat + value) else Char.ofNat ('a'.toNat + value - 10)

/-- One character between the quotes of a string. -/
def escapedGlyph (glyph : Char) : List Char :=
  if glyph = '"' then ['\\', '"']
  else if glyph = '\\' then ['\\', '\\']
  else if glyph = '\x08' then ['\\', 'b']
  else if glyph = '\t' then ['\\', 't']
  else if glyph = '\n' then ['\\', 'n']
  else if glyph = '\x0c' then ['\\', 'f']
  else if glyph = '\r' then ['\\', 'r']
  else if glyph.toNat < 0x20 then
    ['\\', 'u', '0', '0', hexGlyph (glyph.toNat / 16), hexGlyph (glyph.toNat % 16)]
  else [glyph]

def stringText (text : String) : String :=
  "\"" ++ String.ofList (text.toList.flatMap escapedGlyph) ++ "\""

mutual

def compact : Json → String
  | .null => "null"
  | .bool true => "true"
  | .bool false => "false"
  | .number value => numberText value
  | .string text => stringText text
  | .array items => "[" ++ compactItems items ++ "]"
  | .object members => "\x7b" ++ compactMembers members ++ "\x7d"

def compactItems : List Json → String
  | [] => ""
  | [item] => compact item
  | item :: next :: items => compact item ++ "," ++ compactItems (next :: items)

def compactMembers : List (String × Json) → String
  | [] => ""
  | [(key, value)] => stringText key ++ ":" ++ compact value
  | (key, value) :: next :: members =>
    stringText key ++ ":" ++ compact value ++ "," ++ compactMembers (next :: members)

end

end Json
end Mosaic
