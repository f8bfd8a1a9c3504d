import Mosaic.Unicode.Unprintable

/-!
Single characters inside messages stand between single quotes.  A character
that would be lost or misread there is written as an escape.
-/

namespace Mosaic
namespace Text

/-- The escape by code point, in lower-case hexadecimal without padding. -/
def codePointEscape (glyph : Char) : String :=
  "\\u\x7b" ++ String.ofList (Nat.toDigits 16 glyph.toNat) ++ "\x7d"

/-- The spelling of `glyph` between single quotes. -/
def escaped (glyph : Char) : String :=
  if glyph = '\x00' then "\\0"
  else if glyph = '\t' then "\\t"
  else if glyph = '\r' then "\\r"
  else if glyph = '\n' then "\\n"
  else if glyph = '\'' then "\\'"
  else if glyph = '\\' then "\\\\"
  else if Unicode.isUnprintable glyph then codePointEscape glyph
  else glyph.toString

/-- A character as messages show it. -/
def quoted (glyph : Char) : String :=
  "'" ++ escaped glyph ++ "'"

end Text
end Mosaic
