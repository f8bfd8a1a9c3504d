import Mosaic.Json.Document

/-!
Reading a JSON text.  Each reading function takes what lies ahead and answers
with what it read and what is left.  The grammar is the strict one: four kinds
of blank between tokens, no comments, no trailing commas, nothing after the
value.
-/

namespace Mosaic
namespace Json

/-- Blanks may stand around every token. -/
def isBlank (glyph : Char) : Bool :=
  glyph = ' ' || glyph = '\n' || glyph = '\t' || glyph = '\r'

def skipBlanks (text : List Char) : List Char :=
  text.dropWhile isBlank

/-! ## Strings -/

def hexDigit? (glyph : Char) : Option Nat :=
  if '0' ≤ glyph ∧ glyph ≤ '9' then some (glyph.toNat - '0'.toNat)
  else if 'a' ≤ glyph ∧ glyph ≤ 'f' then some (glyph.toNat - 'a'.toNat + 10)
  else if 'A' ≤ glyph ∧ glyph ≤ 'F' then some (glyph.toNat - 'A'.toNat + 10)
  else none

/-- The code unit written by four hexadecimal digits. -/
def codeUnit? (first second third fourth : Char) : Option Nat := do
  let first ← hexDigit? first
  let second ← hexDigit? second
  let third ← hexDigit? third
  let fourth ← hexDigit? fourth
  return first * 4096 + second * 256 + third * 16 + fourth

/-- The character meant by a letter after a backslash. -/
def shortEscape? (glyph : Char) : Option Char :=
  if glyph = '"' ∨ glyph = '\\' ∨ glyph = '/' then some glyph
  else if glyph = 'b' then some '\x08'
  else if glyph = 'f' then some '\x0c'
  else if glyph = 'n' then some '\n'
  else if glyph = 'r' then some '\r'
  else if glyph = 't' then some '\t'
  else none

/-- The rest of a string after its opening quote, up to its closing quote. -/
def readUnits? : List Char → Option (List StringUnit × List Char)
  | [] => none
  | '"' :: rest => some ([], rest)
  | '\\' :: 'u' :: first :: second :: third :: fourth :: rest =>
    match codeUnit? first second third fourth, readUnits? rest with
    | some code, some (units, left) => some (.code code :: units, left)
    | _, _ => none
  | '\\' :: letter :: rest =>
    match shortEscape? letter, readUnits? rest with
    | some value, some (units, left) => some (.glyph value :: units, left)
    | _, _ => none
  | glyph :: rest =>
    if glyph.toNat < 0x20 ∨ glyph = '\\' then none
    else (readUnits? rest).map fun result => (.glyph glyph :: result.1, result.2)

/-! ## Numbers -/

/-- The digits before the point.  A leading zero stands alone. -/
def readWhole? (text : List Char) : Option (List Char × List Char) :=
  match text with
  | '0' :: rest =>
    match rest with
    | [] => some (['0'], [])
    | next :: _ => if Decimal.isDigit next then none else some (['0'], rest)
  | _ =>
    let digits := text.takeWhile Decimal.isDigit
    if digits.isEmpty then none else some (digits, text.dropWhile Decimal.isDigit)

/-- The digits after a point, or nothing where no point stands. -/
def readFraction? (text : List Char) : Option (List Char × List Char) :=
  match text with
  | '.' :: rest =>
    let digits := rest.takeWhile Decimal.isDigit
    if digits.isEmpty then none else some (digits, rest.dropWhile Decimal.isDigit)
  | _ => some ([], text)

/-- The sign and digits after an exponent mark. -/
def readExponentDigits? (negative : Bool) (text : List Char) :
    Option (ExponentLiteral × List Char) :=
  let digits := text.takeWhile Decimal.isDigit
  if digits.isEmpty then none
  else some (⟨negative, digits⟩, text.dropWhile Decimal.isDigit)

/-- An exponent, or nothing where no exponent mark stands. -/
def readExponent? (text : List Char) : Option (Option ExponentLiteral × List Char) :=
  match text with
  | mark :: rest =>
    if mark = 'e' ∨ mark = 'E' then
      let read := match rest with
        | '-' :: digits => readExponentDigits? true digits
        | '+' :: digits => readExponentDigits? false digits
        | _ => readExponentDigits? false rest
      read.map fun result => (some result.1, result.2)
    else some (none, text)
  | [] => some (none, [])

def readUnsigned? (negative : Bool) (text : List Char) :
    Option (NumberLiteral × List Char) := do
  let (whole, afterWhole) ← readWhole? text
  let (fraction, afterFraction) ← readFraction? afterWhole
  let (exponent, left) ← readExponent? afterFraction
  return (⟨negative, whole, fraction, exponent⟩, left)

def readNumber? (text : List Char) : Option (NumberLiteral × List Char) :=
  match text with
  | '-' :: rest => readUnsigned? true rest
  | _ => readUnsigned? false text

/-! ## Values -/

mutual

/-- A value that starts at the next token.  The first argument bounds the
nesting of calls; each level of nesting and each list entry uses two. -/
def readValue? : Nat → List Char → Option (Document × List Char)
  | 0, _ => none
  | depth + 1, text =>
    match skipBlanks text with
    | 'n' :: 'u' :: 'l' :: 'l' :: rest => some (.null, rest)
    | 't' :: 'r' :: 'u' :: 'e' :: rest => some (.bool true, rest)
    | 'f' :: 'a' :: 'l' :: 's' :: 'e' :: rest => some (.bool false, rest)
    | '"' :: rest => (readUnits? rest).map fun result => (.string result.1, result.2)
    | '[' :: rest =>
      match skipBlanks rest with
      | ']' :: left => some (.array [], left)
      | _ => (readItems? depth rest).map fun result => (.array result.1, result.2)
    | '\x7b' :: rest =>
      match skipBlanks rest with
      | '\x7d' :: left => some (.object [], left)
      | _ => (readMembers? depth rest).map fun result => (.object result.1, result.2)
    | other => (readNumber? other).map fun result => (.number result.1, result.2)

/-- The items of an array that is not empty, with the closing bracket. -/
def readItems? : Nat → List Char → Option (List Document × List Char)
  | 0, _ => none
  | depth + 1, text =>
    match readValue? depth text with
    | none => none
    | some (item, afterItem) =>
      match skipBlanks afterItem with
      | ']' :: left => some ([item], left)
      | ',' :: rest => (readItems? depth rest).map fun result => (item :: result.1, result.2)
      | _ => none

/-- The members of an object that is not empty, with the closing brace. -/
def readMembers? : Nat → List Char → Option (List (List StringUnit × Document) × List Char)
  | 0, _ => none
  | depth + 1, text =>
    match skipBlanks text with
    | '"' :: afterQuote =>
      match readUnits? afterQuote with
      | none => none
      | some (key, afterKey) =>
        match skipBlanks afterKey with
        | ':' :: rest =>
          match readValue? depth rest with
          | none => none
          | some (value, afterValue) =>
            match skipBlanks afterValue with
            | '\x7d' :: left => some ([(key, value)], left)
            | ',' :: more =>
              (readMembers? depth more).map fun result => ((key, value) :: result.1, result.2)
            | _ => none
        | _ => none
    | _ => none

end

/-- A whole text as one document.  Twice the length of the text bounds every
nesting it can hold. -/
def read? (text : List Char) : Option Document :=
  match readValue? (2 * text.length + 2) text with
  | some (document, left) => if (skipBlanks left).isEmpty then some document else none
  | none => none

end Json
end Mosaic
