import Mosaic.Json.Document
import Mosaic.Table

/-!
JSON values.  Where a document keeps its text as written, a value has read all
of it: numbers are numbers, strings are text, and the members of an object that
came from a document are in the order of their names, the last of several
members of one name standing for all of them.
-/

namespace Mosaic

inductive Json where
  | null
  | bool (value : Bool)
  | number (value : Json.Number)
  | string (text : String)
  | array (items : List Json)
  | object (members : List (String × Json))
  deriving Repr, Inhabited

namespace Json

def ofNat (count : Nat) : Json :=
  .number (.integer count)

/-- A real number as a value; there is none for infinities and not-a-number. -/
def ofFloat (real : Float) : Json :=
  if real.isFinite then .number (.real real) else .null

/-- A real number that may be missing. -/
def ofFloat? : Option Float → Json
  | some real => ofFloat real
  | none => .null

mutual

/-- The value of a document, if all its numbers and strings have one. -/
def ofDocument? : Document → Option Json
  | .null => some .null
  | .bool value => some (.bool value)
  | .number literal => literal.value?.map .number
  | .string units => (textOfUnits? units).map fun text => .string (String.ofList text)
  | .array items => (ofItems? items).map .array
  | .object members => (ofMembers? members).map fun read => .object (Table.ofEntries read)

def ofItems? : List Document → Option (List Json)
  | [] => some []
  | item :: items =>
    match ofDocument? item, ofItems? items with
    | some value, some values => some (value :: values)
    | _, _ => none

def ofMembers? : List (List StringUnit × Document) → Option (List (String × Json))
  | [] => some []
  | (units, document) :: members =>
    match textOfUnits? units, ofDocument? document, ofMembers? members with
    | some key, some value, some rest => some ((String.ofList key, value) :: rest)
    | _, _, _ => none

end

mutual

/-- How many arrays and objects lie within one another. -/
def nesting : Document → Nat
  | .array items => 1 + nestingOfItems items
  | .object members => 1 + nestingOfMembers members
  | _ => 0

def nestingOfItems : List Document → Nat
  | [] => 0
  | item :: items => max (nesting item) (nestingOfItems items)

def nestingOfMembers : List (List StringUnit × Document) → Nat
  | [] => 0
  | (_, value) :: members => max (nesting value) (nestingOfMembers members)

end

end Json
end Mosaic
