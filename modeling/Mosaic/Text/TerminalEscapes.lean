/-!
Text pasted from a terminal carries control sequences: colours, window titles,
device strings.  This module removes them the way a terminal would, so that
only the characters it would draw remain, and line feeds.

Outside a sequence the text is read by characters.  Inside one it is read by
the bytes of its UTF-8 form, because the byte that ends a device-control string
may lie in the middle of a character; the bytes of that character which are
left over are then stray.
-/

namespace Mosaic
namespace Text

/-- Where the reader stands in a control sequence. -/
inductive EscapeState where
  /-- Outside every sequence. -/
  | ground
  /-- After the escape character. -/
  | escape
  /-- In a short sequence, after an intermediate byte. -/
  | escapeIntermediate
  /-- At the start of a control sequence proper. -/
  | controlEntry
  /-- Among the parameters of a control sequence. -/
  | controlParameter
  /-- Among the intermediate bytes of a control sequence. -/
  | controlIntermediate
  /-- In a malformed control sequence, up to its end. -/
  | controlIgnored
  /-- At the start of a device-control string. -/
  | deviceEntry
  /-- Among the parameters of a device-control string. -/
  | deviceParameter
  /-- Among the intermediate bytes of a device-control string. -/
  | deviceIntermediate
  /-- In a malformed device-control string. -/
  | deviceIgnored
  /-- In the body of a device-control string. -/
  | deviceBody
  /-- In an operating-system command. -/
  | systemCommand
  /-- In a start-of-string, privacy or application string. -/
  | otherString
  deriving DecidableEq, Repr

namespace EscapeState

/-- The state after `byte` where none of the bytes that act everywhere is
meant.  A byte without a meaning in its state is passed over. -/
def continued (state : EscapeState) (byte : Nat) : EscapeState :=
  let intermediate : Bool := 0x20 ≤ byte && byte ≤ 0x2F
  let parameter : Bool := 0x30 ≤ byte && byte ≤ 0x3F
  let final : Bool := 0x40 ≤ byte && byte ≤ 0x7E
  match state with
  | ground => ground
  | escape =>
    if intermediate then escapeIntermediate
    else if byte = 0x50 then deviceEntry
    else if byte = 0x5B then controlEntry
    else if byte = 0x5D then systemCommand
    else if byte = 0x58 ∨ byte = 0x5E ∨ byte = 0x5F then otherString
    else if parameter || final then ground
    else escape
  | escapeIntermediate => if parameter || final then ground else escapeIntermediate
  | controlEntry =>
    if intermediate then controlIntermediate
    else if parameter then controlParameter
    else if final then ground
    else controlEntry
  | controlParameter =>
    if intermediate then controlIntermediate
    else if 0x3C ≤ byte ∧ byte ≤ 0x3F then controlIgnored
    else if final then ground
    else controlParameter
  | controlIntermediate =>
    if parameter then controlIgnored
    else if final then ground
    else controlIntermediate
  | controlIgnored => if final then ground else controlIgnored
  | deviceEntry =>
    if intermediate then deviceIntermediate
    else if parameter then deviceParameter
    else if final then deviceBody
    else deviceEntry
  | deviceParameter =>
    if intermediate then deviceIntermediate
    else if 0x3C ≤ byte ∧ byte ≤ 0x3F then deviceIgnored
    else if final then deviceBody
    else deviceParameter
  | deviceIntermediate =>
    if parameter then deviceIgnored
    else if final then deviceBody
    else deviceIntermediate
  | deviceIgnored => deviceIgnored
  | deviceBody => if byte = 0x9C then ground else deviceBody
  | systemCommand => if byte = 0x07 then ground else systemCommand
  | otherString => otherString

/-- The state after `byte`.  Cancel and substitute end every sequence, and the
escape character starts a new one. -/
def next (state : EscapeState) (byte : Nat) : EscapeState :=
  if byte = 0x18 ∨ byte = 0x1A then ground
  else if byte = 0x1B then escape
  else state.continued byte

/-- Is a line feed inside the sequence obeyed at once?  It is part of the text
of a string, and dropped with it. -/
def obeysLineFeed : EscapeState → Bool
  | escape | escapeIntermediate => true
  | controlEntry | controlParameter | controlIntermediate | controlIgnored => true
  | _ => false

/-- One byte of a character that did not start outside every sequence: the
state after it and what is drawn.  Where the sequence has already ended the
byte is stray; as a control it is dropped, and otherwise drawn as the
replacement character. -/
def feed (state : EscapeState) (byte : Nat) : EscapeState × List Char :=
  match state with
  | ground => (ground, if byte ≤ 0x9F then [] else ['\uFFFD'])
  | inside =>
    (inside.next byte, if byte = 0x0A && inside.obeysLineFeed then ['\n'] else [])

def feedAll (state : EscapeState) : List UInt8 → EscapeState × List Char
  | [] => (state, [])
  | byte :: bytes =>
    let first := state.feed byte.toNat
    let rest := first.1.feedAll bytes
    (rest.1, first.2 ++ rest.2)

end EscapeState

/-- Control characters other than the line feed, in both control ranges. -/
def isDroppedControl (glyph : Char) : Bool :=
  (glyph.toNat < 0x20 && glyph ≠ '\n') || (0x80 ≤ glyph.toNat && glyph.toNat ≤ 0x9F)

/-- What is drawn of a text that is read from `state` on. -/
def drawnFrom : EscapeState → List Char → List Char
  | _, [] => []
  | .ground, glyph :: text =>
    if glyph = '\x1b' then drawnFrom .escape text
    else if isDroppedControl glyph then drawnFrom .ground text
    else glyph :: drawnFrom .ground text
  | state, glyph :: text =>
    let fed := state.feedAll (String.utf8EncodeChar glyph)
    fed.2 ++ drawnFrom fed.1 text

/-- A text without its terminal control sequences and control characters; line
feeds stay.  An unfinished sequence swallows the rest. -/
def withoutEscapes (text : List Char) : List Char :=
  drawnFrom .ground text

/-- Text without control characters is drawn as it is. -/
theorem withoutEscapes_eq_self {text : List Char}
    (plain : ∀ glyph ∈ text, isDroppedControl glyph = false) : withoutEscapes text = text := by
  unfold withoutEscapes
  induction text with
  | nil => rfl
  | cons glyph text ih =>
    have here := plain glyph List.mem_cons_self
    have later := ih fun other member => plain other (List.mem_cons_of_mem _ member)
    have started : glyph ≠ '\x1b' := by
      rintro rfl
      exact absurd here (by decide)
    simp [drawnFrom, started, here, later]

end Text
end Mosaic
