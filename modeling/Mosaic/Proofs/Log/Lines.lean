import Mosaic.Log.Logger
import Mosaic.Proofs.Json.Values
import Mosaic.Proofs.Text.Bytes

/-!
# Logs told apart into lines, and lines read back

A log is a run of records without any mark between them but the line feeds that they end with.  It
can be taken apart again because the text of a record has no line feed of its own: strings escape
theirs, however deep they lie in the fields.  So what was written is told apart by its line feeds
into one line for each event that was passed on, in their order.

Each line is read back as the event.  Its fields are held in the order of their names, and are
found in that order; an event without fields has no such member.  The time is told by its digits,
of which there may be more than fit in a machine word.
-/

namespace Mosaic

open Json

/-! ## Reading an event -/

namespace Json.Document

/-- The document under a name, the last one of several. -/
def member? (document : Document) (name : String) : Option Document :=
  match document with
  | .object members =>
    (members.reverse.find? fun member => textOfUnits? member.1 = some name.toList).map Prod.snd
  | _ => none

def text? : Document → Option String
  | .string units => (textOfUnits? units).map String.ofList
  | _ => none

/-- A count, which may be larger than a machine word. -/
def count? : Document → Option Nat
  | .number literal =>
    if literal.isWhole && !literal.negative then some (Decimal.digitsValue literal.whole) else none
  | _ => none

end Json.Document

namespace LogEvent

/-- The fields of an event; there are none where they are not mentioned. -/
def fieldsOf? (document : Document) : Option (Table String Json) :=
  match document.member? "fields" with
  | none => some []
  | some given =>
    match Json.ofDocument? given with
    | some (.object fields) => some fields
    | _ => none

/-- An event read from a document. -/
def ofDocument? (document : Document) : Option LogEvent := do
  let time ← (← document.member? "ts_ms").count?
  let level ← LogLevel.ofName? (← (← document.member? "level").text?)
  let target ← (← document.member? "target").text?
  let message ← (← document.member? "message").text?
  let fields ← fieldsOf? document
  return { time, level, target, message, fields }

/-- Is a line the record of an event?  It is read as one document, from which the event is told.
It mentions fields if there are any, and they lie one level deep in it. -/
structure IsWrittenAs (event : LogEvent) (line : String) : Prop where
  nonempty : line ≠ ""
  read : ∃ document, read? line.toList = some document ∧ ofDocument? document = some event ∧
    (document.member? "fields" = none ↔ event.fields = []) ∧
      nesting document =
        1 + if event.fields = [] then 0 else nesting (Json.object event.fields).document

/-- An event as it is held: its fields are in the order of their names. -/
def Held (event : LogEvent) : Prop :=
  (Json.object event.fields).Held

/-- The real numbers in the fields of an event. -/
def reals (event : LogEvent) : List Float :=
  (Json.object event.fields).reals

/-- Fields in any order make an event that can be held. -/
theorem held_withFields (time : Nat) (level : LogLevel) (target message : String)
    {fields : List (String × Json)} (each : ∀ field ∈ fields, field.2.Held) :
    (withFields time level target message fields).Held := by
  refine .object (Table.ascending_ofEntries fields) fun field member => ?_
  have listed : field ∈ Table.putAll [] fields := member
  rcases Table.mem_of_mem_putAll listed with none | given
  · cases none
  · exact each field given

/-! ## One line -/

theorem member?_document (members : List (String × Json)) (name : String) :
    (Json.object members).document.member? name =
      (members.reverse.find? fun member => member.1 = name).map fun member =>
        member.2.document := by
  have named (member : String × Json) :
      textOfUnits? (member.1.toList.map unitOf) = some name.toList ↔ member.1 = name := by
    rw [textOfUnits?_map_unitOf, Option.some.injEq, String.toList_inj]
  rw [document, documentMembers_eq_map, Document.member?, ← List.map_reverse, List.find?_map,
    Option.map_map]
  simp only [Function.comp_def, named]

theorem text?_document (text : String) : (Json.string text).document.text? = some text := by
  rw [document, Document.text?, textOfUnits?_map_unitOf, Option.map_some, String.ofList_toList]

/-- A count is told by its digits, however many there are. -/
theorem count?_document (count : Nat) : (Json.ofNat count).document.count? = some count := by
  have whole : (integerLiteral count).isWhole = true := rfl
  have sign : (integerLiteral count).negative = false :=
    decide_eq_false (Int.not_lt.2 (Int.natCast_nonneg count))
  rw [Json.ofNat, document, numberDocument_integer, Document.count?, whole, sign]
  exact congrArg some (Decimal.digitsValue_digitsOf count)

theorem ofName?_name (level : LogLevel) : LogLevel.ofName? level.name = some level := by
  cases level <;> decide

variable (event : LogEvent)

/-- What a reader finds under the names of a record. -/
theorem member?_toJson :
    event.toJson.document.member? "ts_ms" = some (Json.ofNat event.time).document ∧
      event.toJson.document.member? "level" = some (Json.string event.level.name).document ∧
      event.toJson.document.member? "target" = some (Json.string event.target).document ∧
      event.toJson.document.member? "message" = some (Json.string event.message).document ∧
      event.toJson.document.member? "fields" =
        if event.fields = [] then none else some (Json.object event.fields).document := by
  unfold toJson
  cases event.fields with
  | nil => simp [member?_document]
  | cons field fields => simp [member?_document]

theorem nesting_toJson :
    nesting event.toJson.document =
      1 + if event.fields = [] then 0 else nesting (Json.object event.fields).document := by
  have time : nesting (Json.ofNat event.time).document = 0 := by
    rw [Json.ofNat, document, numberDocument_integer]
    rfl
  have text (text : String) : nesting (Json.string text).document = 0 := by
    rw [document]
    rfl
  have whole (members : List (String × Json)) :
      nesting (Json.object members).document = 1 + nestingOfMembers (documentMembers members) := by
    rw [document]
    rfl
  unfold toJson
  rw [whole]
  cases event.fields with
  | nil =>
    simp only [List.isEmpty_nil, if_true, List.append_nil, documentMembers, nestingOfMembers, time,
      text, Nat.max_self]
  | cons field fields =>
    simp only [List.isEmpty_cons, List.cons_append, List.nil_append, documentMembers,
      nestingOfMembers, time, text, Nat.zero_max, Nat.max_zero, if_false, reduceCtorEq,
      Bool.false_eq_true]

variable {event : LogEvent}

theorem fieldsOf?_toJson (held : event.Held)
    (readsBack : ∀ value ∈ event.reals, ReadsBack value) :
    fieldsOf? event.toJson.document = some event.fields := by
  rcases event.member?_toJson with ⟨-, -, -, -, fields⟩
  unfold fieldsOf?
  rw [fields]
  by_cases none : event.fields = []
  · rw [if_pos none, none]
  · rw [if_neg none]
    dsimp only
    rw [Json.Held.ofDocument?_document held readsBack]

/-- An event is read back from its line. -/
theorem isWrittenAs_compact (held : event.Held)
    (readsBack : ∀ value ∈ event.reals, ReadsBack value) :
    event.IsWrittenAs event.toJson.compact := by
  rcases event.member?_toJson with ⟨time, level, target, message, fields⟩
  refine ⟨?_, event.toJson.document, read?_compact event.toJson, ?_, ?_, event.nesting_toJson⟩
  · intro empty
    have read := read?_compact event.toJson
    rw [empty] at read
    cases read
  · unfold ofDocument?
    rw [time, level, target, message, fieldsOf?_toJson held readsBack]
    simp only [Option.bind_eq_bind, Option.bind_some, count?_document, text?_document,
      ofName?_name]
    rfl
  · rw [fields]
    by_cases none : event.fields = []
    · simp only [none, if_true]
    · simp only [none, if_false, reduceCtorEq]

end LogEvent

/-! ## A whole log -/

/-- A writer that never fails.  Of what it is given nothing is lost: the bytes written so far stay,
and the new ones come after them. -/
def LineWriter.Appends {σ : Type} (writer : LineWriter σ) (written : σ → List UInt8) : Prop :=
  ∀ text state, ∃ after, writer.write text state = .ok () after ∧
    written after = written state ++ Text.bytes text

theorem appends_boundedBuffer : (boundedBuffer none).Appends Text.bytes :=
  fun text state => ⟨state ++ text, rfl, Text.bytes_append state text⟩

namespace LineWriter.Appends

variable {σ : Type} {writer : LineWriter σ} {written : σ → List UInt8}

/-- One call writes the line of an event that is passed on, and nothing of one that is not. -/
theorem log (appends : writer.Appends written) (least : LogLevel) (event : LogEvent) (state : σ) :
    ∃ after, (Logger.mk writer.sink least).log event state = .ok () after ∧
      written after = written state ++
        if least.rank ≤ event.level.rank then Text.bytes event.line else [] := by
  unfold Logger.log Logger.admits
  by_cases admitted : least.rank ≤ event.level.rank
  · rcases appends event.line state with ⟨after, done, bytes⟩
    refine ⟨after, ?_, ?_⟩
    · rw [if_pos (decide_eq_true admitted)]
      unfold LineWriter.sink EStateM.adaptExcept
      simp only [done]
    · rw [if_pos admitted, bytes]
  · refine ⟨state, ?_, ?_⟩
    · rw [if_neg (by simpa using admitted)]
      rfl
    · rw [if_neg admitted, List.append_nil]

/-- Several calls write the lines one after the other. -/
theorem forM_log (appends : writer.Appends written) (least : LogLevel) (events : List LogEvent)
    (state : σ) :
    ∃ after, events.forM (Logger.mk writer.sink least).log state = .ok () after ∧
      written after = written state ++
        (events.filter fun event => least.rank ≤ event.level.rank).flatMap fun event =>
          Text.bytes event.line := by
  induction events generalizing state with
  | nil => exact ⟨state, rfl, (List.append_nil _).symm⟩
  | cons event events ih =>
    rcases appends.log least event state with ⟨next, done, bytes⟩
    rcases ih next with ⟨after, rest, more⟩
    refine ⟨after, ?_, ?_⟩
    · change EStateM.bind _ _ state = _
      unfold EStateM.bind
      rw [done]
      exact rest
    · rw [more, bytes, List.append_assoc, List.filter_cons]
      by_cases admitted : least.rank ≤ event.level.rank
      · simp only [admitted, if_true, decide_true, List.flatMap_cons]
      · simp only [admitted, if_false, decide_false, List.nil_append, Bool.false_eq_true]

/-- What a log of events writes is told apart by line feeds into one line for each event that is
passed on, in their order, with nothing after the last line feed.  Each line is read back as its
event, whatever its texts are and however deep values lie in its fields, provided that the texts of
the real numbers there are read back. -/
theorem exists_lines (appends : writer.Appends written) (least : LogLevel) {events : List LogEvent}
    (held : ∀ event ∈ events, event.Held)
    (readsBack : ∀ event ∈ events, ∀ value ∈ event.reals, ReadsBack value) (state : σ) :
    ∃ after added lines, events.forM (Logger.mk writer.sink least).log state = .ok () after ∧
      written after = written state ++ added ∧
      added.splitOn Text.lineFeed = lines.map Text.bytes ++ [[]] ∧
      List.Forall₂ LogEvent.IsWrittenAs
        (events.filter fun event => least.rank ≤ event.level.rank) lines := by
  rcases appends.forM_log least events state with ⟨after, done, bytes⟩
  let admitted := events.filter fun event => least.rank ≤ event.level.rank
  have single : ∀ line ∈ admitted.map fun event => event.toJson.compact, '\n' ∉ line.toList := by
    intro line member
    rcases List.mem_map.1 member with ⟨event, -, rfl⟩
    exact lineFeed_not_mem_compact event.toJson
  have split := Text.splitOn_bytes single
  rw [List.flatMap_map] at split
  refine ⟨after, _, _, done, bytes, split, ?_⟩
  rw [List.forall₂_map_right_iff, List.forall₂_same]
  intro event member
  have listed := (List.mem_filter.1 member).1
  exact LogEvent.isWrittenAs_compact (held event listed) (readsBack event listed)

/-- An event whose texts hold quotation marks, backslashes and control characters, also deep in
its fields.  One field is given twice, and the fields are not in the order of their names. -/
def tangled : LogEvent :=
  .withFields 340282366920938463463374607431768211455 .warn "a\"b\\" "two\nlines\x01"
    [("z\n", .array [.null, .string "\"\\\n"]),
      ("a", .object [("k", .bool true), ("l\n", .array [.number (.integer (-1)), .string "\n"])]),
      ("z\n", .array [.number (.real 0.5), .string "\x7f\r"])]

/-- An event that is passed on, one that is not, and one without fields. -/
def threeEvents : List LogEvent :=
  [tangled, .withFields 5 .debug "a" "b" [], .withFields 7 .info "" "\n" []]

theorem exists_lines_threeEvents :
    (∀ event ∈ threeEvents, event.Held) ∧
      (∀ event ∈ threeEvents, ∀ value ∈ event.reals, ReadsBack value) ∧
      (boundedBuffer none).Appends Text.bytes ∧
      ∃ after added lines,
        threeEvents.forM (Logger.mk (boundedBuffer none).sink .info).log "" = .ok () after ∧
        Text.bytes after = Text.bytes "" ++ added ∧
        added.splitOn Text.lineFeed = lines.map Text.bytes ++ [[]] ∧
        List.Forall₂ LogEvent.IsWrittenAs
          (threeEvents.filter fun event => LogLevel.info.rank ≤ event.level.rank) lines := by
  have inner : (Json.object [("k", .bool true),
      ("l\n", .array [.number (.integer (-1)), .string "\n"])]).Held := by
    refine .object (by decide +kernel) (List.forall_mem_cons.2 ⟨.bool true, ?_⟩)
    refine List.forall_mem_singleton.2 (.array (List.forall_mem_cons.2 ⟨?_, ?_⟩))
    · exact .integer (by decide) (by decide)
    · exact List.forall_mem_singleton.2 (.string _)
  have texts : (Json.array [.null, .string "\"\\\n"]).Held :=
    .array (List.forall_mem_cons.2 ⟨.null, List.forall_mem_singleton.2 (.string _)⟩)
  have number : (Json.array [.number (.real 0.5), .string "\x7f\r"]).Held :=
    .array (List.forall_mem_cons.2
      ⟨.real (by decide +kernel), List.forall_mem_singleton.2 (.string _)⟩)
  have none : ∀ field ∈ ([] : List (String × Json)), field.2.Held := List.forall_mem_nil _
  have held : ∀ event ∈ threeEvents, event.Held := by
    refine List.forall_mem_cons.2 ⟨?_, List.forall_mem_cons.2 ⟨?_, List.forall_mem_singleton.2 ?_⟩⟩
    · exact LogEvent.held_withFields _ _ _ _ (List.forall_mem_cons.2 ⟨texts,
        List.forall_mem_cons.2 ⟨inner, List.forall_mem_singleton.2 number⟩⟩)
    · exact LogEvent.held_withFields _ _ _ _ none
    · exact LogEvent.held_withFields _ _ _ _ none
  have readsBack : ∀ event ∈ threeEvents, ∀ value ∈ event.reals, ReadsBack value := by
    have reals : threeEvents.flatMap LogEvent.reals = [0.5] := by decide +kernel
    intro event member value inside
    have listed : value ∈ [0.5] := reals ▸ List.mem_flatMap.2 ⟨event, member, inside⟩
    cases List.mem_singleton.1 listed
    exact ⟨⟨false, ['0'], ['5'], .none⟩, by decide +kernel, by decide +kernel⟩
  exact ⟨held, readsBack, appends_boundedBuffer,
    exists_lines appends_boundedBuffer .info held readsBack ""⟩

end LineWriter.Appends
end Mosaic
