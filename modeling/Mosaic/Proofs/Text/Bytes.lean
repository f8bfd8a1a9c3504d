import Mathlib.Data.List.Basic

/-!
# Lines told apart by their bytes

A text is kept as its bytes in UTF-8.  The bytes below 128 are those of the characters of the same
number: no other character has one of them in its form.  So the byte of a line feed is only there
where the text has a line feed, and lines that each end with one are told apart by that byte.
-/

namespace Mosaic
namespace Text

def bytes (text : String) : List UInt8 :=
  text.toUTF8.data.toList

/-- The byte of a line feed. -/
def lineFeed : UInt8 := 0x0A

theorem bytes_eq (text : String) : bytes text = text.toList.flatMap String.utf8EncodeChar := by
  unfold bytes
  rw [String.toUTF8_eq_toByteArray, ← String.utf8Encode_toList, List.utf8Encode,
    List.data_toByteArray]

theorem bytes_append (text other : String) : bytes (text ++ other) = bytes text ++ bytes other := by
  rw [bytes_eq, bytes_eq, bytes_eq, String.toList_append, List.flatMap_append]

/-- A byte below 128 stands for the character of its number. -/
theorem toNat_of_mem_utf8EncodeChar {glyph : Char} {byte : UInt8} (ascii : byte.toNat < 0x80)
    (member : byte ∈ String.utf8EncodeChar glyph) : glyph.toNat = byte.toNat := by
  -- All bytes of a form of several bytes carry a mark in their upper half.
  have other {number : Nat} (low : 0x80 ≤ number) (high : number < 0x100) :
      byte ≠ UInt8.ofNat number := by
    rintro rfl
    rw [UInt8.toNat_ofNat_of_lt' high] at ascii
    omega
  unfold String.utf8EncodeChar at member
  dsimp only at member
  have number : glyph.val.toNat = glyph.toNat := rfl
  rw [number] at member
  split_ifs at member with one two three
  · cases List.mem_singleton.1 member
    exact (UInt8.toNat_ofNat_of_lt' (Nat.lt_of_le_of_lt one (by decide))).symm
  · simp only [List.mem_cons, List.not_mem_nil, or_false] at member
    rcases member with same | same <;> exact absurd same (other (by omega) (by omega))
  · simp only [List.mem_cons, List.not_mem_nil, or_false] at member
    rcases member with same | same | same <;> exact absurd same (other (by omega) (by omega))
  · simp only [List.mem_cons, List.not_mem_nil, or_false] at member
    rcases member with same | same | same | same <;>
      exact absurd same (other (by omega) (by omega))

/-- The byte of a line feed is written for line feeds only. -/
theorem lineFeed_mem_bytes_iff {text : String} : lineFeed ∈ bytes text ↔ '\n' ∈ text.toList := by
  rw [bytes_eq, List.mem_flatMap]
  constructor
  · rintro ⟨glyph, listed, member⟩
    have number : glyph.toNat = '\n'.toNat := toNat_of_mem_utf8EncodeChar (by decide) member
    exact Char.toNat_inj.1 number ▸ listed
  · intro member
    exact ⟨'\n', member, by decide⟩

/-- Lines that each end with a line feed are told apart by its byte, and nothing comes after
them. -/
theorem splitOn_bytes {lines : List String} (each : ∀ line ∈ lines, '\n' ∉ line.toList) :
    (lines.flatMap fun line => bytes (line ++ "\n")).splitOn lineFeed =
      lines.map bytes ++ [[]] := by
  induction lines with
  | nil => rfl
  | cons line lines ih =>
    rw [List.forall_mem_cons] at each
    have own : ∀ byte ∈ bytes line, (byte == lineFeed) = false := by
      intro byte member
      rw [beq_eq_false_iff_ne]
      rintro rfl
      exact each.1 (lineFeed_mem_bytes_iff.1 member)
    have feed : bytes "\n" = [lineFeed] := by decide +kernel
    rw [List.flatMap_cons, bytes_append, feed, List.append_assoc, List.singleton_append]
    unfold List.splitOn at ih ⊢
    rw [List.splitOnP_append_cons_of_forall_mem own lineFeed (beq_self_eq_true _), ih each.2,
      List.map_cons, List.cons_append]

end Text
end Mosaic
