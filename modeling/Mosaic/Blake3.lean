/-!
The BLAKE3 hash of a byte string.  The input is cut into chunks of 1024 bytes,
each chunk is compressed block by block into a chaining value, and the chaining
values are joined pairwise in a binary tree whose left half is always the
largest power of two of chunks that leaves something for the right.  The node
at the top of the tree gives the digest.
-/

namespace Mosaic
namespace Blake3

/-- Eight words carried from one compression to the next. -/
abbrev Chaining := Vector UInt32 8

/-- Sixteen words: one block of input, or the working state. -/
abbrev Block := Vector UInt32 16

/-! ## Flags -/

/-- The block is the first of its chunk. -/
def chunkStart : UInt32 := 1

/-- The block is the last of its chunk. -/
def chunkEnd : UInt32 := 2

/-- The block joins two subtrees. -/
def parent : UInt32 := 4

/-- The block is the top of the whole tree. -/
def root : UInt32 := 8

/-! ## Compression -/

def initialChaining : Chaining :=
  #v[0x6A09E667, 0xBB67AE85, 0x3C6EF372, 0xA54FF53A,
     0x510E527F, 0x9B05688C, 0x1F83D9AB, 0x5BE0CD19]

def rotateRight (word : UInt32) (count : UInt32) : UInt32 :=
  (word >>> count) ||| (word <<< (32 - count))

/-- Mix two message words into four words of the state. -/
def mix (state : Block) (a b c d : Fin 16) (x y : UInt32) : Block :=
  let a1 := state[a] + state[b] + x
  let d1 := rotateRight (state[d] ^^^ a1) 16
  let c1 := state[c] + d1
  let b1 := rotateRight (state[b] ^^^ c1) 12
  let a2 := a1 + b1 + y
  let d2 := rotateRight (d1 ^^^ a2) 8
  let c2 := c1 + d2
  let b2 := rotateRight (b1 ^^^ c2) 7
  (((state.set a a2).set b b2).set c c2).set d d2

/-- One round: the columns of the state, then its diagonals. -/
def round (state message : Block) : Block :=
  let state := mix state 0 4 8 12 message[0] message[1]
  let state := mix state 1 5 9 13 message[2] message[3]
  let state := mix state 2 6 10 14 message[4] message[5]
  let state := mix state 3 7 11 15 message[6] message[7]
  let state := mix state 0 5 10 15 message[8] message[9]
  let state := mix state 1 6 11 12 message[10] message[11]
  let state := mix state 2 7 8 13 message[12] message[13]
  mix state 3 4 9 14 message[14] message[15]

/-- The order in which the next round takes the message words. -/
def permuted (message : Block) : Block :=
  #v[message[2], message[6], message[3], message[10], message[7], message[0], message[4],
     message[13], message[1], message[11], message[12], message[5], message[9], message[14],
     message[15], message[8]]

/-- Several rounds, with the message permuted between them. -/
def rounds : Nat → Block → Block → Block
  | 0, state, _ => state
  | count + 1, state, message => rounds count (round state message) (permuted message)

/-- What one compression takes in. -/
structure Compression where
  chaining : Chaining
  block : Block
  counter : UInt64
  length : UInt32
  flags : UInt32

/-- The chaining value that a compression gives. -/
def Compression.output (input : Compression) : Chaining :=
  let start : Block :=
    #v[input.chaining[0], input.chaining[1], input.chaining[2], input.chaining[3],
       input.chaining[4], input.chaining[5], input.chaining[6], input.chaining[7],
       initialChaining[0], initialChaining[1], initialChaining[2], initialChaining[3],
       input.counter.toUInt32, (input.counter >>> 32).toUInt32, input.length, input.flags]
  let final := rounds 7 start input.block
  Vector.ofFn fun position : Fin 8 =>
    final[position.val] ^^^ final[position.val + 8]

/-! ## Chunks and the tree -/

/-- A word from its bytes, lowest first. -/
def wordOf (bytes : List UInt8) : UInt32 :=
  bytes.foldr (fun byte word => byte.toUInt32 ||| (word <<< 8)) 0

/-- The words of up to 64 bytes; missing bytes count as zero. -/
def blockOf (bytes : List UInt8) : Block :=
  Vector.ofFn fun position : Fin 16 => wordOf ((bytes.drop (4 * position.val)).take 4)

/-- The last compression of a chunk, after all the ones before it. -/
def chunkOutput (counter : UInt64) (chaining : Chaining) (start : UInt32)
    (bytes : List UInt8) : Compression :=
  if bytes.length ≤ 64 then
    { chaining, block := blockOf bytes, counter, length := bytes.length.toUInt32
      flags := start ||| chunkEnd }
  else
    let first : Compression :=
      { chaining, block := blockOf (bytes.take 64), counter, length := 64, flags := start }
    chunkOutput counter first.output 0 (bytes.drop 64)
termination_by bytes.length
decreasing_by
  simp only [List.length_drop]
  omega

/-- The size of the left half of an input that is longer than one chunk: the
largest power of two of chunks that is shorter than the input. -/
def leftSize (size : Nat) : Nat :=
  Nat.pow 2 (size - 1).log2

theorem leftSize_pos (size : Nat) : 0 < leftSize size :=
  Nat.two_pow_pos _

theorem leftSize_lt {size : Nat} (long : 1024 < size) : leftSize size < size := by
  have bound : Nat.pow 2 (size - 1).log2 ≤ size - 1 := Nat.log2_self_le (by omega)
  unfold leftSize
  omega

/-- The top compression of the subtree over `bytes`, whose first chunk has the
number `counter`. -/
def treeOutput (counter : UInt64) (bytes : List UInt8) : Compression :=
  if _ : 1024 < bytes.length then
    let left := leftSize bytes.length
    let leftValue := (treeOutput counter (bytes.take left)).output
    let rightValue :=
      (treeOutput (counter + (left / 1024).toUInt64) (bytes.drop left)).output
    { chaining := initialChaining, block := leftValue ++ rightValue, counter := 0
      length := 64, flags := parent }
  else chunkOutput counter initialChaining chunkStart bytes
termination_by bytes.length
decreasing_by
  · have bound := leftSize_lt ‹1024 < bytes.length›
    simp only [List.length_take]
    omega
  · have bound := leftSize_pos bytes.length
    simp only [List.length_drop]
    omega

def digest (bytes : List UInt8) : Chaining :=
  let top := treeOutput 0 bytes
  { top with flags := top.flags ||| root }.output

/-! ## Text -/

/-- Two lower-case hexadecimal digits. -/
def byteText (byte : Nat) : List Char :=
  [Nat.digitChar (byte / 16 % 16), Nat.digitChar (byte % 16)]

/-- A word by its bytes, lowest first. -/
def wordText (word : UInt32) : List Char :=
  let value := word.toNat
  byteText value ++ byteText (value / 0x100) ++ byteText (value / 0x10000) ++
    byteText (value / 0x1000000)

/-- The digest of a text's UTF-8 form, in hexadecimal. -/
def hexDigest (text : String) : String :=
  String.ofList ((digest text.toUTF8.toList).toList.flatMap wordText)

end Blake3
end Mosaic
