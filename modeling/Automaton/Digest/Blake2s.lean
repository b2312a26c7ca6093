/-!
# BLAKE2s

The digest that ties a generated source to the table it was generated from: BLAKE2s with an output
of 32 bytes and no key.

The state is eight words.  Each block of 64 bytes is *compressed* into it: the state is extended to
sixteen words (`Blake2s.initialWork`), stirred in ten rounds that read the block in ten different
orders (`Blake2s.schedule`), and folded back.  The last block is padded with zeros and marked.
-/

namespace Automaton.Blake2s

/-- The eight words of a state. -/
abbrev State := Vector UInt32 8

/-- The sixteen words of a block, or of the work area. -/
abbrev Words := Vector UInt32 16

/-- The initial words. -/
def iv : State :=
  #v[0x6A09E667, 0xBB67AE85, 0x3C6EF372, 0xA54FF53A, 0x510E527F, 0x9B05688C, 0x1F83D9AB, 0x5BE0CD19]

/-- The ten orders in which the rounds read the words of a block. -/
def schedule : List (Vector (Fin 16) 16) :=
  [ #v[0, 1, 2, 3, 4, 5, 6, 7, 8, 9, 10, 11, 12, 13, 14, 15],
    #v[14, 10, 4, 8, 9, 15, 13, 6, 1, 12, 0, 2, 11, 7, 5, 3],
    #v[11, 8, 12, 0, 5, 2, 15, 13, 10, 14, 3, 6, 7, 1, 9, 4],
    #v[7, 9, 3, 1, 13, 12, 11, 14, 2, 6, 5, 10, 4, 0, 15, 8],
    #v[9, 0, 5, 7, 2, 4, 10, 15, 14, 1, 11, 12, 6, 8, 3, 13],
    #v[2, 12, 6, 10, 0, 11, 8, 3, 4, 13, 7, 5, 15, 14, 1, 9],
    #v[12, 5, 1, 15, 14, 13, 4, 10, 0, 7, 6, 3, 9, 2, 8, 11],
    #v[13, 11, 7, 14, 12, 1, 3, 9, 5, 0, 15, 4, 8, 6, 2, 10],
    #v[6, 15, 14, 9, 11, 3, 0, 8, 12, 2, 13, 7, 1, 4, 10, 5],
    #v[10, 2, 8, 4, 7, 6, 1, 5, 15, 11, 9, 14, 3, 12, 13, 0] ]

/-- Rotation to the right. -/
def rotate (w : UInt32) (n : UInt32) : UInt32 :=
  (w >>> n) ||| (w <<< (32 - n))

/-- **The quarter step** stirs two words of the block into four words of the work area. -/
def mix (v : Words) (a b c d : Fin 16) (x y : UInt32) : Words :=
  let va := v[a] + v[b] + x
  let vd := rotate (v[d] ^^^ va) 16
  let vc := v[c] + vd
  let vb := rotate (v[b] ^^^ vc) 12
  let va := va + vb + y
  let vd := rotate (vd ^^^ va) 8
  let vc := vc + vd
  let vb := rotate (vb ^^^ vc) 7
  (((v.set a va).set b vb).set c vc).set d vd

/-- **A round**: four quarter steps on the columns of the work area, four on its diagonals. -/
def round (block v : Words) (s : Vector (Fin 16) 16) : Words :=
  let v := mix v 0 4 8 12 block[s[0]] block[s[1]]
  let v := mix v 1 5 9 13 block[s[2]] block[s[3]]
  let v := mix v 2 6 10 14 block[s[4]] block[s[5]]
  let v := mix v 3 7 11 15 block[s[6]] block[s[7]]
  let v := mix v 0 5 10 15 block[s[8]] block[s[9]]
  let v := mix v 1 6 11 12 block[s[10]] block[s[11]]
  let v := mix v 2 7 8 13 block[s[12]] block[s[13]]
  mix v 3 4 9 14 block[s[14]] block[s[15]]

/-- The work area at the start of a compression: the state, and the initial words disturbed by the
number of bytes read so far and by the mark of the last block. -/
def initialWork (h : State) (count : Nat) (last : Bool) : Words :=
  let tail := iv.set 4 (iv[4] ^^^ UInt32.ofNat (count % Nat.pow 2 32))
  let tail := tail.set 5 (tail[5] ^^^ UInt32.ofNat (count / Nat.pow 2 32))
  let tail := if last then tail.set 6 (tail[6] ^^^ 0xFFFFFFFF) else tail
  h ++ tail

/-- **Compression** of one block into the state. -/
def compress (h : State) (block : Words) (count : Nat) (last : Bool) : State :=
  let v := schedule.foldl (round block) (initialWork h count last)
  Vector.ofFn fun i : Fin 8 => h[i] ^^^ v.get ⟨i.val, by omega⟩ ^^^ v.get ⟨i.val + 8, by omega⟩

/-- The byte at a position; zeros follow the end of the input. -/
def byteAt (bytes : ByteArray) (i : Nat) : UInt32 :=
  if h : i < bytes.size then bytes[i].toUInt32 else 0

/-- The word of four bytes at a position, the lowest byte first. -/
def wordAt (bytes : ByteArray) (i : Nat) : UInt32 :=
  byteAt bytes i ||| (byteAt bytes (i + 1) <<< 8) ||| (byteAt bytes (i + 2) <<< 16) |||
    (byteAt bytes (i + 3) <<< 24)

/-- The block of 64 bytes at a position. -/
def blockAt (bytes : ByteArray) (start : Nat) : Words :=
  Vector.ofFn fun i : Fin 16 => wordAt bytes (start + 4 * i.val)

/-- The state before any input: the length of the output and the lack of a key are noted in the
first word. -/
def start : State :=
  iv.set 0 (iv[0] ^^^ 0x01010020)

/-- The state after the whole input.  Even the empty input has a last block. -/
def absorb (bytes : ByteArray) : State :=
  let full := (bytes.size - 1) / 64
  let h := (List.range full).foldl
    (fun h k => compress h (blockAt bytes (64 * k)) (64 * (k + 1)) false) start
  compress h (blockAt bytes (64 * full)) bytes.size true

/-- The four bytes of a word, the lowest first. -/
def wordBytes (w : UInt32) : List UInt8 :=
  [w.toUInt8, (w >>> 8).toUInt8, (w >>> 16).toUInt8, (w >>> 24).toUInt8]

/-- **The digest**: 32 bytes. -/
def digest (bytes : ByteArray) : List UInt8 :=
  (absorb bytes).toList.flatMap wordBytes

/-- A digest always has 32 bytes. -/
theorem length_digest (bytes : ByteArray) : (digest bytes).length = 32 := by
  have words (ws : List UInt32) : (ws.flatMap wordBytes).length = 4 * ws.length := by
    induction ws with
    | nil => rfl
    | cons w ws ih =>
      simp only [List.flatMap_cons, List.length_append, List.length_cons, ih, wordBytes,
        List.length_nil]
      omega
  simp [digest, words]

end Automaton.Blake2s
