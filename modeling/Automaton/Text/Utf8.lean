/-!
# Bytes as text

Programs answer in bytes, and bytes need not be text.  This module reads bytes as UTF-8 in two
ways:

* `Utf8.decode` insists on well formed input and reports the first fault (`Utf8.Fault`), with its
  position and extent;
* `Utf8.decodeLossy` never fails: each faulty stretch becomes one replacement character.

Both rest on `Utf8.leading`, which looks at the first sequence of the input.  The extent of a fault
is the longest stretch that could have been the beginning of a character: an impossible first byte
is a fault of one byte, a sequence broken after two good bytes is a fault of two.
-/

namespace Automaton.Utf8

/-- **Why bytes are no text.** -/
inductive Fault where
  /-- The `width` bytes from `index` on cannot be part of any text. -/
  | invalid (index width : Nat)
  /-- The input ends within the character that begins at `index`. -/
  | incomplete (index : Nat)
  deriving DecidableEq, Repr

/-- The wording of a fault. -/
def Fault.message : Fault → String
  | invalid index width => s!"invalid utf-8 sequence of {width} bytes from index {index}"
  | incomplete index => s!"incomplete utf-8 byte sequence from index {index}"

/-- What the input begins with. -/
inductive Leading where
  /-- A character that takes `more` bytes after the first. -/
  | scalar (c : Char) (more : Nat)
  /-- A fault that extends over `more` bytes after the first. -/
  | broken (more : Nat)
  /-- The beginning of a character, cut off by the end of the input. -/
  | cutOff

/-- A continuation byte. -/
def isTail (b : UInt8) : Bool :=
  0x80 ≤ b && b ≤ 0xBF

/-- How many bytes follow the first byte of a character, and the range of the second one.  The range
excludes overlong spellings, surrogates and numbers beyond the last code point. -/
def plan (b : UInt8) : Option (Nat × UInt8 × UInt8) :=
  if 0xC2 ≤ b && b ≤ 0xDF then some (1, 0x80, 0xBF)
  else if b == 0xE0 then some (2, 0xA0, 0xBF)
  else if (0xE1 ≤ b && b ≤ 0xEC) || b == 0xEE || b == 0xEF then some (2, 0x80, 0xBF)
  else if b == 0xED then some (2, 0x80, 0x9F)
  else if b == 0xF0 then some (3, 0x90, 0xBF)
  else if 0xF1 ≤ b && b ≤ 0xF3 then some (3, 0x80, 0xBF)
  else if b == 0xF4 then some (3, 0x80, 0x8F)
  else none

/-- The six low bits of a continuation byte, behind what has been read so far. -/
def shiftIn (n : Nat) (b : UInt8) : Nat :=
  n * 64 + (b.toNat - 0x80)

/-- **The first sequence** of an input that begins with `b` and goes on with `rest`. -/
def leading (b : UInt8) (rest : List UInt8) : Leading :=
  if b < 0x80 then .scalar (Char.ofNat b.toNat) 0
  else match plan b with
    | none => .broken 0
    | some (more, low, high) =>
      let start := b.toNat % (if more = 1 then 32 else if more = 2 then 16 else 8)
      match rest with
      | [] => .cutOff
      | b₁ :: rest =>
        if !(low ≤ b₁ && b₁ ≤ high) then .broken 0
        else if more = 1 then .scalar (Char.ofNat (shiftIn start b₁)) 1
        else match rest with
          | [] => .cutOff
          | b₂ :: rest =>
            if !isTail b₂ then .broken 1
            else if more = 2 then .scalar (Char.ofNat (shiftIn (shiftIn start b₁) b₂)) 2
            else match rest with
              | [] => .cutOff
              | b₃ :: _ =>
                if !isTail b₃ then .broken 2
                else .scalar (Char.ofNat (shiftIn (shiftIn (shiftIn start b₁) b₂) b₃)) 3

/-- Strict reading from a position on. -/
def decodeFrom (index : Nat) : List UInt8 → Except Fault (List Char)
  | [] => .ok []
  | b :: rest => match leading b rest with
    | .scalar c more => (c :: ·) <$> decodeFrom (index + 1 + more) (rest.drop more)
    | .broken more => .error (.invalid index (1 + more))
    | .cutOff => .error (.incomplete index)
termination_by bytes => bytes.length
decreasing_by simp only [List.length_drop, List.length_cons]; omega

/-- **Strict reading**: the text, or the first fault. -/
def decode (bytes : List UInt8) : Except Fault String :=
  String.ofList <$> decodeFrom 0 bytes

/-- Lenient reading, character by character. -/
def decodeLossyChars : List UInt8 → List Char
  | [] => []
  | b :: rest => match leading b rest with
    | .scalar c more => c :: decodeLossyChars (rest.drop more)
    | .broken more => '\ufffd' :: decodeLossyChars (rest.drop more)
    | .cutOff => ['\ufffd']
termination_by bytes => bytes.length
decreasing_by all_goals (simp only [List.length_drop, List.length_cons]; omega)

/-- **Lenient reading**: a replacement character for each faulty stretch. -/
def decodeLossy (bytes : List UInt8) : String :=
  String.ofList (decodeLossyChars bytes)

end Automaton.Utf8
