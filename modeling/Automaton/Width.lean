/-!
# Widths of ordinals

Ordinals are stored in unsigned words of the smallest width that holds them all.  The widths form a
ladder of four rungs; `Width.forCount` climbs it as far as the greatest ordinal of a count demands.
-/

namespace Automaton

/-- **The width of a word.** -/
inductive Width where
  /-- Eight bits. -/
  | u8
  /-- Sixteen bits. -/
  | u16
  /-- Thirty-two bits. -/
  | u32
  /-- Sixty-four bits. -/
  | u64
  deriving DecidableEq, Repr, Inhabited

namespace Width

/-- All widths, from the smallest to the greatest. -/
def ladder : List Width := [u8, u16, u32, u64]

/-- The number of bits. -/
def bits : Width → Nat
  | u8 => 8
  | u16 => 16
  | u32 => 32
  | u64 => 64

/-- The greatest number that fits. -/
def maximum (w : Width) : Nat :=
  Nat.pow 2 w.bits - 1

/-- The place on the ladder. -/
def rung (w : Width) : Nat :=
  ladder.idxOf w

/-- The usual name of the width. -/
def name (w : Width) : String :=
  "uint" ++ toString w.bits

/-- **The width for a count of things**: the smallest that holds the greatest ordinal. -/
def forCount (count : Nat) : Width :=
  (ladder.find? (count - 1 ≤ ·.maximum)).getD u64

/-- The greatest ordinal fits, as long as any width can hold it. -/
theorem le_maximum_forCount {count : Nat} (h : count - 1 ≤ u64.maximum) :
    count - 1 ≤ (forCount count).maximum := by
  rw [forCount]
  cases hf : ladder.find? (count - 1 ≤ ·.maximum) with
  | none => exact h
  | some w => simpa using List.find?_some hf

end Width

end Automaton
