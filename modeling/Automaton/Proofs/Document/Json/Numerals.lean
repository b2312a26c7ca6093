import Automaton.Decimal.Shortest
import Automaton.Proofs.Document.Json.Grammar
import Mathlib.Data.List.Basic

/-!
# Numbers in reports are numerals

A report writes counts in decimal digits, and ratios by placing a point among the digits of a number
(`Decimal.layout`).  JSON allows less than one would write by hand: no digits before the point may
begin with a zero unless the zero is alone, and there has to be a digit on both sides of the point.

The point is placed among the digits of a number that is not zero.  So there is at least one of them,
and the first of them is no zero (`head?_toDigits_ne`).  With that, each of the five layouts is a
numeral, whatever number is laid out (`Decimal.numeral_layout`).
-/

namespace Automaton.Document.Json

/-! ### Digits -/

/-- Zeros are digits. -/
theorem isDigit_of_mem_zeros {n : Nat} {c : Char} (hc : c ∈ List.replicate n '0') :
    c.isDigit = true :=
  List.eq_of_mem_replicate hc ▸ rfl

/-- Some of the digits, but not none, are digits. -/
theorem Digits.of_subset {cs ds : List Char} (h : Digits ds) (hne : cs ≠ []) (hsub : cs ⊆ ds) :
    Digits cs :=
  ⟨hne, fun c hc => h.isDigit c (hsub hc)⟩

theorem digits_toDigits (n : Nat) : Digits (Nat.toDigits 10 n) :=
  ⟨Nat.toDigits_ne_nil, fun _ hc => Nat.isDigit_of_mem_toDigits (by decide) (by decide) hc⟩

/-- **A number that is not zero** does not begin with one. -/
theorem head?_toDigits_ne {n : Nat} (hn : n ≠ 0) : (Nat.toDigits 10 n).head? ≠ some '0' := by
  induction n using Nat.strongRecOn with
  | ind n ih =>
    rcases Nat.lt_or_ge n 10 with hlt | hge
    · have hdigits : ∀ n, n < 10 → n ≠ 0 → n.digitChar ≠ '0' := by decide
      rw [Nat.toDigits_of_lt_base hlt, List.head?_cons]
      exact fun heq => hdigits n hlt hn (Option.some.inj heq)
    · -- the first digit is that of the number without its last one
      rw [Nat.toDigits_of_base_le (by decide) hge,
        List.head?_append_of_ne_nil _ Nat.toDigits_ne_nil]
      exact ih (n / 10) (by omega) (by omega)

/-! ### Counts -/

/-- A numeral without a sign. -/
theorem numeral_unsigned {whole fraction exponent : List Char} (hwhole : WholePart whole)
    (hfraction : FractionPart fraction) (hexponent : ExponentPart exponent) :
    Numeral (whole ++ (fraction ++ exponent)) :=
  .parts (.inl rfl) hwhole hfraction hexponent

/-- **A count** is a numeral. -/
theorem numeral_toString (n : Nat) : Numeral (toString n).toList := by
  have hwhole : WholePart (Nat.toDigits 10 n) := by
    by_cases hn : n = 0
    · subst hn
      exact .zero
    · exact .digits (digits_toDigits n) (head?_toDigits_ne hn)
  have hnumeral := numeral_unsigned hwhole .none .none
  rwa [List.append_nil, List.append_nil, ← Nat.toList_repr, ← Nat.toString_eq_repr] at hnumeral

/-- An exponent has a sign only if it is negative. -/
theorem exponentPart_toString (i : Int) : ExponentPart ('e' :: (toString i).toList) := by
  rw [Int.toString_eq_repr, Int.repr_eq_if]
  split
  · rw [Nat.toList_repr]
    exact .digits (.inl rfl) (.inl rfl) (digits_toDigits _)
  · rw [String.toList_append, Nat.toList_repr]
    exact .digits (.inl rfl) (.inr (.inr rfl)) (digits_toDigits _)

/-! ### Placing the point -/

section Placing

variable {ds : List Char} (hds : Digits ds) (hhead : ds.head? ≠ some '0')
include hds

/-- A zero before the point, and all digits behind it. -/
theorem numeral_below (zeros : Nat) : Numeral (['0', '.'] ++ List.replicate zeros '0' ++ ds) := by
  have hdigits : Digits (List.replicate zeros '0' ++ ds) :=
    ⟨List.append_ne_nil_of_right_ne_nil _ hds.ne_nil, fun c hc =>
      (List.mem_append.mp hc).elim isDigit_of_mem_zeros (hds.isDigit c)⟩
  have hnumeral := numeral_unsigned .zero (.digits hdigits) .none
  rwa [List.append_nil] at hnumeral

include hhead

/-- All digits before the point, with zeros up to the ones. -/
theorem numeral_above (zeros : Nat) : Numeral (ds ++ List.replicate zeros '0' ++ ['.', '0']) := by
  have hdigits : Digits (ds ++ List.replicate zeros '0') :=
    ⟨List.append_ne_nil_of_left_ne_nil hds.ne_nil _, fun c hc =>
      (List.mem_append.mp hc).elim (hds.isDigit c) isDigit_of_mem_zeros⟩
  refine numeral_unsigned (.digits hdigits ?_) (.digits (digits_toDigits 0)) .none
  rwa [List.head?_append_of_ne_nil _ hds.ne_nil]

/-- The first digits are a whole part. -/
theorem wholePart_take {k : Nat} (hk : 0 < k) : WholePart (ds.take k) := by
  have hne : ds.take k ≠ [] := fun hnil =>
    (List.take_eq_nil_iff.mp hnil).elim (Nat.ne_of_gt hk) hds.ne_nil
  refine .digits (hds.of_subset hne (List.take_subset k ds)) ?_
  rwa [List.head?_take, if_neg (Nat.ne_of_gt hk)]

/-- The point between two digits. -/
theorem numeral_between {k : Nat} (hk : 0 < k) (hlt : k < ds.length) :
    Numeral (ds.take k ++ ['.'] ++ ds.drop k) := by
  have hne : ds.drop k ≠ [] := fun hnil => Nat.not_le_of_lt hlt (List.drop_eq_nil_iff.mp hnil)
  have hnumeral := numeral_unsigned (wholePart_take hds hhead hk)
    (.digits (hds.of_subset hne (List.drop_subset k ds))) .none
  rwa [List.append_nil, List.append_cons] at hnumeral

/-- The point behind the first digit, if there are more, and an exponent. -/
theorem numeral_scientific (i : Int) :
    Numeral (ds.take 1 ++ (if ds.length = 1 then [] else '.' :: ds.drop 1) ++ ['e'] ++
      (toString i).toList) := by
  have hfraction : FractionPart (if ds.length = 1 then [] else '.' :: ds.drop 1) := by
    split
    · exact .none
    next hlength =>
      -- there is more than one digit, so some are left for the fraction
      have hne : ds.drop 1 ≠ [] := fun hnil => by
        have hle := List.drop_eq_nil_iff.mp hnil
        have hpos := List.length_pos_iff.mpr hds.ne_nil
        omega
      exact .digits (hds.of_subset hne (List.drop_subset 1 ds))
  rw [List.append_assoc, List.append_assoc, List.singleton_append]
  exact numeral_unsigned (wholePart_take hds hhead Nat.one_pos) hfraction (exponentPart_toString i)

end Placing

end Automaton.Document.Json

/-! ### Ratios -/

namespace Automaton.Decimal

open Document.Json

/-- **However the point is placed**, the result is a numeral. -/
theorem numeral_layout (extent : Extent) (d : Digits) : Numeral (layout extent d).toList := by
  rw [layout]
  split
  · exact numeral_unsigned .zero (.digits (digits_toDigits 0)) .none
  next hzero =>
  have hds := digits_toDigits d.digits
  have hhead := head?_toDigits_ne hzero
  simp only
  split
  · rw [String.toList_ofList]
    exact numeral_above hds hhead _
  next hwhole =>
  split
  next hpoint =>
    -- digits are left behind the point, because the grid is finer than ones
    rw [String.toList_ofList]
    exact numeral_between hds hhead (by omega) (by omega)
  split
  · rw [String.toList_ofList]
    exact numeral_below hds _
  · rw [String.toList_append, String.toList_ofList]
    exact numeral_scientific hds hhead _

/-- **A ratio in a report** is a numeral. -/
theorem numeral_ratio (num den : Nat) : Numeral (ratio num den).toList :=
  numeral_layout _ _

end Automaton.Decimal
