import Automaton.Text.Blank
import Mathlib.Data.List.DropRight

/-!
# What trimming leaves

`Text.strip` removes the characters of a class from both ends of a text.  What it leaves is *bare*:
its ends, if it has any, are of another kind (`Text.bare_strip`).  A bare text is left alone, with
whatever stands around it gone (`Text.strip_surrounded`), and every text is a bare one with
characters of the class around it (`Text.exists_strip_surrounded`).
-/

namespace Automaton.Text

variable {p : Char → Bool}

/-- **A bare text** neither begins nor ends with a character of a class. -/
structure Bare (p : Char → Bool) (cs : List Char) : Prop where
  /-- It does not begin with one. -/
  head : ∀ c, cs.head? = some c → p c = false
  /-- It does not end with one. -/
  last : ∀ c, cs.getLast? = some c → p c = false

/-- What is removed at an end, and what is left. -/
theorem exists_dropWhile_eq (p : Char → Bool) (cs : List Char) :
    ∃ a, (∀ c ∈ a, p c = true) ∧ cs = a ++ cs.dropWhile p :=
  ⟨cs.takeWhile p, fun _ hc => List.mem_takeWhile_imp hc, List.takeWhile_append_dropWhile.symm⟩

/-- The first character that is left is of another kind. -/
theorem head?_dropWhile {cs : List Char} {c : Char} (h : (cs.dropWhile p).head? = some c) :
    p c = false := by
  have hnot := List.head?_dropWhile_not p cs
  rw [h] at hnot
  exact hnot

/-- Without what stands in front, a text is what stripping leaves and what stands behind. -/
theorem exists_dropWhile_eq_strip (p : Char → Bool) (cs : List Char) :
    ∃ d, (∀ c ∈ d, p c = true) ∧ cs.dropWhile p = strip p cs ++ d := by
  obtain ⟨d, hd, hback⟩ := exists_dropWhile_eq p (cs.dropWhile p).reverse
  refine ⟨d.reverse, fun c hc => hd c (List.mem_reverse.mp hc), ?_⟩
  rw [strip, ← List.reverse_append, ← hback, List.reverse_reverse]

/-- **Stripping** removes characters of the class, and no others. -/
theorem exists_strip_surrounded (p : Char → Bool) (cs : List Char) :
    ∃ a d, (∀ c ∈ a, p c = true) ∧ (∀ c ∈ d, p c = true) ∧ cs = a ++ strip p cs ++ d := by
  obtain ⟨a, ha, hfront⟩ := exists_dropWhile_eq p cs
  obtain ⟨d, hd, hrest⟩ := exists_dropWhile_eq_strip p cs
  refine ⟨a, d, ha, hd, ?_⟩
  rw [List.append_assoc, ← hrest]
  exact hfront

/-- **What is left is bare.** -/
theorem bare_strip (p : Char → Bool) (cs : List Char) : Bare p (strip p cs) where
  head := by
    intro c hc
    obtain ⟨d, -, hrest⟩ := exists_dropWhile_eq_strip p cs
    -- what is left begins where the front has been removed
    have hfront : (cs.dropWhile p).head? = some c := by
      rw [hrest, List.head?_append, hc, Option.some_or]
    exact head?_dropWhile hfront
  last := by
    intro c hc
    rw [strip, List.getLast?_reverse] at hc
    exact head?_dropWhile hc

/-- A bare text is left alone. -/
theorem Bare.strip_eq {cs : List Char} (h : Bare p cs) : strip p cs = cs := by
  -- nothing is dropped from either end
  have hfront : cs.dropWhile p = cs := by
    rw [List.dropWhile_eq_self_iff]
    intro hne
    rw [h.head _ (List.head?_eq_getElem? ▸ List.getElem?_eq_getElem hne)]
    exact Bool.false_ne_true
  have hback : cs.reverse.dropWhile p = cs.reverse := by
    rw [List.dropWhile_eq_self_iff]
    intro hne
    rw [h.last _ ?_]
    · exact Bool.false_ne_true
    · rw [← List.head?_reverse, List.head?_eq_getElem?]
      exact List.getElem?_eq_getElem hne
  rw [strip, hfront, hback, List.reverse_reverse]

/-- **Characters of the class around a text** make no difference. -/
theorem strip_surrounded {a cs d : List Char} (ha : ∀ c ∈ a, p c = true)
    (hd : ∀ c ∈ d, p c = true) : strip p (a ++ cs ++ d) = strip p cs := by
  rw [strip, strip, List.append_assoc, List.dropWhile_append_of_pos ha, List.dropWhile_append]
  have hd' : ∀ c ∈ d.reverse, p c = true := fun c hc => hd c (List.mem_reverse.mp hc)
  split
  · next hempty =>
    -- nothing else is there, so all of it goes
    rw [List.isEmpty_iff] at hempty
    rw [hempty, List.dropWhile_eq_nil_iff.mpr hd]
  · rw [List.reverse_append, List.dropWhile_append_of_pos hd']

/-- A trimmed text is bare. -/
theorem bare_of_trim_eq {s : String} (h : trim s = s) : Bare isBlank s.toList := by
  rw [← h, toList_trim]
  exact bare_strip isBlank s.toList

end Automaton.Text
