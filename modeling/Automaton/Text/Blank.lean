/-!
# Blank characters

A declaration that consists of blanks says nothing.  *Blank* covers more than the ASCII space: it
is the whole class of white space characters, among them the no-break space and the line and
paragraph separators.

* `Text.isBlank` is the class.
* `Text.trim` removes blanks from both ends of a text.
* `Text.isVoid` says that nothing else is there.
-/

namespace Automaton.Text

/-- **Blank characters**: tabulators, line ends, the space and its relatives. -/
def isBlank (c : Char) : Bool :=
  let n := c.toNat
  (0x09 ≤ n && n ≤ 0x0D) || n == 0x20 || n == 0x85 || n == 0xA0 || n == 0x1680 ||
  (0x2000 ≤ n && n ≤ 0x200A) || n == 0x2028 || n == 0x2029 || n == 0x202F || n == 0x205F ||
  n == 0x3000

/-- What is left of a list of characters after `p` has been removed from both ends. -/
def strip (p : Char → Bool) (cs : List Char) : List Char :=
  ((cs.dropWhile p).reverse.dropWhile p).reverse

/-- **Trimming** removes blanks from both ends of a text. -/
def trim (s : String) : String :=
  String.ofList (strip isBlank s.toList)

/-- A text is *void* if it holds blanks only, or nothing at all. -/
def isVoid (s : String) : Bool :=
  s.toList.all isBlank

@[simp]
theorem toList_trim (s : String) : (trim s).toList = strip isBlank s.toList := by
  simp [trim]

@[simp]
theorem strip_nil (p : Char → Bool) : strip p [] = [] := rfl

/-- Nothing is left exactly if there was nothing else. -/
theorem strip_eq_nil_iff {p : Char → Bool} {cs : List Char} :
    strip p cs = [] ↔ cs.all p = true := by
  induction cs with
  | nil => simp
  | cons c cs ih =>
    by_cases h : p c = true
    · rw [show strip p (c :: cs) = strip p cs by simp [strip, h], ih]
      simp [h]
    · -- where nothing is removed at one end, something is left at the other
      have hne : strip p (c :: cs) ≠ [] := by
        rw [strip, List.dropWhile_cons_of_neg h, List.reverse_cons, ne_eq, List.reverse_eq_nil_iff,
          List.dropWhile_append]
        split <;> simp_all
      exact iff_of_false hne (by simp [h])

/-- A text is void exactly if trimming leaves nothing. -/
theorem isVoid_iff_trim_eq_empty {s : String} : isVoid s = true ↔ trim s = "" := by
  rw [isVoid, ← strip_eq_nil_iff, trim, String.ofList_eq_empty_iff]

end Automaton.Text
