/-!
# Double quoted literals

Generated sources embed declared texts as literals between double quotes.  Only two characters
need care: a quote would end the literal and a backslash would start an escape, so each of them is
written behind a backslash.  Everything else stands for itself.

## Writing and reading

* `Text.escape` is the body of a literal and `Text.quote` the literal with its quotes.
* `Text.scanQuoted` reads the rest of a literal whose opening quote has been passed: a backslash
  takes the next character as it is, and the first quote not taken in this way ends the literal.

That reading inverts writing, whatever text follows, is `Text.scanQuoted_escape`.
-/

namespace Automaton.Text

/-- **The body of a literal**: quotes and backslashes are put behind a backslash. -/
def escape : List Char → List Char
  | [] => []
  | c :: cs => if c = '\\' ∨ c = '"' then '\\' :: c :: escape cs else c :: escape cs

/-- **A literal**: the escaped text between double quotes. -/
def quote (s : String) : String :=
  String.ofList ('"' :: (escape s.toList ++ ['"']))

/-- **Reading a literal** from behind its opening quote: the text it denotes, and what follows the
closing quote.  A literal that is never closed has no reading. -/
def scanQuoted : List Char → Option (List Char × List Char)
  | [] => none
  | ['\\'] => none
  | '\\' :: c :: cs => (scanQuoted cs).map fun r => (c :: r.1, r.2)
  | c :: cs =>
    if c = '"' then some ([], cs)
    else (scanQuoted cs).map fun r => (c :: r.1, r.2)

@[simp]
theorem toList_quote (s : String) : (quote s).toList = '"' :: (escape s.toList ++ ['"']) := by
  simp [quote]

@[simp]
theorem escape_nil : escape [] = [] := rfl

@[simp]
theorem escape_backslash (cs : List Char) : escape ('\\' :: cs) = '\\' :: '\\' :: escape cs := by
  simp [escape]

@[simp]
theorem escape_quote (cs : List Char) : escape ('"' :: cs) = '\\' :: '"' :: escape cs := by
  simp [escape]

/-- Any other character stands for itself. -/
theorem escape_cons {c : Char} (h₁ : c ≠ '\\') (h₂ : c ≠ '"') (cs : List Char) :
    escape (c :: cs) = c :: escape cs := by
  simp [escape, h₁, h₂]

/-- Reading inverts writing and leaves the following text alone. -/
theorem scanQuoted_escape (cs rest : List Char) :
    scanQuoted (escape cs ++ '"' :: rest) = some (cs, rest) := by
  induction cs with
  | nil => simp [scanQuoted]
  | cons c cs ih =>
    by_cases h₁ : c = '\\'
    · subst h₁; simp [scanQuoted, ih]
    · by_cases h₂ : c = '"'
      · subst h₂; simp [scanQuoted, ih]
      · rw [escape_cons h₁ h₂, List.cons_append, scanQuoted]
        · simp [h₂, ih]
        · intro h; exact absurd h h₁
        · intro _ _ h; exact absurd h h₁

end Automaton.Text
