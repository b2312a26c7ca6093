import Automaton.Document.Toml.Scalar

/-!
# Quoted TOML texts

Texts come in four spellings: between double quotes, where a backslash starts an escape, or between
single quotes, where every character stands for itself; and both on one line, or over several lines
between triple quotes.

* A text over several lines drops the line end right after its opening quotes.
* A backslash at the end of a line drops the line end together with all blanks and line ends after
  it.
* Up to two quotes may stand right before the closing ones and then belong to the text.

Control characters other than the tabulator must be escaped, and a carriage return counts as part
of a line end only.
-/

namespace Automaton.Document.Toml

/-- Characters that may stand in a line as they are. -/
def isInline (c : Char) : Bool :=
  c == '\t' || (0x20 ≤ c.toNat && c.toNat ≠ 0x7F)

/-- Blanks within a line. -/
def isSpace (c : Char) : Bool :=
  c == ' ' || c == '\t'

/-- A code point written in hexadecimal digits, if it is one. -/
def codePoint (ds : List Char) : Option Char :=
  if ds.all isHexDigit then
    let n := numeral 16 ds
    if n < 0xD800 ∨ (0xDFFF < n ∧ n < 0x110000) then some (Char.ofNat n) else none
  else none

/-- An escape by number: exactly so many hexadecimal digits. -/
def numberedEscape (n : Nat) (cs : List Char) : Option (Char × List Char) :=
  if (cs.take n).length = n then (codePoint (cs.take n)).map (·, cs.drop n) else none

/-- **An escape**, from behind its backslash. -/
def escapeSequence : List Char → Option (Char × List Char)
  | 'b' :: cs => some ('\x08', cs)
  | 't' :: cs => some ('\t', cs)
  | 'n' :: cs => some ('\n', cs)
  | 'f' :: cs => some ('\x0c', cs)
  | 'r' :: cs => some ('\r', cs)
  | 'e' :: cs => some ('\x1b', cs)
  | '"' :: cs => some ('"', cs)
  | '\\' :: cs => some ('\\', cs)
  | 'x' :: cs => numberedEscape 2 cs
  | 'u' :: cs => numberedEscape 4 cs
  | 'U' :: cs => numberedEscape 8 cs
  | _ => none

/-- A text in double quotes on one line, from behind the opening quote. -/
def basicText : Nat → List Char → Option (List Char × List Char)
  | 0, _ => none
  | steps + 1, cs => match cs with
    | [] => none
    | '"' :: cs => some ([], cs)
    | '\\' :: cs => do
      let (c, cs) ← escapeSequence cs
      let (t, rest) ← basicText steps cs
      pure (c :: t, rest)
    | c :: cs =>
      if isInline c then (basicText steps cs).map fun r => (c :: r.1, r.2) else none

/-- A text in single quotes on one line, from behind the opening quote. -/
def literalText : List Char → Option (List Char × List Char)
  | [] => none
  | '\x27' :: cs => some ([], cs)
  | c :: cs => if isInline c then (literalText cs).map fun r => (c :: r.1, r.2) else none

/-- A line end, if the text begins with one. -/
def lineEnd? : List Char → Option (List Char)
  | '\n' :: cs => some cs
  | '\r' :: '\n' :: cs => some cs
  | _ => none

/-- All blanks and line ends in front of a text. -/
def skipLines : List Char → List Char
  | '\r' :: '\n' :: cs => skipLines cs
  | c :: cs => if isSpace c ∨ c = '\n' then skipLines cs else c :: cs
  | [] => []

/-- A run of quotes within a text over several lines: fewer than three belong to the text; from
three on, the last three of at most five close it. -/
def closing (quote : Char) (cs : List Char) : Option (List Char × List Char) :=
  let n := (cs.takeWhile (· == quote)).length
  if n < 3 then none
  else some (List.replicate (min n 5 - 3) quote, cs.drop (min n 5))

/-- A text over several lines in double quotes, from behind the first line end. -/
def basicLines : Nat → List Char → Option (List Char × List Char)
  | 0, _ => none
  | steps + 1, cs =>
    match closing '"' cs with
    | some r => some r
    | none => match cs with
      | [] => none
      | '\\' :: cs =>
        match lineEnd? (cs.dropWhile isSpace) with
        | some cs => basicLines steps (skipLines cs)
        | none => do
          let (c, cs) ← escapeSequence cs
          let (t, rest) ← basicLines steps cs
          pure (c :: t, rest)
      | '\r' :: '\n' :: cs => (basicLines steps cs).map fun r => ('\r' :: '\n' :: r.1, r.2)
      | c :: cs =>
        if isInline c ∨ c = '\n' then (basicLines steps cs).map fun r => (c :: r.1, r.2) else none

/-- A text over several lines in single quotes, from behind the first line end. -/
def literalLines : Nat → List Char → Option (List Char × List Char)
  | 0, _ => none
  | steps + 1, cs =>
    match closing '\x27' cs with
    | some r => some r
    | none => match cs with
      | [] => none
      | '\r' :: '\n' :: cs => (literalLines steps cs).map fun r => ('\r' :: '\n' :: r.1, r.2)
      | c :: cs =>
        if isInline c ∨ c = '\n' then (literalLines steps cs).map fun r => (c :: r.1, r.2) else none

/-- A text on one line; nothing if no quote comes first. -/
def lineText : List Char → Option (List Char × List Char)
  | '"' :: cs => basicText (cs.length + 1) cs
  | '\x27' :: cs => literalText cs
  | _ => none

/-- **A quoted text** in any of the four spellings. -/
def quotedText : List Char → Option (List Char × List Char)
  | '"' :: '"' :: '"' :: cs =>
    let cs := (lineEnd? cs).getD cs
    basicLines (cs.length + 1) cs
  | '\x27' :: '\x27' :: '\x27' :: cs =>
    let cs := (lineEnd? cs).getD cs
    literalLines (cs.length + 1) cs
  | cs => lineText cs

end Automaton.Document.Toml
