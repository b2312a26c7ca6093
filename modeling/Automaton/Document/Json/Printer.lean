import Automaton.Document.Basic

/-!
# Writing JSON

Two layouts of the same text: `Json.compact` on one line, and `Json.pretty` with one item a line and
two more spaces at each level, for readers of reports.  Empty lists and records stay on one line.

Only quotes, backslashes and the control characters below the space are escaped.
-/

namespace Automaton.Document.Json

/-- **One character of a string.** -/
def escapeChar (c : Char) : List Char :=
  if c = '"' then ['\\', '"']
  else if c = '\\' then ['\\', '\\']
  else if c = '\n' then ['\\', 'n']
  else if c = '\r' then ['\\', 'r']
  else if c = '\t' then ['\\', 't']
  else if c = '\x08' then ['\\', 'b']
  else if c = '\x0c' then ['\\', 'f']
  else if c.toNat < 0x20 then
    ['\\', 'u', '0', '0', Nat.digitChar (c.toNat / 16), Nat.digitChar (c.toNat % 16)]
  else [c]

/-- **A string literal.** -/
def quote (s : String) : String :=
  String.ofList ('"' :: (s.toList.flatMap escapeChar ++ ['"']))

/-- The spelling of a value that is not a list or a record. -/
def plain : Document → String
  | .boolean true => "true"
  | .boolean false => "false"
  | .number literal => literal
  | .text s => quote s
  | _ => "null"

mutual

/-- **On one line**, without any blanks. -/
def compact : Document → String
  | .list [] => "[]"
  | .list (d :: ds) => "[" ++ compact d ++ compactItems ds ++ "]"
  | .record [] => "\x7b\x7d"
  | .record ((n, d) :: ms) =>
    "\x7b" ++ quote n ++ ":" ++ compact d ++ compactMembers ms ++ "\x7d"
  | d => plain d

/-- The items after the first. -/
def compactItems : List Document → String
  | [] => ""
  | d :: ds => "," ++ compact d ++ compactItems ds

/-- The members after the first. -/
def compactMembers : List (String × Document) → String
  | [] => ""
  | (n, d) :: ms => "," ++ quote n ++ ":" ++ compact d ++ compactMembers ms

end

/-- A new line at a level. -/
def newline (level : Nat) : String :=
  "\n" ++ String.ofList (List.replicate (2 * level) ' ')

mutual

/-- One item a line, at a level. -/
def prettyAt (level : Nat) : Document → String
  | .list [] => "[]"
  | .list (d :: ds) =>
    "[" ++ newline (level + 1) ++ prettyAt (level + 1) d ++ prettyItems (level + 1) ds ++
      newline level ++ "]"
  | .record [] => "\x7b\x7d"
  | .record ((n, d) :: ms) =>
    "\x7b" ++ newline (level + 1) ++ quote n ++ ": " ++ prettyAt (level + 1) d ++
      prettyMembers (level + 1) ms ++ newline level ++ "\x7d"
  | d => plain d

/-- The items after the first. -/
def prettyItems (level : Nat) : List Document → String
  | [] => ""
  | d :: ds => "," ++ newline level ++ prettyAt level d ++ prettyItems level ds

/-- The members after the first. -/
def prettyMembers (level : Nat) : List (String × Document) → String
  | [] => ""
  | (n, d) :: ms =>
    "," ++ newline level ++ quote n ++ ": " ++ prettyAt level d ++ prettyMembers level ms

end

/-- **One item a line.** -/
def pretty (d : Document) : String :=
  prettyAt 0 d

end Automaton.Document.Json
