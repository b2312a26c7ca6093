import Automaton.Filter.Shell.Script

/-!
# Tokens of shell scripts

What a script is read by: tokens, the place that reading has reached, and the characters that end a
word or lose their meaning in it.

A text that follows in later lines is taken out of them as soon as its redirection has been read, so
that the rest of the line can be read on as if the text were not there (`Shell.takeDocument`).
-/

namespace Automaton.Filter.Shell

/-- **What is wrong with a script**, and in which line. -/
structure Fault where
  message : String
  line : Nat
  deriving DecidableEq, Repr

/-- **A token.** -/
inductive Token where
  /-- A word. -/
  | word (w : Word)
  /-- A sign between commands. -/
  | sign (s : String)
  /-- A redirection without its word; `indented` says that tabs are left out of its text. -/
  | redirection (channel : Nat) (direction : Direction) (indented : Bool)
  /-- The end of a line. -/
  | newline
  /-- The end of the script. -/
  | finish

/-- The words with a meaning of their own where a command may begin. -/
def keywords : List String :=
  ["!", "\x7b", "\x7d", "case", "do", "done", "elif", "else", "esac", "fi", "for", "if", "in",
    "then", "until", "while"]

/-- The keyword that a token is. -/
def Token.keyword? : Token → Option String
  | .word w => match plainText? w with
    | some cs => keywords.find? (·.toList == cs)
    | none => none
  | _ => none

/-- What a token is called in complaints. -/
def Token.shown (t : Token) : String :=
  match t.keyword? with
  | some k => s!"\"{k}\""
  | none => match t with
    | .word _ => "word"
    | .sign s => s!"\"{s}\""
    | .redirection _ _ _ => "redirection"
    | .newline => "newline"
    | .finish => "end of file"

/-- **How far reading has come.** -/
structure Reading where
  /-- What is left. -/
  rest : Chars
  /-- The number of the line. -/
  line : Nat
  /-- Lines of texts that have been read before their turn. -/
  early : Nat
  /-- A token that has been read but not used. -/
  ahead : Option Token

/-- Reading a part of a script. -/
abbrev Read := StateT Reading (Except Fault)

/-- Gives up. -/
def fail {α : Type} (message : String) : Read α := fun r => .error ⟨message, r.line⟩

/-- Fails for want of something that has been looked for up to the end. -/
def failAtEnd {α : Type} (message : String) : Read α := fun r =>
  .error ⟨message, r.line + r.early + r.rest.count '\n'⟩

/-- Line ends behind backslashes count for nothing: how many of them come next, and what follows. -/
def unbroken : Chars → Nat × Chars
  | '\\' :: '\n' :: cs => let (n, rest) := unbroken cs; (n + 1, rest)
  | cs => (0, cs)

/-- The next character. -/
def peek? : Read (Option Char) := do
  let r ← get
  let (n, rest) := unbroken r.rest
  set { r with rest, line := r.line + n }
  pure rest.head?

/-- Takes the next character as it is. -/
def next? : Read (Option Char) := do
  let r ← get
  match r.rest with
  | [] => pure none
  | c :: rest =>
    if c = '\n' then set { r with rest, line := r.line + 1 + r.early, early := 0 }
    else set { r with rest }
    pure (some c)

/-- Takes the next character. -/
def drop : Read Unit := do
  let _ ← next?

/-- Takes the next character if it is a certain one. -/
def take? (c : Char) : Read Bool := do
  if (← peek?) = some c then drop; pure true
  else pure false

/-- Takes characters of a kind. -/
def takeWhile (p : Char → Bool) : Nat → Read Chars
  | 0 => pure []
  | fuel + 1 => do
    match ← peek? with
    | some c => if p c then drop; return c :: (← takeWhile p fuel) else pure []
    | none => pure []

/-! ### Words -/

/-- **Where a word stands**, which decides what ends it and what its characters mean. -/
inductive Place where
  /-- Between blanks. -/
  | bare
  /-- In quotes. -/
  | quotes
  /-- In braces, which may stand in quotes. -/
  | braces (quoted : Bool)
  /-- In an arithmetical expression, so many parentheses deep. -/
  | expression (depth : Nat)
  /-- In a text by itself. -/
  | document

/-- Quotes have no meaning in this place, and words are not taken apart. -/
def Place.isQuoted : Place → Bool
  | .bare => false
  | .braces quoted => quoted
  | _ => true

/-- The characters that a backslash takes the meaning from. -/
def Place.escapable : Place → Char → Bool
  | .bare, _ | .braces false, _ => true
  | .quotes, c | .expression _, c => "$\x60\"\\".toList.contains c
  | .braces true, c => "$\x60\"\\\x7d".toList.contains c
  | .document, c => "$\x60\\".toList.contains c

/-- A character that ends a word. -/
def endsWord (c : Char) : Bool :=
  " \t\n&;<>()|".toList.contains c

/-- A parameter with a name of one character. -/
def isSpecial (c : Char) : Bool :=
  "*@#?-$!".toList.contains c

/-- The text up to a quote, and what follows the quote. -/
def singleQuoted : Chars → Option (Chars × Chars)
  | [] => none
  | '\x27' :: cs => some ([], cs)
  | c :: cs => (singleQuoted cs).map fun (text, rest) => (c :: text, rest)

/-- The text up to a back quote, and what follows it; backslashes take its meaning from it. -/
def backQuoted (quoted : Bool) : Chars → Option (Chars × Chars)
  | [] => none
  | '\x60' :: cs => some ([], cs)
  | '\\' :: c :: cs =>
    let escapes := c == '\x60' || c == '$' || c == '\\' || (quoted && c == '"')
    (backQuoted quoted cs).map fun (text, rest) =>
      (if escapes then c :: text else '\\' :: c :: text, rest)
  | c :: cs => (backQuoted quoted cs).map fun (text, rest) => (c :: text, rest)

/-- The lines of a text up to a certain line, and what follows that line. -/
def document (indented : Bool) (last : Chars) : List Line → Chars × List Line
  | [] => ([], [])
  | l :: lines =>
    let text := if indented then l.text.dropWhile (· == '\t') else l.text
    if text = last then ([], lines)
    else
      let (body, rest) := document indented last lines
      (text ++ (if l.complete then ['\n'] else []) ++ body, rest)

/-- Takes a text whose last line is known out of the lines that are to come. -/
def takeDocument (indented : Bool) (last : Chars) : Read Chars := do
  let r ← get
  -- the text begins on the next line, but this line is not read to its end yet
  let here := r.rest.takeWhile (· != '\n')
  let lines := linesOf '\n' (r.rest.drop (here.length + 1))
  let (body, lines') := document indented last lines
  set { r with
    rest := here ++ (if lines.isEmpty then r.rest.drop here.length
      else '\n' :: joinLines '\n' lines'),
    early := r.early + (lines.length - lines'.length) }
  pure body

/-- The next token, which stays where it is. -/
def unexpected {α : Type} (t : Token) (expected : String) : Read α :=
  fail ("Syntax error: " ++ t.shown ++ " unexpected" ++
    if expected.isEmpty then "" else s!" (expecting {expected})")

/-- Gives a token back. -/
def giveBack (t : Token) : Read Unit :=
  modify fun r => { r with ahead := some t }

end Automaton.Filter.Shell
