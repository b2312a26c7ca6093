import Automaton.Document.Toml.Text
import Automaton.Document.Toml.Tree

/-!
# Reading TOML

A TOML text is a sequence of lines, and each line is one *statement* (`Toml.Statement`): a header
that opens a table or the next table of a list, or an assignment.  Reading happens in two steps:
`Toml.statements` recognises the statements, and `Toml.grow` carries them out on a growing tree (see
`Toml.Members`).

Values nest, and so do the paths of keys; both may be at most `Toml.maxDepth` levels deep.  Within
brackets and braces, lines may end anywhere between two tokens and a comma may follow the last item.

As in the reader for the other format, functions that call each other take a number of steps that is
generous for the length of the text.
-/

namespace Automaton.Document.Toml

/-- How deep values and keys may nest. -/
def maxDepth : Nat := 80

/-- What is left after blanks within the line. -/
def skipSpaces (cs : List Char) : List Char :=
  cs.dropWhile isSpace

/-- What is left after a comment, if there is one; the line end stays. -/
def skipComment : List Char → List Char
  | '#' :: cs => cs.dropWhile isInline
  | cs => cs

/-- The end of a line: blanks, perhaps a comment, and a line end unless the text ends. -/
def lineTail (cs : List Char) : Option (List Char) :=
  match skipComment (skipSpaces cs) with
  | [] => some []
  | cs => lineEnd? cs

/-- Blanks, comments and line ends between the items of a list. -/
def skipBetween : Nat → List Char → List Char
  | 0, cs => cs
  | steps + 1, cs =>
    match skipComment (skipSpaces cs) with
    | cs => match lineEnd? cs with
      | some cs => skipBetween steps cs
      | none => cs

/-- The characters of a key without quotes. -/
def isBareKeyChar (c : Char) : Bool :=
  c.isAlphanum || c == '_' || c == '-'

/-- One step of a key. -/
def keyStep (cs : List Char) : Option (String × List Char) :=
  match cs.takeWhile isBareKeyChar with
  | [] => (lineText cs).map fun r => (String.ofList r.1, r.2)
  | ds => some (String.ofList ds, cs.dropWhile isBareKeyChar)

/-- The steps of a key from behind a step: each follows a point. -/
def keySteps : Nat → List Char → Option (List String × List Char)
  | 0, _ => none
  | steps + 1, cs => match skipSpaces cs with
    | '.' :: cs => do
      let (k, cs) ← keyStep (skipSpaces cs)
      let (ks, cs) ← keySteps steps cs
      pure (k :: ks, cs)
    | cs => some ([], cs)

/-- **A key**: its path and its last step.  Blanks around it are taken along. -/
def key (cs : List Char) : Option (List String × String × List Char) := do
  let (k, cs) ← keyStep (skipSpaces cs)
  let (ks, cs) ← keySteps (cs.length + 1) cs
  if maxDepth < ks.length + 1 then none
  pure ((k :: ks).dropLast, (k :: ks).getLastD k, cs)

/-- A word, which may be a date and a time with a space between. -/
def word (cs : List Char) : List Char × List Char :=
  let w := cs.takeWhile isWordChar
  let rest := cs.dropWhile isWordChar
  match date w, rest with
  | some [], ' ' :: d :: more =>
    if d.isDigit then
      (w ++ ' ' :: (d :: more).takeWhile isWordChar, (d :: more).dropWhile isWordChar)
    else (w, rest)
  | _, _ => (w, rest)

/-- A value that is not a list or an inline table. -/
def leaf : List Char → Option (Document × List Char)
  | '"' :: cs => (quotedText ('"' :: cs)).map fun r => (.text (String.ofList r.1), r.2)
  | '\x27' :: cs => (quotedText ('\x27' :: cs)).map fun r => (.text (String.ofList r.1), r.2)
  | cs => (scalar (word cs).1).map (·, (word cs).2)

/-- An inline table from its assignments. -/
def inlineTable (assignments : List (List String × String × Document)) : Option Document := do
  let members ← assignments.foldlM (fun ms (path, name, d) => Members.assign name d path ms) []
  pure (.record (membersToDocuments members))

mutual

/-- **A value**, at a depth. -/
def value (depth : Nat) : Nat → List Char → Option (Document × List Char)
  | 0, _ => none
  | steps + 1, cs => match cs with
    | '[' :: cs => do
      if maxDepth < depth + 1 then none
      let (ds, cs) ← items (depth + 1) steps (skipBetween (cs.length + 1) cs)
      pure (.list ds, cs)
    | '\x7b' :: cs => do
      if maxDepth < depth + 1 then none
      let (as, cs) ← pairs (depth + 1) steps (skipBetween (cs.length + 1) cs)
      pure (← inlineTable as, cs)
    | cs => leaf cs

/-- The items of a list up to the closing bracket. -/
def items (depth : Nat) : Nat → List Char → Option (List Document × List Char)
  | 0, _ => none
  | steps + 1, cs => match cs with
    | ']' :: cs => some ([], cs)
    | cs => do
      let (d, cs) ← value depth steps cs
      match skipBetween (cs.length + 1) cs with
      | ',' :: cs => do
        let (ds, cs) ← items depth steps (skipBetween (cs.length + 1) cs)
        pure (d :: ds, cs)
      | ']' :: cs => pure ([d], cs)
      | _ => none

/-- The assignments of an inline table up to the closing brace. -/
def pairs (depth : Nat) :
    Nat → List Char → Option (List (List String × String × Document) × List Char)
  | 0, _ => none
  | steps + 1, cs => match cs with
    | '\x7d' :: cs => some ([], cs)
    | cs => do
      let (path, name, cs) ← key cs
      let cs ← expect '=' (skipBetween (cs.length + 1) cs)
      let (d, cs) ← value depth steps (skipBetween (cs.length + 1) cs)
      match skipBetween (cs.length + 1) cs with
      | ',' :: cs => do
        let (as, cs) ← pairs depth steps (skipBetween (cs.length + 1) cs)
        pure ((path, name, d) :: as, cs)
      | '\x7d' :: cs => pure ([(path, name, d)], cs)
      | _ => none

end

/-- **What a line says.** -/
inductive Statement where
  /-- Opens a table. -/
  | header (path : List String) (name : String)
  /-- Opens the next table of a list. -/
  | nextHeader (path : List String) (name : String)
  /-- Places a value below the open table. -/
  | assign (path : List String) (name : String) (d : Document)

/-- A header, from behind its first bracket. -/
def header : List Char → Option (Statement × List Char)
  | '[' :: cs => do
    let (path, name, cs) ← key cs
    let cs ← expect ']' (← expect ']' cs)
    pure (.nextHeader path name, cs)
  | cs => do
    let (path, name, cs) ← key cs
    pure (.header path name, ← expect ']' cs)

/-- An assignment. -/
def assignment (cs : List Char) : Option (Statement × List Char) := do
  let (path, name, cs) ← key cs
  let cs ← expect '=' cs
  let (d, cs) ← value 0 (2 * cs.length + 2) (skipSpaces cs)
  pure (.assign path name d, cs)

/-- **The statements of a text**, one a line at most. -/
def statements : Nat → List Char → Option (List Statement)
  | 0, _ => none
  | steps + 1, cs =>
    match skipSpaces cs with
    | [] => some []
    | '[' :: cs => do
      let (s, cs) ← header cs
      let ss ← statements steps (← lineTail cs)
      pure (s :: ss)
    | cs =>
      match lineTail cs with
      | some [] => some []
      | some cs => statements steps cs
      | none => do
        let (s, cs) ← assignment cs
        let ss ← statements steps (← lineTail cs)
        pure (s :: ss)

/-- Carries out one statement.  Besides the members of the whole document, the state holds the path
of the open table. -/
def grow (state : Members × List String) : Statement → Option (Members × List String)
  | .header path name => do
    let root ← Members.follow (Members.open name) path state.1
    pure (root, path ++ [name])
  | .nextHeader path name => do
    let root ← Members.follow (Members.openNext name) path state.1
    pure (root, path ++ [name])
  | .assign path name d => do
    let root ← Members.follow (Members.assign name d path) state.2 state.1
    pure (root, state.2)

/-- A byte order mark in front of a text is passed over. -/
def skipMark : List Char → List Char
  | '\ufeff' :: cs => cs
  | cs => cs

/-- **Reading TOML**: the record that the whole text denotes, or nothing if the text is not TOML. -/
def read (text : String) : Option Document := do
  let cs := skipMark text.toList
  let ss ← statements (cs.length + 1) cs
  let (root, _) ← ss.foldlM grow ([], [])
  pure (.record (membersToDocuments root))

end Automaton.Document.Toml
