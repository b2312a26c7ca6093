import Automaton.Filter.Basic

/-!
# Shell scripts

A shell script is made of *commands* (`Shell.Command`): simple ones, which are lists of words, and
those that other commands are part of.  A *word* is a list of pieces (`Shell.Piece`), because what a
word stands for may hang on the values of parameters and on the output of other commands.
-/

namespace Automaton.Filter.Shell

/-- **What takes the place of a value.** -/
inductive Fallback where
  /-- A word, if there is no value. -/
  | use
  /-- A word, if there is no value, and it becomes the value. -/
  | assign
  /-- A complaint, if there is no value. -/
  | complain
  /-- A word, if there is a value. -/
  | replace
  deriving DecidableEq, Repr

/-- **Where a redirection leads.** -/
inductive Direction where
  /-- From a file. -/
  | source
  /-- To a file, which is emptied. -/
  | target
  /-- To the end of a file. -/
  | targetEnd
  /-- To where another channel leads. -/
  | copy
  /-- From a text. -/
  | document
  deriving DecidableEq, Repr

mutual

/-- **A piece of a word.**  Pieces in quotes are never taken apart. -/
inductive Piece where
  /-- A text. -/
  | text (cs : Chars) (quoted : Bool)
  /-- The value of a parameter. -/
  | value (name : Chars) (use : Use) (quoted : Bool)
  /-- The output of a command. -/
  | output (body : Command) (quoted : Bool)
  /-- The value of an arithmetical expression. -/
  | sum (expression : List Piece) (quoted : Bool)

/-- **What is taken of a value.** -/
inductive Use where
  /-- All of it. -/
  | all
  /-- Its length. -/
  | length
  /-- Something else, if there is none; `orEmpty` says that an empty value counts as none. -/
  | instead (fallback : Fallback) (orEmpty : Bool) (word : List Piece)
  /-- All but what matches a pattern at one end. -/
  | trimmed (atEnd longest : Bool) (pattern : List Piece)
  /-- Nothing that makes sense. -/
  | senseless

/-- **A redirection** of a channel. -/
inductive Redirection where
  | mk (channel : Nat) (direction : Direction) (word : List Piece)

/-- **A command.** -/
inductive Command where
  /-- A program or a function with its arguments; assignments stand before it. -/
  | simple (line : Nat) (assignments : List (Chars × List Piece)) (words : List (List Piece))
      (redirections : List Redirection)
  /-- A command with redirections. -/
  | redirected (line : Nat) (body : Command) (redirections : List Redirection)
  /-- One after the other. -/
  | sequence (commands : List Command)
  /-- The second one only if the first one succeeds. -/
  | both (first second : Command)
  /-- The second one only if the first one fails. -/
  | either (first second : Command)
  /-- Success and failure exchanged. -/
  | negated (body : Command)
  /-- Each one reads what the one before writes. -/
  | pipeline (commands : List Command)
  /-- In the background. -/
  | background (body : Command)
  /-- In a shell of its own. -/
  | apart (body : Command)
  /-- One of two. -/
  | choice (condition yes no : Command)
  /-- As long as a condition succeeds or, with `untilThen`, fails. -/
  | loop (untilThen : Bool) (condition body : Command)
  /-- Once for each word. -/
  | each (line : Nat) (name : Chars) (words : List (List Piece)) (body : Command)
  /-- The first one with a pattern that a word matches. -/
  | select (line : Nat) (word : List Piece) (branches : List (List (List Piece) × Command))
  /-- Gives a name to a command. -/
  | define (name : Chars) (body : Command)

end

/-- **A word.** -/
abbrev Word := List Piece

/-- The command that does nothing. -/
def Command.idle : Command :=
  .sequence []

instance : Inhabited Command := ⟨.idle⟩

instance : Inhabited Piece := ⟨.text [] false⟩

/-- A piece in front of others; neighbouring texts become one. -/
def Piece.before : Piece → Word → Word
  | .text cs q, .text ds r :: ps => if q = r then .text (cs ++ ds) q :: ps
    else .text cs q :: .text ds r :: ps
  | p, ps => p :: ps

/-- The text of a word without quotes, values and outputs. -/
def plainText? : Word → Option Chars
  | [.text cs false] => some cs
  | _ => none

/-- The characters that stand in a word, and whether any of them is in quotes. -/
def writtenText : Word → Chars × Bool
  | [] => ([], false)
  | .text cs q :: ps => let (ds, r) := writtenText ps; (cs ++ ds, q || r)
  | .value name _ q :: ps => let (ds, r) := writtenText ps; ('$' :: name ++ ds, q || r)
  | _ :: ps => writtenText ps

/-- The first character of a name. -/
def isNameStart (c : Char) : Bool :=
  c.isAlpha || c == '_'

/-- A name of a variable. -/
def isName : Chars → Bool
  | c :: cs => isNameStart c && cs.all isWordPart
  | [] => false

/-- The parts of an assignment, if a word is one. -/
def assignment? : Word → Option (Chars × Word)
  | .text cs false :: ps =>
    let name := cs.takeWhile isWordPart
    match cs.drop name.length with
    | '=' :: value =>
      if isName name then
        some (name, if value.isEmpty then ps else .text value false :: ps)
      else none
    | _ => none
  | _ => none

end Automaton.Filter.Shell
