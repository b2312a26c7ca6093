import Automaton.Filter.Pattern.Reader

/-!
# Editing scripts

An *editing script* is a list of steps.  Each step has a selector, which says on which lines it
applies, and an action on the line at hand.  Steps between braces form a block; a script keeps the
braces as steps of their own, so that jumps from anywhere to any label are jumps to a number.
-/

namespace Automaton.Filter.Sed

/-! ### Selecting lines -/

/-- **What to look for** in a line; nothing stands for what was looked for last. -/
abbrev Wanted := Option (Pattern × Pattern.Options)

/-- **One address.** -/
inductive Address where
  /-- The line with a number. -/
  | line (number : Nat)
  /-- Every so many lines from a first one on. -/
  | every (first step : Nat)
  /-- The last line. -/
  | last
  /-- The lines with something wanted. -/
  | holding (wanted : Wanted)
  deriving Repr, Inhabited

/-- **Where a range of lines ends.** -/
inductive Until where
  /-- At an address. -/
  | address (a : Address)
  /-- So many lines later. -/
  | more (lines : Nat)
  /-- At the next line whose number is a multiple. -/
  | multiple (of : Nat)
  deriving Repr, Inhabited

/-- **Which lines a step applies to.** -/
structure Selector where
  /-- The line, or the first line of a range; nothing stands for all lines. -/
  first : Option Address
  /-- The end of the range, if there is one. -/
  until? : Option Until
  /-- All other lines instead. -/
  negated : Bool
  deriving Repr, Inhabited

/-! ### Changing lines -/

/-- **A change of case** within a replacement. -/
inductive CaseChange where
  /-- From here on capitals. -/
  | upper
  /-- From here on small letters. -/
  | lower
  /-- From here on as it is. -/
  | asIs
  /-- The next letter is a capital. -/
  | upperNext
  /-- The next letter is a small one. -/
  | lowerNext
  deriving DecidableEq, Repr

/-- **A part of a replacement.** -/
inductive Part where
  /-- A text. -/
  | text (cs : Chars)
  /-- What a group holds; group zero is the whole piece. -/
  | held (group : Nat)
  /-- A change of case. -/
  | case (change : CaseChange)
  deriving Repr

/-- **Where lines can be written to** besides the output of the script. -/
inductive Sink where
  /-- The output. -/
  | output
  /-- The complaints. -/
  | complaints
  /-- Somewhere else. -/
  | elsewhere
  deriving DecidableEq, Repr

/-- **A substitution.** -/
structure Substitution where
  /-- What is replaced. -/
  wanted : Wanted
  /-- What takes its place. -/
  parts : List Part
  /-- The first occurrence to be replaced. -/
  nth : Nat
  /-- All later ones are replaced too. -/
  everywhere : Bool
  /-- The changed line is printed at once. -/
  print : Bool
  /-- Where else the changed line is written to. -/
  sink : Option Sink
  deriving Repr

/-- **When a jump is made.** -/
inductive Condition where
  /-- Always. -/
  | always
  /-- After a substitution. -/
  | changed
  /-- Without one. -/
  | unchanged
  deriving DecidableEq, Repr

/-- **What a step does.** -/
inductive Action where
  /-- Begins a block. -/
  | opening
  /-- Ends a block. -/
  | closing
  /-- Marks a place. -/
  | label (name : Chars)
  /-- Goes on at a label or, without a name, at the end. -/
  | jump (when : Condition) (name : Chars)
  /-- Writes a text after the line. -/
  | append (text : Chars)
  /-- Writes a text before the line. -/
  | insert (text : Chars)
  /-- Writes a text in place of the line. -/
  | change (text : Chars)
  /-- Drops the line. -/
  | delete
  /-- Drops the first line of several. -/
  | deleteFirst
  /-- Prints the line. -/
  | print
  /-- Prints the first line of several. -/
  | printFirst
  /-- Prints the line with everything made visible, and so many characters a line. -/
  | list (width : Option Nat)
  /-- Prints the number of the line. -/
  | number
  /-- Prints the name of the input. -/
  | name
  /-- Goes on with the next line. -/
  | next
  /-- Goes on with the next line behind this one. -/
  | join
  /-- Puts the line aside. -/
  | hold
  /-- Puts the line behind what has been put aside. -/
  | holdMore
  /-- Takes what has been put aside. -/
  | get
  /-- Takes what has been put aside behind the line. -/
  | getMore
  /-- Exchanges the line and what has been put aside. -/
  | swap
  /-- Empties the line. -/
  | clear
  /-- Stops, with a status; the line may be printed before. -/
  | quit (status : Nat) (print : Bool)
  /-- Writes the line, or the first of several. -/
  | write (sink : Sink) (firstOnly : Bool)
  /-- Replaces pieces of the line. -/
  | substitute (s : Substitution)
  /-- Exchanges characters. -/
  | exchange (pairs : List (Char × Char))
  /-- Does nothing. -/
  | nothing
  deriving Repr, Inhabited

/-- **A step.** -/
structure Step where
  selector : Selector
  action : Action
  deriving Repr, Inhabited

/-- **A script.** -/
structure Script where
  /-- Its steps. -/
  steps : Array Step
  /-- It begins with the mark that turns printing off. -/
  silent : Bool
  deriving Inhabited

namespace Script

/-- The number of the step with a label. -/
def find (s : Script) (name : Chars) : Option Nat :=
  s.steps.findIdx? fun step => match step.action with
    | .label n => n == name
    | _ => false

/-- The number of the step behind the end of the block whose beginning lies before `i`; `depth`
blocks within it are open. -/
def past (s : Script) : Nat → Nat → Nat → Nat
  | 0, i, _ => i
  | fuel + 1, i, depth => match s.steps[i]? with
    | none => i
    | some step => match step.action with
      | .opening => s.past fuel (i + 1) (depth + 1)
      | .closing => if depth = 0 then i + 1 else s.past fuel (i + 1) (depth - 1)
      | _ => s.past fuel (i + 1) depth

end Script

end Automaton.Filter.Sed
