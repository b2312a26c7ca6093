import Automaton.Filter.Basic

/-!
# Wildcards

A shell pattern matches a text as a whole: a star stands for any characters, a question mark for
one, and brackets for one of several.  A character that was quoted stands for itself, so patterns
are made from characters of which each one knows whether it was (`Shell.Letter`).
-/

namespace Automaton.Filter.Shell

/-- **A character of an expanded word.** -/
structure Letter where
  char : Char
  /-- It stands for itself. -/
  literal : Bool
  deriving DecidableEq, Repr

/-- **A part of a pattern.** -/
inductive Wildcard where
  /-- A character. -/
  | char (c : Char)
  /-- Any character. -/
  | any
  /-- Any characters. -/
  | many
  /-- A character of a kind. -/
  | among (isMember : Char → Bool)

namespace Wildcard

/-- Whether a pattern matches a text. -/
def accepts : List Wildcard → Chars → Bool
  | [], cs => cs.isEmpty
  | char c :: ws, d :: cs => c == d && accepts ws cs
  | any :: ws, _ :: cs => accepts ws cs
  | among isMember :: ws, c :: cs => isMember c && accepts ws cs
  | many :: ws, cs => (List.range (cs.length + 1)).any fun k => accepts ws (cs.drop k)
  | _, [] => false

/-- Whether a letter has the meaning of a character. -/
def means (l : Letter) (c : Char) : Bool :=
  !l.literal && l.char == c

/-- The name of a class, from behind its bracket, and what follows it. -/
def className? (ls : List Letter) : Option ((Char → Bool) × List Letter) :=
  classes.findSome? fun (name, isMember) =>
    let written := (":" ++ name ++ ":]").toList
    if ls.take written.length |>.map (·.char) |> (· == written) then
      some (isMember, ls.drop written.length)
    else none

/-- The members between brackets, from behind the first one, and what follows the last one.
`first` says that a closing bracket is a member here. -/
def members : Nat → Bool → List Letter → Option ((Char → Bool) × List Letter)
  | 0, _, _ => none
  | fuel + 1, first, ls =>
    let also (p : Char → Bool) (rest : List Letter) : Option ((Char → Bool) × List Letter) :=
      (members fuel false rest).map fun (q, rest) => (fun c => p c || q c, rest)
    match ls with
    | [] => none
    | l :: ls =>
      -- right behind the opening bracket, a closing one is a member
      if means l ']' ∧ !first then some (fun _ => false, ls)
      else match if means l '[' then className? ls else none with
        | some (p, rest) => also p rest
        | none => match ls with
          | dash :: last :: rest =>
            if means dash '-' ∧ !means last ']' then
              also (fun c => l.char ≤ c && c ≤ last.char) rest
            else also (· == l.char) ls
          | ls => also (· == l.char) ls

/-- The members between brackets or, behind an exclamation mark, all others. -/
def bracketed? (ls : List Letter) : Option ((Char → Bool) × List Letter) :=
  match ls with
  | [] => none
  | l :: rest =>
    if means l '!' ∨ means l '^' then
      (members ls.length true rest).map fun (p, rest) => (fun c => !p c, rest)
    else members (ls.length + 1) true ls

/-- The pattern that letters make. -/
def read : Nat → List Letter → List Wildcard
  | 0, _ => []
  | fuel + 1, ls => match ls with
    | [] => []
    | l :: ls =>
      if means l '*' then many :: read fuel ls
      else if means l '?' then any :: read fuel ls
      else match if means l '[' then bracketed? ls else none with
        | some (p, rest) => among p :: read fuel rest
        | none => char l.char :: read fuel ls

/-- The pattern that letters make. -/
def ofLetters (ls : List Letter) : List Wildcard :=
  read ls.length ls

/-- A text without what matches a pattern at one end; of several such ends the longest or the
shortest one. -/
def trim (atEnd longest : Bool) (ws : List Wildcard) (cs : Chars) : Chars :=
  let lengths := List.range (cs.length + 1)
  let fits (n : Nat) : Bool :=
    accepts ws (if atEnd then cs.drop (cs.length - n) else cs.take n)
  match (if longest then lengths.reverse else lengths).find? fits with
  | none => cs
  | some n => if atEnd then cs.take (cs.length - n) else cs.drop n

end Wildcard

end Automaton.Filter.Shell
