import Automaton.Text.Column

/-!
# Paths

A path is a text of *parts* between slashes.  Empty parts and single dots lead nowhere and count for
nothing; two dots lead back.

* `Path.fileName?` is the name that a path ends in, if it ends in one.
* `Path.renamed?` is the same path with another name at its end.
* `Path.extension?` is what follows the last dot of that name, unless the name begins with it.
-/

namespace Automaton.Path

/-- The parts of a path between slashes, as lists of characters. -/
def partsList : List Char → List (List Char)
  | [] => [[]]
  | c :: cs =>
    if c = '/' then [] :: partsList cs
    else match partsList cs with
      | part :: parts => (c :: part) :: parts
      | [] => [[c]]

/-- **The parts of a path** between slashes. -/
def parts (path : String) : List String :=
  (partsList path.toList).map String.ofList

/-- A part that leads nowhere. -/
def isIdle (part : String) : Bool :=
  part == "" || part == "."

/-- The part that leads back. -/
def back : String := ".."

/-- A path cut before the last part that leads somewhere, if there is one. -/
def cut? (path : String) : Option (List String × String) :=
  match (parts path).reverse.dropWhile isIdle with
  | [] => none
  | last :: before => some (before.reverse, last)

/-- **The name that a path ends in.** -/
def fileName? (path : String) : Option String := do
  let (_, last) ← cut? path
  if last = back then none else some last

/-- **A path with another name** at its end. -/
def renamed? (path : String) (rename : String → String) : Option String := do
  let (before, last) ← cut? path
  if last = back then none else some (Text.joined "/" (before ++ [rename last]))

/-- **The extension of a path**: what its name has after the last dot. -/
def extension? (path : String) : Option String := do
  let name ← fileName? path
  let after := name.toList.reverse.takeWhile (· != '.')
  match name.toList.reverse.drop after.length with
  | _ :: _ :: _ => some (String.ofList after.reverse)
  | _ => none

/-- A path that begins inside another one. -/
def within (directory path : String) : String :=
  if directory.toList.getLast? = some '/' then directory ++ path else directory ++ "/" ++ path

/-- A path can be renamed exactly if it ends in a name. -/
theorem isSome_renamed? (path : String) (rename : String → String) :
    (renamed? path rename).isSome = (fileName? path).isSome := by
  simp only [renamed?, fileName?]
  cases cut? path with
  | none => rfl
  | some c => by_cases h : c.2 = back <;> simp [h]

end Automaton.Path
