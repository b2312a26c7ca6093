import Automaton.Error

/-!
# Destination languages

A source is generated for one of two languages.  Each has a name, a file that sources are written to
unless another one is asked for, and rules about names.

## Names in a source

Names from the table stand in the source as they are, so two things can go wrong beyond the validity
of the table: two declarations of the source may end up with one name, or a name may be taken by the
language.  `Target.checkNames` looks for the first kind of fault among the declarations
(`Symbol.clashes`) and then for the second among the *uses* of names, in the order in which a source
mentions them.
-/

namespace Automaton

/-- **A destination language.** -/
inductive Target where
  /-- Go. -/
  | go
  /-- Rust. -/
  | rust
  deriving DecidableEq, Repr, Inhabited

namespace Target

/-- The name of a language. -/
def name : Target → String
  | go => "go"
  | rust => "rust"

/-- The language of a name. -/
def ofName? (s : String) : Option Target :=
  [go, rust].find? (·.name == s)

/-- The file that a source is written to unless another one is asked for. -/
def standardFile : Target → String
  | go => "fsm_GEN.go"
  | rust => "fsm_gen.rs"

/-- The first line of every source. -/
def banner : String := "// Code generated by fsmgen. DO NOT EDIT."

/-- **What is wrong with the names of a source.** -/
inductive NameFault where
  /-- Two declarations have one name. -/
  | clash (c : Symbol.Clash)
  /-- A name is taken by the language. -/
  | reserved (target : Target) (role name : String)
  deriving DecidableEq, Repr

/-- A fault as an error, in words. -/
def NameFault.error : NameFault → Error
  | clash c => .collision c.symbol c.first c.second
  | reserved target role name => .synthesis s!"{role} '{name}' is reserved in {target.name} output"

/-- **A use of a name** in a source: what it is used for, and the names that are not available. -/
structure Use where
  /-- What the name is used for, in the words of messages. -/
  role : String
  /-- The name. -/
  name : String
  /-- The names that are taken. -/
  taken : List String

/-- **Checking the names of a source**: its declarations, as names with what they were made of, and
its uses of names. -/
def checkNames (target : Target) (declarations : List (String × String)) (uses : List Use) :
    Except NameFault Unit :=
  match Symbol.clashes declarations with
  | c :: _ => .error (.clash c)
  | [] => match uses.find? fun u => u.taken.contains u.name with
    | some u => .error (.reserved target u.role u.name)
    | none => .ok ()

theorem ofName?_name (t : Target) : ofName? t.name = some t := by
  cases t <;> decide

/-- Names are in order exactly if no declaration clashes and no use is taken. -/
theorem checkNames_eq_ok_iff {target : Target} {declarations : List (String × String)}
    {uses : List Use} :
    checkNames target declarations uses = .ok () ↔
      (declarations.map (·.1)).Nodup ∧ ∀ u ∈ uses, u.name ∉ u.taken := by
  rw [checkNames, ← Symbol.clashes_eq_nil_iff]
  split
  · next h => simp [h]
  · next h =>
    rw [h]
    simp only [true_and]
    split
    · next u hu =>
      -- the use that is reported is one that is not allowed
      have hmem := List.mem_of_find?_eq_some hu
      have htaken := List.find?_some hu
      simp only [List.contains_iff_mem] at htaken
      simp only [reduceCtorEq, false_iff]
      intro hall
      exact hall u hmem htaken
    · next hu =>
      simp only [true_iff]
      simpa using hu

end Target

end Automaton
