import Automaton.Filter.Basic

/-!
# Options of filters

Filters share one way to write options: letters behind a dash, several at a time, the last of which
may take a value; and words behind two dashes, with values behind an equals sign.  A word may be cut
short as long as it stays unambiguous.  Two dashes alone end the options.
-/

namespace Automaton.Filter

/-- **The options that a program knows.** -/
structure Layout where
  /-- Letters without a value. -/
  flags : List Char
  /-- Letters with a value. -/
  valued : List Char
  /-- Words, each with the letter that it stands for. -/
  words : List (String × Char)
  /-- Options end at the first operand. -/
  operandsEnd : Bool

/-- **What is wrong with options.** -/
inductive OptionFault where
  /-- A letter that is not known. -/
  | unknown (letter : Char)
  /-- A word that is not known. -/
  | unrecognized (word : Chars)
  /-- A letter without its value. -/
  | valueless (letter : Char)
  /-- A word without its value. -/
  | wordValueless (word : String)
  /-- A word with a value that it does not take. -/
  | valueRefused (word : String)
  /-- A word that may stand for several. -/
  | ambiguous (word : Chars) (choices : List String)
  deriving DecidableEq, Repr

/-- The wording of a fault. -/
def OptionFault.message : OptionFault → String
  | unknown letter => s!"invalid option -- '{letter}'"
  | unrecognized word => s!"unrecognized option '--{String.ofList word}'"
  | valueless letter => s!"option requires an argument -- '{letter}'"
  | wordValueless word => s!"option '--{word}' requires an argument"
  | valueRefused word => s!"option '--{word}' doesn't allow an argument"
  | ambiguous word choices =>
    s!"option '--{String.ofList word}' is ambiguous; possibilities:" ++
      String.join (choices.map fun c => s!" '--{c}'")

/-- **What was given**: options with their values, in order, and operands. -/
structure Given where
  options : List (Char × Chars)
  operands : List Chars
  deriving DecidableEq, Repr

namespace Given

/-- Whether an option was given. -/
def has (g : Given) (letter : Char) : Bool :=
  g.options.any (·.1 == letter)

/-- The values of an option. -/
def values (g : Given) (letter : Char) : List Chars :=
  (g.options.filter (·.1 == letter)).map (·.2)

/-- One more option, in front of the others. -/
def withOption (g : Given) (letter : Char) (value : Chars) : Given :=
  { g with options := (letter, value) :: g.options }

/-- One more operand, in front of the others. -/
def withOperand (g : Given) (operand : Chars) : Given :=
  { g with operands := operand :: g.operands }

end Given

namespace Layout

/-- The word that an abbreviation stands for. -/
def resolve (l : Layout) (word : Chars) : Except OptionFault (String × Char) :=
  match l.words.find? (·.1.toList == word) with
  | some entry => .ok entry
  | none =>
    match l.words.filter fun entry => word.isPrefixOf entry.1.toList with
    | [] => .error (.unrecognized word)
    | entry :: others =>
      if others.all (·.2 == entry.2) then .ok entry
      else .error (.ambiguous word ((entry :: others).map (·.1)))

/-- The letters of one argument, and the letter that still lacks its value. -/
def letters (l : Layout) : Chars → Except OptionFault (List (Char × Chars) × Option Char)
  | [] => .ok ([], none)
  | c :: cs =>
    if l.valued.contains c then
      if cs.isEmpty then .ok ([], some c) else .ok ([(c, cs)], none)
    else if l.flags.contains c then do
      let (options, unfinished) ← l.letters cs
      pure ((c, []) :: options, unfinished)
    else .error (.unknown c)

/-- **Reading arguments.** -/
def read (l : Layout) : List Chars → Except OptionFault Given
  | [] => .ok ⟨[], []⟩
  | ['-', '-'] :: arguments => .ok ⟨[], arguments⟩
  | ('-' :: '-' :: word) :: arguments => do
    let name := word.takeWhile (· != '=')
    let value? := match word.dropWhile (· != '=') with
      | [] => none
      | _ :: value => some value
    let (full, letter) ← l.resolve name
    if l.valued.contains letter then
      match value?, arguments with
      | some value, arguments => return (← l.read arguments).withOption letter value
      | none, value :: arguments => return (← l.read arguments).withOption letter value
      | none, [] => throw (.wordValueless full)
    else if value?.isSome then throw (.valueRefused full)
    else return (← l.read arguments).withOption letter []
  | ('-' :: c :: cs) :: arguments => do
    let (options, unfinished) ← l.letters (c :: cs)
    match unfinished, arguments with
    | none, arguments =>
      let g ← l.read arguments
      pure { g with options := options ++ g.options }
    | some letter, value :: arguments =>
      let g ← l.read arguments
      pure { g with options := options ++ (letter, value) :: g.options }
    | some letter, [] => throw (.valueless letter)
  | operand :: arguments => do
    if l.operandsEnd then return ⟨[], operand :: arguments⟩
    return (← l.read arguments).withOperand operand

end Layout

end Automaton.Filter
