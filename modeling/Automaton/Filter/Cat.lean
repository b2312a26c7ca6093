import Automaton.Filter.Options

/-!
# Files one after the other

`cat` writes the files that its operands name, one after the other.  On the way it can number lines,
leave out repeated empty ones, and make characters visible.
-/

namespace Automaton.Filter

namespace Cat

/-- The options of the program. -/
def layout : Layout :=
  { flags := ['A', 'b', 'e', 'E', 'n', 's', 't', 'T', 'u', 'v'],
    valued := [],
    words := [("number-nonblank", 'b'), ("number", 'n'), ("squeeze-blank", 's'),
      ("show-nonprinting", 'v'), ("show-ends", 'E'), ("show-tabs", 'T'), ("show-all", 'A')],
    operandsEnd := false }

/-- **What happens to the text** on the way. -/
structure Display where
  /-- Characters that cannot be seen are made visible. -/
  visible : Bool
  /-- So are tabs. -/
  tabs : Bool
  /-- So are the ends of lines. -/
  ends : Bool
  /-- Lines are numbered. -/
  numbered : Bool
  /-- Lines are numbered unless they are empty. -/
  numberedText : Bool
  /-- Of several empty lines in a row one is left. -/
  squeezed : Bool

/-- What options ask for. -/
def Display.of (given : Given) : Display :=
  let any (letters : List Char) : Bool := letters.any given.has
  ⟨any ['A', 'e', 't', 'v'], any ['A', 't', 'T'], any ['A', 'e', 'E'], any ['n'], any ['b'],
    any ['s']⟩

/-- A character of seven bits made visible. -/
def caret (n : Nat) : Chars :=
  if n < 32 then ['^', Char.ofNat (n + 64)]
  else if n = 127 then ['^', '?']
  else [Char.ofNat n]

/-- A character as it is displayed. -/
def Display.char (d : Display) (c : Char) : Chars :=
  if c = '\t' then if d.tabs then caret 9 else [c]
  else if !d.visible then [c]
  else if c.toNat < 128 then caret c.toNat
  else 'M' :: '-' :: caret (c.toNat - 128)

/-- The end of a line as it is displayed, given the line.  A carriage return in front of a visible
end is made visible, too. -/
def Display.line (d : Display) (l : Line) : Chars :=
  if !(d.ends && l.complete) then l.text.flatMap d.char
  else if l.text.getLast? = some '\r' then l.text.dropLast.flatMap d.char ++ caret 13 ++ ['$']
  else l.text.flatMap d.char ++ ['$']

/-- The number of a line, in front of it. -/
def numberField (n : Nat) : Chars :=
  let digits := (toString n).toList
  List.replicate (6 - digits.length) ' ' ++ digits ++ ['\t']

/-- Lines as they are displayed.  `n` lines were numbered before; `afterEmpty` says that the line
before was empty. -/
def Display.lines (d : Display) : Nat → Bool → List Line → Chars
  | _, _, [] => []
  | n, afterEmpty, l :: ls =>
    let isEmpty := l.text.isEmpty
    if d.squeezed ∧ isEmpty ∧ afterEmpty then d.lines n true ls
    else
      let hasNumber := if d.numberedText then !isEmpty else d.numbered
      let front := if hasNumber then numberField (n + 1) else []
      let lineEnd := if l.complete then ['\n'] else []
      front ++ d.line l ++ lineEnd ++ d.lines (if hasNumber then n + 1 else n) isEmpty ls

/-- What is in the files that operands name, and a complaint for each that cannot be read. -/
def gather (name : String) (input : Chars) : List Chars → Chars × String
  | [] => ([], "")
  | operand :: operands =>
    let complaint (reason : String) : Chars × String :=
      let (text, complaints) := gather name input operands
      (text, s!"{name}: {shownName operand}: {reason}\n" ++ complaints)
    match if operand = ['-'] then .input else Source.ofName operand with
    -- the input can be read only once
    | .input =>
      let (text, complaints) := gather name [] operands
      (input ++ text, complaints)
    | .nothing | .program _ => gather name input operands
    | .directory => complaint "Is a directory"
    | .missing => complaint missingText

end Cat

/-- **Files one after the other.** -/
def cat : Program := fun name arguments input =>
  match Cat.layout.read arguments with
  | .error fault => .refused 1 s!"{name}: {fault.message}\n{helpHint name}" input
  | .ok given =>
    let operands := if given.operands.isEmpty then [['-']] else given.operands
    let (text, complaints) := Cat.gather name input operands
    let reads := operands.any fun o => o == ['-'] || Source.ofName o == .input
    { status := if complaints.isEmpty then 0 else 1,
      output := (Cat.Display.of given).lines 0 false (linesOf '\n' text),
      complaints := complaints.toList,
      rest := if reads then [] else input }

end Automaton.Filter
