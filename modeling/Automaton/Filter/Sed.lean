import Automaton.Filter.Options
import Automaton.Filter.Sed.Editing

/-!
# The line editor

`sed` carries out an editing script on its input.  The script is its first argument unless options
give one in pieces.
-/

namespace Automaton.Filter

namespace Sed

/-- The options of the program. -/
def layout : Layout :=
  { flags := ['n', 'E', 'r', 's', 'u', 'z'],
    valued := ['e', 'l'],
    words := [("quiet", 'n'), ("silent", 'n'), ("regexp-extended", 'E'), ("separate", 's'),
      ("unbuffered", 'u'), ("null-data", 'z'), ("zero-terminated", 'z'), ("posix", 's'),
      ("sandbox", 's'), ("expression", 'e'), ("line-length", 'l')],
    operandsEnd := false }

/-- **The input of the editor**, gathered from the files that its operands name. -/
structure Gathered where
  /-- What is in the files. -/
  text : Chars
  /-- A complaint for each that cannot be read. -/
  complaints : String
  /-- Zero if all can be read. -/
  status : Nat

/-- The input that some operands name. -/
def gather (name : String) (operands : List Chars) (input : Chars) : Gathered :=
  if operands.isEmpty then ⟨input, "", 0⟩
  else operands.foldl (fun g operand =>
    match if operand = ['-'] then .input else Source.ofName operand with
    | .input => if g.text.isEmpty then { g with text := input } else g
    | .nothing | .program _ => g
    | .directory =>
      { g with
        complaints := g.complaints ++
          s!"{name}: read error on {String.ofList operand}: Is a directory\n",
        status := 4 }
    | .missing =>
      { g with
        complaints := g.complaints ++
          s!"{name}: can't read {String.ofList operand}: {missingText}\n",
        status := max g.status 2 }) ⟨[], "", 0⟩

end Sed

/-- **The line editor.** -/
def sed : Program := fun name arguments input =>
  match Sed.layout.read arguments with
  | .error fault => .refused 1 s!"{name}: {fault.message}" input
  | .ok given =>
    let pieces := given.values 'e'
    let (pieces, operands) :=
      match pieces, given.operands with
      | [], script :: operands => ([script], operands)
      | pieces, operands => (pieces, operands)
    if pieces.isEmpty then
      let script := "\x7bscript-only-if-no-other-script\x7d"
      .refused 1 s!"Usage: {name} [OPTION]... {script} [input-file]..." input
    else
      let extended := given.has 'E' || given.has 'r'
      match Sed.readScript extended pieces with
      | .error (status, complaint) => .refused status s!"{name}: {complaint}" input
      | .ok script =>
        let options : Sed.Options :=
          { name,
            quiet := given.has 'n' || script.silent,
            extended,
            lineEnd := if given.has 'z' then '\x00' else '\n',
            width := match (given.values 'l').getLast? with
              | some digits => numeral 10 digits
              | none => 70 }
        let gathered := Sed.gather name operands input
        let done := Sed.edit options script gathered.text
        { done with
          status := if done.status = 0 then gathered.status else done.status,
          complaints := gathered.complaints.toList ++ done.complaints }

end Automaton.Filter
