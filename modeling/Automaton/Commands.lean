import Automaton.CommandLine.Invocation
import Automaton.Generation
import Automaton.Host.Replacement
import Automaton.Report.Findings
import Automaton.Settings.Loading
import Automaton.Table.Loading

/-!
# Commands

The three commands, against any host.

* `generate` loads a table, generates a source and either prints it or replaces the destination by
  it.  The destination is touched last, when nothing else can fail any more.
* `inspect` prints a summary of a valid table.
* `validate` prints what it finds about a table, and fails if that includes a violation.

`Host.obey` finds the settings and carries out the task.
-/

namespace Automaton

/-- **What comes of a command**: what it prints, and whether it succeeds. -/
structure Response where
  /-- What is printed. -/
  printed : String
  /-- Whether the command succeeds. -/
  result : Except Error Unit

namespace Response

/-- A command that fails without having printed anything. -/
def failure (e : Error) : Response := ⟨"", .error e⟩

/-- A command that prints a text and succeeds. -/
def print (text : String) : Response := ⟨text, .ok ()⟩

/-- A command that prints nothing. -/
def silent (result : Except Error Unit) : Response := ⟨"", result⟩

end Response

namespace GenerateOptions

/-- The destination language. -/
def language (o : GenerateOptions) (s : Settings) : Target :=
  o.target.getD s.generation.target

/-- The file with the table. -/
def tableFile (o : GenerateOptions) (s : Settings) : String :=
  o.table.getD s.generation.table

/-- The file for the source. -/
def sourceFile (o : GenerateOptions) (s : Settings) : String :=
  o.destination.getD (s.destination (o.language s))

/-- The formatter. -/
def formatter (o : GenerateOptions) (s : Settings) : Except Error Formatter :=
  if o.unformatted then .ok .none else s.formatter (o.language s)

/-- **The source of a loaded table**, under given settings. -/
def source (o : GenerateOptions) (s : Settings) (tools : Toolbox) (l : Table.Loaded) :
    Except Error String := do
  let l ← l.checked
  let formatter ← o.formatter s
  let generator : Generator :=
    { target := o.language s
      formatter
      digest := if s.generation.digest then some l.digest else none }
  generator.run tools l.table

end GenerateOptions

namespace Host

variable {m : Type → Type} [Monad m]

/-- **Generating a source.** -/
def generate (h : Host m) (s : Settings) (o : GenerateOptions) : m Response := do
  match ← Table.load h (o.tableFile s) with
  | .error e => pure (.failure e)
  | .ok l => match o.source s h.tools l with
    | .error e => pure (.failure e)
    | .ok text =>
      if o.printed then pure (.print text)
      else do pure (.silent (← h.replaceFile (o.sourceFile s) text))

/-- The summary of a loaded table. -/
def summaryOf (form : Report.Form) (l : Table.Loaded) : Except Error String := do
  let l ← l.checked
  pure (Report.summary form l.table (← Graph.ofTable l.table))

/-- **Describing a table.** -/
def inspect (h : Host m) (s : Settings) (table : Option String) (form : Report.Form) :
    m Response := do
  match ← Table.load h (table.getD s.generation.table) with
  | .error e => pure (.failure e)
  | .ok l => match summaryOf form l with
    | .error e => pure (.failure e)
    | .ok text => pure (.print text)

/-- **Checking a table.** -/
def validate (h : Host m) (file : String) : m Response := do
  match ← Table.load h file with
  | .error e => pure (.failure e)
  | .ok l =>
    let (printed, result) := Report.findings file l.digest l.table
    pure ⟨printed, result⟩

/-- The settings of an invocation. -/
def settings (h : Host m) (i : Invocation) : m (Except Error Settings) :=
  match i.settings with
  | some path => Settings.load h path
  | none => Settings.find h

/-- **Carrying out a task** under given settings. -/
def perform (h : Host m) (s : Settings) : Task → m Response
  | .generate options => h.generate s options
  | .inspect table form => h.inspect s table form
  | .validate file => h.validate file

/-- **Obeying an understood command line.** -/
def obey (h : Host m) (i : Invocation) : m Response := do
  match ← h.settings i with
  | .error e => pure (.failure e)
  | .ok s => h.perform s i.task

end Host

end Automaton
