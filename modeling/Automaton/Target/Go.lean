import Automaton.Blueprint.Basic
import Automaton.Target.Basic
import Automaton.Text.Column
import Automaton.Text.Quoted

/-!
# Go sources

A blueprint as a Go source, line by line.  The source declares, in this order:

1. the package, and what it imports (`GoSource.header`);
2. one constant for each state, numbered by position (`GoSource.constants`);
3. a function that makes a machine, and the type of the machine;
4. a table of state names by ordinal (`GoSource.lookup`);
5. for each event a constant with its ordinal and a method (`GoSource.transition`).

A method looks at the current state in a `switch` whose first case lists the guard.

## Names

Constants, the type, its function and the table of names share the scope of the package.  Within a
method, parameters may not hide what the method refers to.  `GoSource.declarations` and
`GoSource.uses` say so to `Target.checkNames`.
-/

namespace Automaton.GoSource

/-- The keywords of the language. -/
def keywords : List String :=
  [ "break", "case", "chan", "const", "continue", "default", "defer", "else", "fallthrough", "for",
    "func", "go", "goto", "if", "import", "interface", "map", "package", "range", "return",
    "select", "struct", "switch", "type", "var" ]

/-- The name under which methods refer to their machine. -/
def receiver : String := "fsm"

/-- The fields of a machine; a method may not share their names. -/
def machineFields : List String := ["State", "hook"]

/-- The type of words of a width. -/
def typeOf (w : Width) : String := w.name

/-- The function that makes a machine. -/
def maker (machine : String) : String := "New" ++ machine

/-- The table of state names. -/
def namesTable (machine : String) : String := machine ++ "StateNames"

/-! ### Names -/

/-- What a source declares in the scope of its package, with the names it was made of. -/
def declarations (b : Blueprint) : List (String × String) :=
  let m := b.machine.name
  (m, m) :: (maker m, m) :: (namesTable m, m) :: b.symbols

/-- What a method refers to by name, so that no parameter may hide it. -/
def referred (b : Blueprint) : List String :=
  [receiver, "fmt", "slog", "nil", namesTable b.machine.name] ++ b.symbols.map (·.1)

/-- The names that the method of an event uses. -/
def transitionUses (b : Blueprint) (t : Transition) : List Target.Use :=
  ⟨"event", t.event, keywords⟩ :: ⟨"event", t.event, machineFields⟩ ::
  t.params.flatMap fun p =>
    [⟨"parameter", p.name, keywords⟩, ⟨"parameter", p.name, referred b⟩]

/-- The names that a source uses as they are, in order. -/
def uses (b : Blueprint) : List Target.Use :=
  ⟨"package name", b.header.package, keywords⟩ ::
  ⟨"machine name", b.machine.name, keywords⟩ ::
  b.transitions.flatMap (transitionUses b)

/-! ### Lines -/

/-- How an import is written.  What is quoted already, perhaps behind another name, stays as it
is. -/
def importLine : Import → String
  | .logging => Text.quote "log/slog"
  | .reference path => if path.toList.contains '"' then path else Text.quote path

/-- The imports of a source, each once; `fmt` comes first. -/
def importLines (imports : List Import) : List String :=
  (imports.map importLine).foldl
    (fun ls l => if ls.contains l then ls else ls ++ [l]) [Text.quote "fmt"]

/-- The package and its imports. -/
def header (h : Blueprint.Header) : List String :=
  [Target.banner] ++
  (match h.digest with
    | some digest => ["// Source: " ++ digest]
    | none => []) ++
  ["", "package " ++ h.package, "", "import ("] ++
  (importLines h.imports).map ("\t" ++ ·) ++
  [")"]

/-- The constants of the states.  The first one carries the type and starts the numbering. -/
def constants (c : Blueprint.Constants) : List String :=
  ["", "const ("] ++
  (match c.constants with
    | [] => []
    | first :: rest =>
      ("\t" ++ first.symbol ++ " " ++ typeOf c.width ++ " = iota") ::
        rest.map fun k => "\t" ++ k.symbol) ++
  [")"]

/-- The type of a hook. -/
def hookType (w : Width) : String :=
  "func(event " ++ typeOf w ++ ")"

/-- The function that makes a machine. -/
def constructor (c : Blueprint.Constructor) : List String :=
  let m := c.machine
  [ "",
    "// " ++ maker m ++ " returns a " ++ m ++ " in its initial state. hook, when non-nil,",
    "// receives the ordinal of every event that completes a transition.",
    "func " ++ maker m ++ "(hook " ++ hookType c.eventWidth ++ ") *" ++ m ++ " \x7b",
    "\treturn &" ++ m ++ "\x7bState: " ++ c.initialSymbol ++ ", hook: hook\x7d",
    "\x7d" ]

/-- The type of the machine. -/
def machineType (m : Blueprint.MachineType) : List String :=
  [ "",
    "// " ++ m.name ++ " is a generated state machine.",
    "type " ++ m.name ++ " struct \x7b",
    "\tState " ++ typeOf m.stateWidth,
    "\thook  " ++ hookType m.eventWidth,
    "\x7d" ]

/-- The table of state names. -/
def lookup (l : Blueprint.Lookup) : List String :=
  let table := namesTable l.machine
  [ "",
    "// " ++ table ++ " maps state ordinals to their declared names.",
    "var " ++ table ++ " = map[" ++ typeOf l.keyWidth ++ "]string\x7b" ] ++
  l.entries.map (fun (ordinal, name) =>
    "\t" ++ toString ordinal ++ ": " ++ Text.quote name ++ ",") ++
  ["\x7d"]

/-- The name of the current state. -/
def currentName (machine : String) : String :=
  namesTable machine ++ "[" ++ receiver ++ ".State]"

/-- The parameters of a method. -/
def signature (params : List Param) : String :=
  Text.joined ", " (params.map fun p => p.name ++ " " ++ p.type)

/-- The line that logs a transition: the state it started from and all fields. -/
def logLine (machine : String) (l : LogEntry) : String :=
  let fields := Text.quote "Start State" :: currentName machine ::
    l.fields.flatMap fun f => [Text.quote f, f]
  "\tslog.With(" ++ Text.joined ", " fields ++ ").Info(" ++ Text.quote l.message ++ ")"

/-- The constant and the method of an event. -/
def transition (t : Transition) : List String :=
  [ "",
    "const " ++ t.eventSymbol ++ " " ++ typeOf t.eventWidth ++ " = " ++ toString t.ordinal,
    "",
    "// " ++ t.event ++ " moves the machine to " ++ t.destination ++
      ". It fails without changing state when the",
    "// current state is not one the event is declared from.",
    "func (" ++ receiver ++ " *" ++ t.machine ++ ") " ++ t.event ++ "(" ++ signature t.params ++
      ") error \x7b",
    "\tswitch " ++ receiver ++ ".State \x7b",
    "\tcase " ++ Text.joined ", " t.guard ++ ":",
    "\tdefault:",
    "\t\treturn fmt.Errorf(" ++
      Text.quote (t.event ++ ": transition not valid from current state %s") ++ ", " ++
      currentName t.machine ++ ")",
    "\t\x7d" ] ++
  (match t.log with
    | some l => [logLine t.machine l]
    | none => []) ++
  [ "\t" ++ receiver ++ ".State = " ++ t.destinationSymbol,
    "\tif " ++ receiver ++ ".hook != nil \x7b",
    "\t\t" ++ receiver ++ ".hook(" ++ t.eventSymbol ++ ")",
    "\t\x7d",
    "\treturn nil",
    "\x7d" ]

/-- **The lines of a source.** -/
def lines (b : Blueprint) : List String :=
  header b.header ++ constants b.states ++ constructor b.constructor ++ machineType b.machine ++
    lookup b.lookup ++ b.transitions.flatMap transition

/-- **Rendering** a blueprint, if its names allow it. -/
def render (b : Blueprint) : Except Target.NameFault String := do
  Target.checkNames .go (declarations b) (uses b)
  pure (Text.lines (lines b))

end Automaton.GoSource
