import Automaton.Document.Json.Printer
import Automaton.Graph.Dot
import Automaton.Graph.OfTable
import Automaton.Graph.Shape
import Automaton.Width

/-!
# Summaries of a table

A summary describes a table and its graph in one of three forms: as a text for people, as a document
for programs, or as a drawing.

The document lists its members by increasing name.  Widths in a summary are those of the generated
source.
-/

namespace Automaton.Report

/-- **The form of a summary.** -/
inductive Form where
  /-- A document. -/
  | json
  /-- A drawing. -/
  | dot
  /-- A text in columns. -/
  | table
  deriving DecidableEq, Repr, Inhabited

/-- The name of a form. -/
def Form.name : Form → String
  | json => "json"
  | dot => "dot"
  | table => "table"

/-- The form of a name. -/
def Form.ofName? (s : String) : Option Form :=
  [Form.json, .dot, .table].find? (·.name == s)

/-! ### As a document -/

/-- A graph in numbers. -/
def statsDocument (s : Graph.Stats) : Document :=
  .record
    [ ("absorbing_states", .texts s.absorbing),
      ("entry_only_states", .texts s.entryOnly),
      ("initial_state", .text s.initial),
      ("total_edges", .ofNat s.edges),
      ("total_events", .ofNat s.events),
      ("total_states", .ofNat s.states) ]

/-- The shape of a graph. -/
def shapeDocument (g : Graph) : Document :=
  .record
    [ ("branching_factor", .number g.branchingFactor),
      ("has_cycles", .boolean g.hasCycles),
      ("max_out_degree", .ofNat g.maxOutDegree),
      ("pattern", .text g.shape.name) ]

/-- A state. -/
def nodeDocument (n : Node) : Document :=
  .record
    [ ("class", .text n.place.name),
      ("name", .text n.name),
      ("ordinal", .ofNat n.ordinal),
      ("symbol", .text n.symbol) ]

/-- A parameter. -/
def paramDocument (p : Param) : Document :=
  .record [("name", .text p.name), ("type", .text p.type)]

/-- An event. -/
def eventDocument : Nat × String × Event → Document
  | (ordinal, name, e) => .record
    [ ("destination", .text e.destination),
      ("name", .text name),
      ("ordinal", .ofNat ordinal),
      ("params", .list (e.params.map paramDocument)),
      ("sources", .texts e.sources) ]

/-- **A summary as a document.** -/
def summaryDocument (t : Table) (g : Graph) : Document :=
  .record
    [ ("analysis", shapeDocument g),
      ("event_width", .text (Width.forCount t.events.size).name),
      ("events", .list (t.numberedEvents.map eventDocument)),
      ("logging", .boolean t.logging),
      ("machine", .text t.name),
      ("package", .text t.packageName),
      ("state_width", .text (Width.forCount g.stats.states).name),
      ("states", .list (g.states.map nodeDocument)),
      ("summary", statsDocument g.stats) ]

/-! ### As a text -/

/-- The width of a page. -/
def pageWidth : Nat := 80

/-- A line across the page. -/
def thinRule : String := Text.rule '-' pageWidth

/-- A row about a state. -/
def stateRow (ordinal name symbol place : String) : String :=
  Text.joined " "
    [ Text.padLeft 4 ordinal, Text.padRight 24 name, Text.padRight 32 symbol,
      Text.padRight 12 place ]

/-- A row about an event. -/
def eventRow (ordinal name sources destination : String) : String :=
  Text.joined " "
    [ Text.padLeft 4 ordinal, Text.padRight 20 name, Text.padRight 30 sources,
      Text.padRight 20 destination ]

/-- A count with the width of its ordinals. -/
def countWithWidth (shown count : Nat) : String :=
  Text.padRight 6 (toString shown) ++ " (" ++ (Width.forCount count).name ++ ")"

/-- The lines of a summary. -/
def summaryLines (t : Table) (g : Graph) : List String :=
  let s := g.stats
  [ s!"State Machine {t.name} (package {t.packageName})",
    Text.rule '=' pageWidth,
    "",
    "Summary:",
    "  States:  " ++ countWithWidth s.states s.states,
    "  Events:  " ++ countWithWidth s.events t.events.size,
    "  Edges:   " ++ toString s.edges,
    "  Initial: " ++ s.initial,
    "  Pattern: " ++ g.shape.title,
    "",
    "States:",
    thinRule,
    stateRow "#" "Name" "Symbol" "Class",
    thinRule ] ++
  (g.states.map fun n => stateRow (toString n.ordinal) n.name n.symbol n.place.name) ++
  [ "",
    "Events:",
    thinRule,
    eventRow "#" "Name" "From" "To",
    thinRule ] ++
  (t.numberedEvents.map fun (ordinal, name, e) =>
    eventRow (toString ordinal) name (Text.joined ", " e.sources) e.destination) ++
  [""]

/-- **A summary**, in the form asked for. -/
def summary (form : Form) (t : Table) (g : Graph) : String :=
  match form with
  | .json => Document.Json.pretty (summaryDocument t g) ++ "\n"
  | .dot => g.dot
  | .table => Text.lines (summaryLines t g)

end Automaton.Report
