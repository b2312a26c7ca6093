import Automaton.Catalog

/-!
# Transition tables

A *transition table* declares a state machine.  It names the machine and the package of the
generated source, lists what the source has to import, and says of each *event* from which states it
may fire, where it leads, and which parameters it takes.

States are never declared: they are whatever events refer to.

## Order

Events form a `Catalog`, so every traversal of a table meets them by increasing name, and the place
of an event in this order is its *ordinal*.  Sources of an event are a list only because they are
written as one; their order and repetitions carry no meaning.  Parameters keep the order in which
they are declared.
-/

namespace Automaton

/-- **A parameter** of an event: its name, and its type as it will be spelled in the source. -/
structure Param where
  /-- The name. -/
  name : String
  /-- The type, in the words of the destination language. -/
  type : String
  deriving DecidableEq, Repr, Inhabited

/-- **An event**: where it may fire, where it leads, and what it is called with. -/
structure Event where
  /-- The states from which the event may fire. -/
  sources : List String
  /-- The state that the event leads to. -/
  destination : String
  /-- The parameters, in the order of the declaration. -/
  params : List Param
  deriving DecidableEq, Repr, Inhabited

/-- All states that an event refers to: its sources first, its destination last. -/
def Event.states (e : Event) : List String :=
  e.sources ++ [e.destination]

/-- **A transition table.** -/
structure Table where
  /-- The name of the machine. -/
  name : String
  /-- The package of the generated source. -/
  packageName : String
  /-- What the generated source imports, as written by the author of the table. -/
  imports : List String
  /-- Whether transitions are logged. -/
  logging : Bool
  /-- The events. -/
  events : Catalog Event
  deriving DecidableEq

namespace Table

/-- A table without events. -/
def new (name packageName : String) : Table :=
  { name, packageName, imports := [], logging := false, events := Catalog.empty }

/-- Turns logging on or off. -/
def setLogging (t : Table) (enabled : Bool) : Table :=
  { t with logging := enabled }

/-- Adds an import at the end. -/
def addImport (t : Table) (path : String) : Table :=
  { t with imports := t.imports ++ [path] }

/-- Declares an event, in the place of one of the same name. -/
def declare (t : Table) (name : String) (e : Event) : Table :=
  { t with events := t.events.insert name e }

/-- **The events with their ordinals**, in increasing order. -/
def numberedEvents (t : Table) : List (Nat × String × Event) :=
  t.events.entries.zipIdx.map fun (entry, ordinal) => (ordinal, entry)

/-- All states that the table refers to, as often as it does. -/
def references (t : Table) : List String :=
  t.events.values.flatMap Event.states

@[simp]
theorem events_declare (t : Table) (name : String) (e : Event) :
    (t.declare name e).events = t.events.insert name e := rfl

@[simp]
theorem length_numberedEvents (t : Table) : t.numberedEvents.length = t.events.size := by
  simp [numberedEvents, Catalog.size]

/-- A state is referred to if some event has it as a source or as its destination. -/
theorem mem_references {t : Table} {s : String} :
    s ∈ t.references ↔
      ∃ n e, (n, e) ∈ t.events.entries ∧ (s ∈ e.sources ∨ s = e.destination) := by
  simp only [references, Catalog.values, List.mem_flatMap, List.mem_map, Event.states,
    List.mem_append, List.mem_singleton]
  constructor
  · rintro ⟨e, ⟨⟨n, e'⟩, hmem, rfl⟩, hs⟩
    exact ⟨n, e', hmem, hs⟩
  · rintro ⟨n, e, hmem, hs⟩
    exact ⟨e, ⟨(n, e), hmem, rfl⟩, hs⟩

end Table

end Automaton
