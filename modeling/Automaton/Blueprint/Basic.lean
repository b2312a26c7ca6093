import Automaton.Table.Basic
import Automaton.Width

/-!
# Blueprints

A *blueprint* is a machine as a list of declarations that no longer mention the table: constants
with their numbers, a constructor, a type, a list of names, and one guarded transition for each
event.  It says *what* a generated source declares and in which order; *how* a declaration is
spelled is left to the destination language.

States and events occur under their symbols.  A transition fires if the machine is in one of the
states of its *guard*; it then moves the machine to its destination and reports its ordinal.
-/

namespace Automaton

/-- **Something that a source imports.** -/
inductive Import where
  /-- Whatever the destination language logs with. -/
  | logging
  /-- A reference given by the author of the table. -/
  | reference (path : String)
  deriving DecidableEq, Repr

/-- **A named number.** -/
structure Constant where
  /-- The name. -/
  symbol : String
  /-- The number. -/
  ordinal : Nat
  deriving DecidableEq, Repr

/-- **What a transition logs.** -/
structure LogEntry where
  /-- The parameters that are logged as fields. -/
  fields : List String
  /-- The text of the entry. -/
  message : String
  deriving DecidableEq, Repr

/-- **The transition of an event.** -/
structure Transition where
  /-- The machine that the transition belongs to. -/
  machine : String
  /-- The name of the event. -/
  event : String
  /-- The constant that holds the event's ordinal. -/
  eventSymbol : String
  /-- The event's ordinal. -/
  ordinal : Nat
  /-- The width of that constant. -/
  eventWidth : Width
  /-- The parameters, in the order of the declaration. -/
  params : List Param
  /-- The symbols of the states that the event may fire in, by increasing ordinal. -/
  guard : List String
  /-- The symbol of the state that the event leads to. -/
  destinationSymbol : String
  /-- The name of that state. -/
  destination : String
  /-- What is logged when the transition happens. -/
  log : Option LogEntry
  deriving DecidableEq, Repr

namespace Blueprint

/-- **The head of a source.** -/
structure Header where
  /-- The package that the source belongs to. -/
  package : String
  /-- What the source imports, without repetitions. -/
  imports : List Import
  /-- The name of the text that the table was read from. -/
  digest : Option String
  deriving DecidableEq, Repr

/-- **The constants of the states.** -/
structure Constants where
  /-- The width of the constants. -/
  width : Width
  /-- The constants, by increasing ordinal. -/
  constants : List Constant
  deriving DecidableEq, Repr

/-- **The constructor.** -/
structure Constructor where
  /-- The machine that is constructed. -/
  machine : String
  /-- The symbol of the state that it starts in. -/
  initialSymbol : String
  /-- The width of the ordinals that a hook receives. -/
  eventWidth : Width
  deriving DecidableEq, Repr

/-- **The type of the machine.** -/
structure MachineType where
  /-- The name of the type. -/
  name : String
  /-- The width of the state. -/
  stateWidth : Width
  /-- The width of the ordinals that a hook receives. -/
  eventWidth : Width
  deriving DecidableEq, Repr

/-- **The names of the states** by ordinal. -/
structure Lookup where
  /-- The machine that the names belong to. -/
  machine : String
  /-- The width of the ordinals. -/
  keyWidth : Width
  /-- The ordinals with the names, in increasing order. -/
  entries : List (Nat × String)
  deriving DecidableEq, Repr

end Blueprint

/-- **A machine as a list of declarations.** -/
structure Blueprint where
  /-- The head of the source. -/
  header : Blueprint.Header
  /-- The constants of the states. -/
  states : Blueprint.Constants
  /-- The constructor. -/
  constructor : Blueprint.Constructor
  /-- The type of the machine. -/
  machine : Blueprint.MachineType
  /-- The names of the states. -/
  lookup : Blueprint.Lookup
  /-- The transitions, by increasing ordinal. -/
  transitions : List Transition
  deriving DecidableEq, Repr

namespace Blueprint

/-- The same blueprint with the name of a text in its head. -/
def withDigest (b : Blueprint) (digest : Option String) : Blueprint :=
  { b with header := { b.header with digest } }

/-- The symbols of the states, each with the name of the state. -/
def stateSymbols (b : Blueprint) : List (String × String) :=
  List.zipWith (fun c entry => (c.symbol, entry.2)) b.states.constants b.lookup.entries

/-- The symbols of the events, each with the name of the event. -/
def eventSymbols (b : Blueprint) : List (String × String) :=
  b.transitions.map fun t => (t.eventSymbol, t.event)

/-- All symbols, each with the name that it was made of. -/
def symbols (b : Blueprint) : List (String × String) :=
  b.stateSymbols ++ b.eventSymbols

@[simp]
theorem symbols_withDigest (b : Blueprint) (digest : Option String) :
    (b.withDigest digest).symbols = b.symbols := rfl

end Blueprint

end Automaton
