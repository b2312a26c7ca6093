import Automaton.Blueprint.Basic
import Automaton.Ranked
import Automaton.Table.Validation

/-!
# From tables to blueprints

`Blueprint.ofTable` turns a valid table into a blueprint.  Ordinals come from the two orders of a
table: states by increasing name, events by increasing name.

* `Transition.ofEvent` makes the transition of one event, given the states of the machine.  An event
  that refers to other states has no transition; the first such state is blamed, sources before the
  destination.  Its guard is a set: the order and the repetitions of the sources leave no trace.
* `Blueprint.ofStates` puts all declarations together.
* `Blueprint.importsOf` lists what the source imports: logging first, if the table asks for it, then
  the trimmed references of the author, each once.
-/

namespace Automaton

/-- **What all transitions of a machine share.** -/
structure Transition.Setting where
  /-- The name of the machine. -/
  machine : String
  /-- Its states. -/
  states : States
  /-- The width of event ordinals. -/
  eventWidth : Width
  /-- Whether transitions are logged. -/
  logging : Bool

namespace Transition

/-- The log entry of an event: all its parameters, and where it leads. -/
def logOf (e : Event) : LogEntry where
  fields := e.params.map Param.name
  message := "transitioned to " ++ e.destination

/-- A state as guards are made of: its number and its symbol. -/
def tagged (s : States) (name : String) : Except States.Unknown (Nat × String) := do
  let symbol ← s.symbol name
  pure ((s.ordinal? name).getD 0, symbol)

/-- The order of numbered symbols: by number, then by symbol. -/
def tagLe (a b : Nat × String) : Bool :=
  a.1 < b.1 || (a.1 == b.1 && a.2 ≤ b.2)

/-- **The guard** that accepts some numbered symbols: each once, by increasing number. -/
def guardOf (accepted : List (Nat × String)) : List String :=
  (ranked tagLe accepted).map (·.2)

/-- **The transition of an event** that has a given ordinal. -/
def ofEvent (setting : Setting) (ordinal : Nat) (name : String) (e : Event) :
    Except States.Unknown Transition := do
  let accepted ← e.sources.mapM (tagged setting.states)
  let destinationSymbol ← setting.states.symbol e.destination
  pure
    { machine := setting.machine
      event := name
      eventSymbol := Symbol.ofEvent name
      ordinal
      eventWidth := setting.eventWidth
      params := e.params
      guard := guardOf accepted
      destinationSymbol
      destination := e.destination
      log := if setting.logging then some (logOf e) else none }

/-- The transitions of numbered events. -/
def ofEvents (setting : Setting) (events : List (Nat × String × Event)) :
    Except States.Unknown (List Transition) :=
  events.mapM fun (ordinal, name, e) => ofEvent setting ordinal name e

end Transition

namespace Blueprint

/-- Adds an item at the end of a list, unless it is there already. -/
def addNew {α : Type} [BEq α] (items : List α) (a : α) : List α :=
  if items.contains a then items else items ++ [a]

/-- **What the source of a table imports.** -/
def importsOf (t : Table) : List Import :=
  let references := t.imports.map fun path => Import.reference (Text.trim path)
  references.foldl addNew (if t.logging then [.logging] else [])

/-- What the transitions of a table share. -/
def settingOf (t : Table) (s : States) : Transition.Setting where
  machine := t.name
  states := s
  eventWidth := Width.forCount t.events.size
  logging := t.logging

/-- The constants of numbered states. -/
def constantsOf (s : States) : Except States.Unknown (List Constant) :=
  s.numbered.mapM fun (ordinal, name) => do
    let symbol ← s.symbol name
    pure ⟨symbol, ordinal⟩

/-- **The blueprint of a table with given states**, if the table refers to no others. -/
def ofStates (t : Table) (s : States) : Except States.Unknown Blueprint := do
  let stateWidth := Width.forCount s.size
  let eventWidth := Width.forCount t.events.size
  let constants ← constantsOf s
  let initialSymbol ← s.symbol s.initial
  let transitions ← Transition.ofEvents (settingOf t s) t.numberedEvents
  pure
    { header := { package := t.packageName, imports := importsOf t, digest := none }
      states := { width := stateWidth, constants }
      constructor := { machine := t.name, initialSymbol, eventWidth }
      machine := { name := t.name, stateWidth, eventWidth }
      lookup := { machine := t.name, keyWidth := stateWidth, entries := s.numbered }
      transitions }

/-- **The blueprint of a table**, if the table is valid. -/
def ofTable (t : Table) : Except Error Blueprint := do
  match t.validate with
  | .error v => .error v.error
  | .ok () =>
    let s ← t.states
    match ofStates t s with
    | .error u => .error u.error
    | .ok b => pure b

end Blueprint

end Automaton
