import Automaton.Error
import Automaton.Text.Blank

/-!
# Valid tables

A table can be decoded and still make no sense as a machine.  `Table.violations` lists everything
that is wrong with it, in the order in which an author would like to hear about it: the table as a
whole first, then its events by increasing name, and of each event its name, its states and its
parameters in the order of the declaration.  Symbols come last.

`Table.validate` reports the first violation.  A table is valid exactly if there is none, which is
`Table.validate_eq_ok_iff`.

## Symbols

Two events whose names differ in case only would get the same constant, and so would two states.
`Table.collisions` looks at the names in increasing order.
-/

namespace Automaton.Table

/-- **What is wrong with a table.** -/
inductive Violation where
  /-- The machine is not named by an identifier. -/
  | machineName (name : String)
  /-- The package is not named by an identifier. -/
  | packageName (name : String)
  /-- An import is blank. -/
  | blankImport (path : String)
  /-- There are no events. -/
  | noEvents
  /-- An event is not named by an identifier. -/
  | eventName (name : String)
  /-- An event cannot fire from anywhere. -/
  | noSources (event : String)
  /-- A state is not named by an identifier. -/
  | stateName (state event : String)
  /-- A parameter is not named by an identifier. -/
  | paramName (param event : String)
  /-- A parameter has no type. -/
  | untyped (param event : String)
  /-- A parameter is declared twice. -/
  | repeatedParam (param event : String)
  /-- Two events or two states share a symbol. -/
  | collision (symbol first second : String)
  deriving DecidableEq, Repr

/-- A violation as an error, in words. -/
def Violation.error : Violation → Error
  | machineName name => .invalid s!"machine name '{name}' is not a valid identifier"
  | packageName name => .invalid s!"package name '{name}' is not a valid identifier"
  | blankImport path => .invalid s!"import entry '{path}' is empty"
  | noEvents => .noStates
  | eventName name => .invalid s!"event name '{name}' is not a valid identifier"
  | noSources event => .invalid s!"event '{event}' has no source states"
  | stateName state event =>
    .invalid s!"state '{state}' referenced by event '{event}' is not a valid identifier"
  | paramName param event =>
    .invalid s!"parameter '{param}' of event '{event}' is not a valid identifier"
  | untyped param event => .invalid s!"parameter '{param}' of event '{event}' has no type"
  | repeatedParam param event =>
    .invalid s!"parameter '{param}' is declared twice on event '{event}'"
  | collision symbol first second => .collision symbol first second

/-- A condition that has to hold, and the violation if it does not. -/
def demand (holds : Bool) (v : Violation) : List Violation :=
  if holds then [] else [v]

@[simp]
theorem demand_eq_nil_iff {holds : Bool} {v : Violation} : demand holds v = [] ↔ holds = true := by
  cases holds <;> simp [demand]

/-- What is wrong with parameters of an event, given the names of the parameters before them. -/
def paramViolations (event : String) (earlier : List String) : List Param → List Violation
  | [] => []
  | p :: ps =>
    demand (Identifier.valid p.name) (.paramName p.name event) ++
    demand (!Text.isVoid p.type) (.untyped p.name event) ++
    demand (!earlier.contains p.name) (.repeatedParam p.name event) ++
    paramViolations event (p.name :: earlier) ps

/-- What is wrong with an event. -/
def eventViolations (name : String) (e : Event) : List Violation :=
  demand (Identifier.valid name) (.eventName name) ++
  demand (!e.sources.isEmpty) (.noSources name) ++
  (e.states.flatMap fun s => demand (Identifier.valid s) (.stateName s name)) ++
  paramViolations name [] e.params

/-- Names among the given ones that share a symbol. -/
def collisions (symbol : String → String) (names : List String) : List Violation :=
  (Symbol.clashes (names.map fun n => (symbol n, n))).map fun c =>
    .collision c.symbol c.first c.second

/-- **Everything that is wrong with a table.** -/
def violations (t : Table) : List Violation :=
  demand (Identifier.valid t.name) (.machineName t.name) ++
  demand (Identifier.valid t.packageName) (.packageName t.packageName) ++
  (t.imports.flatMap fun path => demand (!Text.isVoid path) (.blankImport path)) ++
  demand (!t.events.entries.isEmpty) .noEvents ++
  (t.events.entries.flatMap fun (name, e) => eventViolations name e) ++
  collisions Symbol.ofEvent t.events.names ++
  collisions Symbol.ofState (States.sorted t.references)

/-- **Validation**: the first violation, if there is one. -/
def validate (t : Table) : Except Violation Unit :=
  match t.violations with
  | [] => .ok ()
  | v :: _ => .error v

/-- A table is valid exactly if nothing is wrong with it. -/
theorem validate_eq_ok_iff {t : Table} : t.validate = .ok () ↔ t.violations = [] := by
  rw [validate]
  cases t.violations <;> simp

end Automaton.Table
