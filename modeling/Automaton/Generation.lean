import Automaton.Blueprint.OfTable
import Automaton.Formatter.Basic
import Automaton.Target.Go
import Automaton.Target.Rust

/-!
# Generating sources

From a table to the text of a source: the blueprint is made and gets the name of the text that it
comes from, the destination language spells it, and a formatter may have the last word.  Nothing is
delivered unless every step succeeds, and the first step that fails is the one that is reported.
-/

namespace Automaton

/-- **Rendering** a blueprint in a language. -/
def Target.render : Target → Blueprint → Except NameFault String
  | go => GoSource.render
  | rust => RustSource.render

/-- **How sources are generated.** -/
structure Generator where
  /-- The destination language. -/
  target : Target
  /-- What formats the source. -/
  formatter : Formatter
  /-- The name of the text that the table was read from. -/
  digest : Option String
  deriving DecidableEq, Repr

namespace Generator

/-- The source of a table before formatting. -/
def draft (g : Generator) (t : Table) : Except Error String := do
  let b ← Blueprint.ofTable t
  match g.target.render (b.withDigest g.digest) with
  | .ok text => pure text
  | .error fault => .error fault.error

/-- **Generating** the source of a table. -/
def run (g : Generator) (tools : Toolbox) (t : Table) : Except Error String := do
  g.formatter.run tools (← g.draft t)

end Generator

end Automaton
