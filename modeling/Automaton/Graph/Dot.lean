import Automaton.Graph.Basic
import Automaton.Text.Column

/-!
# Drawings

A graph as an input for Graphviz: the states in the order of their names, coloured by their place,
and then the edges by event and source.  Edges that agree in both keep the order in which they were
added.
-/

namespace Automaton.Graph

/-- The line of a state. -/
def nodeLine (n : Node) : String :=
  "  \"" ++ n.name ++ "\" [label=\"" ++ n.caption ++ "\", fillcolor=\"" ++ n.place.color ++ "\"];"

/-- An edge together with its ends. -/
structure Arrow where
  /-- The node that the edge leaves. -/
  source : Node
  /-- The node that the edge enters. -/
  target : Node
  /-- What the edge stands for. -/
  label : Label

/-- The order of arrows in a drawing. -/
def Arrow.le (a b : Arrow) : Bool :=
  a.label.ordinal < b.label.ordinal ||
    (a.label.ordinal == b.label.ordinal && a.source.ordinal ≤ b.source.ordinal)

/-- The edges with their ends, in the order in which they were added. -/
def arrows (g : Graph) : List Arrow :=
  g.edges.filterMap fun e => do
    pure ⟨← g.nodes[e.source]?, ← g.nodes[e.target]?, e.label⟩

/-- The line of an edge. -/
def arrowLine (a : Arrow) : String :=
  "  \"" ++ a.source.name ++ "\" -> \"" ++ a.target.name ++ "\" [label=\"" ++ a.label.caption ++
    "\"];"

/-- The lines of a drawing. -/
def dotLines (g : Graph) : List String :=
  [ "digraph " ++ g.machine ++ " \x7b",
    "  rankdir=LR;",
    "  node [shape=box, style=filled];",
    "" ] ++
  g.states.map nodeLine ++ [""] ++
  (g.arrows.mergeSort Arrow.le).map arrowLine ++
  ["\x7d"]

/-- **A graph as a drawing.** -/
def dot (g : Graph) : String :=
  Text.lines g.dotLines

end Automaton.Graph
