import Std.Data.HashSet
import Automaton.Decimal.Shortest
import Automaton.Graph.Basic

/-!
# The shape of a graph

Reports describe a graph in a word: it may run in circles, branch, or go straight on.

## Circles

A graph runs in circles if some edges can be followed without end.  `Graph.endless` finds them by
giving up, again and again, the edges after which there is no other edge left to follow
(`Graph.pruned`).  Edges from a node to itself count.
-/

namespace Automaton.Graph

/-- The edges after which another one of them can be followed. -/
def pruned (es : List Edge) : List Edge :=
  let sources := Std.HashSet.ofList (es.map Edge.source)
  es.filter fun e => sources.contains e.target

/-- Prunes up to so many times, as long as that makes a difference. -/
def prunedTimes : Nat → List Edge → List Edge
  | 0, es => es
  | n + 1, es =>
    let fewer := pruned es
    if fewer.length = es.length then es else prunedTimes n fewer

/-- **The edges that can be followed without end.** -/
def endless (g : Graph) : List Edge :=
  prunedTimes g.edges.length g.edges

/-- Whether a graph runs in circles. -/
def hasCycles (g : Graph) : Bool :=
  !g.endless.isEmpty

/-- The greatest number of edges that leave one node. -/
def maxOutDegree (g : Graph) : Nat :=
  ((List.range g.nodes.length).map fun n => (g.leaving n).length).foldl max 0

/-- **A shape.** -/
inductive Shape where
  /-- Every state is left in one way at most. -/
  | linear
  /-- Some state is left in several ways. -/
  | tree
  /-- Some state can be reached from itself. -/
  | cyclic
  /-- There are no states. -/
  | unknown
  deriving DecidableEq, Repr

namespace Shape

/-- The name of a shape. -/
def name : Shape → String
  | linear => "Linear"
  | tree => "Tree"
  | cyclic => "Cyclic"
  | unknown => "Unknown"

/-- The name of a shape in reports for people. -/
def title : Shape → String
  | linear => "Linear"
  | tree => "Branching"
  | cyclic => "Cyclic"
  | unknown => "Complex/Unknown"

end Shape

/-- **The shape of a graph.** -/
def shape (g : Graph) : Shape :=
  if g.nodes.isEmpty then .unknown
  else if g.hasCycles then .cyclic
  else if g.maxOutDegree ≤ 1 then .linear
  else .tree

/-- **Edges per node**, as a decimal number. -/
def branchingFactor (g : Graph) : String :=
  Decimal.ratio g.edges.length g.nodes.length

theorem mem_pruned {es : List Edge} {e : Edge} :
    e ∈ pruned es ↔ e ∈ es ∧ ∃ f ∈ es, f.source = e.target := by
  simp [pruned]

end Automaton.Graph
