import Automaton.Ranked
import Automaton.States

/-!
# Transition graphs

A *transition graph* draws a table: a node for each state, and an edge from state to state for each
event that leads there.

A graph grows.  Nodes and edges are numbered in the order in which they are added, and edges are
fixed to the numbers of their ends.  An index says which node a name stands for (`Graph.find?`), and
that is the one that was added last under it: adding a node under a known name does not remove the
older node, but hides it from everything that goes by name.  Listings by name follow the order of
names; listings of edges begin with the latest.
-/

namespace Automaton

/-- **The place of a state** in a graph. -/
inductive Place where
  /-- Where machines start. -/
  | initial
  /-- Entered and left by events. -/
  | active
  /-- Never entered by an event. -/
  | entryOnly
  /-- Never left by an event. -/
  | absorbing
  deriving DecidableEq, Repr, Inhabited

namespace Place

/-- The name of a place. -/
def name : Place → String
  | initial => "Initial"
  | active => "Active"
  | entryOnly => "Entry-only"
  | absorbing => "Absorbing"

/-- The colour of a place in drawings. -/
def color : Place → String
  | initial => "lightblue"
  | active => "lightgreen"
  | entryOnly => "yellow"
  | absorbing => "gray"

end Place

/-- **A node**: a state with its number, its symbol and its place. -/
structure Node where
  /-- The name of the state. -/
  name : String
  /-- Its ordinal. -/
  ordinal : Nat
  /-- Its symbol. -/
  symbol : String
  /-- Its place. -/
  place : Place
  deriving DecidableEq, Repr

/-- A node in a few words. -/
def Node.caption (n : Node) : String :=
  s!"{n.name} ({n.ordinal})"

/-- **What an edge stands for**: an event with its number and the names of its parameters. -/
structure Label where
  /-- The name of the event. -/
  event : String
  /-- Its ordinal. -/
  ordinal : Nat
  /-- The names of its parameters. -/
  params : List String
  deriving DecidableEq, Repr

/-- A label in a few words. -/
def Label.caption (l : Label) : String :=
  if l.params.isEmpty then l.event
  else l.event ++ "(" ++ ", ".intercalate l.params ++ ")"

/-- **An edge** from node to node, by number. -/
structure Edge where
  /-- The number of the node that the edge leaves. -/
  source : Nat
  /-- The number of the node that the edge enters. -/
  target : Nat
  /-- What the edge stands for. -/
  label : Label
  deriving DecidableEq, Repr

/-- **A transition graph.** -/
@[ext]
structure Graph where
  /-- The machine that is drawn. -/
  machine : String
  /-- The nodes, in the order of their numbers. -/
  nodes : List Node
  /-- The edges, in the order of their numbers. -/
  edges : List Edge
  /-- The numbers of the nodes that names stand for. -/
  index : Catalog Nat
  deriving DecidableEq

namespace Graph

/-- The graph without nodes. -/
def empty (machine : String) : Graph := ⟨machine, [], [], Catalog.empty⟩

/-- **The node of a name**, by number: the one that was added last. -/
def find? (g : Graph) (name : String) : Option Nat :=
  g.index.get? name

/-- **Adding a node.**  Its number is the number of nodes before, and its name stands for it. -/
def addNode (g : Graph) (n : Node) : Graph :=
  { g with nodes := g.nodes ++ [n], index := g.index.insert n.name g.nodes.length }

/-- **Adding an edge** between two names, if both are known. -/
def addEdge (g : Graph) (source target : String) (label : Label) : Option Graph :=
  match g.find? source, g.find? target with
  | some s, some t => some { g with edges := g.edges ++ [⟨s, t, label⟩] }
  | _, _ => none

/-- The node that a name stands for. -/
def node? (g : Graph) (name : String) : Option Node := do
  g.nodes[← g.find? name]?

/-- The numbers of the nodes that names stand for, in the order of the names. -/
def listed (g : Graph) : List Nat :=
  g.index.values

/-- **The nodes that names stand for**, in the order of the names. -/
def states (g : Graph) : List Node :=
  g.listed.filterMap (g.nodes[·]?)

/-- The edges that leave a node, the latest first. -/
def leaving (g : Graph) (n : Nat) : List Edge :=
  g.edges.reverse.filter (·.source == n)

/-- The edges that enter a node, the latest first. -/
def entering (g : Graph) (n : Nat) : List Edge :=
  g.edges.reverse.filter (·.target == n)

/-- **What leads out of a state**, the latest first. -/
def outgoing (g : Graph) (name : String) : List Label :=
  match g.find? name with
  | some n => (g.leaving n).map Edge.label
  | none => []

/-- **What leads into a state**, the latest first. -/
def incoming (g : Graph) (name : String) : List Label :=
  match g.find? name with
  | some n => (g.entering n).map Edge.label
  | none => []

/-- The states that no event leaves. -/
def absorbing (g : Graph) : List Node :=
  (g.listed.filter fun n => (g.leaving n).isEmpty).filterMap (g.nodes[·]?)

/-- The states that no event enters. -/
def entryOnly (g : Graph) : List Node :=
  (g.listed.filter fun n => (g.entering n).isEmpty).filterMap (g.nodes[·]?)

/-- The place of a node, by its number. -/
def placeOf (g : Graph) (number : Nat) (n : Node) : Place :=
  if n.ordinal = 0 then .initial
  else if (g.leaving number).isEmpty then .absorbing
  else if (g.entering number).isEmpty then .entryOnly
  else .active

/-- **Placing all nodes.** -/
def placed (g : Graph) : Graph :=
  { g with nodes := g.nodes.zipIdx.map fun (n, i) => { n with place := g.placeOf i n } }

/-- **A graph in numbers.** -/
structure Stats where
  /-- How many nodes were added. -/
  states : Nat
  /-- How many events label an edge. -/
  events : Nat
  /-- How many edges were added. -/
  edges : Nat
  /-- The first of all names, or the empty text. -/
  initial : String
  /-- The names of the states that no event leaves. -/
  absorbing : List String
  /-- The names of the states that no event enters. -/
  entryOnly : List String
  deriving DecidableEq, Repr

/-- The graph in numbers. -/
def stats (g : Graph) : Stats where
  states := g.nodes.length
  events := (ranked (· ≤ ·) (g.edges.map (·.label.ordinal))).length
  edges := g.edges.length
  initial := (g.states.head?.map Node.name).getD ""
  absorbing := g.absorbing.map Node.name
  entryOnly := g.entryOnly.map Node.name

@[simp]
theorem nodes_addNode (g : Graph) (n : Node) : (g.addNode n).nodes = g.nodes ++ [n] := rfl

@[simp]
theorem edges_addNode (g : Graph) (n : Node) : (g.addNode n).edges = g.edges := rfl

@[simp]
theorem find?_empty (machine name : String) : (empty machine).find? name = none := rfl

/-- **A name stands for the latest node**: after adding one, its name stands for it, and every other
name for what it stood for before. -/
theorem find?_addNode (g : Graph) (n : Node) (name : String) :
    (g.addNode n).find? name = if name = n.name then some g.nodes.length else g.find? name :=
  Catalog.get?_insert g.index n.name name g.nodes.length

/-- An edge can be added exactly if both of its ends are known. -/
theorem addEdge_eq_none_iff {g : Graph} {source target : String} {label : Label} :
    g.addEdge source target label = none ↔ g.find? source = none ∨ g.find? target = none := by
  rw [addEdge]
  split
  · next h₁ h₂ => simp [h₁, h₂]
  · next h =>
    cases hs : g.find? source with
    | none => simp
    | some s => cases ht : g.find? target with
      | none => simp
      | some t => exact absurd ht (h s t hs)

end Graph

end Automaton
