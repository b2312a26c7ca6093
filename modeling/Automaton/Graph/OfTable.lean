import Automaton.Error
import Automaton.Graph.Basic

/-!
# The graph of a table

The graph of a table has a node for each of its states, numbered like the states, and an edge for
each pair of an event and one of its sources.  A source that is written twice counts once.

A node carries the symbol of its state, which is looked up among the states, and looking up may fail
in general.  It does not fail here, because nodes are made for states that are there
(`Graph.addStates_eq_ok`), so over given states there is always a graph (`Graph.ofStates`).
-/

namespace Automaton.Graph

/-- The label of an event. -/
def labelOf (ordinal : Nat) (name : String) (e : Event) : Label :=
  ⟨name, ordinal, e.params.map Param.name⟩

/-- Adds an edge, unless one of its ends is unknown. -/
def addKnownEdge (g : Graph) (source target : String) (label : Label) : Graph :=
  (g.addEdge source target label).getD g

/-- Adds the edges of an event. -/
def addEvent (g : Graph) : Nat × String × Event → Graph
  | (ordinal, name, e) =>
    e.sources.eraseDups.foldl
      (fun g s => g.addKnownEdge s e.destination (labelOf ordinal name e)) g

/-- Adds the node of a numbered state, with the symbol that is found for its name. -/
def addState (s : States) (g : Graph) : Nat × String → Except States.Unknown Graph
  | (ordinal, name) => do
    let symbol ← s.symbol name
    pure (g.addNode ⟨name, ordinal, symbol, .active⟩)

/-- Adds the nodes of states. -/
def addStates (g : Graph) (s : States) : Except States.Unknown Graph :=
  s.numbered.foldlM (addState s) g

/-- **Assembling the graph of a table** over given states.  Edges to or from other states are left
out. -/
def assemble (t : Table) (s : States) : Except States.Unknown Graph := do
  let g ← (empty t.name).addStates s
  pure (t.numberedEvents.foldl addEvent g).placed

/-- **The graph of a table**, if the table has states. -/
def ofTable (t : Table) : Except Error Graph := do
  let s ← t.states
  match assemble t s with
  | .error u => .error u.error
  | .ok g => pure g

/-! ### Nothing is unknown -/

/-- A list is folded without failure if no step fails. -/
theorem foldlM_eq_ok {ε α β : Type} {f : β → α → Except ε β} {g : β → α → β} {as : List α}
    (h : ∀ a ∈ as, ∀ b, f b a = .ok (g b a)) (b : β) : as.foldlM f b = .ok (as.foldl g b) := by
  induction as generalizing b with
  | nil => rfl
  | cons a as ih =>
    rw [List.foldlM_cons, h a List.mem_cons_self b]
    exact ih (fun a ha => h a (List.mem_cons_of_mem _ ha)) _

/-- **Every state has a symbol**, so its node can be added. -/
theorem addStates_eq_ok (g : Graph) (s : States) : g.addStates s = .ok (s.numbered.foldl
    (fun g (ordinal, name) => g.addNode ⟨name, ordinal, Symbol.ofState name, .active⟩) g) := by
  refine foldlM_eq_ok (fun ⟨ordinal, name⟩ hmem g => ?_) g
  have hname : name ∈ s.names := List.mem_of_getElem? (States.mem_numbered.mp hmem)
  rw [addState, States.symbol_eq_ok hname]
  rfl

theorem assemble_ne_error (t : Table) (s : States) (u : States.Unknown) :
    assemble t s ≠ .error u := by
  rw [assemble, addStates_eq_ok]
  exact nofun

/-- **The graph of a table** over given states, which can always be assembled. -/
def ofStates (t : Table) (s : States) : Graph :=
  match h : assemble t s with
  | .ok g => g
  | .error u => absurd h (assemble_ne_error t s u)

theorem assemble_eq_ok (t : Table) (s : States) : assemble t s = .ok (ofStates t s) := by
  unfold ofStates
  split
  · assumption
  · next u h => exact absurd h (assemble_ne_error t s u)

end Automaton.Graph
