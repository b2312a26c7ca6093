import Automaton.Proofs.Graph.Direct
import Automaton.Proofs.Text.ByteOrder

/-!
# Graphs and their history

A graph grows by additions of nodes and of edges, which may come in any order: names may be added
again, and ends of edges may be unknown.  What a graph then answers follows two different rules.
Whatever goes by *name* forgets: after a node has been added under a known name, the name stands for
the new node, to and from which no edge leads.  Whatever *counts* remembers: the older node and its
edges are still there.  An edge may thus be seen from one of its ends and not from the other.

`Graph.Reflects` gives the answers in terms of the list of all additions and of nothing else, and
`Graph.grown_reflects` says that these are the answers of a graph that has grown from nothing.

The additions are followed one by one (`Graph.grown_induction`).  What carries the argument is that
a growing graph stays *sound* (`Graph.Sound`): names stand for nodes with these names, and edges end
at nodes.  So a new node is at neither end of an older edge, and an edge is at an end of a node
exactly if the name of that end stands for the node (`Graph.adjoining_addNode`,
`Graph.adjoining_addEdge`).
-/

namespace Automaton.Graph

/-! ### Additions -/

/-- **An addition** to a graph, as it is asked for. -/
inductive Addition where
  /-- A node. -/
  | node (n : Node)
  /-- An edge between two names. -/
  | edge (source target : String) (label : Label)
  deriving DecidableEq, Repr

/-- Makes an addition.  An edge that cannot be added leaves the graph as it is. -/
def add (g : Graph) : Addition → Graph
  | .node n => g.addNode n
  | .edge source target label => g.addKnownEdge source target label

/-- **The graph that grows** from nothing by some additions. -/
def grown (machine : String) (additions : List Addition) : Graph :=
  additions.foldl add (empty machine)

theorem grown_append (machine : String) (additions : List Addition) (a : Addition) :
    grown machine (additions ++ [a]) = (grown machine additions).add a := by
  rw [grown, List.foldl_append]
  rfl

/-- **The two sides of an edge.** -/
inductive Side where
  /-- The side that the edge leaves. -/
  | source
  /-- The side that the edge enters. -/
  | target
  deriving DecidableEq, Repr

/-- What is at one side. -/
def Side.pick {α : Type} : Side → α → α → α
  | source, a, _ => a
  | target, _, b => b

namespace Addition

/-- The node that is added. -/
def node? : Addition → Option Node
  | node n => some n
  | edge _ _ _ => none

/-- The label of an edge that has a name at one side. -/
def labelAt? (side : Side) (name : String) : Addition → Option Label
  | node _ => none
  | edge source target label => if side.pick source target = name then some label else none

/-- Whether an addition is that of a node. -/
def isNode : Addition → Bool
  | node _ => true
  | edge _ _ _ => false

/-- Whether an addition is that of an edge. -/
def isEdge : Addition → Bool
  | node _ => false
  | edge _ _ _ => true

/-- Whether a node is added under a name. -/
def isNodeOf (name : String) : Addition → Bool
  | node n => n.name == name
  | edge _ _ _ => false

theorem isNodeOf_node {name : String} {n : Node} :
    (node n).isNodeOf name = true ↔ name = n.name :=
  beq_iff_eq.trans eq_comm

end Addition

/-! ### What a history says -/

namespace History

/-- The nodes that were added. -/
def nodes (additions : List Addition) : List Node :=
  additions.filterMap Addition.node?

/-- The names under which nodes were added. -/
def names (additions : List Addition) : List String :=
  (nodes additions).map Node.name

/-- **The node that was added last** under a name. -/
def latest? (additions : List Addition) (name : String) : Option Node :=
  (nodes additions).reverse.find? (·.name == name)

/-- **An addition succeeds** after some others, unless it is an edge with an end under whose name no
node was added. -/
def Succeeds (before : List Addition) : Addition → Prop
  | .node _ => True
  | .edge source target _ => source ∈ names before ∧ target ∈ names before

instance (before : List Addition) : DecidablePred (Succeeds before)
  | .node _ => inferInstanceAs (Decidable True)
  | .edge source target _ =>
    inferInstanceAs (Decidable (source ∈ names before ∧ target ∈ names before))

/-- The additions that succeed, given those before them. -/
def successesAfter (before : List Addition) : List Addition → List Addition
  | [] => []
  | a :: rest =>
    (if Succeeds before a then [a] else []) ++ successesAfter (before ++ [a]) rest

/-- **The additions that succeed.** -/
def successes (additions : List Addition) : List Addition :=
  successesAfter [] additions

/-- **The additions since a node was last added** under a name, the latest first. -/
def since (additions : List Addition) (name : String) : List Addition :=
  additions.reverse.takeWhile (!·.isNodeOf name)

/-- **The labels of the edges at a name**: of those that were added since the name was, the latest
first. -/
def labelsAt (side : Side) (additions : List Addition) (name : String) : List Label :=
  (since (successes additions) name).filterMap (Addition.labelAt? side name)

end History

/-- **A graph reflects its history**: whatever it answers can be read off the list of additions. -/
structure Reflects (additions : List Addition) (g : Graph) : Prop where
  /-- A name stands for the node that was added last under it. -/
  node? : ∀ name, g.node? name = History.latest? additions name
  /-- States are listed in the order of the bytes of their names, each name once. -/
  states_increase : (g.states.map Node.name).Pairwise fun m n => Text.bytes m < Text.bytes n
  /-- All names are listed under which nodes were added. -/
  mem_states : ∀ name, name ∈ g.states.map Node.name ↔ name ∈ History.names additions
  /-- What is listed under a name is the node that was added last. -/
  states_latest : ∀ n ∈ g.states, History.latest? additions n.name = some n
  /-- An edge cannot be added exactly if no node was added under the name of one of its ends. -/
  addEdge_eq_none : ∀ source target label, g.addEdge source target label = none ↔
    source ∉ History.names additions ∨ target ∉ History.names additions
  /-- If it cannot be added, nothing changes. -/
  add_of_addEdge_eq_none : ∀ source target label, g.addEdge source target label = none →
    g.add (.edge source target label) = g
  /-- What leads out of a name are the edges that were added since the name was. -/
  outgoing : ∀ name, g.outgoing name = History.labelsAt .source additions name
  /-- So is what leads into it. -/
  incoming : ∀ name, g.incoming name = History.labelsAt .target additions name
  /-- An edge from a name to itself leads both out of it and into it. -/
  loop : ∀ name ∈ History.names additions, ∀ label,
    (g.add (.edge name name label)).outgoing name = label :: g.outgoing name ∧
      (g.add (.edge name name label)).incoming name = label :: g.incoming name
  /-- All nodes count that were added. -/
  stateCount : g.stats.states = additions.countP Addition.isNode
  /-- All edges count that could be added. -/
  edgeCount : g.stats.edges = (History.successes additions).countP Addition.isEdge
  /-- The states that no event leaves are listed states out of which nothing leads. -/
  absorbing : g.absorbing = g.states.filter fun n => (g.outgoing n.name).isEmpty
  /-- The states that no event enters are listed states into which nothing leads. -/
  entryOnly : g.entryOnly = g.states.filter fun n => (g.incoming n.name).isEmpty

/-! ### Histories that go on -/

namespace History

variable (additions : List Addition) (name : String)

theorem names_append_node (n : Node) :
    names (additions ++ [.node n]) = names additions ++ [n.name] := by
  rw [names, nodes, List.filterMap_append, List.map_append]
  rfl

theorem names_append_edge (source target : String) (label : Label) :
    names (additions ++ [.edge source target label]) = names additions := by
  rw [names, nodes, List.filterMap_append, List.map_append]
  exact List.append_nil _

theorem latest?_append_node (n : Node) : latest? (additions ++ [.node n]) name =
    if name = n.name then some n else latest? additions name := by
  rw [latest?, nodes, List.filterMap_append, List.reverse_append]
  show (n :: (nodes additions).reverse).find? (·.name == name) = _
  rw [List.find?_cons]
  by_cases h : name = n.name
  · rw [if_pos h, h, beq_self_eq_true]
  · rw [if_neg h, beq_false_of_ne (Ne.symm h)]
    rfl

theorem latest?_append_edge (source target : String) (label : Label) :
    latest? (additions ++ [.edge source target label]) name = latest? additions name := by
  rw [latest?, nodes, List.filterMap_append]
  exact congrArg (fun ns : List Node => ns.reverse.find? (·.name == name)) (List.append_nil _)

theorem successesAfter_append (before : List Addition) (a : Addition) :
    successesAfter before (additions ++ [a]) = successesAfter before additions ++
      if Succeeds (before ++ additions) a then [a] else [] := by
  induction additions generalizing before with
  | nil => rw [List.append_nil]; exact List.append_nil _
  | cons b rest ih =>
    rw [List.cons_append, successesAfter, successesAfter, ih, List.append_assoc, List.append_assoc,
      List.singleton_append]

theorem successes_append (a : Addition) :
    successes (additions ++ [a]) = successes additions ++
      if Succeeds additions a then [a] else [] :=
  successesAfter_append additions [] a

/-- **What an addition does to the edges at a name**: if the name is added, nothing is left of them,
and an edge at the name comes first. -/
theorem labelsAt_append (side : Side) {a : Addition} (h : Succeeds additions a) :
    labelsAt side (additions ++ [a]) name =
      if a.isNodeOf name then [] else
        (a.labelAt? side name).toList ++ labelsAt side additions name := by
  rw [labelsAt, since, successes_append, if_pos h, List.reverse_append]
  -- histories are read from their end, so the addition is the first that is looked at
  show List.filterMap _ ((a :: (successes additions).reverse).takeWhile _) = _
  rw [List.takeWhile_cons]
  cases a.isNodeOf name with
  | true => rfl
  | false =>
    show List.filterMap _ (a :: since (successes additions) name) = _
    rw [List.filterMap_cons]
    cases a.labelAt? side name <;> rfl

theorem labelsAt_append_node (side : Side) (n : Node) :
    labelsAt side (additions ++ [.node n]) name =
      if name = n.name then [] else labelsAt side additions name := by
  have hsucceeds : Succeeds additions (.node n) := trivial
  rw [labelsAt_append additions name side hsucceeds]
  exact if_congr Addition.isNodeOf_node rfl rfl

theorem labelsAt_append_edge (side : Side) {source target : String} {label : Label}
    (h : Succeeds additions (.edge source target label)) :
    labelsAt side (additions ++ [.edge source target label]) name =
      if side.pick source target = name then label :: labelsAt side additions name
      else labelsAt side additions name := by
  rw [labelsAt_append additions name side h, Addition.labelAt?]
  -- the edge counts for one name on each side
  by_cases hside : side.pick source target = name
  · rw [if_pos hside, if_pos hside]
    rfl
  · rw [if_neg hside, if_neg hside]
    rfl

theorem labelsAt_append_of_not_succeeds (side : Side) {a : Addition} (h : ¬ Succeeds additions a) :
    labelsAt side (additions ++ [a]) name = labelsAt side additions name := by
  rw [labelsAt, successes_append, if_neg h, List.append_nil, labelsAt]

end History

/-! ### One addition -/

/-- **What adding an edge can do**: nothing, or one more edge between the nodes of two names. -/
theorem addKnownEdge_cases (g : Graph) (source target : String) (label : Label) :
    (g.addEdge source target label = none ∧ g.addKnownEdge source target label = g) ∨
      ∃ i j, g.find? source = some i ∧ g.find? target = some j ∧
        g.addKnownEdge source target label = { g with edges := g.edges ++ [⟨i, j, label⟩] } := by
  rw [addKnownEdge, addEdge]
  split
  · next i j hi hj => exact .inr ⟨i, j, hi, hj, rfl⟩
  · exact .inl ⟨rfl, rfl⟩

theorem find?_addKnownEdge (g : Graph) (source target : String) (label : Label) (name : String) :
    (g.addKnownEdge source target label).find? name = g.find? name := by
  obtain ⟨-, hsame⟩ | ⟨i, j, -, -, hmore⟩ := addKnownEdge_cases g source target label
  · rw [hsame]
  · rw [hmore]
    rfl

/-- **A sound graph**: its names and its edges refer to nodes that are there. -/
structure Sound (g : Graph) : Prop where
  /-- A name stands for a node with this name. -/
  named : ∀ {name i}, g.find? name = some i → ∃ n, g.nodes[i]? = some n ∧ n.name = name
  /-- An edge has a node on either side. -/
  ended : ∀ x ∈ g.edges, ∀ side : Side, side.pick x.source x.target < g.nodes.length

namespace Sound

variable {g : Graph}

theorem lt_of_find? (h : g.Sound) {name : String} {i : Nat} (hi : g.find? name = some i) :
    i < g.nodes.length := by
  obtain ⟨n, hn, -⟩ := h.named hi
  exact (List.getElem?_eq_some_iff.mp hn).1

/-- Different names stand for different nodes. -/
theorem find?_inj (h : g.Sound) {a b : String} {i : Nat} (ha : g.find? a = some i)
    (hb : g.find? b = some i) : a = b := by
  obtain ⟨m, hm, rfl⟩ := h.named ha
  obtain ⟨n, hn, rfl⟩ := h.named hb
  rw [Option.some.inj (hm.symm.trans hn)]

theorem empty (machine : String) : (Graph.empty machine).Sound where
  named := nofun
  ended := nofun

theorem addNode (h : g.Sound) (n : Node) : (g.addNode n).Sound where
  named := by
    intro name i hi
    rw [find?_addNode] at hi
    rw [nodes_addNode]
    split at hi
    · next hname =>
      obtain rfl := Option.some.inj hi
      exact ⟨n, List.getElem?_concat_length, hname.symm⟩
    · -- older names keep their nodes, since the new one comes behind them
      obtain ⟨m, hm, hname⟩ := h.named hi
      exact ⟨m, by rw [List.getElem?_append_left (h.lt_of_find? hi), hm], hname⟩
  ended := by
    intro x hx side
    rw [nodes_addNode, List.length_append]
    exact Nat.lt_add_right _ (h.ended x hx side)

theorem addKnownEdge (h : g.Sound) (source target : String) (label : Label) :
    (g.addKnownEdge source target label).Sound := by
  -- an edge is added if both of its ends are found, and is ignored otherwise
  obtain ⟨-, hsame⟩ | ⟨i, j, hi, hj, hmore⟩ := addKnownEdge_cases g source target label
  · rw [hsame]
    exact h
  · rw [hmore]
    refine ⟨h.named, fun x hx side => ?_⟩
    rcases List.mem_append.mp hx with hx | hx
    · exact h.ended x hx side
    · obtain rfl := List.mem_singleton.mp hx
      cases side with
      | source => exact h.lt_of_find? hi
      | target => exact h.lt_of_find? hj

/-- **Additions keep** a graph sound. -/
theorem add (h : g.Sound) (a : Addition) : (g.add a).Sound := by
  cases a with
  | node n => exact h.addNode n
  | edge source target label => exact h.addKnownEdge source target label

end Sound

/-- **Growing graphs** are sound. -/
theorem sound_grown (machine : String) (additions : List Addition) :
    (grown machine additions).Sound := by
  induction additions using List.reverseRecOn with
  | nil => exact Sound.empty machine
  | append_singleton additions a ih =>
    rw [grown_append]
    exact ih.add a

/-- **The labels on one side** of the node that a name stands for, the latest first.
`Graph.outgoing` and `Graph.incoming` are these for the two sides. -/
def adjoining (side : Side) (g : Graph) (name : String) : List Label :=
  match g.find? name with
  | some n => (g.edges.reverse.filter fun x => side.pick x.source x.target == n).map Edge.label
  | none => []

section Sound

variable {g : Graph} (h : g.Sound)
include h

theorem node?_addNode (n : Node) (name : String) :
    (g.addNode n).node? name = if name = n.name then some n else g.node? name := by
  have hnode : (g.addNode n).node? name = ((g.addNode n).find? name).bind ((g.nodes ++ [n])[·]?) :=
    rfl
  rw [hnode, find?_addNode]
  split
  · -- the new node has the last place, and the others keep theirs
    exact List.getElem?_concat_length
  · cases hi : g.find? name with
    | none => rw [node?, hi]; rfl
    | some i =>
      rw [node?, hi]
      exact List.getElem?_append_left (h.lt_of_find? hi)

/-- **A new node** is at no side of any edge. -/
theorem adjoining_addNode (side : Side) (n : Node) (name : String) :
    (g.addNode n).adjoining side name =
      if name = n.name then [] else g.adjoining side name := by
  rw [adjoining, find?_addNode, edges_addNode]
  by_cases hname : name = n.name
  · rw [if_pos hname, if_pos hname]
    refine List.map_eq_nil_iff.mpr (List.filter_eq_nil_iff.mpr fun x hx => ?_)
    -- edges end at older nodes, and the new one has a greater number than all of them
    simpa using (h.ended x (List.mem_reverse.mp hx) side).ne
  · rw [if_neg hname, if_neg hname]
    rfl

/-- **A new edge** comes first on its sides. -/
theorem adjoining_addEdge (side : Side) {source target : String} {i j : Nat}
    (hi : g.find? source = some i) (hj : g.find? target = some j) (label : Label) (name : String) :
    adjoining side { g with edges := g.edges ++ [⟨i, j, label⟩] } name =
      if side.pick source target = name then label :: g.adjoining side name
      else g.adjoining side name := by
  have hside : g.find? (side.pick source target) = some (side.pick i j) := by
    cases side with
    | source => exact hi
    | target => exact hj
  have hfind : find? { g with edges := g.edges ++ [⟨i, j, label⟩] } name = g.find? name := rfl
  rw [adjoining, adjoining, hfind, List.reverse_append]
  cases hname : g.find? name with
  | none =>
    have hne : side.pick source target ≠ name := by
      rintro rfl
      exact nomatch hside.symm.trans hname
    rw [if_neg hne]
  | some k =>
    -- the new edge is at the node of the name exactly if it was asked for by this name
    have hiff : side.pick i j = k ↔ side.pick source target = name := by
      constructor
      · rintro rfl
        exact h.find?_inj hside hname
      · rintro rfl
        exact Option.some.inj (hside.symm.trans hname)
    show List.map _ (List.filter _ (⟨i, j, label⟩ :: g.edges.reverse)) = _
    rw [List.filter_cons]
    by_cases hk : side.pick i j = k
    · simp [hk, hiff.mp hk]
    · simp [hk, mt hiff.mpr hk]

end Sound

/-! ### Lists of states -/

/-- The states, by the names that stand for them. -/
theorem states_eq (g : Graph) : g.states = g.index.names.filterMap g.node? := by
  rw [states, listed, Catalog.values, Catalog.names, List.filterMap_map, List.filterMap_map]
  refine List.filterMap_congr fun entry hentry => ?_
  have hfind : g.find? entry.1 = some entry.2 := Catalog.get?_eq_some_iff.mpr hentry
  show g.nodes[entry.2]? = g.node? entry.1
  rw [node?, hfind]
  rfl

/-- A number is listed if some name stands for it. -/
theorem mem_listed {g : Graph} {i : Nat} : i ∈ g.listed ↔ ∃ name, g.find? name = some i := by
  rw [listed, Catalog.values, List.mem_map]
  constructor
  · rintro ⟨⟨name, i⟩, hentry, rfl⟩
    exact ⟨name, Catalog.get?_eq_some_iff.mpr hentry⟩
  · rintro ⟨name, hname⟩
    exact ⟨(name, i), Catalog.get?_eq_some_iff.mp hname, rfl⟩

/-- A name is in the index if it stands for something. -/
theorem mem_index_names {g : Graph} {name : String} :
    name ∈ g.index.names ↔ g.find? name ≠ none := by
  rw [Catalog.names, List.mem_map, Option.ne_none_iff_exists']
  constructor
  · rintro ⟨⟨name, i⟩, hentry, rfl⟩
    exact ⟨i, Catalog.get?_eq_some_iff.mpr hentry⟩
  · rintro ⟨i, hi⟩
    exact ⟨(name, i), Catalog.get?_eq_some_iff.mp hi, rfl⟩

section Sound

variable {g : Graph} (h : g.Sound)
include h

theorem names_states : g.states.map Node.name = g.index.names := by
  rw [states_eq, List.map_filterMap]
  conv_rhs => rw [← List.filterMap_some (l := g.index.names)]
  refine List.filterMap_congr fun name hname => ?_
  obtain ⟨i, hi⟩ := Option.ne_none_iff_exists'.mp (mem_index_names.mp hname)
  obtain ⟨n, hn, rfl⟩ := h.named hi
  rw [node?, hi]
  exact congrArg (Option.map Node.name) hn

theorem node?_of_mem_states {n : Node} (hn : n ∈ g.states) : g.node? n.name = some n := by
  rw [states_eq, List.mem_filterMap] at hn
  obtain ⟨name, -, hname⟩ := hn
  obtain ⟨i, hi, hni⟩ := Option.bind_eq_some_iff.mp hname
  obtain ⟨m, hm, rfl⟩ := h.named hi
  obtain rfl := Option.some.inj (hm.symm.trans hni)
  exact hname

/-- **States picked by what is at one of their sides**, by number or by name. -/
theorem filter_listed (side : Side) :
    (g.listed.filter fun i => (g.edges.reverse.filter fun x =>
      side.pick x.source x.target == i).isEmpty).filterMap (g.nodes[·]?) =
      g.states.filter fun n => (g.adjoining side n.name).isEmpty := by
  refine filterMap_filter_comm fun i hi n hn => ?_
  -- a number is listed for the sake of a name, and the node with this number has that name
  obtain ⟨name, hname⟩ := mem_listed.mp hi
  obtain ⟨m, hm, rfl⟩ := h.named hname
  obtain rfl := Option.some.inj (hm.symm.trans hn)
  rw [adjoining, hname, List.isEmpty_map]

end Sound

/-! ### All additions -/

section Grown

variable (machine : String) (additions : List Addition)

/-- **Names that stand for nodes** are those under which nodes were added. -/
theorem find?_grown_eq_none {name : String} :
    (grown machine additions).find? name = none ↔ name ∉ History.names additions := by
  induction additions using List.reverseRecOn with
  | nil => exact iff_of_true rfl List.not_mem_nil
  | append_singleton additions a ih =>
    rw [grown_append]
    cases a with
    | node n =>
      rw [History.names_append_node, List.mem_append, List.mem_singleton, not_or, ← ih]
      -- a name is known from when a node is added under it
      show ((grown machine additions).addNode n).find? name = none ↔ _
      rw [find?_addNode]
      by_cases h : name = n.name
      · rw [if_pos h]
        exact iff_of_false nofun fun hnot => hnot.2 h
      · rw [if_neg h]
        exact (and_iff_left h).symm
    | edge source target label =>
      rw [History.names_append_edge, ← ih]
      -- edges make no name known
      show ((grown machine additions).addKnownEdge source target label).find? name = none ↔ _
      rw [find?_addKnownEdge]

/-- **An edge is added** exactly if it succeeds. -/
theorem addEdge_grown_eq_none {source target : String} {label : Label} :
    (grown machine additions).addEdge source target label = none ↔
      ¬ History.Succeeds additions (.edge source target label) := by
  rw [addEdge_eq_none_iff, find?_grown_eq_none, find?_grown_eq_none]
  exact not_and_or.symm

/-- **Following a history**: whatever is true of nothing, and is kept by nodes, by edges that are
added and by edges that are not, is true of a grown graph. -/
theorem grown_induction {motive : List Addition → Graph → Prop} (nil : motive [] (empty machine))
    (node : ∀ {before g}, g.Sound → motive before g → ∀ n,
      motive (before ++ [.node n]) (g.addNode n))
    (edge : ∀ {before g}, g.Sound → motive before g → ∀ {source target label i j},
      History.Succeeds before (.edge source target label) →
      g.find? source = some i → g.find? target = some j →
      motive (before ++ [.edge source target label])
        { g with edges := g.edges ++ [⟨i, j, label⟩] })
    (failure : ∀ {before g}, motive before g → ∀ {source target label},
      ¬ History.Succeeds before (.edge source target label) →
      motive (before ++ [.edge source target label]) g) :
    motive additions (grown machine additions) := by
  induction additions using List.reverseRecOn with
  | nil => exact nil
  | append_singleton before a ih =>
    have hsound := sound_grown machine before
    rw [grown_append]
    cases a with
    | node n => exact node hsound ih n
    | edge source target label =>
      have hfails : (grown machine before).addEdge source target label = none ↔
          ¬ History.Succeeds before (.edge source target label) :=
        addEdge_grown_eq_none machine before
      show motive _ ((grown machine before).addKnownEdge source target label)
      -- the graph decides by its index and the history by names, and both decide alike
      obtain ⟨hnone, hsame⟩ | ⟨i, j, hi, hj, hmore⟩ :=
        addKnownEdge_cases (grown machine before) source target label
      · rw [hsame]
        exact failure ih (hfails.mp hnone)
      · have hsucceeds : History.Succeeds before (.edge source target label) := by
          by_contra hnot
          rcases addEdge_eq_none_iff.mp (hfails.mpr hnot) with hnone | hnone
          · exact nomatch hi.symm.trans hnone
          · exact nomatch hj.symm.trans hnone
        rw [hmore]
        exact edge hsound ih hsucceeds hi hj

/-- **A name stands for the latest node.** -/
theorem node?_grown (name : String) :
    (grown machine additions).node? name = History.latest? additions name := by
  refine grown_induction (motive := fun before g => g.node? name = History.latest? before name)
    machine additions rfl ?node ?edge ?failure
  -- the node that was added last stands for its name
  case node =>
    intro before g hsound ih n
    rw [History.latest?_append_node, ← ih]
    exact node?_addNode hsound n name
  case edge =>
    intro before g _ ih source target label i j _ _ _
    rw [History.latest?_append_edge, ← ih]
    rfl
  case failure =>
    intro before g ih source target label _
    rw [History.latest?_append_edge, ih]

/-- **What is at a side of a name** are the edges added since the name was. -/
theorem adjoining_grown (side : Side) (name : String) :
    (grown machine additions).adjoining side name = History.labelsAt side additions name := by
  refine grown_induction
    (motive := fun before g => g.adjoining side name = History.labelsAt side before name)
    machine additions rfl ?node ?edge ?failure
  case node =>
    intro before g hsound ih n
    rw [History.labelsAt_append_node, ← ih]
    exact adjoining_addNode hsound side n name
  -- an edge adjoins its two ends, and comes before the older ones
  case edge =>
    intro before g hsound ih source target label i j hsucceeds hi hj
    rw [History.labelsAt_append_edge before name side hsucceeds, ← ih]
    exact adjoining_addEdge hsound side hi hj label name
  -- an edge to an unknown end leaves no trace
  case failure =>
    intro before g ih source target label hfails
    rw [History.labelsAt_append_of_not_succeeds before name side hfails, ih]

/-- **Nodes are never lost.** -/
theorem length_nodes_grown :
    (grown machine additions).nodes.length = additions.countP Addition.isNode := by
  refine grown_induction
    (motive := fun before g => g.nodes.length = before.countP Addition.isNode)
    machine additions rfl ?node ?edge ?failure
  case node =>
    intro before g _ ih n
    rw [List.countP_append, ← ih]
    exact List.length_append
  case edge =>
    intro before g _ ih source target label i j _ _ _
    rw [List.countP_append, ← ih]
    rfl
  case failure =>
    intro before g ih source target label _
    rw [List.countP_append, ← ih]
    rfl

/-- **Edges are never lost** that could be added. -/
theorem length_edges_grown : (grown machine additions).edges.length =
    (History.successes additions).countP Addition.isEdge := by
  refine grown_induction
    (motive := fun before g => g.edges.length = (History.successes before).countP Addition.isEdge)
    machine additions rfl ?node ?edge ?failure
  case node =>
    intro before g _ ih n
    rw [History.successes_append, List.countP_append, ← ih]
    rfl
  case edge =>
    intro before g _ ih source target label i j hsucceeds _ _
    rw [History.successes_append, if_pos hsucceeds, List.countP_append, ← ih]
    exact List.length_append
  case failure =>
    intro before g ih source target label hfails
    rw [History.successes_append, if_neg hfails, List.append_nil, ih]

/-- **An edge from a name to itself** is on both of its sides. -/
theorem adjoining_loop (side : Side) {name : String} (h : name ∈ History.names additions)
    (label : Label) : ((grown machine additions).add (.edge name name label)).adjoining side name =
      label :: (grown machine additions).adjoining side name := by
  have hsucceeds : History.Succeeds additions (.edge name name label) := ⟨h, h⟩
  have hsame : side.pick name name = name := by cases side <;> rfl
  rw [← grown_append, adjoining_grown, adjoining_grown,
    History.labelsAt_append_edge additions name side hsucceeds, if_pos hsame]

/-- **A grown graph reflects its history.** -/
theorem grown_reflects : Reflects additions (grown machine additions) := by
  have hsound := sound_grown machine additions
  -- one clause for each question that a graph answers; most are lemmas by now
  refine
    { node? := node?_grown machine additions
      states_increase := ?increase
      mem_states := ?names
      states_latest := ?latest
      addEdge_eq_none := ?fails
      add_of_addEdge_eq_none := ?unchanged
      outgoing := adjoining_grown machine additions .source
      incoming := adjoining_grown machine additions .target
      loop := fun name hname label =>
        ⟨adjoining_loop machine additions .source hname label,
          adjoining_loop machine additions .target hname label⟩
      stateCount := length_nodes_grown machine additions
      edgeCount := length_edges_grown machine additions
      absorbing := filter_listed hsound .source
      entryOnly := filter_listed hsound .target }
  case increase =>
    rw [names_states hsound]
    exact (Catalog.names_pairwise _).imp Text.lt_iff_bytes_lt.mp
  case names =>
    intro name
    rw [names_states hsound, mem_index_names, Ne, find?_grown_eq_none, not_not]
  case latest =>
    intro n hn
    rw [← node?_grown machine]
    exact node?_of_mem_states hsound hn
  case fails =>
    intro source target label
    rw [addEdge_eq_none_iff, find?_grown_eq_none, find?_grown_eq_none]
  case unchanged =>
    intro source target label hnone
    rw [add, addKnownEdge, hnone]
    rfl

/-- An edge that is seen from one of its ends only: the other end was added again. -/
example :
    let label : Label := ⟨"go", 0, []⟩
    let g := grown "m" [.node ⟨"a", 0, "A", .active⟩, .node ⟨"b", 1, "B", .active⟩,
      .edge "a" "b" label, .node ⟨"a", 0, "A", .active⟩]
    g.outgoing "a" = [] ∧ g.incoming "b" = [label] ∧ g.stats.states = 3 ∧ g.stats.edges = 1 := by
  decide

end Grown

end Automaton.Graph
