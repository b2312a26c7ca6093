import Automaton.Proofs.Blueprint.Lookup
import Automaton.Proofs.Graph.Direct
import Mathlib.Algebra.GroupWithZero.Nat
import Mathlib.Data.List.Perm.Lattice

/-!
# Graphs and blueprints agree

A summary describes a table by its graph, a source is made of its blueprint, and nobody looks at
both.  Still, they list the same states (`Graph.states_eq_zip`), the edges of an event are what its
guard lets through (`Graph.exists_edge_iff_guard`), and whatever is counted in the graph is there to
be counted in the blueprint.

## The two ways to read sources

The graph erases repeated *names* of sources, and keeps the order in which they are written.  A
guard is made of *symbols* in the order of states.  What they have in common is the set of the
sources:

* a source is in the guard under its symbol, and as symbols tell states apart, nothing else is
  (`mem_guard_iff`);
* there are as many edges as symbols in the guard, because neither has repetitions
  (`length_edgesOf`).
-/

namespace Automaton

namespace Graph

/-- The name of a node, by its number. -/
def nameOf? (g : Graph) (number : Nat) : Option String :=
  (g.nodes[number]?).map Node.name

/-- **An edge leads** from state to state. -/
def Leads (g : Graph) (x : Edge) (source target : String) : Prop :=
  g.nameOf? x.source = some source ∧ g.nameOf? x.target = some target

/-! ### Placing -/

theorem edges_placed (g : Graph) : g.placed.edges = g.edges := rfl

theorem listed_placed (g : Graph) : g.placed.listed = g.listed := rfl

/-- Whatever does not look at places is the same once nodes are placed. -/
theorem map_nodes_placed {β : Type} {f : Node → β}
    (hf : ∀ (n : Node) (p : Place), f { n with place := p } = f n) (g : Graph) :
    g.placed.nodes.map f = g.nodes.map f := by
  have hfst : g.nodes.zipIdx.map Prod.fst = g.nodes := List.zipIdx_map_fst 0 g.nodes
  conv_rhs => rw [← hfst]
  rw [placed, List.map_map, List.map_map]
  exact List.map_congr_left fun x _ => hf x.1 _

theorem nameOf?_placed (g : Graph) (number : Nat) : g.placed.nameOf? number = g.nameOf? number := by
  rw [nameOf?, nameOf?, ← List.getElem?_map, ← List.getElem?_map,
    map_nodes_placed fun _ _ => rfl]

/-! ### States -/

/-- All items of a list, by their places. -/
theorem filterMap_getElem?_range {α : Type} (as : List α) :
    (List.range as.length).filterMap (as[·]?) = as := by
  induction as using List.reverseRecOn with
  | nil => rfl
  | append_singleton as a ih =>
    -- one more item behind the list does not change what stands at the earlier places
    have hold : (List.range as.length).filterMap ((as ++ [a])[·]?) = as := by
      conv_rhs => rw [← ih]
      refine List.filterMap_congr fun i hi => ?_
      exact List.getElem?_append_left (List.mem_range.mp hi)
    rw [List.length_append, List.length_singleton, List.range_succ, List.filterMap_append, hold]
    simp

variable {t : Table} {s : States}

theorem nodes_direct_map {β : Type} {f : Node → β}
    (hf : ∀ (n : Node) (p : Place), f { n with place := p } = f n) :
    (direct t s).nodes.map f = (nodesOf s).map f :=
  map_nodes_placed hf _

theorem length_nodes_direct : (direct t s).nodes.length = s.size := by
  have hnames := congrArg List.length (nodes_direct_map (t := t) (s := s) (f := Node.name)
    fun _ _ => rfl)
  rwa [List.length_map, names_nodesOf] at hnames

/-- **All nodes are listed**, in the order of their numbers. -/
theorem states_direct : (direct t s).states = (direct t s).nodes := by
  have hlisted : (direct t s).listed = List.range s.size := by
    rw [direct, listed_placed, List.range_eq_range']
    exact List.zipIdx_map_snd 0 s.names
  rw [Graph.states, hlisted, ← length_nodes_direct (t := t), filterMap_getElem?_range]

/-- The number of a state is the number of its node. -/
theorem nameOf?_ordinal {name : String} (h : name ∈ s.names) :
    (direct t s).nameOf? ((s.ordinal? name).getD 0) = some name := by
  rw [direct, nameOf?_placed, nameOf?, ← List.getElem?_map, names_nodesOf]
  exact States.getElem?_ordinal h

/-- **States pair up** with entries of the lookup table and with constants. -/
theorem states_eq_zip :
    ((direct t s).states.map fun n => ((n.ordinal, n.name), (⟨n.symbol, n.ordinal⟩ : Constant))) =
      (Blueprint.direct t s).lookup.entries.zip (Blueprint.direct t s).states.constants := by
  rw [states_direct, nodes_direct_map fun _ _ => rfl, nodesOf, List.map_map]
  -- entries are the numbered states themselves, and constants are made of them one by one
  show _ = s.numbered.zip (s.numbered.map _)
  conv_rhs => rw [← List.map_id s.numbered, List.map_map, List.zip_map']
  rfl

/-- Drawings start where machines start. -/
theorem initial_stats_direct : (direct t s).stats.initial = s.initial := by
  have hnames : (direct t s).states.map Node.name = s.names := by
    rw [states_direct, nodes_direct_map fun _ _ => rfl, names_nodesOf]
  rw [stats, ← List.head?_map, hnames, List.head?_eq_some_head s.inhabited]
  rfl

/-! ### Edges -/

theorem mem_edges_direct {x : Edge} :
    x ∈ (direct t s).edges ↔ ∃ i name e, t.events.entries[i]? = some (name, e) ∧
      ∃ source ∈ e.sources, x =
        ⟨(s.ordinal? source).getD 0, (s.ordinal? e.destination).getD 0, labelOf i name e⟩ := by
  simp only [direct, edges_placed, List.mem_flatMap, Prod.exists, Table.mem_numberedEvents,
    edgesOf, List.mem_map, List.mem_eraseDups]
  refine exists_congr fun i => exists_congr fun name => exists_congr fun e => and_congr_right ?_
  exact fun _ => exists_congr fun _ => and_congr_right fun _ => eq_comm

section Known

variable (hknown : ∀ n ∈ t.references, n ∈ s.names)
include hknown

/-- An edge of an event leads from its source to the destination of the event. -/
theorem leads_direct_iff {i : Nat} {name : String} {e : Event}
    (hentry : t.events.entries[i]? = some (name, e)) {source : String}
    (hsource : source ∈ e.sources) (label : Label) {a b : String} :
    (direct t s).Leads
        ⟨(s.ordinal? source).getD 0, (s.ordinal? e.destination).getD 0, label⟩ a b ↔
      source = a ∧ e.destination = b := by
  have hmem : (name, e) ∈ t.events.entries := List.mem_of_getElem? hentry
  -- both ends are states, so they have ordinals of their own
  have hsourceName : source ∈ s.names :=
    hknown _ (Table.mem_references.mpr ⟨name, e, hmem, .inl hsource⟩)
  have hdestName : e.destination ∈ s.names :=
    hknown _ (Table.mem_references.mpr ⟨name, e, hmem, .inr rfl⟩)
  rw [Leads, nameOf?_ordinal hsourceName, nameOf?_ordinal hdestName, Option.some.injEq,
    Option.some.injEq]

/-- **Edges of an event**, by the names of their ends. -/
theorem exists_edge_iff {i : Nat} {name : String} {e : Event}
    (hentry : t.events.entries[i]? = some (name, e)) {a b : String} :
    (∃ x ∈ (direct t s).edges, (direct t s).Leads x a b ∧ x.label.event = name ∧
        x.label.ordinal = i) ↔ a ∈ e.sources ∧ e.destination = b := by
  constructor
  · -- the edge belongs to some event, and the ordinal says to which
    rintro ⟨x, hx, hleads, -, hordinal⟩
    obtain ⟨j, name', e', hentry', source, hsource, rfl⟩ := mem_edges_direct.mp hx
    obtain rfl : j = i := hordinal
    obtain ⟨rfl, rfl⟩ : name' = name ∧ e' = e := by
      rw [hentry] at hentry'
      simpa [eq_comm] using hentry'
    obtain ⟨rfl, hdest⟩ := (leads_direct_iff hknown hentry hsource _).mp hleads
    exact ⟨hsource, hdest⟩
  · rintro ⟨ha, hb⟩
    refine ⟨_, mem_edges_direct.mpr ⟨i, name, e, hentry, a, ha, rfl⟩, ?_, rfl, rfl⟩
    exact (leads_direct_iff hknown hentry ha _).mpr ⟨rfl, hb⟩

/-- **Edges do not repeat**: no two of them leave one state for one event. -/
theorem edges_direct_nodup :
    ((direct t s).edges.map fun x => ((direct t s).nameOf? x.source, x.label.event)).Nodup := by
  have hevent : ∀ x ∈ t.numberedEvents,
      ((edgesOf s x).map fun y => ((direct t s).nameOf? y.source, y.label.event)) =
        x.2.2.sources.eraseDups.map fun source => (some source, x.2.1) := by
    rintro ⟨i, name, e⟩ hx
    rw [edgesOf, List.map_map]
    refine List.map_congr_left fun source hsource => ?_
    have hname : source ∈ s.names := hknown _ <| Table.mem_references_of_numberedEvents hx
      (List.mem_append_left _ (List.mem_eraseDups.mp hsource))
    exact Prod.ext (nameOf?_ordinal hname) rfl
  have hnames : t.numberedEvents.Pairwise fun x y => x.2.1 ≠ y.2.1 := by
    rw [← List.pairwise_map (f := fun x : Nat × String × Event => x.2.1) (R := (· ≠ ·)),
      Table.names_numberedEvents]
    exact t.events.names_nodup
  rw [direct, edges_placed, List.map_flatMap, ← direct, List.flatMap_congr hevent,
    List.nodup_flatMap]
  constructor
  · -- edges of one event differ in the source
    intro x _
    exact (nodup_eraseDups _).map fun _ _ heq => Option.some.inj (Prod.mk.inj heq).1
  · refine hnames.imp fun {x y} hne => ?_
    -- edges of different events differ in the event
    rintro z hx hy
    obtain ⟨_, -, rfl⟩ := List.mem_map.mp hx
    obtain ⟨_, -, heq⟩ := List.mem_map.mp hy
    exact hne (Prod.mk.inj heq).2.symm

end Known

/-! ### Guards -/

/-- A table refers to no other states than its own. -/
theorem known (hs : States.ofTable t = some s) (n : String) (hn : n ∈ t.references) :
    n ∈ s.names :=
  (States.mem_names_ofTable hs).mpr hn

/-- **A state is in the guard** of an event exactly if it is a source. -/
theorem mem_guard_iff (h : t.WellFormed) (hs : States.ofTable t = some s) {source : String}
    (hsource : source ∈ s.names) (ordinal : Nat) (name : String) (e : Event) :
    Symbol.ofState source ∈ (Transition.direct (Blueprint.settingOf t s) ordinal name e).guard ↔
      source ∈ e.sources := by
  show Symbol.ofState source ∈ (Transition.accepted s e.sources).map Symbol.ofState ↔ _
  simp only [List.mem_map, Transition.mem_accepted]
  constructor
  · -- some source has the symbol, and the symbol tells which
    rintro ⟨n, ⟨hn, hmem⟩, heq⟩
    rw [States.mem_names_ofTable hs] at hn hsource
    rwa [← h.stateSymbol_inj hn hsource heq]
  · intro hmem
    exact ⟨source, ⟨hsource, hmem⟩, rfl⟩

/-- **An edge of an event** leads from a state in its guard to its destination, and there is one
from each of them. -/
theorem exists_edge_iff_guard (h : t.WellFormed) (hs : States.ofTable t = some s) {i : Nat}
    {name : String} {e : Event} (hentry : t.events.entries[i]? = some (name, e)) {a b : String}
    (ha : a ∈ s.names) (hb : b ∈ s.names) :
    (∃ x ∈ (direct t s).edges, (direct t s).Leads x a b ∧ x.label.event = name ∧
        x.label.ordinal = i) ↔
      Symbol.ofState a ∈ (Transition.direct (Blueprint.settingOf t s) i name e).guard ∧
        Symbol.ofState e.destination = Symbol.ofState b := by
  have hdest : e.destination ∈ t.references :=
    Table.mem_references.mpr ⟨name, e, List.mem_of_getElem? hentry, .inr rfl⟩
  rw [exists_edge_iff (known hs) hentry, mem_guard_iff h hs ha]
  -- different states have different symbols in a well formed table
  refine and_congr_right fun _ => ⟨fun heq => congrArg Symbol.ofState heq, fun heq => ?_⟩
  exact h.stateSymbol_inj hdest ((States.mem_names_ofTable hs).mp hb) heq

/-- **Sources as they are written** and in the order of states are the same, once repetitions are
erased. -/
theorem eraseDups_perm_accepted (hs : States.ofTable t = some s) {i : Nat} {name : String}
    {e : Event} (hx : (i, name, e) ∈ t.numberedEvents) :
    e.sources.eraseDups.Perm (Transition.accepted s e.sources) := by
  have hnodup : (Transition.accepted s e.sources).Nodup := s.nodup.filter _
  refine (List.perm_ext_iff_of_nodup (nodup_eraseDups _) hnodup).mpr fun n => ?_
  rw [List.mem_eraseDups, Transition.mem_accepted, and_iff_right_of_imp]
  exact fun hn => known hs n <|
    Table.mem_references_of_numberedEvents hx (List.mem_append_left _ hn)

/-- **An event has as many edges** as its guard has symbols. -/
theorem length_edgesOf (hs : States.ofTable t = some s) {i : Nat} {name : String} {e : Event}
    (hx : (i, name, e) ∈ t.numberedEvents) :
    (edgesOf s (i, name, e)).length =
      (Transition.direct (Blueprint.settingOf t s) i name e).guard.length := by
  rw [edgesOf, List.length_map, (eraseDups_perm_accepted hs hx).length_eq]
  show _ = ((Transition.accepted s e.sources).map Symbol.ofState).length
  rw [List.length_map]

/-- **As many edges** as symbols in all guards together. -/
theorem length_edges_direct (hs : States.ofTable t = some s) :
    (direct t s).edges.length =
      ((Blueprint.direct t s).transitions.map fun tr => tr.guard.length).sum := by
  rw [direct, edges_placed, List.length_flatMap, Blueprint.direct, Blueprint.directTransitions,
    List.map_map]
  congr 1
  exact List.map_congr_left fun _ hx => length_edgesOf hs hx

/-- **As many events on edges** as transitions: every event has a source, and thus an edge. -/
theorem events_stats_direct (h : t.WellFormed) :
    (direct t s).stats.events = (Blueprint.direct t s).transitions.length := by
  have hranked : ranked (fun a b : Nat => a ≤ b) ((direct t s).edges.map (·.label.ordinal)) =
      List.range t.events.size := by
    refine ranked_eq_of_mem_iff ?_ ?_ ?_ ?_ fun i => ?_
    · exact fun a b c hab hbc => decide_eq_true ((of_decide_eq_true hab).trans
        (of_decide_eq_true hbc))
    · exact fun a b => by simpa using le_total a b
    · exact fun a b hab hba => le_antisymm (of_decide_eq_true hab) (of_decide_eq_true hba)
    · exact List.pairwise_lt_range.imp fun hlt => ⟨decide_eq_true hlt.le, hlt.ne⟩
    · rw [List.mem_range, List.mem_map]
      constructor
      · -- an event is on an edge because it has a source
        intro hi
        obtain ⟨⟨name, e⟩, hentry⟩ : ∃ x, t.events.entries[i]? = some x :=
          ⟨_, List.getElem?_eq_getElem hi⟩
        have hwf := h.events_wellFormed _ (List.mem_of_getElem? hentry)
        obtain ⟨source, hsource⟩ := List.exists_mem_of_ne_nil _ hwf.sources_ne_nil
        exact ⟨_, mem_edges_direct.mpr ⟨i, name, e, hentry, source, hsource, rfl⟩, rfl⟩
      · rintro ⟨x, hx, rfl⟩
        obtain ⟨i, name, e, hentry, source, -, rfl⟩ := mem_edges_direct.mp hx
        exact (List.getElem?_eq_some_iff.mp hentry).1
  rw [stats, hranked, List.length_range, Blueprint.direct, Blueprint.directTransitions,
    List.length_map, Table.length_numberedEvents]

end Graph

end Automaton
