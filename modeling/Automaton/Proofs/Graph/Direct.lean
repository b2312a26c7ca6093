import Automaton.Graph.OfTable
import Automaton.Proofs.Blueprint.Direct
import Mathlib.Data.List.Induction
import Mathlib.Data.List.Nodup

/-!
# Graphs without look-ups

The graph of a table grows: a node for each state, then edge after edge, and each edge looks its
ends up.  If the table refers to no other states, no edge gets lost.  `Graph.direct` is the same
graph written down at once, and `Graph.ofStates_eq_direct` says that it is what comes of growing.

While edges are added, nodes and names stay as they are, so the whole argument is in what names
stand for before the first edge (`Graph.find?_foldl_addNode`) and in what one event adds to the
edges (`Graph.addEvent_eq`).  Places are assigned last, when all edges are there.
-/

namespace Automaton

/-! ### Repetitions and choices -/

/-- A list has no repetitions once they are erased. -/
theorem nodup_eraseDups {α : Type} [BEq α] [LawfulBEq α] (as : List α) : as.eraseDups.Nodup := by
  match as with
  | [] => exact .nil
  | a :: as =>
    have hshorter : (as.filter fun b => !b == a).length < as.length + 1 :=
      Nat.lt_succ_of_le (List.length_filter_le _ as)
    rw [List.eraseDups_cons]
    -- what is left after the head has been filtered out is shorter
    refine List.nodup_cons.mpr ⟨?_, nodup_eraseDups _⟩
    rw [List.mem_eraseDups, List.mem_filter]
    simp
termination_by as.length

/-- Choosing items by what they stand for, before or after it is looked up. -/
theorem filterMap_filter_comm {α β : Type} {f : α → Option β} {p : α → Bool} {q : β → Bool}
    {as : List α} (h : ∀ a ∈ as, ∀ b, f a = some b → p a = q b) :
    (as.filter p).filterMap f = (as.filterMap f).filter q := by
  rw [List.filterMap_filter, List.filter_filterMap]
  refine List.filterMap_congr fun a ha => ?_
  cases hb : f a with
  | none => exact ite_self none
  | some b =>
    rw [h a ha b hb]
    exact (Option.filter_some ..).symm

namespace Graph

/-! ### Nodes -/

theorem machine_foldl_addNode (ns : List Node) (g : Graph) :
    (ns.foldl addNode g).machine = g.machine := by
  induction ns generalizing g with
  | nil => rfl
  | cons n ns ih => exact ih (g.addNode n)

theorem nodes_foldl_addNode (ns : List Node) (g : Graph) :
    (ns.foldl addNode g).nodes = g.nodes ++ ns := by
  induction ns generalizing g with
  | nil => exact (List.append_nil _).symm
  | cons n ns ih =>
    rw [List.foldl_cons, ih, nodes_addNode, List.append_assoc, List.singleton_append]

theorem edges_foldl_addNode (ns : List Node) (g : Graph) :
    (ns.foldl addNode g).edges = g.edges := by
  induction ns generalizing g with
  | nil => rfl
  | cons n ns ih => exact ih (g.addNode n)

/-- **Names stand for places**: after nodes with different names are added to nothing, each name
stands for the place of its node. -/
theorem find?_foldl_addNode (machine : String) {ns : List Node}
    (h : (ns.map Node.name).Nodup) (name : String) (i : Nat) :
    (ns.foldl addNode (empty machine)).find? name = some i ↔
      (ns.map Node.name)[i]? = some name := by
  induction ns using List.reverseRecOn generalizing i with
  | nil => simp
  | append_singleton ns n ih =>
    rw [List.map_append, List.map_singleton] at h ⊢
    obtain ⟨hnames, -, hnew⟩ := List.nodup_append.mp h
    have hnodes : (ns.foldl addNode (empty machine)).nodes = ns :=
      (nodes_foldl_addNode ns _).trans (List.nil_append ns)
    rw [List.foldl_append, List.foldl_cons, List.foldl_nil, find?_addNode, hnodes,
      List.getElem?_append, List.length_map]
    by_cases hname : name = n.name
    · -- the name is new, so its only place is the last one
      subst hname
      have hold : (ns.map Node.name)[i]? ≠ some n.name := fun hi =>
        hnew _ (List.mem_of_getElem? hi) _ (List.mem_singleton.mpr rfl) rfl
      rw [if_pos rfl, Option.some.injEq]
      split
      · next hi => exact iff_of_false (fun heq => absurd heq hi.ne') hold
      · next hi =>
        rw [List.getElem?_singleton]
        split
        · next hlast => exact iff_of_true (by omega) rfl
        · next hlast => exact iff_of_false (by omega) nofun
    · rw [if_neg hname, ih hnames]
      split
      · rfl
      · -- behind the old places there is only the last one, and it has another name
        next hi =>
        rw [List.getElem?_singleton, List.getElem?_eq_none (by rw [List.length_map]; omega)]
        split
        · simp [Ne.symm hname]
        · rfl

/-- The nodes of states, before their places are known. -/
def nodesOf (s : States) : List Node :=
  s.numbered.map fun (ordinal, name) => ⟨name, ordinal, Symbol.ofState name, .active⟩

/-- The nodes have the names of the states. -/
theorem names_nodesOf (s : States) : (nodesOf s).map Node.name = s.names := by
  rw [nodesOf, List.map_map]
  exact s.names_numbered

/-- **The index of states**: every name stands for its place. -/
def indexOf (s : States) : Catalog Nat where
  entries := s.names.zipIdx
  ordered := by
    have hfst : s.names.zipIdx.map Prod.fst = s.names := List.zipIdx_map_fst 0 s.names
    rw [← List.pairwise_map (R := (· < ·)), hfst]
    exact s.ordered

theorem get?_indexOf (s : States) (name : String) (i : Nat) :
    (indexOf s).get? name = some i ↔ s.names[i]? = some name := by
  rw [Catalog.get?_eq_some_iff]
  exact List.mem_zipIdx_iff_getElem?

/-- **The graph of states** before any edge is added. -/
theorem addStates_eq (machine : String) (s : States) :
    (empty machine).addStates s = .ok ⟨machine, nodesOf s, [], indexOf s⟩ := by
  have hfold : (empty machine).addStates s = .ok ((nodesOf s).foldl addNode (empty machine)) := by
    rw [addStates_eq_ok, nodesOf, List.foldl_map]
  rw [hfold, Except.ok.injEq]
  -- all fields of the graph, and last its index, which is known by what it finds
  ext1
  · exact machine_foldl_addNode _ _
  · exact (nodes_foldl_addNode _ _).trans (List.nil_append _)
  · exact edges_foldl_addNode _ _
  · refine Catalog.ext_get? fun name => Option.ext fun i => ?_
    rw [get?_indexOf, ← names_nodesOf]
    exact find?_foldl_addNode machine (by rw [names_nodesOf]; exact s.nodup) name i

/-! ### Edges -/

/-- The edges of an event. -/
def edgesOf (s : States) : Nat × String × Event → List Edge
  | (ordinal, name, e) => e.sources.eraseDups.map fun source =>
      ⟨(s.ordinal? source).getD 0, (s.ordinal? e.destination).getD 0, labelOf ordinal name e⟩

section Growing

variable {s : States} {g : Graph} (hg : g.index = indexOf s)
include hg

theorem find?_eq_some {name : String} (h : name ∈ s.names) :
    g.find? name = some ((s.ordinal? name).getD 0) := by
  rw [find?, hg, get?_indexOf]
  exact States.getElem?_ordinal h

theorem addKnownEdge_eq {source target : String} (hsource : source ∈ s.names)
    (htarget : target ∈ s.names) (label : Label) :
    g.addKnownEdge source target label =
      { g with edges := g.edges ++
          [⟨(s.ordinal? source).getD 0, (s.ordinal? target).getD 0, label⟩] } := by
  rw [addKnownEdge, addEdge, find?_eq_some hg hsource, find?_eq_some hg htarget]
  rfl

theorem foldl_addKnownEdge_eq {target : String} (htarget : target ∈ s.names) (label : Label)
    {sources : List String} (hsources : ∀ n ∈ sources, n ∈ s.names) :
    sources.foldl (fun g source => g.addKnownEdge source target label) g =
      { g with edges := g.edges ++ sources.map fun source =>
          ⟨(s.ordinal? source).getD 0, (s.ordinal? target).getD 0, label⟩ } := by
  induction sources generalizing g with
  | nil => rw [List.map_nil, List.append_nil]; rfl
  | cons source sources ih =>
    obtain ⟨hsource, hrest⟩ := List.forall_mem_cons.mp hsources
    -- the index is the same after the edge, so the hypothesis applies to the grown graph
    rw [List.foldl_cons, addKnownEdge_eq hg hsource htarget, ih ?_ hrest, List.map_cons,
      List.append_assoc, List.singleton_append]
    exact hg

/-- **An event adds its edges**, and changes nothing else. -/
theorem addEvent_eq {ordinal : Nat} {name : String} {e : Event}
    (h : ∀ n ∈ e.states, n ∈ s.names) :
    g.addEvent (ordinal, name, e) =
      { g with edges := g.edges ++ edgesOf s (ordinal, name, e) } := by
  have hdest : e.destination ∈ s.names :=
    h _ (List.mem_append_right _ (List.mem_singleton.mpr rfl))
  exact foldl_addKnownEdge_eq hg hdest _ fun n hn =>
    h n (List.mem_append_left _ (List.mem_eraseDups.mp hn))

theorem foldl_addEvent_eq {events : List (Nat × String × Event)}
    (h : ∀ x ∈ events, ∀ n ∈ x.2.2.states, n ∈ s.names) :
    events.foldl addEvent g = { g with edges := g.edges ++ events.flatMap (edgesOf s) } := by
  induction events generalizing g with
  | nil => rw [List.flatMap_nil, List.append_nil]; rfl
  | cons x events ih =>
    obtain ⟨hx, hrest⟩ := List.forall_mem_cons.mp h
    rw [List.foldl_cons, addEvent_eq hg hx, ih ?_ hrest, List.flatMap_cons, List.append_assoc]
    exact hg

end Growing

/-! ### Graphs -/

/-- **The graph of a table with given states**, written down at once. -/
def direct (t : Table) (s : States) : Graph :=
  placed ⟨t.name, nodesOf s, t.numberedEvents.flatMap (edgesOf s), indexOf s⟩

/-- **A table among known states** has its graph. -/
theorem ofStates_eq_direct {t : Table} {s : States} (h : ∀ n ∈ t.references, n ∈ s.names) :
    ofStates t s = direct t s := by
  have hevents : ∀ x ∈ t.numberedEvents, ∀ n ∈ x.2.2.states, n ∈ s.names := fun _ hx n hn =>
    h n (Table.mem_references_of_numberedEvents hx hn)
  have hassemble : assemble t s = .ok (direct t s) := by
    rw [assemble, addStates_eq]
    show Except.ok (placed _) = _
    rw [foldl_addEvent_eq rfl hevents, List.nil_append, direct]
  exact Except.ok.inj ((assemble_eq_ok t s).symm.trans hassemble)

/-- **The graph of a table** that has states. -/
theorem ofTable_eq_ok {t : Table} {s : States} (hs : States.ofTable t = some s) :
    ofTable t = .ok (direct t s) := by
  have hstates : t.states = .ok s := by rw [Table.states, hs]
  have hassemble : assemble t s = .ok (direct t s) := by
    rw [assemble_eq_ok, ofStates_eq_direct fun n hn => (States.mem_names_ofTable hs).mpr hn]
  simp only [ofTable, hstates, hassemble, bind, Except.bind, pure, Except.pure]

end Graph

end Automaton
