import Automaton.Proofs.Graph.Circles
import Automaton.Proofs.Graph.Moves
import Mathlib.Algebra.Order.BigOperators.Group.List
import Mathlib.Order.Bounds.Basic

/-!
# Shapes and runs

The shape of a graph is made of its edges: whether they run in circles, and how many of them leave
one node.  To those who use a machine, this is about runs: whether some calls, all of them accepted,
lead back to the state that they were made in, and how many events a state accepts.

`ShapeOfRuns` says that a graph has the shape of the runs of a table, and
`Graph.shapeOfRuns_ofTable` that this is so for every accepted table.  The way from edges to runs
goes by moves:

* edges lead from node to node like moves from state to state, so circles of edges are circles of
  moves (`Graph.hasCycles_direct_iff`);
* calls one after the other make moves one after the other (`Table.exists_run_iff`);
* a state accepts as many events as moves begin there (`Table.length_accepted`), and the edges that
  leave its node are as many.
-/

namespace Automaton

/-! ### Runs -/

/-- **A run**: where calls lead that are accepted one after the other, from a state on. -/
def Machine.run? {S : Type} (m : Machine S) (s : S) : List String → Option S
  | [] => some s
  | event :: calls => (m.call s event).bind fun r => m.run? r.1 calls

namespace Table

variable {t : Table}

/-- **A move** between two states. -/
def Step (t : Table) (a b : String) : Prop :=
  (a, b) ∈ t.moves

/-- **Runs are moves one after the other**: calls lead from a state to a state if moves do. -/
theorem exists_run_iff {a b : String} :
    (∃ calls, calls ≠ [] ∧ (Machine.ofTable t).run? (some a) calls = some (some b)) ↔
      Relation.TransGen t.Step a b := by
  refine ⟨?_, ?_⟩
  · -- by induction on the calls, each of which makes the first of the moves that are left
    rintro ⟨calls, hne, hrun⟩
    induction calls generalizing a with
    | nil => exact absurd rfl hne
    | cons event calls ih =>
      obtain ⟨r, hcall, hrest⟩ := Option.bind_eq_some_iff.mp hrun
      obtain ⟨e, hentry, ha, rfl⟩ := call_eq_some_iff.mp hcall
      have hstep : t.Step a e.destination := mem_moves.mpr ⟨event, e, hentry, ha, rfl⟩
      cases calls with
      | nil =>
        obtain rfl := Option.some.inj (Option.some.inj hrest)
        exact .single hstep
      | cons next calls => exact .head hstep (ih nofun hrest)
  · -- by induction on the moves, from the last one back, so that calls are put in front
    intro hmoves
    induction hmoves using Relation.TransGen.head_induction_on with
    | single hstep =>
      obtain ⟨event, ordinal, hcall⟩ := exists_call_iff.mpr hstep
      refine ⟨[event], nofun, ?_⟩
      rw [Machine.run?, hcall]
      rfl
    | head hstep _ ih =>
      obtain ⟨event, ordinal, hcall⟩ := exists_call_iff.mpr hstep
      obtain ⟨calls, -, hrun⟩ := ih
      refine ⟨event :: calls, nofun, ?_⟩
      rw [Machine.run?, hcall]
      exact hrun

/-! ### Accepted events -/

/-- **The events that are accepted** in a state. -/
def accepted (t : Table) (n : String) : List String :=
  t.events.names.filter fun event => ((Machine.ofTable t).call (some n) event).isSome

/-- However often an event has a state among its sources, one move begins there. -/
theorem count_starts (t : Table) (n : String) :
    (t.moves.map Prod.fst).count n = t.events.entries.countP fun entry => n ∈ entry.2.sources := by
  rw [moves]
  induction t.events.entries with
  | nil => rfl
  | cons entry entries ih =>
    rw [List.flatMap_cons, List.map_append, List.count_append, ih, List.countP_cons, Nat.add_comm,
      List.map_map]
    congr 1
    -- an event has one move from each of its sources, however often that is written
    show (entry.2.sources.eraseDups.map id).count n = _
    rw [List.map_id, (nodup_eraseDups _).count]
    simp only [List.mem_eraseDups, decide_eq_true_eq]

/-- **A state accepts as many events** as moves begin there. -/
theorem length_accepted (t : Table) (n : String) :
    (t.accepted n).length = (t.moves.map Prod.fst).count n := by
  rw [count_starts, accepted, ← List.countP_eq_length_filter, Catalog.names, List.countP_map]
  refine List.countP_congr fun entry hentry => ?_
  rw [Function.comp_apply, Option.isSome_iff_exists, decide_eq_true_eq]
  refine ⟨?_, ?_⟩
  · rintro ⟨r, hcall⟩
    obtain ⟨e, hentry', hsource, -⟩ := call_eq_some_iff.mp hcall
    -- there is only one event of the name
    have hsame := (Catalog.get?_eq_some_iff.mpr hentry).symm.trans
      (Catalog.get?_eq_some_iff.mpr hentry')
    rwa [Option.some.inj hsame]
  · intro hsource
    exact ⟨_, call_eq_some_iff.mpr ⟨entry.2, hentry, hsource, rfl⟩⟩

end Table

namespace Graph

/-! ### Circles -/

section Known

variable {t : Table} {s : States} (hknown : ∀ n ∈ t.references, n ∈ s.names)
include hknown

/-- An edge of a graph leads from state to state like a move. -/
theorem exists_edge_iff_step {i j : Nat} {a b : String} (ha : s.names[i]? = some a)
    (hb : s.names[j]? = some b) : Follows (direct t s).edges i j ↔ t.Step a b := by
  have hends : (some a, some b) ∈ ((direct t s).edges.map fun x =>
      ((direct t s).nameOf? x.source, (direct t s).nameOf? x.target)) ↔ t.Step a b := by
    rw [ends_direct hknown, List.mem_map, Table.Step]
    simp
  rw [← hends, List.mem_map, Follows]
  refine exists_congr fun x => and_congr_right fun _ => ?_
  rw [Prod.mk.injEq, nameOf?_eq_some_iff ha, nameOf?_eq_some_iff hb]

/-- Edges lead from nodes of states to nodes of states. -/
theorem exists_names_of_follows {i j : Nat} (h : Follows (direct t s).edges i j) :
    ∃ a b, s.names[i]? = some a ∧ s.names[j]? = some b := by
  obtain ⟨x, hx, rfl, rfl⟩ := h
  -- edges have the names of moves at their ends
  have hmem : ((direct t s).nameOf? x.source, (direct t s).nameOf? x.target) ∈
      t.moves.map fun m => (some m.1, some m.2) := by
    rw [← ends_direct hknown]
    exact List.mem_map.mpr ⟨x, hx, rfl⟩
  obtain ⟨m, -, heq⟩ := List.mem_map.mp hmem
  obtain ⟨hsource, htarget⟩ := Prod.mk.inj heq
  exact ⟨m.1, m.2, (nameOf?_direct _).symm.trans hsource.symm,
    (nameOf?_direct _).symm.trans htarget.symm⟩

/-- **A graph runs in circles** exactly if moves lead from some state back to it. -/
theorem hasCycles_direct_iff :
    (direct t s).hasCycles = true ↔ ∃ n, Relation.TransGen t.Step n n := by
  rw [hasCycles_iff]
  refine ⟨?_, ?_⟩
  · -- a circle of edges goes from node to node, and so from name to name
    rintro ⟨i, hcircle⟩
    refine ⟨_, hcircle.lift (fun j => (s.names[j]?).getD "") fun i j hfollows => ?_⟩
    obtain ⟨a, b, ha, hb⟩ := exists_names_of_follows hknown hfollows
    show t.Step ((s.names[i]?).getD "") ((s.names[j]?).getD "")
    rw [ha, hb]
    exact (exists_edge_iff_step hknown ha hb).mp hfollows
  · rintro ⟨n, hcircle⟩
    refine ⟨_, hcircle.lift (fun n => (s.ordinal? n).getD 0) fun a b hstep => ?_⟩
    obtain ⟨ha, hb⟩ := Table.mem_references_of_mem_moves hstep
    exact (exists_edge_iff_step hknown (States.getElem?_ordinal (hknown a ha))
      (States.getElem?_ordinal (hknown b hb))).mpr hstep

end Known

/-! ### Degrees -/

theorem foldl_max_le_iff {ks : List Nat} {a k : Nat} :
    ks.foldl max a ≤ k ↔ a ≤ k ∧ ∀ x ∈ ks, x ≤ k := by
  induction ks generalizing a with
  | nil => simp
  | cons x ks ih => rw [List.foldl_cons, ih, max_le_iff, List.forall_mem_cons, and_assoc]

/-- The greatest degree bounds the edges that leave any node, and nothing smaller does. -/
theorem maxOutDegree_le_iff {g : Graph} {k : Nat} :
    g.maxOutDegree ≤ k ↔ ∀ i < g.nodes.length, (g.leaving i).length ≤ k := by
  rw [maxOutDegree, foldl_max_le_iff, and_iff_right (Nat.zero_le k)]
  simp only [List.forall_mem_map, List.mem_range]

/-- Some node has the greatest degree, if there are nodes. -/
theorem exists_length_leaving_eq {g : Graph} (h : 0 < g.nodes.length) :
    ∃ i < g.nodes.length, (g.leaving i).length = g.maxOutDegree := by
  by_contra hnone
  have hle := maxOutDegree_le_iff.mp (le_refl g.maxOutDegree)
  have hlt : ∀ i < g.nodes.length, (g.leaving i).length < g.maxOutDegree := fun i hi =>
    (hle i hi).lt_of_ne fun heq => hnone ⟨i, hi, heq⟩
  -- then a smaller number would bound all degrees
  have hsmaller : g.maxOutDegree ≤ g.maxOutDegree - 1 :=
    maxOutDegree_le_iff.mpr fun i hi => Nat.le_sub_one_of_lt (hlt i hi)
  have hpositive := hlt 0 h
  omega

/-- **The greatest degree** is the greatest number of events that a state accepts. -/
theorem isGreatest_maxOutDegree {t : Table} {s : States}
    (hknown : ∀ n ∈ t.references, n ∈ s.names) :
    IsGreatest {k | ∃ n ∈ s.names, (t.accepted n).length = k} (direct t s).maxOutDegree := by
  -- edges that leave a node are what its state accepts, so the numbers agree
  have hdegree : ∀ i n, s.names[i]? = some n →
      ((direct t s).leaving i).length = (t.accepted n).length := fun i n hn =>
    (length_leaving hknown hn).trans (t.length_accepted n).symm
  refine ⟨?_, ?_⟩
  · obtain ⟨i, hi, hmax⟩ := exists_length_leaving_eq (length_nodes_direct_pos (t := t) (s := s))
    rw [length_nodes_direct] at hi
    have hn : s.names[i]? = some s.names[i] := List.getElem?_eq_getElem hi
    exact ⟨s.names[i], List.getElem_mem hi, (hdegree i _ hn).symm.trans hmax⟩
  · rintro _ ⟨n, hn, rfl⟩
    obtain ⟨i, hi⟩ := List.mem_iff_getElem?.mp hn
    rw [← hdegree i n hi]
    refine maxOutDegree_le_iff.mp le_rfl i ?_
    rw [length_nodes_direct]
    exact (List.getElem?_eq_some_iff.mp hi).1

/-! ### Shapes -/

section Shapes

variable {g : Graph} (h : 0 < g.nodes.length)
include h

theorem shape_eq_of_nodes : g.shape =
    if g.hasCycles then .cyclic else if g.maxOutDegree ≤ 1 then .linear else .tree := by
  rw [shape, if_neg]
  rw [List.isEmpty_iff]
  exact List.ne_nil_of_length_pos h

theorem shape_eq_cyclic_iff : g.shape = .cyclic ↔ g.hasCycles = true := by
  rw [shape_eq_of_nodes h]
  split_ifs <;> simp [*]

theorem shape_eq_linear_iff : g.shape = .linear ↔ g.hasCycles = false ∧ g.maxOutDegree ≤ 1 := by
  rw [shape_eq_of_nodes h]
  split_ifs <;> simp [*]

theorem shape_eq_tree_iff : g.shape = .tree ↔ g.hasCycles = false ∧ 1 < g.maxOutDegree := by
  rw [shape_eq_of_nodes h, ← not_le]
  split_ifs <;> simp [*]

theorem shape_ne_unknown : g.shape ≠ .unknown := by
  rw [shape_eq_of_nodes h]
  split_ifs <;> simp

end Shapes

end Graph

/-- **A graph has the shape of the runs** of a table. -/
structure ShapeOfRuns (t : Table) (s : States) (g : Graph) : Prop where
  /-- It runs in circles if some run comes back to the state that it began in. -/
  hasCycles_iff : g.hasCycles = true ↔ ∃ n ∈ s.names, ∃ calls, calls ≠ [] ∧
    (Machine.ofTable t).run? (some n) calls = some (some n)
  /-- Its greatest degree is the greatest number of events that a state accepts. -/
  maxOutDegree : IsGreatest {k | ∃ n ∈ s.names, (t.accepted n).length = k} g.maxOutDegree
  /-- It is cyclic if it runs in circles. -/
  cyclic_iff : g.shape = .cyclic ↔ g.hasCycles = true
  /-- If not, it is linear if no state accepts two events. -/
  linear_iff : g.shape = .linear ↔
    g.hasCycles = false ∧ ¬ ∃ n ∈ s.names, 2 ≤ (t.accepted n).length
  /-- It is a tree if some state does. -/
  tree_iff : g.shape = .tree ↔ g.hasCycles = false ∧ ∃ n ∈ s.names, 2 ≤ (t.accepted n).length
  /-- It is never unknown. -/
  known : g.shape ≠ .unknown

/-- The graph of a table with states has the shape of its runs. -/
theorem Graph.shapeOfRuns_direct {t : Table} {s : States} (hs : States.ofTable t = some s) :
    ShapeOfRuns t s (direct t s) := by
  have hknown := known hs
  have hgreatest := isGreatest_maxOutDegree hknown
  have hnodes : 0 < (direct t s).nodes.length := length_nodes_direct_pos
  have htwo : 1 < (direct t s).maxOutDegree ↔ ∃ n ∈ s.names, 2 ≤ (t.accepted n).length := by
    refine ⟨?_, ?_⟩
    · intro hlt
      obtain ⟨n, hn, hmax⟩ := hgreatest.1
      exact ⟨n, hn, hmax ▸ hlt⟩
    · rintro ⟨n, hn, hle⟩
      exact lt_of_lt_of_le hle (hgreatest.2 ⟨n, hn, rfl⟩)
  exact
    { hasCycles_iff := by
        rw [hasCycles_direct_iff hknown]
        simp only [Table.exists_run_iff]
        refine ⟨?_, ?_⟩
        · -- a state with a move is one of the states
          rintro ⟨n, hcircle⟩
          obtain ⟨m, hstep, -⟩ := Relation.TransGen.head'_iff.mp hcircle
          exact ⟨n, hknown n (Table.mem_references_of_mem_moves hstep).1, hcircle⟩
        · rintro ⟨n, -, hcircle⟩
          exact ⟨n, hcircle⟩
      maxOutDegree := hgreatest
      cyclic_iff := shape_eq_cyclic_iff hnodes
      linear_iff := by
        rw [shape_eq_linear_iff hnodes, ← htwo, not_lt]
      tree_iff := by
        rw [shape_eq_tree_iff hnodes, htwo]
      known := shape_ne_unknown hnodes }

/-- **Shapes are right about runs**: the graph of an accepted table is cyclic, linear or a tree by
what calls can do on the machine of the table. -/
theorem Graph.shapeOfRuns_ofTable (t : Table) (h : t.validate = .ok ()) :
    ∃ s g, States.ofTable t = some s ∧ Graph.ofTable t = .ok g ∧ ShapeOfRuns t s g := by
  have hwf := Table.validate_eq_ok_iff_wellFormed.mp h
  obtain ⟨s, hs⟩ := Blueprint.exists_states hwf
  exact ⟨s, _, hs, ofTable_eq_ok hs, shapeOfRuns_direct hs⟩

/-- The jobs run in circles: a job can be polled, and it can be started again. -/
theorem Graph.shapeOfRuns_jobs :
    Table.jobs.validate = .ok () ∧ ∃ s g, States.ofTable Table.jobs = some s ∧
      Graph.ofTable Table.jobs = .ok g ∧ ShapeOfRuns Table.jobs s g :=
  ⟨by decide, Graph.shapeOfRuns_ofTable Table.jobs (by decide)⟩

end Automaton
