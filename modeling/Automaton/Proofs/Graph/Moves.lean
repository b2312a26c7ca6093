import Automaton.Proofs.Blueprint.Simulation
import Automaton.Proofs.Graph.Agreement

/-!
# The moves of a table

What a graph draws is how events lead from state to state.  The *moves* of a table say the same
without numbers: a pair of names for each event and each of its sources (`Table.moves`).

* A call that is accepted makes a move, and for every move there is a call that makes it
  (`Table.exists_call_iff`).
* Edges of a graph, read by the names of their ends, are the moves of its table, one by one
  (`Graph.ends_direct`).  So whatever is counted at a node can be counted at the name of its state:
  `Graph.length_leaving` and `Graph.length_entering` count the edges on either side of a node.
-/

namespace Automaton

/-- **The moves of a table**: from where to where its events lead, once for each event and each of
its sources. -/
def Table.moves (t : Table) : List (String × String) :=
  t.events.entries.flatMap fun entry =>
    entry.2.sources.eraseDups.map fun source => (source, entry.2.destination)

namespace Table

variable {t : Table}

theorem mem_moves {a b : String} : (a, b) ∈ t.moves ↔
    ∃ name e, (name, e) ∈ t.events.entries ∧ a ∈ e.sources ∧ e.destination = b := by
  simp only [moves, List.mem_flatMap, List.mem_map, List.mem_eraseDups, Prod.exists,
    Prod.mk.injEq]
  refine ⟨?_, ?_⟩
  · rintro ⟨name, e, hentry, source, hsource, rfl, rfl⟩
    exact ⟨name, e, hentry, hsource, rfl⟩
  · rintro ⟨name, e, hentry, hsource, rfl⟩
    exact ⟨name, e, hentry, a, hsource, rfl, rfl⟩

/-! ### Moves and calls -/

/-- **A call is accepted** in the sources of its event, and leads to the destination. -/
theorem call_eq_some_iff {n event : String} {r : Option String × Nat} :
    (Machine.ofTable t).call (some n) event = some r ↔
      ∃ e, (event, e) ∈ t.events.entries ∧ n ∈ e.sources ∧
        r = (some e.destination, t.events.names.idxOf event) := by
  simp only [Machine.ofTable, Option.bind_eq_bind, Option.bind_some, Option.bind_eq_some_iff,
    Catalog.get?_eq_some_iff]
  refine exists_congr fun e => and_congr_right fun _ => ?_
  -- an event that is there still fails from a state that is not among its sources
  by_cases hsource : n ∈ e.sources
  · rw [if_pos hsource, Option.some.injEq, and_iff_right hsource, eq_comm]
  · rw [if_neg hsource]
    exact iff_of_false (Option.some_ne_none r).symm fun hand => hsource hand.1

/-- **Moves are made by calls** that are accepted. -/
theorem exists_call_iff {a b : String} :
    (∃ event ordinal, (Machine.ofTable t).call (some a) event = some (some b, ordinal)) ↔
      (a, b) ∈ t.moves := by
  simp only [call_eq_some_iff, mem_moves, Prod.mk.injEq, Option.some.injEq]
  refine ⟨?_, ?_⟩
  · rintro ⟨event, ordinal, e, hentry, ha, rfl, -⟩
    exact ⟨event, e, hentry, ha, rfl⟩
  · rintro ⟨event, e, hentry, ha, rfl⟩
    exact ⟨event, _, e, hentry, ha, rfl, rfl⟩

/-! ### Ends of moves -/

/-- A move begins where some event has a source. -/
theorem mem_starts {n : String} :
    n ∈ t.moves.map Prod.fst ↔ ∃ name e, (name, e) ∈ t.events.entries ∧ n ∈ e.sources := by
  simp only [List.mem_map, Prod.exists, exists_and_right, exists_eq_right, mem_moves]
  refine ⟨?_, ?_⟩
  · rintro ⟨b, name, e, hentry, hsource, -⟩
    exact ⟨name, e, hentry, hsource⟩
  · rintro ⟨name, e, hentry, hsource⟩
    exact ⟨e.destination, name, e, hentry, hsource, rfl⟩

/-- A move ends where some event leads, provided that all events have sources. -/
theorem mem_goals (h : t.WellFormed) {n : String} :
    n ∈ t.moves.map Prod.snd ↔ ∃ name e, (name, e) ∈ t.events.entries ∧ e.destination = n := by
  simp only [List.mem_map, Prod.exists, exists_eq_right, mem_moves]
  refine ⟨?_, ?_⟩
  · rintro ⟨a, name, e, hentry, -, hdest⟩
    exact ⟨name, e, hentry, hdest⟩
  · rintro ⟨name, e, hentry, hdest⟩
    obtain ⟨a, ha⟩ := List.exists_mem_of_ne_nil _ (h.events_wellFormed _ hentry).sources_ne_nil
    exact ⟨a, name, e, hentry, ha, hdest⟩

/-- Moves lead from states to states. -/
theorem mem_references_of_mem_moves {a b : String} (hmove : (a, b) ∈ t.moves) :
    a ∈ t.references ∧ b ∈ t.references := by
  obtain ⟨name, e, hentry, ha, rfl⟩ := mem_moves.mp hmove
  refine ⟨?_, ?_⟩
  · exact mem_references.mpr ⟨name, e, hentry, .inl ha⟩
  · exact mem_references.mpr ⟨name, e, hentry, .inr rfl⟩

/-- **A state is at an end of some move**, for it is a state only because some event refers to
it. -/
theorem mem_starts_or_mem_goals (h : t.WellFormed) {n : String} (hn : n ∈ t.references) :
    n ∈ t.moves.map Prod.fst ∨ n ∈ t.moves.map Prod.snd := by
  obtain ⟨name, e, hentry, hsource | rfl⟩ := mem_references.mp hn
  · exact .inl (mem_starts.mpr ⟨name, e, hentry, hsource⟩)
  · exact .inr ((mem_goals h).mpr ⟨name, e, hentry, rfl⟩)

end Table

namespace Graph

variable {t : Table} {s : States}

/-- There are nodes, as there are states. -/
theorem length_nodes_direct_pos : 0 < (direct t s).nodes.length := by
  rw [length_nodes_direct]
  exact List.length_pos_of_ne_nil s.inhabited

/-! ### Edges by name -/

theorem nameOf?_direct (i : Nat) : (direct t s).nameOf? i = s.names[i]? := by
  rw [direct, nameOf?_placed, nameOf?, ← List.getElem?_map, names_nodesOf]

/-- Different nodes have different names. -/
theorem nameOf?_eq_some_iff {i j : Nat} {n : String} (hn : s.names[i]? = some n) :
    (direct t s).nameOf? j = some n ↔ j = i := by
  rw [nameOf?_direct]
  refine ⟨?_, ?_⟩
  · intro hj
    obtain ⟨hlt, -⟩ := List.getElem?_eq_some_iff.mp hj
    exact (List.getElem?_inj hlt s.nodup).mp (hj.trans hn.symm)
  · rintro rfl
    exact hn

section Known

variable (hknown : ∀ n ∈ t.references, n ∈ s.names)
include hknown

/-- **The edges of a graph**, by the names of their ends, are the moves of the table. -/
theorem ends_direct :
    ((direct t s).edges.map fun x =>
        ((direct t s).nameOf? x.source, (direct t s).nameOf? x.target)) =
      t.moves.map fun m => (some m.1, some m.2) := by
  have hmoves : t.moves = t.numberedEvents.flatMap fun x =>
      x.2.2.sources.eraseDups.map fun source => (source, x.2.2.destination) := by
    rw [Table.moves, ← t.entries_numberedEvents, List.flatMap_map]
  -- both lists are made event by event, and source by source
  rw [hmoves, direct, edges_placed, ← direct, List.map_flatMap, List.map_flatMap]
  refine List.flatMap_congr ?_
  rintro ⟨i, name, e⟩ hx
  rw [edgesOf, List.map_map, List.map_map]
  refine List.map_congr_left fun source hsource => ?_
  have hmem : source ∈ s.names := hknown _ <| Table.mem_references_of_numberedEvents hx
    (List.mem_append_left _ (List.mem_eraseDups.mp hsource))
  have hdest : e.destination ∈ s.names := hknown _ <| Table.mem_references_of_numberedEvents hx
    (List.mem_append_right _ (List.mem_singleton.mpr rfl))
  exact Prod.ext (nameOf?_ordinal hmem) (nameOf?_ordinal hdest)

/-! ### Edges at a node -/

omit hknown in
/-- **Counting at a node**: the edges with one end there are as many as the moves with that end at
its state. -/
theorem countP_end {side : Edge → Nat} {pick : String × String → String}
    (hends : ((direct t s).edges.map fun x => (direct t s).nameOf? (side x)) =
      t.moves.map fun m => some (pick m))
    {i : Nat} {n : String} (hn : s.names[i]? = some n) :
    (direct t s).edges.countP (side · == i) = (t.moves.map pick).count n := by
  -- edges are numbers and moves are names, and a name stands for one number
  calc (direct t s).edges.countP (side · == i)
      = ((direct t s).edges.map fun x => (direct t s).nameOf? (side x)).countP (· == some n) := by
        rw [List.countP_map]
        refine List.countP_congr fun x _ => ?_
        rw [Function.comp_apply, beq_iff_eq, beq_iff_eq, nameOf?_eq_some_iff hn]
    _ = (t.moves.map fun m => some (pick m)).countP (· == some n) := by rw [hends]
    _ = (t.moves.map pick).count n := by
        rw [List.count, List.countP_map, List.countP_map]
        exact List.countP_congr fun m _ => by simp

/-- **The edges that leave a node** are as many as the moves from its state. -/
theorem length_leaving {i : Nat} {n : String} (hn : s.names[i]? = some n) :
    ((direct t s).leaving i).length = (t.moves.map Prod.fst).count n := by
  have hends : ((direct t s).edges.map fun x => (direct t s).nameOf? x.source) =
      t.moves.map fun m => some m.1 := by
    simpa only [List.map_map, Function.comp_def] using
      congrArg (List.map Prod.fst) (ends_direct hknown)
  rw [leaving, List.filter_reverse, List.length_reverse, ← List.countP_eq_length_filter]
  exact countP_end hends hn

/-- **The edges that enter a node** are as many as the moves to its state. -/
theorem length_entering {i : Nat} {n : String} (hn : s.names[i]? = some n) :
    ((direct t s).entering i).length = (t.moves.map Prod.snd).count n := by
  have hends : ((direct t s).edges.map fun x => (direct t s).nameOf? x.target) =
      t.moves.map fun m => some m.2 := by
    simpa only [List.map_map, Function.comp_def] using
      congrArg (List.map Prod.snd) (ends_direct hknown)
  rw [entering, List.filter_reverse, List.length_reverse, ← List.countP_eq_length_filter]
  exact countP_end hends hn

/-- No edge leaves a node exactly if no move begins at its state. -/
theorem leaving_isEmpty_iff {i : Nat} {n : String} (hn : s.names[i]? = some n) :
    ((direct t s).leaving i).isEmpty = true ↔ n ∉ t.moves.map Prod.fst := by
  rw [List.isEmpty_iff, ← List.length_eq_zero_iff, length_leaving hknown hn, List.count_eq_zero]

/-- No edge enters a node exactly if no move ends at its state. -/
theorem entering_isEmpty_iff {i : Nat} {n : String} (hn : s.names[i]? = some n) :
    ((direct t s).entering i).isEmpty = true ↔ n ∉ t.moves.map Prod.snd := by
  rw [List.isEmpty_iff, ← List.length_eq_zero_iff, length_entering hknown hn, List.count_eq_zero]

end Known

end Graph

end Automaton
