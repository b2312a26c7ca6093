import Automaton.Proofs.Graph.Places
import Automaton.Proofs.Graph.Runs
import Mathlib.Data.List.Dedup

/-!
# States in a row

A linear graph is meant to be a pipeline: its states stand in a row, and every edge leads from one
of them to the next (`Graph.Straight`).  What makes a graph linear is less, since it is only asked
whether edges run in circles and whether two of them leave one node.  Two states may well lead to
the same third one (`Graph.linear_not_straight_funnel`), and a graph may fall apart into several
rows.

What is missing can be read off the report about states that are never entered.  The main statement
here is

  `g.Straight s ↔ g.shape = .linear ∧ ∃ n, g.stats.entryOnly = [n]`

for the graph of any accepted table (`Graph.straight_iff_linear`).

## The argument

Nothing in it is about graphs of tables, so it is made for any list of pairs among some names
(`exists_row_iff`).  A row is found by going on from the one name that is never entered
(`exists_row_from`): without circles that comes to an end, and as no name is left twice there is
never a choice.  It meets every name because going *back* from any name also comes to an end, and
the end can only be the name that the row begins with.
-/

namespace Automaton

/-! ### Neighbours -/

/-- **Neighbours in a row**: each item with the one after it. -/
def neighbours {α : Type} (row : List α) : List (α × α) :=
  row.zip row.tail

section Neighbours

variable {α : Type}

@[simp]
theorem neighbours_singleton (a : α) : neighbours [a] = [] := rfl

@[simp]
theorem neighbours_cons_cons (a b : α) (row : List α) :
    neighbours (a :: b :: row) = (a, b) :: neighbours (b :: row) := rfl

/-- All items but the last have a neighbour. -/
theorem map_fst_neighbours (row : List α) : (neighbours row).map Prod.fst = row.dropLast := by
  match row with
  | [] => rfl
  | [a] => rfl
  | a :: b :: row =>
    rw [neighbours_cons_cons, List.map_cons, map_fst_neighbours (b :: row), List.dropLast_cons_cons]

/-- All items but the first are a neighbour. -/
theorem map_snd_neighbours (row : List α) : (neighbours row).map Prod.snd = row.tail := by
  unfold neighbours
  apply List.map_snd_zip
  rw [List.length_tail]
  exact Nat.sub_le _ _

/-- Neighbours stand side by side. -/
theorem getElem?_of_mem_neighbours {row : List α} {a b : α} (h : (a, b) ∈ neighbours row) :
    ∃ i, row[i]? = some a ∧ row[i + 1]? = some b := by
  obtain ⟨i, hi⟩ := List.mem_iff_getElem?.mp h
  obtain ⟨ha, hb⟩ := List.getElem?_zip_eq_some.mp hi
  rw [List.getElem?_tail] at hb
  exact ⟨i, ha, hb⟩

/-- Neighbours are in the row. -/
theorem mem_of_mem_neighbours {row : List α} {a b : α} (h : (a, b) ∈ neighbours row) :
    a ∈ row ∧ b ∈ row := by
  obtain ⟨i, ha, hb⟩ := getElem?_of_mem_neighbours h
  exact ⟨List.mem_of_getElem? ha, List.mem_of_getElem? hb⟩

/-- Neighbours differ from pair to pair if the row has no repetitions. -/
theorem nodup_neighbours {row : List α} (h : row.Nodup) : (neighbours row).Nodup := by
  apply List.Nodup.of_map Prod.fst
  rw [map_fst_neighbours]
  exact h.sublist (List.dropLast_sublist row)

/-- **From neighbour to neighbour**, the place in the row increases. -/
theorem idxOf_lt_of_mem_neighbours [DecidableEq α] {row : List α} (hnodup : row.Nodup) {a b : α}
    (h : (a, b) ∈ neighbours row) : row.idxOf a < row.idxOf b := by
  have hplace : ∀ {i : Nat} {x : α}, row[i]? = some x → row.idxOf x = i := by
    intro i x hx
    obtain ⟨hi, rfl⟩ := List.getElem?_eq_some_iff.mp hx
    exact hnodup.idxOf_getElem i hi
  obtain ⟨i, ha, hb⟩ := getElem?_of_mem_neighbours h
  calc row.idxOf a = i := hplace ha
    _ < i + 1 := Nat.lt_succ_self i
    _ = row.idxOf b := (hplace hb).symm

end Neighbours

/-! ### Rows -/

section Rows

variable {α : Type} {moves : List (α × α)}

/-- **The row from a name on**: as long as there is a way to go on, there is only one, and it never
leads back. -/
theorem exists_row_from (hstarts : (moves.map Prod.fst).Nodup)
    (hacyclic : ∀ a, ¬ Relation.TransGen (fun a b => (a, b) ∈ moves) a a) (a : α) :
    ∃ rest, (a :: rest).Nodup ∧ (∀ x ∈ rest, Relation.TransGen (fun a b => (a, b) ∈ moves) a x) ∧
      ∀ x y, (x, y) ∈ neighbours (a :: rest) ↔ x ∈ a :: rest ∧ (x, y) ∈ moves := by
  have hwf : WellFounded (flip fun a b => (a, b) ∈ moves) := by
    refine wellFounded_of_no_circle (List.finite_toSet (moves.map Prod.snd)) ?_
      (no_circle_flip hacyclic)
    intro b a hmove
    exact List.mem_map.mpr ⟨_, hmove, rfl⟩
  -- a name is left by one move at most
  have hunique : ∀ {x y z : α}, (x, y) ∈ moves → (x, z) ∈ moves → y = z := by
    intro x y z hy hz
    exact (Prod.mk.inj (List.inj_on_of_nodup_map hstarts hy hz rfl)).2
  -- the induction goes forward: the names to which moves lead have their rows already
  induction a using hwf.induction with
  | _ a ih =>
    by_cases hnext : ∃ b, (a, b) ∈ moves
    · obtain ⟨b, hmove⟩ := hnext
      obtain ⟨rest, hnodup, hreach, hneighbours⟩ := ih b hmove
      have hreach' : ∀ x ∈ b :: rest, Relation.TransGen (fun a b => (a, b) ∈ moves) a x := by
        intro x hx
        rcases List.mem_cons.mp hx with rfl | hx
        · exact .single hmove
        · exact .head hmove (hreach x hx)
      refine ⟨b :: rest, ?_, hreach', ?_⟩
      · -- if the row came back to its first name, there would be a circle
        refine List.nodup_cons.mpr ⟨fun hmem => ?_, hnodup⟩
        exact hacyclic a (hreach' a hmem)
      · intro x y
        rw [neighbours_cons_cons, List.mem_cons, hneighbours, Prod.mk.injEq, List.mem_cons (b := a)]
        refine ⟨?_, ?_⟩
        · rintro (⟨rfl, rfl⟩ | ⟨hx, hxy⟩)
          · exact ⟨.inl rfl, hmove⟩
          · exact ⟨.inr hx, hxy⟩
        · rintro ⟨rfl | hx, hxy⟩
          · exact .inl ⟨rfl, hunique hxy hmove⟩
          · exact .inr ⟨hx, hxy⟩
    · refine ⟨[], List.nodup_singleton a, fun x hx => absurd hx List.not_mem_nil, ?_⟩
      intro x y
      rw [neighbours_singleton]
      refine iff_of_false List.not_mem_nil ?_
      rintro ⟨hx, hxy⟩
      rw [List.mem_singleton.mp hx] at hxy
      exact hnext ⟨y, hxy⟩

variable {names : List α} (hnodup : names.Nodup)
  (hends : ∀ a b, (a, b) ∈ moves → a ∈ names ∧ b ∈ names)
include hnodup hends

/-- **Names can be put in a row** if no name is left twice, there are no circles, and only one name
is never entered. -/
theorem exists_row (hstarts : (moves.map Prod.fst).Nodup)
    (hacyclic : ∀ a, ¬ Relation.TransGen (fun a b => (a, b) ∈ moves) a a) {first : α}
    (hfirst : first ∈ names) (hgoals : ∀ n ∈ names, n ∉ moves.map Prod.snd → n = first) :
    ∃ row, row.Perm names ∧ moves.Perm (neighbours row) := by
  obtain ⟨rest, hrow, hreach, hneighbours⟩ := exists_row_from hstarts hacyclic first
  have hwf : WellFounded fun a b => (a, b) ∈ moves := by
    refine wellFounded_of_no_circle (List.finite_toSet (moves.map Prod.fst)) ?_ hacyclic
    intro a b hmove
    exact List.mem_map.mpr ⟨_, hmove, rfl⟩
  -- the induction goes back: a name is either the first one, or a move leads there from the row
  have hmeets : ∀ n ∈ names, n ∈ first :: rest := by
    intro n hn
    induction n using hwf.induction with
    | _ n ih =>
      by_cases hgoal : n ∈ moves.map Prod.snd
      · obtain ⟨⟨m, n⟩, hmove, rfl⟩ := List.mem_map.mp hgoal
        have hm : m ∈ first :: rest := ih m hmove (hends m n hmove).1
        exact (mem_of_mem_neighbours ((hneighbours m n).mpr ⟨hm, hmove⟩)).2
      · rw [hgoals n hn hgoal]
        exact List.mem_cons_self
  have hstays : ∀ n ∈ first :: rest, n ∈ names := by
    intro n hn
    rcases List.mem_cons.mp hn with rfl | hn
    · exact hfirst
    · obtain ⟨m, -, hmove⟩ := Relation.TransGen.tail'_iff.mp (hreach n hn)
      exact (hends m n hmove).2
  refine ⟨first :: rest, ?_, ?_⟩
  · exact (List.perm_ext_iff_of_nodup hrow hnodup).mpr fun n => ⟨hstays n, hmeets n⟩
  · refine (List.perm_ext_iff_of_nodup (.of_map _ hstarts) (nodup_neighbours hrow)).mpr ?_
    rintro ⟨a, b⟩
    rw [hneighbours]
    exact (and_iff_right_of_imp fun hmove => hmeets a (hends a b hmove).1).symm

omit hnodup hends in
/-- **In a row**, moves do not run in circles. -/
theorem no_circle_of_row [DecidableEq α] {row : List α} (hrow : row.Nodup)
    (hmoves : moves.Perm (neighbours row)) (a : α) :
    ¬ Relation.TransGen (fun a b => (a, b) ∈ moves) a a := by
  intro hcircle
  have hlt : Relation.TransGen (· < ·) (row.idxOf a) (row.idxOf a) :=
    hcircle.lift (row.idxOf ·) fun x y hmove =>
      idxOf_lt_of_mem_neighbours hrow (hmoves.mem_iff.mp hmove)
  rw [Relation.transGen_eq_self] at hlt
  exact lt_irrefl _ hlt

/-- **What puts names in a row**: no name is left twice, there are no circles, and exactly one name
is never entered. -/
theorem exists_row_iff [DecidableEq α] (hne : names ≠ []) :
    (∃ row, row.Perm names ∧ moves.Perm (neighbours row)) ↔
      (moves.map Prod.fst).Nodup ∧
        (∀ a, ¬ Relation.TransGen (fun a b => (a, b) ∈ moves) a a) ∧
        ∃ first ∈ names, ∀ n ∈ names, n ∉ moves.map Prod.snd ↔ n = first := by
  refine ⟨?_, ?_⟩
  · rintro ⟨row, hperm, hmoves⟩
    have hrow : row.Nodup := hperm.nodup_iff.mpr hnodup
    refine ⟨?_, no_circle_of_row hrow hmoves, ?_⟩
    · -- only neighbours are left, and all of them differ
      rw [(hmoves.map Prod.fst).nodup_iff, map_fst_neighbours]
      exact hrow.sublist (List.dropLast_sublist row)
    · obtain ⟨first, rest, rfl⟩ : ∃ first rest, row = first :: rest := by
        apply List.exists_cons_of_ne_nil
        rintro rfl
        exact hne (List.nil_perm.mp hperm)
      refine ⟨first, hperm.mem_iff.mp List.mem_cons_self, fun n hn => ?_⟩
      rw [(hmoves.map Prod.snd).mem_iff, map_snd_neighbours, List.tail_cons]
      obtain ⟨hfirst, -⟩ := List.nodup_cons.mp hrow
      refine ⟨fun hrest => ?_, ?_⟩
      · exact (List.mem_cons.mp (hperm.mem_iff.mpr hn)).resolve_right hrest
      · rintro rfl
        exact hfirst
  · rintro ⟨hstarts, hacyclic, first, hfirst, hgoals⟩
    exact exists_row hnodup hends hstarts hacyclic hfirst fun n hn => (hgoals n hn).mp

end Rows

/-! ### Straight graphs -/

/-- **A straight graph**: the states can be put in a row, without repetitions, so that there is
exactly one edge from each of them to the next, and no other edge. -/
def Graph.Straight (g : Graph) (s : States) : Prop :=
  ∃ row : List String, row.Perm s.names ∧
    (g.edges.map fun x => (g.nameOf? x.source, g.nameOf? x.target)).Perm
      ((neighbours row).map fun p => (some p.1, some p.2))

namespace Graph

variable {t : Table} {s : States}

/-- Picking from a list without repetitions leaves one item exactly if only that one is meant. -/
theorem filter_eq_singleton_iff {α : Type} {as : List α} (h : as.Nodup) {p : α → Bool} {a : α} :
    as.filter p = [a] ↔ a ∈ as ∧ ∀ b ∈ as, p b = true ↔ b = a := by
  refine ⟨fun heq => ?_, ?_⟩
  · -- members of the list are what the condition picks, and that is one item
    have hmem : ∀ b, b ∈ as ∧ p b = true ↔ b = a := by
      intro b
      rw [← List.mem_filter, heq, List.mem_singleton]
    refine ⟨((hmem a).mpr rfl).1, fun b hb => ?_⟩
    rw [← hmem b, and_iff_right hb]
  · rintro ⟨ha, hp⟩
    refine List.perm_singleton.mp ?_
    refine (List.perm_ext_iff_of_nodup (h.filter p) (List.nodup_singleton a)).mpr fun b => ?_
    rw [List.mem_filter, List.mem_singleton]
    refine ⟨fun hb => (hp b hb.1).mp hb.2, ?_⟩
    rintro rfl
    exact ⟨ha, (hp b ha).mpr rfl⟩

section Known

variable (hknown : ∀ n ∈ t.references, n ∈ s.names)
include hknown

/-- A graph is straight if the moves of its table are steps in a row. -/
theorem straight_direct_iff : (direct t s).Straight s ↔
    ∃ row : List String, row.Perm s.names ∧ t.moves.Perm (neighbours row) := by
  have hinjective : Function.Injective fun p : String × String => (some p.1, some p.2) := by
    rintro ⟨a, b⟩ ⟨c, d⟩ heq
    obtain ⟨hfst, hsnd⟩ := Prod.mk.inj heq
    exact Prod.ext (Option.some.inj hfst) (Option.some.inj hsnd)
  unfold Straight
  rw [ends_direct hknown]
  exact exists_congr fun row => and_congr_right fun _ => List.map_perm_map_iff hinjective

/-- At most one edge leaves each node exactly if no move begins where another one does. -/
theorem maxOutDegree_le_one_iff :
    (direct t s).maxOutDegree ≤ 1 ↔ (t.moves.map Prod.fst).Nodup := by
  rw [maxOutDegree_le_iff, List.nodup_iff_count_le_one]
  refine ⟨fun hle n => ?_, fun hle i hi => ?_⟩
  · by_cases hn : n ∈ s.names
    · obtain ⟨i, hi⟩ := List.mem_iff_getElem?.mp hn
      rw [← length_leaving hknown hi]
      apply hle
      rw [length_nodes_direct]
      exact (List.getElem?_eq_some_iff.mp hi).1
    · -- no move begins outside the states
      have hnone : n ∉ t.moves.map Prod.fst := by
        intro hmem
        obtain ⟨⟨n, b⟩, hmove, rfl⟩ := List.mem_map.mp hmem
        exact hn (hknown n (Table.mem_references_of_mem_moves hmove).1)
      rw [List.count_eq_zero.mpr hnone]
      exact Nat.zero_le 1
  · rw [length_nodes_direct] at hi
    rw [length_leaving hknown (List.getElem?_eq_getElem hi)]
    exact hle _

/-- The graph does not run in circles if the moves of its table do not. -/
theorem hasCycles_direct_eq_false_iff : (direct t s).hasCycles = false ↔
    ∀ n, ¬ Relation.TransGen (fun a b => (a, b) ∈ t.moves) n n := by
  rw [← Bool.not_eq_true, hasCycles_direct_iff hknown, not_exists]
  rfl

/-- **A straight graph** is linear, and has exactly one state that is never entered. -/
theorem straight_direct_iff_linear : (direct t s).Straight s ↔
    (direct t s).shape = .linear ∧ ∃ n, (direct t s).stats.entryOnly = [n] := by
  -- all moves lead from states to states
  have hends : ∀ a b, (a, b) ∈ t.moves → a ∈ s.names ∧ b ∈ s.names := by
    intro a b hmove
    obtain ⟨ha, hb⟩ := Table.mem_references_of_mem_moves hmove
    exact ⟨hknown a ha, hknown b hb⟩
  -- that one name is never entered can be said of the moves alone
  have hentry : (∃ n, (direct t s).stats.entryOnly = [n]) ↔
      ∃ first ∈ s.names, ∀ n ∈ s.names, n ∉ t.moves.map Prod.snd ↔ n = first := by
    rw [entryOnly_stats_direct hknown]
    simp only [filter_eq_singleton_iff s.nodup, decide_eq_true_eq]
  calc (direct t s).Straight s
      ↔ ∃ row : List String, row.Perm s.names ∧ t.moves.Perm (neighbours row) :=
        straight_direct_iff hknown
    _ ↔ (t.moves.map Prod.fst).Nodup ∧
          (∀ n, ¬ Relation.TransGen (fun a b => (a, b) ∈ t.moves) n n) ∧
          ∃ first ∈ s.names, ∀ n ∈ s.names, n ∉ t.moves.map Prod.snd ↔ n = first :=
        exists_row_iff s.nodup hends s.inhabited
    _ ↔ (direct t s).maxOutDegree ≤ 1 ∧ (direct t s).hasCycles = false ∧
          ∃ n, (direct t s).stats.entryOnly = [n] := by
        rw [maxOutDegree_le_one_iff hknown, hasCycles_direct_eq_false_iff hknown, hentry]
    _ ↔ (direct t s).shape = .linear ∧ ∃ n, (direct t s).stats.entryOnly = [n] := by
        rw [shape_eq_linear_iff length_nodes_direct_pos, and_left_comm, and_assoc]

end Known

/-- **What straight graphs are**: the graph of an accepted table is straight exactly if its shape is
linear and exactly one state is reported as never entered. -/
theorem straight_iff_linear (t : Table) (h : t.validate = .ok ()) :
    ∃ s g, States.ofTable t = some s ∧ Graph.ofTable t = .ok g ∧
      (g.Straight s ↔ g.shape = .linear ∧ ∃ n, g.stats.entryOnly = [n]) := by
  have hwf := Table.validate_eq_ok_iff_wellFormed.mp h
  obtain ⟨s, hs⟩ := Blueprint.exists_states hwf
  exact ⟨s, _, hs, ofTable_eq_ok hs, straight_direct_iff_linear (known hs)⟩

end Graph

/-- A table of two states that lead to the same third one. -/
def Table.funnel : Table where
  name := "Funnel"
  imports := []
  packageName := "flows"
  logging := false
  events := Catalog.ofList [("join", ⟨["left", "right"], "out", []⟩)]

/-- The states of the funnel. -/
def Table.funnelStates : States :=
  ⟨["left", "out", "right"], by decide, by decide⟩

namespace Graph

/-- The funnel is accepted, and what is said about its graph is about both of its ways in. -/
theorem straight_iff_linear_funnel :
    Table.funnel.validate = .ok () ∧ ∃ s g, States.ofTable Table.funnel = some s ∧
      Graph.ofTable Table.funnel = .ok g ∧
      (g.Straight s ↔ g.shape = .linear ∧ ∃ n, g.stats.entryOnly = [n]) :=
  ⟨by decide, straight_iff_linear Table.funnel (by decide)⟩

/-- **Linear graphs need not be straight**: the graph of the funnel is linear, but there are two
states that are never entered. -/
theorem linear_not_straight_funnel :
    Table.funnel.validate = .ok () ∧ ∃ s g, States.ofTable Table.funnel = some s ∧
      Graph.ofTable Table.funnel = .ok g ∧ g.shape = .linear ∧ ¬ g.Straight s := by
  have hs : States.ofTable Table.funnel = some Table.funnelStates := by decide
  have hknown := known hs
  have hlinear : (direct Table.funnel Table.funnelStates).shape = .linear := by
    rw [shape_eq_linear_iff length_nodes_direct_pos, maxOutDegree_le_one_iff hknown,
      hasCycles_direct_eq_false_iff hknown]
    refine ⟨fun n hcircle => ?_, by decide⟩
    -- a circle meets a state that is both left and entered
    obtain ⟨_, hleft, -⟩ := Relation.TransGen.head'_iff.mp hcircle
    obtain ⟨_, -, hentered⟩ := Relation.TransGen.tail'_iff.mp hcircle
    have happart : ∀ p ∈ Table.funnel.moves, ∀ q ∈ Table.funnel.moves, p.1 ≠ q.2 := by decide
    exact happart _ hleft _ hentered rfl
  refine ⟨by decide, _, _, hs, ofTable_eq_ok hs, hlinear, ?_⟩
  rw [straight_direct_iff_linear hknown, entryOnly_stats_direct hknown]
  rintro ⟨-, n, hn⟩
  have htwo : ["left", "right"] = [n] := hn
  exact List.cons_ne_nil _ _ (List.cons.inj htwo).2

end Graph

end Automaton
