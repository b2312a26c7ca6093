import Automaton.Graph.Shape
import Mathlib.Data.Nat.SuccPred
import Mathlib.Data.Set.Finite.Basic
import Mathlib.Order.Preorder.Finite
import Mathlib.Order.SuccPred.Relation

/-!
# Circles

A graph runs in circles if edges lead from some node back to it.  `Graph.hasCycles` never looks for
the way back.  It gives up the edges behind which nothing is left to follow, again and again, and
asks in the end whether any edge is left.  That this is the same question is
`Graph.hasCycles_iff`, for every graph and not only for those of tables.

* **Nothing is lost.**  Behind an edge on a circle comes the next one, so no round gives it up
  (`Graph.mem_prunedTimes`).
* **What is left goes on.**  There are as many rounds as edges, so in the end no edge is given up
  any more (`Graph.pruned_endless`), and behind every edge there is another one.  But edges enter
  finitely many nodes only, and without circles one would get to an end
  (`wellFounded_of_no_circle`).
-/

namespace Automaton

/-- **Without circles there is no way back forever**, if steps begin in finitely many places only:
going back forever, one would have to come to some place twice. -/
theorem wellFounded_of_no_circle {α : Type} {r : α → α → Prop} {places : Set α}
    (hfinite : places.Finite) (hplaces : ∀ a b, r a b → a ∈ places)
    (h : ∀ a, ¬ Relation.TransGen r a a) : WellFounded r := by
  rw [wellFounded_iff_isEmpty_descending_chain]
  refine ⟨fun ⟨f, hf⟩ => ?_⟩
  -- a descending chain through finitely many places comes by one of them twice
  obtain ⟨i, j, hij, heq⟩ : ∃ i j : Nat, i < j ∧ f (i + 1) = f (j + 1) :=
    Set.Finite.exists_lt_map_eq_of_forall_mem (fun n => hplaces _ _ (hf n)) hfinite
  have hback : Relation.TransGen (fun m n => r (f m) (f n)) (j + 1) (i + 1) := by
    refine transGen_of_succ_of_gt _ (fun n _ => hf n) ?_
    exact Nat.succ_lt_succ hij
  have hcircle : Relation.TransGen r (f (j + 1)) (f (i + 1)) := hback.lift f fun _ _ hstep => hstep
  rw [heq] at hcircle
  exact h _ hcircle

/-- Turning all steps around makes no circles. -/
theorem no_circle_flip {α : Type} {r : α → α → Prop} (h : ∀ a, ¬ Relation.TransGen r a a) (a : α) :
    ¬ Relation.TransGen (flip r) a a := by
  intro hcircle
  exact h a (Relation.transGen_swap.mp hcircle)

namespace Graph

/-- **An edge leads** from node to node. -/
def Follows (es : List Edge) (a b : Nat) : Prop :=
  ∃ x ∈ es, x.source = a ∧ x.target = b

/-! ### Rounds -/

theorem mem_of_mem_pruned {es : List Edge} {x : Edge} (h : x ∈ pruned es) : x ∈ es :=
  (mem_pruned.mp h).1

/-- A round that gives up no edge changes nothing. -/
theorem pruned_eq_self {es : List Edge} (h : (pruned es).length = es.length) : pruned es = es :=
  List.filter_sublist.eq_of_length h

/-- Rounds give edges up, and never add any. -/
theorem mem_of_mem_prunedTimes {n : Nat} {es : List Edge} {x : Edge} (h : x ∈ prunedTimes n es) :
    x ∈ es := by
  induction n generalizing es with
  | zero => exact h
  | succ n ih =>
    rw [prunedTimes] at h
    split at h
    · exact h
    · exact mem_of_mem_pruned (ih h)

/-- **In the end no edge is given up**: as long as some are, there is one less for each round. -/
theorem pruned_prunedTimes {n : Nat} {es : List Edge} (h : es.length ≤ n) :
    pruned (prunedTimes n es) = prunedTimes n es := by
  induction n generalizing es with
  | zero =>
    obtain rfl : es = [] := List.length_eq_zero_iff.mp (Nat.le_zero.mp h)
    rfl
  | succ n ih =>
    rw [prunedTimes]
    split
    · next heq => exact pruned_eq_self heq
    · next hne =>
      -- pruning either changes nothing or leaves fewer edges
      have hle : (pruned es).length ≤ es.length := List.length_filter_le _ es
      refine ih ?_
      omega

/-- **Nothing is lost**: an edge is never given up if it is one of those that always have another
one of their kind behind them. -/
theorem mem_prunedTimes {n : Nat} {es : List Edge} {kept : Edge → Prop}
    (h : ∀ x ∈ es, kept x → ∃ y ∈ es, kept y ∧ y.source = x.target) {x : Edge} (hx : x ∈ es)
    (hkept : kept x) : x ∈ prunedTimes n es := by
  induction n generalizing es with
  | zero => exact hx
  | succ n ih =>
    have hround : ∀ x ∈ es, kept x → x ∈ pruned es := by
      intro x hx hkept
      obtain ⟨y, hy, -, hsource⟩ := h x hx hkept
      exact mem_pruned.mpr ⟨hx, y, hy, hsource⟩
    rw [prunedTimes]
    split
    · exact hx
    · refine ih ?_ (hround x hx hkept)
      -- the edge behind is kept as well, so it is there after the round, too
      intro x hx hkept
      obtain ⟨y, hy, hykept, hsource⟩ := h x (mem_of_mem_pruned hx) hkept
      exact ⟨y, hround y hy hykept, hykept, hsource⟩

/-- The edges that are left have another one behind them. -/
theorem pruned_endless (g : Graph) : pruned g.endless = g.endless :=
  pruned_prunedTimes le_rfl

/-! ### Circles -/

/-- **An edge lies on a circle** if edges lead from where it ends to where it begins. -/
def OnCircle (es : List Edge) (x : Edge) : Prop :=
  Relation.ReflTransGen (Follows es) x.target x.source

/-- Behind an edge on a circle comes another one. -/
theorem OnCircle.exists_next {es : List Edge} {x : Edge} (hx : x ∈ es) (h : OnCircle es x) :
    ∃ y ∈ es, OnCircle es y ∧ y.source = x.target := by
  rcases Relation.ReflTransGen.cases_head h with heq | ⟨b, ⟨y, hy, hsource, htarget⟩, hrest⟩
  · -- the edge leads from a node to itself
    exact ⟨x, hx, h, heq.symm⟩
  · refine ⟨y, hy, ?_, hsource⟩
    rw [OnCircle, hsource, htarget]
    exact hrest.tail ⟨x, hx, rfl, rfl⟩

/-- **A graph runs in circles** exactly if edges lead from some node back to it. -/
theorem hasCycles_iff {g : Graph} :
    g.hasCycles = true ↔ ∃ a, Relation.TransGen (Follows g.edges) a a := by
  rw [hasCycles, Bool.not_eq_true', List.isEmpty_eq_false_iff]
  refine ⟨?_, ?_⟩
  · intro hleft
    by_contra hnone
    have hacyclic : ∀ a, ¬ Relation.TransGen (Follows g.edges) a a := not_exists.mp hnone
    have hwf : WellFounded (flip (Follows g.edges)) := by
      refine wellFounded_of_no_circle (List.finite_toSet (g.edges.map Edge.target)) ?_
        (no_circle_flip hacyclic)
      rintro b a ⟨x, hx, -, rfl⟩
      exact List.mem_map.mpr ⟨x, hx, rfl⟩
    -- one of the edges that are left comes last, but there is another one behind it
    obtain ⟨x, hx⟩ := List.exists_mem_of_ne_nil _ hleft
    obtain ⟨a, ⟨y, hy, rfl⟩, hlast⟩ :=
      hwf.has_min {a | ∃ y ∈ g.endless, y.source = a} ⟨_, x, hx, rfl⟩
    obtain ⟨-, z, hz, hsource⟩ : y ∈ g.endless ∧ ∃ z ∈ g.endless, z.source = y.target := by
      rw [← pruned_endless] at hy
      exact mem_pruned.mp hy
    exact hlast y.target ⟨z, hz, hsource⟩ ⟨y, mem_of_mem_prunedTimes hy, rfl, rfl⟩
  · rintro ⟨a, hcircle⟩
    obtain ⟨b, ⟨x, hx, rfl, rfl⟩, hback⟩ := Relation.TransGen.head'_iff.mp hcircle
    have hleft : x ∈ g.endless :=
      mem_prunedTimes (fun y hy hcircle => OnCircle.exists_next hy hcircle) hx hback
    exact List.ne_nil_of_mem hleft

end Graph

end Automaton
