/-!
# Lists in order, without repetitions

`ranked` puts the items of a list in order and then drops every item that is equal to the one before
it.  If the order tells different items apart, equal items come to stand side by side, and so each
item is left exactly once.

* `mem_ranked` says that no item gets lost and none is made up.
* `ranked_pairwise` says that the items increase strictly.
* `ranked_eq_of_mem_iff` says that this leaves only one list.
-/

namespace Automaton

/-- **The items of a list in order**, each once. -/
def ranked {α : Type} [DecidableEq α] (le : α → α → Bool) (items : List α) : List α :=
  (items.mergeSort le).eraseReps

section EraseReps

variable {α : Type} [DecidableEq α]

/-- What was put aside stays in front of what is still to come. -/
theorem eraseReps_loop_eq (a : α) (as acc : List α) :
    List.eraseRepsBy.loop (· == ·) a as acc =
      acc.reverse ++ List.eraseRepsBy.loop (· == ·) a as [] := by
  induction as generalizing a acc with
  | nil => simp [List.eraseRepsBy.loop]
  | cons b bs ih =>
    rw [List.eraseRepsBy.loop, List.eraseRepsBy.loop]
    cases a == b with
    | true => exact ih a acc
    | false => rw [ih b (a :: acc), ih b [a]]; simp

/-- Two items in front: the first one goes if it is repeated. -/
theorem eraseReps_cons_cons (a b : α) (as : List α) :
    (a :: b :: as).eraseReps =
      if a = b then (b :: as).eraseReps else a :: (b :: as).eraseReps := by
  simp only [List.eraseReps, List.eraseRepsBy, List.eraseRepsBy.loop]
  by_cases h : a = b
  · subst h; simp
  · have hne : (a == b) = false := by simpa using h
    rw [hne, if_neg h]
    exact eraseReps_loop_eq b as [a]

@[simp]
theorem mem_eraseReps {a : α} {as : List α} : a ∈ as.eraseReps ↔ a ∈ as := by
  match as with
  | [] => rfl
  | [b] => rfl
  | b :: c :: cs =>
    have ih : a ∈ (c :: cs).eraseReps ↔ a ∈ c :: cs := mem_eraseReps
    rw [eraseReps_cons_cons]
    split
    · next heq => subst heq; rw [ih]; simp
    · rw [List.mem_cons, ih, List.mem_cons (b := b)]

/-- A list in order has no repetitions left once those side by side are dropped. -/
theorem eraseReps_pairwise {le : α → α → Bool}
    (trans : ∀ a b c, le a b = true → le b c = true → le a c = true)
    (antisymm : ∀ a b, le a b = true → le b a = true → a = b) {as : List α}
    (h : as.Pairwise (le · · = true)) :
    as.eraseReps.Pairwise fun a b => le a b = true ∧ a ≠ b := by
  match as with
  | [] => exact .nil
  | [a] => exact List.pairwise_singleton _ a
  | a :: b :: bs =>
    obtain ⟨hhead, htail⟩ := List.pairwise_cons.mp h
    have ih := eraseReps_pairwise trans antisymm htail
    rw [eraseReps_cons_cons]
    split
    · exact ih
    · next hne =>
      refine List.pairwise_cons.mpr ⟨fun x hx => ?_, ih⟩
      have hax := hhead x (mem_eraseReps.mp hx)
      refine ⟨hax, fun heq => hne ?_⟩
      -- `a` would be below `b` and, being `x`, not before it either
      subst heq
      rcases List.mem_cons.mp (mem_eraseReps.mp hx) with heq | hmem
      · exact heq
      · exact antisymm a b (hhead b List.mem_cons_self) ((List.pairwise_cons.mp htail).1 a hmem)

end EraseReps

variable {α : Type} [DecidableEq α] {le : α → α → Bool}

/-- **Ranking** neither loses items nor makes any up. -/
@[simp]
theorem mem_ranked {a : α} {items : List α} : a ∈ ranked le items ↔ a ∈ items := by
  rw [ranked, mem_eraseReps, List.mem_mergeSort]

section Order

variable (trans : ∀ a b c, le a b = true → le b c = true → le a c = true)
  (total : ∀ a b, (le a b || le b a) = true)
  (antisymm : ∀ a b, le a b = true → le b a = true → a = b)
include trans total antisymm

/-- **Ranked items increase** strictly. -/
theorem ranked_pairwise (items : List α) :
    (ranked le items).Pairwise fun a b => le a b = true ∧ a ≠ b :=
  eraseReps_pairwise trans antisymm (List.pairwise_mergeSort trans total items)

/-- **Ranked items are determined** by what they are: no other increasing list has the same ones. -/
theorem ranked_eq_of_mem_iff {items row : List α}
    (h : row.Pairwise fun a b => le a b = true ∧ a ≠ b) (hmem : ∀ a, a ∈ row ↔ a ∈ items) :
    ranked le items = row := by
  have hranked := ranked_pairwise trans total antisymm items
  refine List.Perm.eq_of_pairwise (fun a b _ _ hab hba => antisymm a b hab.1 hba.1) hranked h ?_
  refine (List.perm_ext_iff_of_nodup (hranked.imp And.right) (h.imp And.right)).mpr fun a => ?_
  rw [mem_ranked, hmem]

end Order

end Automaton
