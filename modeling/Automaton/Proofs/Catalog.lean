import Automaton.Catalog
import Mathlib.Data.List.Dedup
import Mathlib.Data.List.Induction

/-!
# Catalogs of lists

`Catalog.ofList` enters named things one by one, and a later thing takes the place of an earlier one
of its name.  What is found under a name in the end is therefore the *last* thing of that name in
the list (`Catalog.get?_ofList`).  Each name counts once (`Catalog.size_ofList`), so nothing is lost
exactly if no name is entered twice (`Catalog.size_ofList_eq_length_iff`).
-/

namespace Automaton.Catalog

variable {α : Type} {es : List (String × α)} {name : String}

/-- **The last thing of a name** is found under it: looking up reads the list from its end. -/
theorem get?_ofList (es : List (String × α)) (name : String) :
    (ofList es).get? name = es.reverse.lookup name := by
  induction es using List.reverseRecOn with
  | nil => rfl
  | append_singleton es e ih =>
    have hconcat : ofList (es ++ [e]) = (ofList es).insert e.1 e.2 := by
      rw [ofList, List.foldl_append]
      rfl
    rw [hconcat, get?_insert, ih, List.reverse_concat, lookup_cons_ite]

/-- A name is there if something is found under it. -/
theorem mem_names_iff {c : Catalog α} : name ∈ c.names ↔ (c.get? name).isSome = true := by
  simp only [get?, List.lookup_isSome_iff, names, List.mem_map, beq_iff_eq, @eq_comm _ name]

/-- **The names of a catalog** are those of the list. -/
theorem mem_names_ofList : name ∈ (ofList es).names ↔ name ∈ es.map Prod.fst := by
  simp only [mem_names_iff, get?_ofList, List.lookup_isSome_iff, List.mem_reverse, List.mem_map,
    beq_iff_eq, @eq_comm _ name]

/-- **Each name counts once.** -/
theorem size_ofList (es : List (String × α)) :
    (ofList es).size = (es.map Prod.fst).dedup.length := by
  have hnodup : (ofList es).names.Nodup :=
    (names_pairwise _).imp fun hlt => String.ne_of_lt hlt
  have hperm : (ofList es).names.Perm (es.map Prod.fst).dedup :=
    (List.perm_ext_iff_of_nodup hnodup (List.nodup_dedup _)).mpr fun n => by
      rw [mem_names_ofList, List.mem_dedup]
  rw [← hperm.length_eq, names, List.length_map, size]

/-- **Nothing is lost** exactly if no name is entered twice. -/
theorem size_ofList_eq_length_iff :
    (ofList es).size = es.length ↔ (es.map Prod.fst).Nodup := by
  have hlength : es.length = (es.map Prod.fst).length := (List.length_map Prod.fst).symm
  rw [size_ofList, ← List.dedup_eq_self, hlength]
  exact (List.dedup_sublist _).length_eq

/-- If no name is entered twice, everything is found again. -/
theorem get?_ofList_eq_some_iff (h : (es.map Prod.fst).Nodup) {a : α} :
    (ofList es).get? name = some a ↔ (name, a) ∈ es := by
  have hmem : ∀ {b}, (ofList es).get? name = some b → (name, b) ∈ es := by
    intro b hb
    rw [get?_ofList, List.lookup_eq_some_iff] at hb
    obtain ⟨before, after, hes, -⟩ := hb
    exact List.mem_reverse.mp (hes ▸ List.mem_append_right _ List.mem_cons_self)
  refine ⟨hmem, fun ha => ?_⟩
  -- the name is there with some item, and only one item has it
  have hname : name ∈ (ofList es).names := mem_names_ofList.mpr (List.mem_map_of_mem ha)
  obtain ⟨b, hb⟩ := Option.isSome_iff_exists.mp (mem_names_iff.mp hname)
  obtain ⟨-, rfl⟩ := Prod.mk.inj (List.inj_on_of_nodup_map h ha (hmem hb) rfl)
  exact hb

/-- **A catalog is made of its entries**, in whatever order they are entered. -/
theorem ofList_eq_of_perm {c : Catalog α} (h : es.Perm c.entries) : ofList es = c := by
  have hnames : (es.map Prod.fst).Nodup :=
    (h.map Prod.fst).nodup_iff.mpr ((names_pairwise c).imp fun hlt => String.ne_of_lt hlt)
  refine ext_get? fun n => Option.ext fun a => ?_
  rw [get?_ofList_eq_some_iff hnames, get?_eq_some_iff, h.mem_iff]

end Automaton.Catalog
