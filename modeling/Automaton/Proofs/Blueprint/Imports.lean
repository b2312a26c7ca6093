import Automaton.Blueprint.OfTable
import Automaton.Proofs.Table.WellFormed
import Automaton.Target.Go
import Automaton.Target.Rust
import Mathlib.Data.List.Basic
import Mathlib.Data.List.Induction

/-!
# Imports without repetitions

What a table imports is made free of repetitions twice: as references when the blueprint is made,
and once more in the spelling of a destination language, where references that differ may come out
the same.  Both times, items are added one by one unless they are there already, and what this
leaves is the list of *first occurrences* (`foldl_addNew`).

Two rounds are no more than the second one alone: first occurrences of images are first occurrences
of the images of first occurrences (`eraseDups_append_map_eraseDups`).  So the imports of a source
can be said without mentioning the blueprint (`GoSource.importLines_importsOf`,
`RustSource.importPaths_importsOf`).
-/

namespace Automaton

/-! ### First occurrences -/

section FirstOccurrences

variable {α β : Type} [BEq α] [LawfulBEq α] [BEq β] [LawfulBEq β]

/-- **One more item** counts if it is new. -/
theorem eraseDups_concat (items : List α) (a : α) :
    (items ++ [a]).eraseDups = Blueprint.addNew items.eraseDups a := by
  have hmem : items.eraseDups.contains a = items.contains a := by
    rw [List.contains_eq_mem, List.contains_eq_mem]
    simp only [List.mem_eraseDups]
  rw [List.eraseDups_append, Blueprint.addNew, hmem, List.removeAll, List.filter_singleton,
    List.elem_eq_contains]
  cases items.contains a with
  | true => exact List.append_nil _
  | false => rfl

/-- **Adding items** unless they are there leaves first occurrences. -/
theorem foldl_addNew (start items : List α) :
    items.foldl Blueprint.addNew start.eraseDups = (start ++ items).eraseDups := by
  induction items generalizing start with
  | nil => rw [List.foldl_nil, List.append_nil]
  | cons a items ih =>
    rw [List.foldl_cons, ← eraseDups_concat, ih, List.append_assoc, List.singleton_append]

/-- An item that is there already is not added. -/
theorem addNew_of_mem {items : List α} {a : α} (h : a ∈ items) :
    Blueprint.addNew items a = items := by
  rw [Blueprint.addNew, if_pos (List.contains_iff_mem.mpr h)]

/-- **Images of first occurrences** have the first occurrences of all images. -/
theorem eraseDups_append_map_eraseDups (f : α → β) (start : List β) (items : List α) :
    (start ++ items.eraseDups.map f).eraseDups = (start ++ items.map f).eraseDups := by
  induction items using List.reverseRecOn with
  | nil => rfl
  | append_singleton items a ih =>
    rw [List.map_append, List.map_singleton, ← List.append_assoc, eraseDups_concat _ (f a), ← ih,
      eraseDups_concat items a, Blueprint.addNew.eq_def items.eraseDups]
    split
    · next hold =>
      -- the item has been met, and so has its image
      have himage : f a ∈ start ++ items.eraseDups.map f :=
        List.mem_append_right _ (List.mem_map_of_mem (List.contains_iff_mem.mp hold))
      rw [addNew_of_mem (List.mem_eraseDups.mpr himage)]
    · rw [List.map_append, List.map_singleton, ← List.append_assoc, eraseDups_concat]

end FirstOccurrences

/-! ### References -/

/-- **The imports of a blueprint**: logging, if the table asks for it, and the trimmed references,
each where it occurs first. -/
theorem Blueprint.importsOf_eq (t : Table) :
    importsOf t = ((if t.logging then [Import.logging] else []) ++
      t.imports.map fun path => Import.reference (Text.trim path)).eraseDups := by
  have hstart : (if t.logging then [Import.logging] else []) =
      (if t.logging then [Import.logging] else []).eraseDups := by
    cases t.logging <;> rfl
  rw [importsOf, hstart, foldl_addNew, ← hstart]

/-! ### Tables with other imports -/

/-- A well formed table stays well formed if it imports nothing. -/
theorem Table.WellFormed.withoutImports {t : Table} (h : t.WellFormed) :
    { t with imports := [] : Table }.WellFormed :=
  { h with imports_not_void := fun _ hpath => absurd hpath List.not_mem_nil }

/-- **A switch** that imports something. -/
def Table.importing (imports : List String) : Table :=
  { name := "Switch"
    packageName := "machines"
    imports
    logging := true
    events := Catalog.ofList [("turn", ⟨["up"], "down", []⟩)] }

/-- The states of the switch. -/
def Table.importingStates : States :=
  ⟨["down", "up"], by decide, by decide⟩

/-- A switch is well formed unless it imports something that is blank. -/
theorem Table.wellFormed_importing {imports : List String}
    (h : ∀ path ∈ imports, Text.isVoid path = false) : (importing imports).WellFormed := by
  have hbare : (importing []).WellFormed := validate_eq_ok_iff_wellFormed.mp (by decide)
  exact { hbare with imports_not_void := h }

theorem Table.states_importing (imports : List String) :
    States.ofTable (importing imports) = some importingStates := by
  have hbare : States.ofTable (importing []) = some importingStates := by decide
  exact hbare

/-! ### Spellings -/

namespace GoSource

/-- **How an import is specified** in a source: without the blanks around it, and quoted unless it
contains a quote already. -/
def specification (path : String) : String :=
  if '"' ∈ (Text.trim path).toList then Text.trim path else Text.quote (Text.trim path)

/-- **The specifications of a table**: `fmt`, the package for logging if the table asks for it, and
what the author of the table refers to, each where it occurs first. -/
def specifications (t : Table) : List String :=
  (Text.quote "fmt" :: ((if t.logging then [Text.quote "log/slog"] else []) ++
    t.imports.map specification)).eraseDups

theorem importLine_reference (path : String) :
    importLine (.reference (Text.trim path)) = specification path := by
  rw [importLine, specification, List.contains_eq_mem]
  simp only [decide_eq_true_eq]

/-- **The imports of a source** are the specifications of its table. -/
theorem importLines_importsOf (t : Table) :
    importLines (Blueprint.importsOf t) = specifications t := by
  have hstart : [Text.quote "fmt"] = [Text.quote "fmt"].eraseDups := rfl
  have hfold : importLines (Blueprint.importsOf t) =
      ((Blueprint.importsOf t).map importLine).foldl Blueprint.addNew [Text.quote "fmt"] := rfl
  -- the two rounds are one, up to what an import looks like
  rw [hfold, hstart, foldl_addNew, Blueprint.importsOf_eq, eraseDups_append_map_eraseDups,
    specifications, List.map_append, List.map_map, Function.comp_def]
  simp only [importLine_reference]
  have hlogging : (if t.logging then [Import.logging] else []).map importLine =
      if t.logging then [Text.quote "log/slog"] else [] := by
    split
    · rw [List.map_singleton, importLine]
    · rfl
  rw [hlogging, List.singleton_append]

end GoSource

namespace RustSource

/-- **The path of an entry**, as it comes out of one pass over what an author wrote. -/
def pathOf (entry : String) : String :=
  importPath (.reference (Text.trim entry))

/-- **The paths of a table**: the one for logging if the table asks for it, and those of its
entries, each where it occurs first. -/
def paths (t : Table) : List String :=
  ((if t.logging then ["tracing::info"] else []) ++ t.imports.map pathOf).eraseDups

/-- **The imports of a source** are the paths of its table. -/
theorem importPaths_importsOf (t : Table) : importPaths (Blueprint.importsOf t) = paths t := by
  have hfold : importPaths (Blueprint.importsOf t) =
      ((Blueprint.importsOf t).map importPath).foldl Blueprint.addNew ([] : List String).eraseDups :=
    rfl
  rw [hfold, foldl_addNew, Blueprint.importsOf_eq, eraseDups_append_map_eraseDups, paths,
    List.map_append, List.map_map, List.nil_append]
  have hreferences : importPath ∘ (fun path => Import.reference (Text.trim path)) = pathOf := rfl
  have hlogging : (if t.logging then [Import.logging] else []).map importPath =
      if t.logging then ["tracing::info"] else [] := by
    split <;> simp only [List.map_cons, List.map_nil, importPath]
  rw [hreferences, hlogging]

end RustSource

end Automaton
