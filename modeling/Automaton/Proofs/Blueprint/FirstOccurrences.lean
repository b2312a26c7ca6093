import Automaton.Proofs.Blueprint.Imports
import Automaton.Proofs.Target.GoImports
import Automaton.Proofs.Target.RustImports
import Automaton.Proofs.Text.Delimited

/-!
# Each import once

Imports are collected twice without repetitions: what a table imports becomes the list of a
blueprint, and the list of a blueprint becomes the lines of a source.  `FirstOccurrences` says what
both rounds leave of a list: the same items, each once, in the order in which they occur first.

* In a blueprint, logging comes first, and then what the author of the table wrote, trimmed
  (`Blueprint.ListsImports`).
* In a Go source, `fmt` comes first.  An import that is quoted already is printed as it is, so it
  counts as one with the same import without quotes, and with no other
  (`GoSource.importLine_eq_iff`).  What is listed is what stands in the block of the source.
* In a Rust source, logging has a path like all others, and it is imported once even if the author
  of the table imports it too.  Entries are one import if they spell one path
  (`RustSource.IsPathOf`).  What is listed is what the statements of the source import.

`Import.listed_once` puts this together, for any table and for any list of imports, whether it comes
of a table or not.
-/

namespace Automaton

section FirstOccurrences

variable {α : Type} [BEq α] [LawfulBEq α]

/-- **The first occurrences** in a list. -/
structure FirstOccurrences (all listed : List α) : Prop where
  /-- No item is lost, and none is made up. -/
  mem_iff : ∀ a, a ∈ listed ↔ a ∈ all
  /-- Every item is listed once. -/
  count_eq_one : ∀ a ∈ all, listed.count a = 1
  /-- What occurs earlier is listed earlier. -/
  ordered : listed.Pairwise fun a b => all.idxOf a < all.idxOf b

/-- Erasing repetitions keeps the order of first occurrences. -/
theorem pairwise_idxOf_eraseDups (as : List α) :
    as.eraseDups.Pairwise fun a b => as.idxOf a < as.idxOf b := by
  induction as using List.reverseRecOn with
  | nil => exact .nil
  | append_singleton as a ih =>
    -- one more item at the end moves none of the first occurrences
    have hold : as.eraseDups.Pairwise fun x y => (as ++ [a]).idxOf x < (as ++ [a]).idxOf y := by
      refine ih.imp_of_mem fun hx hy hlt => ?_
      rw [List.mem_eraseDups] at hx hy
      rwa [List.idxOf_append_of_mem hx, List.idxOf_append_of_mem hy]
    rw [eraseDups_concat, Blueprint.addNew]
    split
    · exact hold
    · next hnew =>
      have hnot : a ∉ as := fun hmem => hnew (by rwa [List.contains_iff_mem, List.mem_eraseDups])
      refine List.pairwise_append.mpr ⟨hold, List.pairwise_singleton _ a, fun x hx y hy => ?_⟩
      -- a new item occurs where the old ones end
      rw [List.mem_eraseDups] at hx
      rw [List.mem_singleton.mp hy, List.idxOf_append_of_mem hx, List.idxOf_append_of_notMem hnot]
      exact Nat.lt_add_right _ (List.idxOf_lt_length_iff.mpr hx)

/-- **Erasing repetitions** leaves the first occurrences. -/
theorem firstOccurrences_eraseDups (as : List α) : FirstOccurrences as as.eraseDups where
  mem_iff _ := List.mem_eraseDups
  count_eq_one _ ha := List.count_eq_one_of_mem (nodup_eraseDups as) (List.mem_eraseDups.mpr ha)
  ordered := pairwise_idxOf_eraseDups as

omit [LawfulBEq α] in
/-- An image of an item is listed once among the first occurrences of images. -/
theorem FirstOccurrences.count_map_eq_one {β : Type} {f : β → α} {bs : List β}
    {start listed : List α} (h : FirstOccurrences (start ++ bs.map f) listed) {b : β}
    (hb : b ∈ bs) :
    listed.count (f b) = 1 :=
  h.count_eq_one _ (List.mem_append_right _ (List.mem_map_of_mem hb))

end FirstOccurrences

/-! ### Blueprints -/

namespace Blueprint

/-- **The list of a blueprint**: what a table imports. -/
structure ListsImports (t : Table) (listed : List Import) : Prop where
  /-- Logging and the trimmed imports of the author are listed where they occur first. -/
  first : FirstOccurrences ((if t.logging then [Import.logging] else []) ++
    t.imports.map fun path => Import.reference (Text.trim path)) listed
  /-- Logging comes first if the table asks for it. -/
  head_eq_logging_iff : listed.head? = some .logging ↔ t.logging = true
  /-- Otherwise it is not listed at all. -/
  logging_mem_iff : Import.logging ∈ listed ↔ t.logging = true
  /-- Every import of the author is listed once. -/
  count_eq_one : ∀ path ∈ t.imports, listed.count (.reference (Text.trim path)) = 1

theorem listsImports_importsOf (t : Table) : ListsImports t (importsOf t) := by
  have hfirst : FirstOccurrences ((if t.logging then [Import.logging] else []) ++
      t.imports.map fun path => Import.reference (Text.trim path)) (importsOf t) := by
    rw [importsOf_eq]
    exact firstOccurrences_eraseDups _
  -- what an author refers to is never logging itself
  have hmem : Import.logging ∈ importsOf t ↔ t.logging = true := by
    rw [hfirst.mem_iff, List.mem_append]
    split
    · next h => exact iff_of_true (.inl (List.mem_singleton.mpr rfl)) h
    · next h => simp [h]
  refine ⟨hfirst, ⟨fun hhead => hmem.mp (List.mem_of_mem_head? hhead), fun h => ?_⟩, hmem,
    fun path hpath => hfirst.count_map_eq_one hpath⟩
  rw [importsOf_eq, if_pos h, List.singleton_append, List.eraseDups_cons]
  rfl

end Blueprint

/-! ### Go sources -/

namespace GoSource

/-- What an author would write for an import. -/
def entry : Import → String
  | .logging => "log/slog"
  | .reference path => path

/-- **An import in quotes** is another one with quotes around it, which has none itself. -/
def QuotedFrom (quoted bare : String) : Prop :=
  '"' ∉ bare.toList ∧ quoted = Text.quote bare

theorem importLine_eq (i : Import) :
    importLine i = if '"' ∈ (entry i).toList then entry i else Text.quote (entry i) := by
  cases i with
  | logging => rw [importLine, entry, if_neg (by decide)]
  | reference path =>
    rw [importLine, entry, List.contains_eq_mem]
    simp only [decide_eq_true_eq]

/-- **Imports are printed alike** exactly if they are written alike, or if one of them is the other
one in quotes. -/
theorem importLine_eq_iff (i j : Import) : importLine i = importLine j ↔
    entry i = entry j ∨ QuotedFrom (entry i) (entry j) ∨ QuotedFrom (entry j) (entry i) := by
  have hquote : ∀ s, '"' ∈ (Text.quote s).toList := fun s => by
    rw [Text.toList_quote]
    exact List.mem_cons_self
  rw [importLine_eq, importLine_eq, QuotedFrom, QuotedFrom]
  split
  · next hi =>
    split
    · next hj => simp only [hi, hj, not_true, false_and, or_false]
    · next hj =>
      refine ⟨fun h => .inr (.inl ⟨hj, h⟩), ?_⟩
      rintro (h | h | h)
      · exact absurd (h ▸ hi) hj
      · exact h.2
      · exact absurd hi h.1
  · next hi =>
    split
    · next hj =>
      refine ⟨fun h => .inr (.inr ⟨hi, h.symm⟩), ?_⟩
      rintro (h | h | h)
      · exact absurd (h ▸ hj) hi
      · exact absurd hj h.1
      · exact h.2.symm
    · next hj =>
      -- neither has a quote, so neither is the other one in quotes
      refine ⟨fun h => .inl (Text.quote_inj h), ?_⟩
      rintro (h | h | h)
      · rw [h]
      · exact absurd (h.2 ▸ hquote _) hi
      · exact absurd (h.2 ▸ hquote _) hj

/-- **The imports of a Go source.** -/
structure ListsImports (imports : List Import) (listed : List String) : Prop where
  /-- `fmt` and the imports of the blueprint are listed where they occur first. -/
  first : FirstOccurrences (Text.quote "fmt" :: imports.map importLine) listed
  /-- The first one of all is `fmt`. -/
  head_eq : listed.head? = some (Text.quote "fmt")
  /-- Every import of the blueprint is listed once. -/
  count_eq_one : ∀ i ∈ imports, listed.count (importLine i) = 1
  /-- Below the package, a source with these imports has a block of all that is listed. -/
  printed : ∀ b text, b.header.imports = imports → render b = .ok text →
    ∃ below, text = Text.lines (above b.header.digest b.header.package ++
      "import (" :: (listed.map ("\t" ++ ·) ++ ")" :: below))

theorem importLines_eq (imports : List Import) :
    importLines imports = (Text.quote "fmt" :: imports.map importLine).eraseDups :=
  foldl_addNew [Text.quote "fmt"] (imports.map importLine)

theorem listsImports_importLines (imports : List Import) :
    ListsImports imports (importLines imports) := by
  have hfirst : FirstOccurrences ([Text.quote "fmt"] ++ imports.map importLine)
      (importLines imports) := by
    rw [importLines_eq]
    exact firstOccurrences_eraseDups _
  refine ⟨hfirst, ?_, fun i hi => hfirst.count_map_eq_one hi, ?_⟩
  · rw [importLines_eq, List.eraseDups_cons]
    rfl
  · rintro b text rfl hrender
    obtain ⟨-, rfl⟩ := render_eq_ok_iff.mp hrender
    -- the constants of the states come next, behind an empty line
    refine ⟨"" :: "const (" :: body b, congrArg Text.lines ?_⟩
    rw [lines_eq_above, List.append_assoc, List.singleton_append]

end GoSource

/-! ### Rust sources -/

namespace RustSource

/-- What an author would write for an import. -/
def entry : Import → String
  | .logging => "tracing::info"
  | .reference path => path

/-- **The path of an entry**: the entry is a spelling of it, and of no other path. -/
structure IsPathOf (entry path : String) : Prop where
  /-- The entry spells it. -/
  spelled : Spelled path entry
  /-- It spells no other path. -/
  unique : ∀ p, IsPath p → Spelled p entry → path = p

theorem isPathOf_pathOf (entry : String) : IsPathOf entry (pathOf entry) where
  spelled := spelled_pathOf entry
  unique _ hp hspelled := pathOf_eq_of_spelled hp hspelled

/-- An import without blanks around it has the path of what an author would write for it. -/
theorem importPath_eq_pathOf {i : Import} (h : Text.trim (entry i) = entry i) :
    importPath i = pathOf (entry i) := by
  cases i with
  | logging => decide
  | reference path => exact congrArg (fun p => importPath (.reference p)) h.symm

/-- **The imports of a Rust source.** -/
structure ListsImports (imports : List Import) (listed : List String) : Prop where
  /-- The imports of the blueprint are listed where they occur first. -/
  first : FirstOccurrences (imports.map importPath) listed
  /-- Every one of them is listed once. -/
  count_eq_one : ∀ i ∈ imports, listed.count (importPath i) = 1
  /-- Logging is listed once if it is among them, under whatever spelling. -/
  logging_count_iff : listed.count "tracing::info" = 1 ↔
    ∃ i ∈ imports, importPath i = "tracing::info"
  /-- What is listed for an import is the path that it spells. -/
  isPathOf : ∀ i ∈ imports, Text.trim (entry i) = entry i → IsPathOf (entry i) (importPath i)
  /-- Below the module, a source with these imports has statements for all that is listed. -/
  printed : ∀ b text, b.header.imports = imports → render b = .ok text →
    ∃ below, text = Text.lines (opening b.header ++ statements listed ++ "" :: below)

theorem importPaths_eq (imports : List Import) :
    importPaths imports = (imports.map importPath).eraseDups :=
  foldl_addNew [] (imports.map importPath)

theorem listsImports_importPaths (imports : List Import) :
    ListsImports imports (importPaths imports) := by
  have hfirst : FirstOccurrences (imports.map importPath) (importPaths imports) := by
    rw [importPaths_eq]
    exact firstOccurrences_eraseDups _
  have honce : ∀ i ∈ imports, (importPaths imports).count (importPath i) = 1 := fun i hi =>
    hfirst.count_eq_one _ (List.mem_map_of_mem hi)
  refine ⟨hfirst, honce, ⟨fun h => ?_, fun ⟨i, hi, hpath⟩ => hpath ▸ honce i hi⟩,
    fun i _ htrim => importPath_eq_pathOf htrim ▸ isPathOf_pathOf (entry i), ?_⟩
  · have hmem : "tracing::info" ∈ importPaths imports :=
      List.count_pos_iff.mp (by rw [h]; exact Nat.one_pos)
    exact List.mem_map.mp ((hfirst.mem_iff _).mp hmem)
  · rintro b text rfl hrender
    obtain ⟨-, rfl⟩ := render_eq_ok_iff.mp hrender
    -- the constants of the states come next, behind an empty line
    obtain ⟨below, hbelow⟩ : ∃ below, body b = "" :: below := ⟨_, rfl⟩
    exact ⟨below, by rw [lines_eq_opening, hbelow]⟩

end RustSource

/-- **Each import once.**  The list of a blueprint has what its table imports, and a source in
either language prints what the blueprint lists, each where it occurs first; so do the two rounds
together.  In Go, what is written with and without quotes is one import, and in Rust all spellings
of one path are. -/
theorem Import.listed_once (t : Table) (imports : List Import) :
    Blueprint.ListsImports t (Blueprint.importsOf t) ∧
      GoSource.ListsImports imports (GoSource.importLines imports) ∧
      (∀ i j, GoSource.importLine i = GoSource.importLine j ↔
        GoSource.entry i = GoSource.entry j ∨
          GoSource.QuotedFrom (GoSource.entry i) (GoSource.entry j) ∨
          GoSource.QuotedFrom (GoSource.entry j) (GoSource.entry i)) ∧
      RustSource.ListsImports imports (RustSource.importPaths imports) ∧
      FirstOccurrences (Text.quote "fmt" :: ((if t.logging then [Text.quote "log/slog"] else []) ++
          t.imports.map GoSource.specification))
        (GoSource.importLines (Blueprint.importsOf t)) ∧
      FirstOccurrences ((if t.logging then ["tracing::info"] else []) ++
          t.imports.map RustSource.pathOf)
        (RustSource.importPaths (Blueprint.importsOf t)) ∧
      ∀ entry, RustSource.IsPathOf entry (RustSource.pathOf entry) := by
  refine ⟨Blueprint.listsImports_importsOf t, GoSource.listsImports_importLines imports,
    GoSource.importLine_eq_iff, RustSource.listsImports_importPaths imports, ?_, ?_,
    RustSource.isPathOf_pathOf⟩
  · -- the second round is all that counts, as the spelling decides what is one import
    rw [GoSource.importLines_importsOf]
    exact firstOccurrences_eraseDups _
  · rw [RustSource.importPaths_importsOf]
    exact firstOccurrences_eraseDups _

/-- Logging is asked for and imported, and `fmt` is written with and without quotes. -/
example : GoSource.importLines
      [.logging, .reference "\"fmt\"", .reference "log/slog", .reference "fmt", .reference "time"] =
    ["\"fmt\"", "\"log/slog\"", "\"time\""] := by
  decide

end Automaton
