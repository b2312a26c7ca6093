import Automaton.Proofs.Blueprint.Imports
import Automaton.Proofs.Target.GoReading

/-!
# The imports of a Go source

Imports are the one place where the author of a table writes into a source without being asked for
a name.  In the text of a source they belong into one block: a line that opens it, one line for each
specification, and a line that closes it.  `GoSource.ImportBlock` says that this is how a text looks.

Blanks are trimmed and quotes are escaped, but line feeds are neither.  So the block is in order
exactly if no import contains a line feed within it (`Generator.draft_encloses_imports`), and
`Generator.draft_spills` is a source whose block is not.  What imports cannot do in any case is to
change a line above the block or below it: up to the specifications, the text is that of the same
table without imports (`GoSource.split_lines`).
-/

namespace Automaton

open Identifier (IsWord)

/-! ### Line feeds in literals -/

/-- Escaping drops no characters. -/
theorem Text.mem_escape_of_mem {c : Char} {cs : List Char} (h : c ∈ cs) : c ∈ escape cs := by
  induction cs with
  | nil => exact absurd h List.not_mem_nil
  | cons d ds ih =>
    rw [escape]
    rcases List.mem_cons.mp h with rfl | h
    · split
      · exact List.mem_cons_of_mem _ List.mem_cons_self
      · exact List.mem_cons_self
    · split
      · exact List.mem_cons_of_mem _ (List.mem_cons_of_mem _ (ih h))
      · exact List.mem_cons_of_mem _ (ih h)

namespace GoSource

/-- **A specification is on one line** exactly if the trimmed import is. -/
theorem feed_notMem_specification_iff {path : String} :
    '\n' ∉ (specification path).toList ↔ '\n' ∉ (Text.trim path).toList := by
  rw [specification]
  split
  · rfl
  · -- quoting adds quotes and backslashes, but takes nothing away
    constructor
    · intro h hfeed
      refine h ?_
      rw [Text.toList_quote]
      exact List.mem_cons_of_mem _ (List.mem_append_left _ (Text.mem_escape_of_mem hfeed))
    · exact Text.notMem_quote (by decide) (by decide)

/-- **All specifications are on one line** exactly if all trimmed imports are. -/
theorem feed_notMem_specifications_iff {t : Table} :
    (∀ s ∈ specifications t, '\n' ∉ s.toList) ↔
      ∀ path ∈ t.imports, '\n' ∉ (Text.trim path).toList := by
  -- what the author does not write has no line feed
  have hfmt : '\n' ∉ (Text.quote "fmt").toList := by decide
  have hlogging : ∀ s ∈ if t.logging then [Text.quote "log/slog"] else [], '\n' ∉ s.toList := by
    intro s hs
    split at hs
    · rw [List.mem_singleton.mp hs]
      decide
    · exact absurd hs List.not_mem_nil
  simp only [specifications, List.mem_eraseDups, List.forall_mem_cons, List.forall_mem_append,
    List.forall_mem_map, feed_notMem_specification_iff]
  exact ⟨fun h => h.2.2, fun h => ⟨hfmt, hlogging, h⟩⟩

/-! ### The block -/

/-- **An import block**: between some lines above and some lines below, a text has a line that opens
the block, one line for each specification behind a tabulator, and a line that closes it.  These are
the first lines of their kinds. -/
structure ImportBlock (specs above below : List String) (text : String) : Prop where
  /-- The lines of the text are these. -/
  lines_eq : Text.split text =
    above ++ "import (" :: (specs.map ("\t" ++ ·) ++ ")" :: below)
  /-- No line above opens a block. -/
  opening : "import (" ∉ above
  /-- No specification closes the block. -/
  closing : ")" ∉ specs.map ("\t" ++ ·)

/-- The lines above the imports. -/
def above (digest : Option String) (package : String) : List String :=
  preamble digest ++ ["package " ++ package, ""]

/-- The lines below the imports. -/
def below (b : Blueprint) : List String :=
  Text.split (Text.lines ("" :: "const (" :: body b))

/-- A source is what is above its imports, the imports, and what is below. -/
theorem lines_eq_above (b : Blueprint) : lines b =
    (above b.header.digest b.header.package ++ ["import ("]) ++
      ((importLines b.header.imports).map ("\t" ++ ·) ++ ")" :: "" :: "const (" :: body b) := by
  rw [GoSource.lines_eq, header, above, preamble.eq_def]
  cases b.header.digest <;> simp only [List.append_assoc, List.cons_append, List.nil_append]

/-- Nothing above the imports opens the block, and all of it is on one line each. -/
theorem above_inOrder {digest : Option String} {package : String}
    (hdigest : ∀ d, digest = some d → '\n' ∉ d.toList) (hpackage : IsWord package) :
    "import (" ∉ above digest package ∧ ∀ l ∈ above digest package, '\n' ∉ l.toList := by
  have hfeed : '\n' ∉ package.toList := hpackage.notMem (by decide)
  have hbanner : '\n' ∉ Target.banner.toList ∧ Target.banner ≠ "import (" := by decide
  have horigin : ∀ d, digest = some d →
      '\n' ∉ ("// Source: " ++ d).toList ∧ "// Source: " ++ d ≠ "import (" := by
    intro d hd
    refine ⟨by simp [hdigest d hd], fun heq => ?_⟩
    exact absurd (congrArg (·.toList.head?) heq) (by simp)
  have hopening : "package " ++ package ≠ "import (" := fun heq =>
    absurd (congrArg (·.toList.head?) heq) (by simp)
  -- each of these lines is none that opens a block, and has no line feed
  suffices hall : ∀ l ∈ above digest package, l ≠ "import (" ∧ '\n' ∉ l.toList from
    ⟨fun hmem => (hall _ hmem).1 rfl, fun l hl => (hall l hl).2⟩
  intro l hl
  simp only [above, preamble, List.mem_append, List.mem_cons, List.not_mem_nil, or_false] at hl
  rcases hl with ((rfl | hl) | rfl) | rfl | rfl
  · exact ⟨hbanner.2, hbanner.1⟩
  · cases hd : digest with
    | none =>
      rw [hd] at hl
      exact absurd hl List.not_mem_nil
    | some d =>
      rw [hd] at hl
      rw [List.mem_singleton.mp hl]
      exact ⟨(horigin d hd).2, (horigin d hd).1⟩
  · decide
  · exact ⟨hopening, by simp [hfeed]⟩
  · decide

/-- **The lines of a source**: each specification is split on its own, and everything else stands
where it stands without imports. -/
theorem split_lines {b : Blueprint} (hdigest : ∀ d, b.header.digest = some d → '\n' ∉ d.toList)
    (hpackage : IsWord b.header.package) : Text.split (Text.lines (lines b)) =
      above b.header.digest b.header.package ++ "import (" ::
        ((importLines b.header.imports).flatMap (fun s => Text.split ("\t" ++ s)) ++
          ")" :: below b) := by
  have habove : ∀ l ∈ above b.header.digest b.header.package ++ ["import ("], '\n' ∉ l.toList := by
    intro l hl
    rcases List.mem_append.mp hl with hl | hl
    · exact (above_inOrder hdigest hpackage).2 l hl
    · rw [List.mem_singleton.mp hl]
      decide
  -- the closing line is apart from the specifications, whatever these contain
  have hclosing : Text.split (Text.lines (")" :: "" :: "const (" :: body b)) = ")" :: below b := by
    rw [Text.lines_cons, Text.split_append, Text.split_eq_singleton (by decide), below,
      List.singleton_append]
  rw [lines_eq_above, Text.lines_append, Text.split_lines_append habove, Text.lines_append,
    Text.split_lines_append_flatMap, hclosing, List.flatMap_map, List.append_assoc,
    List.singleton_append]

/-- **Specifications on one line** make a block. -/
theorem importBlock_of_feed_notMem {b : Blueprint} {specs : List String}
    (hdigest : ∀ d, b.header.digest = some d → '\n' ∉ d.toList)
    (hpackage : IsWord b.header.package) (hspecs : importLines b.header.imports = specs)
    (h : ∀ s ∈ specs, '\n' ∉ s.toList) :
    ImportBlock specs (above b.header.digest b.header.package) (below b)
      (Text.lines (lines b)) where
  lines_eq := by
    -- a specification without line feeds is split into itself
    have hsplit : specs.flatMap (fun s => Text.split ("\t" ++ s)) = specs.map ("\t" ++ ·) := by
      rw [← List.flatMap_pure_eq_map]
      refine List.flatMap_congr fun s hs => Text.split_eq_singleton ?_
      simp [h s hs]
    rw [split_lines hdigest hpackage, hspecs, hsplit]
  opening := (above_inOrder hdigest hpackage).1
  closing := by
    intro hmem
    obtain ⟨s, -, hs⟩ := List.mem_map.mp hmem
    exact absurd (congrArg (·.toList.head?) hs) (by simp)

/-- **A block** has its specifications on one line each, for every line of a text is one. -/
theorem ImportBlock.feed_notMem {specs above below : List String} {text : String}
    (h : ImportBlock specs above below text) : ∀ s ∈ specs, '\n' ∉ s.toList := by
  intro s hs hfeed
  have hline : "\t" ++ s ∈ Text.split text := by
    rw [h.lines_eq]
    refine List.mem_append_right _ (List.mem_cons_of_mem _ (List.mem_append_left _ ?_))
    exact List.mem_map_of_mem hs
  refine Text.feed_notMem_of_mem_split hline ?_
  rw [String.toList_append]
  exact List.mem_append_right _ hfeed

end GoSource

/-! ### A source that spills -/

/-- A switch is drafted, whatever it imports. -/
theorem Generator.exists_draft_importing (imports : List String)
    (h : ∀ path ∈ imports, Text.isVoid path = false) :
    ∃ text, (Generator.mk .go .none none).draft (Table.importing imports) = .ok text := by
  have hwf := Table.wellFormed_importing h
  have hs := Table.states_importing imports
  -- names are in order whatever is imported
  have hbare : Target.checkNames .go
      (GoSource.declarations (Blueprint.direct (Table.importing []) Table.importingStates))
      (GoSource.uses (Blueprint.direct (Table.importing []) Table.importingStates)) = .ok () := by
    decide +kernel
  exact ⟨_, (draft_eq_ok_iff rfl).mpr ⟨hwf, _, hs, GoSource.render_eq_ok_iff.mpr ⟨hbare, rfl⟩⟩⟩

/-- **A line feed spills**: the quoted import of this switch is on two lines, so its source has no
block with one line for each specification. -/
theorem Generator.draft_spills :
    (Table.importing ["net\nhttp"]).validate = .ok () ∧
      ∃ text, (Generator.mk .go .none none).draft (Table.importing ["net\nhttp"]) = .ok text ∧
        ∀ above below, ¬ GoSource.ImportBlock
          (GoSource.specifications (Table.importing ["net\nhttp"])) above below text := by
  obtain ⟨text, htext⟩ := exists_draft_importing ["net\nhttp"] (by decide)
  refine ⟨by decide, text, htext, fun above below hblock => ?_⟩
  have hfeeds := GoSource.feed_notMem_specifications_iff.mp hblock.feed_notMem
  exact hfeeds "net\nhttp" List.mem_cons_self (by decide)

/-! ### Sources with imports -/

/-- **Imports stay in their block.**  In the Go source of an accepted table, the lines above the
block and below it are those of the source of the same table without imports.  Between them are the
specifications, `fmt` first, then the package for logging if the table asks for it, then what the
author imports, trimmed, and quoted unless it contains a quote, each where it occurs first.  They
are on one line each exactly if no trimmed import contains a line feed. -/
theorem Generator.draft_encloses_imports (g : Generator) (hg : g.target = .go)
    (hdigest : ∀ d, g.digest = some d → '\n' ∉ d.toList) (t : Table) (text : String)
    (h : g.draft t = .ok text) :
    ∃ bare above below, g.draft { t with imports := [] } = .ok bare ∧
      GoSource.ImportBlock (GoSource.specifications { t with imports := [] }) above below bare ∧
      Text.split text = above ++ "import (" ::
        ((GoSource.specifications t).flatMap (fun s => Text.split ("\t" ++ s)) ++ ")" :: below) ∧
      (GoSource.specifications t).Nodup ∧
      ((∀ path ∈ t.imports, '\n' ∉ (Text.trim path).toList) →
        GoSource.ImportBlock (GoSource.specifications t) above below text) ∧
      ∀ above' below', GoSource.ImportBlock (GoSource.specifications t) above' below' text →
        ∀ path ∈ t.imports, '\n' ∉ (Text.trim path).toList := by
  obtain ⟨hwf, s, hs, hrender⟩ := (draft_eq_ok_iff hg).mp h
  obtain ⟨hnames, rfl⟩ := GoSource.render_eq_ok_iff.mp hrender
  have hpackage : IsWord t.packageName := Identifier.isWord_of_valid hwf.packageName_valid
  -- the two blueprints differ in the imports of their headers only
  let u : Table := { t with imports := [] }
  let b := (Blueprint.direct t s).withDigest g.digest
  let c := (Blueprint.direct u s).withDigest g.digest
  have hbare : g.draft u = .ok (Text.lines (GoSource.lines c)) :=
    (draft_eq_ok_iff hg).mpr
      ⟨hwf.withoutImports, s, hs, GoSource.render_eq_ok_iff.mpr ⟨hnames, rfl⟩⟩
  have hb : GoSource.importLines b.header.imports = GoSource.specifications t :=
    GoSource.importLines_importsOf t
  have hc : GoSource.importLines c.header.imports = GoSource.specifications u :=
    GoSource.importLines_importsOf u
  refine ⟨_, GoSource.above g.digest t.packageName, GoSource.below b, hbare, ?_, ?_,
    nodup_eraseDups _, fun hfeeds => ?_, fun above' below' hblock => ?_⟩
  · refine GoSource.importBlock_of_feed_notMem (b := c) hdigest hpackage hc ?_
    exact GoSource.feed_notMem_specifications_iff.mpr fun _ hpath => absurd hpath List.not_mem_nil
  · rw [← hb]
    exact GoSource.split_lines (b := b) hdigest hpackage
  · refine GoSource.importBlock_of_feed_notMem (b := b) hdigest hpackage hb ?_
    exact GoSource.feed_notMem_specifications_iff.mpr hfeeds
  · exact GoSource.feed_notMem_specifications_iff.mp hblock.feed_notMem

/-- The imports of a switch stay in their block: one is under another name, and one is written
twice, with its quotes and without. -/
theorem Generator.draft_encloses_imports_importing :
    ∃ text, (Generator.mk .go .none none).draft
        (Table.importing [" os ", "u \"net/url\"", "\"os\""]) = .ok text ∧
      GoSource.specifications (Table.importing [" os ", "u \"net/url\"", "\"os\""]) =
        ["\"fmt\"", "\"log/slog\"", "\"os\"", "u \"net/url\""] ∧
      ∃ above below, GoSource.ImportBlock
        (GoSource.specifications (Table.importing [" os ", "u \"net/url\"", "\"os\""]))
        above below text := by
  obtain ⟨text, htext⟩ :=
    exists_draft_importing [" os ", "u \"net/url\"", "\"os\""] (by decide)
  obtain ⟨-, above, below, -, -, -, -, hblock, -⟩ :=
    draft_encloses_imports (Generator.mk .go .none none) rfl (fun _ h => absurd h nofun) _ text
      htext
  exact ⟨text, htext, by decide, above, below, hblock (by decide)⟩

end Automaton
