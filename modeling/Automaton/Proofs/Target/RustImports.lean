import Automaton.Proofs.Blueprint.Imports
import Automaton.Proofs.Target.Verdict
import Automaton.Proofs.Text.Trimmed
import Mathlib.Data.List.Infix

/-!
# The imports of a Rust source

An author may import a path as such, or as a whole statement: with the word `use` in front, with
semicolons behind, and with blanks around any of these.  What the source imports is the path.

It is found in one pass: blanks around the entry go, then leading words, then semicolons at the end,
then blanks again.  So an entry has a path if it is *spelled in this order* (`RustSource.Spelled`),
and in no other case: `RustSource.pathOf_eq_iff_spelled` says that the pass finds a path exactly in
its spellings.  Where words, semicolons and blanks are mixed in another way, something is left over,
and what is printed is no path (`Generator.draft_leaves_semicolon`).

`Generator.draft_imports_paths` puts this together for the sources of accepted tables.
-/

namespace Automaton

namespace RustSource

/-! ### Paths and their spellings -/

/-- The word that begins an import, with its space. -/
def useWord : List Char := ['u', 's', 'e', ' ']

/-- **A path** is what an import may be of: it is not empty, has no blanks around it, and nothing of
a statement: it is not the word itself, does not begin with it, and does not end in a semicolon. -/
structure IsPath (p : String) : Prop where
  /-- There is something. -/
  ne_empty : p ≠ ""
  /-- There are no blanks around it. -/
  trim_eq : Text.trim p = p
  /-- It does not begin with the word. -/
  use_not_prefix : ¬ useWord <+: p.toList
  /-- It does not end in a semicolon. -/
  semicolon_not_suffix : ¬ [';'] <:+ p.toList
  /-- It is not the word itself. -/
  ne_use : p ≠ "use"

/-- Blanks only. -/
def Blanks (cs : List Char) : Prop :=
  ∀ c ∈ cs, Text.isBlank c = true

/-- The word, some times over. -/
def useWords (n : Nat) : List Char :=
  (List.replicate n useWord).flatten

/-- **A spelling of a path**: the word, the path, and semicolons, in this order, each as often as one
likes, with blanks before, after and between. -/
def Spelled (path entry : String) : Prop :=
  ∃ a b c d m n, Blanks a ∧ Blanks b ∧ Blanks c ∧ Blanks d ∧
    entry.toList =
      a ++ (useWords m ++ b ++ path.toList ++ (c ++ List.replicate n ';')) ++ d

/-! ### One pass -/

theorem useWords_succ (n : Nat) : useWords (n + 1) = useWord ++ useWords n := by
  rw [useWords, List.replicate_succ, List.flatten_cons, useWords]

/-- Words in front are removed. -/
theorem dropUse_useWords (n : Nat) (cs : List Char) : dropUse (useWords n ++ cs) = dropUse cs := by
  induction n with
  | zero => rfl
  | succ n ih =>
    rw [useWords_succ, List.append_assoc, ← ih]
    rfl

/-- Nothing else is. -/
theorem dropUse_eq_self {cs : List Char} (h : ¬ useWord <+: cs) : dropUse cs = cs := by
  rw [dropUse]
  rintro rest rfl
  exact h ⟨rest, rfl⟩

/-- What was removed are words. -/
theorem exists_eq_dropUse (cs : List Char) : ∃ n, cs = useWords n ++ dropUse cs := by
  fun_induction dropUse cs with
  | case1 cs ih =>
    obtain ⟨n, hn⟩ := ih
    refine ⟨n + 1, ?_⟩
    rw [useWords_succ, List.append_assoc, ← hn]
    rfl
  | case2 cs => exact ⟨0, rfl⟩

/-- Semicolons at the end are removed. -/
theorem dropSemicolons_append (cs : List Char) (n : Nat) :
    dropSemicolons (cs ++ List.replicate n ';') = dropSemicolons cs := by
  rw [dropSemicolons, List.reverse_append, List.reverse_replicate, List.dropWhile_append_of_pos]
  · rfl
  · intro c hc
    rw [List.eq_of_mem_replicate hc]
    rfl

/-- Nothing else is. -/
theorem dropSemicolons_eq_self {cs : List Char} (h : cs.getLast? ≠ some ';') :
    dropSemicolons cs = cs := by
  have hreverse : cs.reverse.dropWhile (· == ';') = cs.reverse := by
    rw [List.dropWhile_eq_self_iff]
    intro hne heq
    rw [← List.head?_reverse, List.head?_eq_getElem?, List.getElem?_eq_getElem hne] at h
    exact h (congrArg some (beq_iff_eq.mp heq))
  rw [dropSemicolons, hreverse, List.reverse_reverse]

/-- What was removed are semicolons. -/
theorem exists_eq_dropSemicolons (cs : List Char) :
    ∃ n, cs = dropSemicolons cs ++ List.replicate n ';' := by
  obtain ⟨d, hd, hback⟩ := Text.exists_dropWhile_eq (· == ';') cs.reverse
  refine ⟨d.length, ?_⟩
  have hsame : d = List.replicate d.length ';' :=
    List.eq_replicate_of_mem fun c hc => beq_iff_eq.mp (hd c hc)
  rw [← List.reverse_replicate, ← hsame, dropSemicolons, ← List.reverse_append, ← hback,
    List.reverse_reverse]

theorem toList_pathOf (entry : String) : (pathOf entry).toList =
    Text.strip Text.isBlank (dropSemicolons (dropUse (Text.strip Text.isBlank entry.toList))) := by
  rw [pathOf, importPath, String.toList_ofList, Text.toList_trim]

/-- What one pass leaves has no blanks around it. -/
theorem trim_pathOf (entry : String) : Text.trim (pathOf entry) = pathOf entry := by
  rw [← String.toList_inj, Text.toList_trim, toList_pathOf,
    (Text.bare_strip Text.isBlank _).strip_eq]

/-- **Every entry** is a spelling of what one pass leaves of it. -/
theorem spelled_pathOf (entry : String) : Spelled (pathOf entry) entry := by
  -- one part of the spelling for each step of the pass, from the outside in
  obtain ⟨a, d, ha, hd, hentry⟩ := Text.exists_strip_surrounded Text.isBlank entry.toList
  obtain ⟨m, hwords⟩ := exists_eq_dropUse (Text.strip Text.isBlank entry.toList)
  obtain ⟨n, hsemicolons⟩ := exists_eq_dropSemicolons (dropUse (Text.strip Text.isBlank entry.toList))
  obtain ⟨b, c, hb, hc, hcore⟩ := Text.exists_strip_surrounded Text.isBlank
    (dropSemicolons (dropUse (Text.strip Text.isBlank entry.toList)))
  refine ⟨a, b, c, d, m, n, ha, hb, hc, hd, ?_⟩
  have hmiddle : Text.strip Text.isBlank entry.toList =
      useWords m ++ b ++ (pathOf entry).toList ++ (c ++ List.replicate n ';') := by
    rw [toList_pathOf]
    conv_lhs => rw [hwords, hsemicolons, hcore]
    simp only [List.append_assoc]
  rw [← hmiddle]
  exact hentry

/-! ### Spellings of a path -/

section Spellings

variable {p : String} (hp : IsPath p)
include hp

theorem IsPath.toList_ne_nil : p.toList ≠ [] :=
  fun hnil => hp.ne_empty (String.toList_eq_nil_iff.mp hnil)

/-- A path begins with something that is not blank. -/
theorem IsPath.head?_of_mem {c : Char} (hc : p.toList.head? = some c) : Text.isBlank c = false :=
  (Text.bare_of_trim_eq hp.trim_eq).head c hc

/-- It ends in something that is neither blank nor a semicolon. -/
theorem IsPath.getLast?_of_mem {c : Char} (hc : p.toList.getLast? = some c) :
    Text.isBlank c = false ∧ c ≠ ';' := by
  refine ⟨(Text.bare_of_trim_eq hp.trim_eq).last c hc, ?_⟩
  rintro rfl
  exact hp.semicolon_not_suffix (List.singleton_suffix_iff_getLast?_eq_some.mpr hc)

/-- **A path goes on with blanks and semicolons**, and does not begin with the word even then. -/
theorem IsPath.use_not_prefix_append {rest : List Char}
    (hrest : ∀ c ∈ rest, Text.isBlank c = true ∨ c = ';') : ¬ useWord <+: p.toList ++ rest := by
  intro h
  rcases List.prefix_or_prefix_of_prefix h (List.prefix_append p.toList rest) with h' | h'
  · exact hp.use_not_prefix h'
  · -- the path is the beginning of the word, so what follows has a letter of it
    have hinits : p.toList ∈ useWord.inits := (List.mem_inits _ _).mpr h'
    have hletters : ∀ c ∈ rest, c ∉ ['s', 'e'] := by
      intro c hc hletter
      rcases hrest c hc with hblank | rfl
      · rcases List.mem_pair.mp hletter with rfl | rfl <;> exact absurd hblank (by decide)
      · exact absurd hletter (by decide)
    obtain ⟨after, hafter⟩ := h
    simp only [useWord, List.inits, List.map_cons, List.map_nil, List.mem_cons, List.not_mem_nil,
      or_false] at hinits
    rcases hinits with hnil | hu | hus | huse | hword
    · exact hp.toList_ne_nil hnil
    · rw [hu] at hafter
      have hrest' : rest = 's' :: 'e' :: ' ' :: after := (List.cons.inj hafter).2.symm
      exact hletters 's' (hrest' ▸ List.mem_cons_self) (by decide)
    · rw [hus] at hafter
      have hrest' : rest = 'e' :: ' ' :: after :=
        (List.cons.inj (List.cons.inj hafter).2).2.symm
      exact hletters 'e' (hrest' ▸ List.mem_cons_self) (by decide)
    · exact hp.ne_use (String.toList_inj.mp huse)
    · exact hp.use_not_prefix (hword ▸ List.prefix_rfl)

/-- **One pass** through a spelling whose ends have been trimmed already leaves the path. -/
theorem IsPath.pass_eq {b c : List Char} (hb : Blanks b) (hc : Blanks c) (m n : Nat) :
    Text.strip Text.isBlank (dropSemicolons (dropUse
      (useWords m ++ b ++ p.toList ++ (c ++ List.replicate n ';')))) = p.toList := by
  -- behind the words nothing else looks like one
  have hword : ¬ useWord <+: b ++ p.toList ++ (c ++ List.replicate n ';') := by
    cases b with
    | nil =>
      refine hp.use_not_prefix_append fun x hx => ?_
      rcases List.mem_append.mp hx with hx | hx
      · exact .inl (hc x hx)
      · exact .inr (List.eq_of_mem_replicate hx)
    | cons x b =>
      rintro ⟨after, hafter⟩
      have hx : 'u' = x := (List.cons.inj hafter).1
      exact absurd (hb x List.mem_cons_self) (hx ▸ by decide)
  -- in front of the semicolons there is no other one
  have hlast : (b ++ p.toList ++ c).getLast? ≠ some ';' := by
    intro h
    by_cases hnil : c = []
    · rw [hnil, List.append_nil, List.getLast?_append_of_ne_nil _ hp.toList_ne_nil] at h
      exact (hp.getLast?_of_mem h).2 rfl
    · rw [List.getLast?_append_of_ne_nil _ hnil] at h
      exact absurd (hc ';' (List.mem_of_getLast? h)) (by decide)
  calc Text.strip Text.isBlank (dropSemicolons (dropUse
        (useWords m ++ b ++ p.toList ++ (c ++ List.replicate n ';'))))
      = Text.strip Text.isBlank (dropSemicolons (dropUse
          (b ++ p.toList ++ (c ++ List.replicate n ';')))) := by
        rw [List.append_assoc (useWords m), List.append_assoc (useWords m), dropUse_useWords,
          ← List.append_assoc]
    _ = Text.strip Text.isBlank (dropSemicolons (b ++ p.toList ++ c)) := by
        rw [dropUse_eq_self hword, ← List.append_assoc, dropSemicolons_append]
    _ = Text.strip Text.isBlank p.toList := by
        rw [dropSemicolons_eq_self hlast, Text.strip_surrounded hb hc]
    _ = p.toList := (Text.bare_of_trim_eq hp.trim_eq).strip_eq

/-- **A spelling is bare** if blanks stand in it only behind words and in front of semicolons. -/
theorem IsPath.bare_spelling {b c : List Char} {m n : Nat} (hb : m = 0 → b = [])
    (hc : n = 0 → c = []) :
    Text.Bare Text.isBlank (useWords m ++ b ++ p.toList ++ (c ++ List.replicate n ';')) where
  head := by
    intro x hx
    cases m with
    | zero =>
      -- without words, the path is what comes first
      have hfront : useWords 0 ++ b = [] := by
        rw [hb rfl]
        rfl
      rw [hfront, List.nil_append, List.head?_append_of_ne_nil _ hp.toList_ne_nil] at hx
      exact hp.head?_of_mem hx
    | succ m =>
      rw [useWords_succ] at hx
      have hu : 'u' = x := Option.some.inj hx
      rw [← hu]
      decide
  last := by
    intro x hx
    cases n with
    | zero =>
      -- without semicolons, the path is what comes last
      have hback : c ++ List.replicate 0 ';' = [] := by
        rw [hc rfl]
        rfl
      rw [hback, List.append_nil, List.getLast?_append_of_ne_nil _ hp.toList_ne_nil] at hx
      exact (hp.getLast?_of_mem hx).1
    | succ n =>
      rw [List.replicate_succ', ← List.append_assoc, ← List.append_assoc,
        List.getLast?_concat] at hx
      rw [← Option.some.inj hx]
      decide

/-- **A spelling has its path.** -/
theorem pathOf_eq_of_spelled {entry : String} (h : Spelled p entry) : pathOf entry = p := by
  obtain ⟨a, b, c, d, m, n, ha, hb, hc, hd, hentry⟩ := h
  -- without words, the blanks before the path are those at the beginning
  obtain ⟨a', b', ha', hb', hfront, hb₀⟩ : ∃ a' b', Blanks a' ∧ Blanks b' ∧
      a ++ (useWords m ++ b) = a' ++ (useWords m ++ b') ∧ (m = 0 → b' = []) := by
    cases m with
    | zero =>
      refine ⟨a ++ b, [], fun x hx => ?_, fun _ hx => absurd hx List.not_mem_nil, ?_, fun _ => rfl⟩
      · exact (List.mem_append.mp hx).elim (ha x) (hb x)
      · exact (List.append_nil _).symm
    | succ m => exact ⟨a, b, ha, hb, rfl, nofun⟩
  -- without semicolons, the blanks behind the path are those at the end
  obtain ⟨c', d', hc', hd', hback, hc₀⟩ : ∃ c' d', Blanks c' ∧ Blanks d' ∧
      c ++ List.replicate n ';' ++ d = c' ++ List.replicate n ';' ++ d' ∧ (n = 0 → c' = []) := by
    cases n with
    | zero =>
      refine ⟨[], c ++ d, fun _ hx => absurd hx List.not_mem_nil, fun x hx => ?_, ?_, fun _ => rfl⟩
      · exact (List.mem_append.mp hx).elim (hc x) (hd x)
      · rw [List.replicate_zero, List.append_nil, List.nil_append, List.nil_append]
    | succ n => exact ⟨c, d, hc, hd, rfl, nofun⟩
  have hspelling : entry.toList =
      a' ++ (useWords m ++ b' ++ p.toList ++ (c' ++ List.replicate n ';')) ++ d' := by
    calc entry.toList
        = a ++ (useWords m ++ b) ++ p.toList ++ (c ++ List.replicate n ';' ++ d) := by
          rw [hentry]
          simp only [List.append_assoc]
      _ = a' ++ (useWords m ++ b') ++ p.toList ++ (c' ++ List.replicate n ';' ++ d') := by
          rw [hfront, hback]
      _ = _ := by simp only [List.append_assoc]
  rw [← String.toList_inj, toList_pathOf, hspelling, Text.strip_surrounded ha' hd',
    (hp.bare_spelling hb₀ hc₀).strip_eq, hp.pass_eq hb' hc']

/-- **One pass finds a path** exactly in its spellings. -/
theorem pathOf_eq_iff_spelled {entry : String} : pathOf entry = p ↔ Spelled p entry := by
  refine ⟨?_, pathOf_eq_of_spelled hp⟩
  rintro rfl
  exact spelled_pathOf entry

end Spellings

/-! ### The paths of a table -/

/-- Logging is imported by a path. -/
theorem isPath_logging : IsPath "tracing::info" where
  ne_empty := by decide
  trim_eq := by decide
  use_not_prefix := by decide
  semicolon_not_suffix := by decide
  ne_use := by decide

theorem mem_paths {t : Table} {p : String} : p ∈ paths t ↔
    (t.logging = true ∧ p = "tracing::info") ∨ ∃ entry ∈ t.imports, pathOf entry = p := by
  rw [paths, List.mem_eraseDups, List.mem_append, List.mem_map]
  refine or_congr ?_ Iff.rfl
  split
  · next h => rw [List.mem_singleton, and_iff_right h]
  · next h => simp only [h, Bool.false_eq_true, false_and, List.not_mem_nil]

/-- No path of a table has blanks around it. -/
theorem trim_eq_of_mem_paths {t : Table} {p : String} (h : p ∈ paths t) : Text.trim p = p := by
  rcases mem_paths.mp h with ⟨-, rfl⟩ | ⟨entry, -, rfl⟩
  · exact isPath_logging.trim_eq
  · exact trim_pathOf entry

/-- **A path is imported** if logging needs it, or if some entry spells it. -/
theorem IsPath.mem_paths_iff {t : Table} {p : String} (hp : IsPath p) : p ∈ paths t ↔
    (t.logging = true ∧ p = "tracing::info") ∨ ∃ entry ∈ t.imports, Spelled p entry := by
  rw [mem_paths]
  simp only [pathOf_eq_iff_spelled hp]

/-- **All that is imported are paths** exactly if all entries spell one. -/
theorem forall_isPath_iff {t : Table} : (∀ p ∈ paths t, IsPath p) ↔
    ∀ entry ∈ t.imports, ∃ p, IsPath p ∧ Spelled p entry := by
  constructor
  · intro h entry hentry
    -- what one pass leaves of an entry is listed, so it is a path
    exact ⟨pathOf entry, h _ (mem_paths.mpr (.inr ⟨entry, hentry, rfl⟩)), spelled_pathOf entry⟩
  · intro h p hmem
    rcases mem_paths.mp hmem with ⟨-, rfl⟩ | ⟨entry, hentry, rfl⟩
    · exact isPath_logging
    · obtain ⟨p, hp, hspelled⟩ := h entry hentry
      rw [pathOf_eq_of_spelled hp hspelled]
      exact hp

/-! ### The lines of a source -/

/-- **The statements** that import some paths, behind an empty line if there are any. -/
def statements : List String → List String
  | [] => []
  | ps => "" :: ps.map fun p => "use " ++ p ++ ";"

/-- The lines above the imports. -/
def opening (h : Blueprint.Header) : List String :=
  [Target.banner] ++
  (match h.digest with
    | some digest => ["// Source: " ++ digest]
    | none => []) ++
  ["//", "// Module: " ++ h.package]

/-- The lines below the imports. -/
def body (b : Blueprint) : List String :=
  constants b.states ++ constructor b.constructor ++ machineType b.machine ++
    rejectionType b.machine ++ lookup b.lookup ++ b.transitions.flatMap transition

/-- A source is what is above its imports, the imports, and what is below. -/
theorem lines_eq_opening (b : Blueprint) :
    lines b = opening b.header ++ statements (importPaths b.header.imports) ++ body b := by
  have hheader : header b.header =
      opening b.header ++ statements (importPaths b.header.imports) := by
    rw [header]
    cases importPaths b.header.imports with
    | nil => rfl
    | cons p ps => rfl
  rw [lines, hheader, body]
  simp only [List.append_assoc]

/-- **Rendering** gives the lines of the source, if its names are in order. -/
theorem render_eq_ok_iff {b : Blueprint} {text : String} : render b = .ok text ↔
    Target.checkNames .rust (declarations b) (uses b) = .ok () ∧ text = Text.lines (lines b) := by
  rw [render_eq]
  cases Target.checkNames .rust (declarations b) (uses b) with
  | error fault => exact ⟨nofun, fun h => absurd h.1 nofun⟩
  | ok _ => exact ⟨fun h => ⟨rfl, (Except.ok.inj h).symm⟩, fun h => h.2 ▸ rfl⟩

end RustSource

/-! ### Sources with imports -/

/-- A switch is drafted, whatever it imports. -/
theorem Generator.exists_draft_rust (imports : List String)
    (h : ∀ path ∈ imports, Text.isVoid path = false) : ∃ above below,
    (Generator.mk .rust .none none).draft (Table.importing imports) = .ok (Text.lines
      (above ++ RustSource.statements (RustSource.paths (Table.importing imports)) ++ below)) := by
  have hwf := Table.wellFormed_importing h
  have hs := Table.states_importing imports
  -- names are in order whatever is imported
  have hnames : Target.checkNames .rust
      (RustSource.declarations (Blueprint.direct (Table.importing []) Table.importingStates))
      (RustSource.uses (Blueprint.direct (Table.importing []) Table.importingStates)) = .ok () := by
    decide +kernel
  let b := Blueprint.direct (Table.importing imports) Table.importingStates
  have hb : RustSource.importPaths b.header.imports =
      RustSource.paths (Table.importing imports) := RustSource.importPaths_importsOf _
  refine ⟨RustSource.opening b.header, RustSource.body b, ?_⟩
  rw [← hb, ← RustSource.lines_eq_opening]
  exact draft_eq_ok_iff_render.mpr
    ⟨hwf, _, hs, RustSource.render_eq_ok_iff.mpr ⟨hnames, rfl⟩⟩

/-- **The imports of a source**: between the lines of the same source without imports stand the
statements for the paths of the table.  No path is repeated, and none has blanks around it.  A path
is among them exactly if logging needs it or some entry spells it, and nothing but paths is among
them exactly if every entry spells one. -/
theorem Generator.draft_imports_paths (g : Generator) (hg : g.target = .rust) (t : Table)
    (text : String) (h : g.draft t = .ok text) :
    (∃ bare above below, g.draft { t with imports := [] } = .ok bare ∧
      bare = Text.lines
        (above ++ RustSource.statements (RustSource.paths { t with imports := [] }) ++ below) ∧
      text = Text.lines (above ++ RustSource.statements (RustSource.paths t) ++ below)) ∧
    (RustSource.paths t).Nodup ∧ (∀ p ∈ RustSource.paths t, Text.trim p = p) ∧
    (∀ p, RustSource.IsPath p → (p ∈ RustSource.paths t ↔
      (t.logging = true ∧ p = "tracing::info") ∨
        ∃ entry ∈ t.imports, RustSource.Spelled p entry)) ∧
    ((∀ p ∈ RustSource.paths t, RustSource.IsPath p) ↔
      ∀ entry ∈ t.imports, ∃ p, RustSource.IsPath p ∧ RustSource.Spelled p entry) := by
  obtain ⟨hwf, s, hs, hrender⟩ := draft_eq_ok_iff_render.mp h
  rw [hg] at hrender
  obtain ⟨hnames, rfl⟩ := RustSource.render_eq_ok_iff.mp hrender
  -- the two blueprints differ in the imports of their headers only
  let u : Table := { t with imports := [] }
  let b := (Blueprint.direct t s).withDigest g.digest
  let c := (Blueprint.direct u s).withDigest g.digest
  have hbare : g.draft u = .ok (Text.lines (RustSource.lines c)) := by
    refine draft_eq_ok_iff_render.mpr ⟨hwf.withoutImports, s, hs, ?_⟩
    rw [hg]
    exact RustSource.render_eq_ok_iff.mpr ⟨hnames, rfl⟩
  have hb : RustSource.importPaths b.header.imports = RustSource.paths t :=
    RustSource.importPaths_importsOf t
  have hc : RustSource.importPaths c.header.imports = RustSource.paths u :=
    RustSource.importPaths_importsOf u
  refine ⟨⟨_, RustSource.opening b.header, RustSource.body b, hbare, ?_, ?_⟩, nodup_eraseDups _,
    fun p hp => RustSource.trim_eq_of_mem_paths hp, fun p hp => hp.mem_paths_iff,
    RustSource.forall_isPath_iff⟩
  · rw [RustSource.lines_eq_opening, hc]
    rfl
  · rw [← hb]
    exact congrArg Text.lines (RustSource.lines_eq_opening b)

/-- A switch that imports one path under three spellings, and logging once more. -/
theorem Generator.draft_imports_paths_importing :
    ∃ text, (Generator.mk .rust .none none).draft (Table.importing
        ["std::fmt", " use use  std::fmt ;;", "std::fmt;", "use tracing::info;"]) = .ok text ∧
      RustSource.paths (Table.importing
        ["std::fmt", " use use  std::fmt ;;", "std::fmt;", "use tracing::info;"]) =
        ["tracing::info", "std::fmt"] ∧
      ∃ above below, text = Text.lines
        (above ++ ["", "use tracing::info;", "use std::fmt;"] ++ below) := by
  obtain ⟨_, _, htext⟩ := exists_draft_rust
    ["std::fmt", " use use  std::fmt ;;", "std::fmt;", "use tracing::info;"] (by decide)
  have hpaths : RustSource.paths (Table.importing
      ["std::fmt", " use use  std::fmt ;;", "std::fmt;", "use tracing::info;"]) =
      ["tracing::info", "std::fmt"] := by
    decide +kernel
  obtain ⟨⟨-, above, below, -, -, hlines⟩, -⟩ :=
    draft_imports_paths (Generator.mk .rust .none none) rfl _ _ htext
  rw [hpaths] at hlines
  exact ⟨_, htext, hpaths, above, below, hlines⟩

/-- **Semicolons are left over** if there is a blank between them: the two entries of this switch
are one path to an author, but two statements are printed, and the second is of no path. -/
theorem Generator.draft_leaves_semicolon :
    (Table.importing ["std::fmt", "std::fmt; ;"]).validate = .ok () ∧
      (∃ above below, (Generator.mk .rust .none none).draft
        (Table.importing ["std::fmt", "std::fmt; ;"]) = .ok (Text.lines (above ++
          ["", "use tracing::info;", "use std::fmt;", "use std::fmt;;"] ++ below))) ∧
      "std::fmt;" ∈ RustSource.paths (Table.importing ["std::fmt", "std::fmt; ;"]) ∧
      [';'] <:+ "std::fmt;".toList := by
  have hpaths : RustSource.paths (Table.importing ["std::fmt", "std::fmt; ;"]) =
      ["tracing::info", "std::fmt", "std::fmt;"] := by
    decide +kernel
  obtain ⟨above, below, htext⟩ :=
    exists_draft_rust ["std::fmt", "std::fmt; ;"] (by decide)
  rw [hpaths] at htext
  exact ⟨by decide, ⟨above, below, htext⟩, hpaths ▸ by decide, by decide⟩

end Automaton
