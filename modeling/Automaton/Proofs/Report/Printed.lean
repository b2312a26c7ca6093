import Automaton.Proofs.Acceptance
import Automaton.Proofs.Document.Json.Numerals
import Automaton.Proofs.Table.Written
import Automaton.Proofs.Text.Delimited

/-!
# What commands print

A description of an accepted table is its summary, and a check of it prints its findings, on every
host that has loaded the table (`Table.inspected`, `Table.checked`), and there are such hosts for
every table (`Table.load_ofTable`).  What can be read off the text is another matter, and the
subject of this module.

* **A summary as a document** is JSON, and denotes the document that was put together
  (`Report.writes_summary`).  Texts can always be spelled, so this is about numbers: those in a
  summary are counts and a ratio, and both are numerals.
* **A summary as a page** has the lines that were put together (`Report.split_page`).  Names could
  break lines, but those of an accepted table are words.
* **Findings** list imports, too, and these may be any texts.  So an import takes as many lines as
  it has, and everything else is a line for a line (`Report.split_findings`).
-/

namespace Automaton

/-! ### On every host -/

/-- **Inspection prints a text** about a table, and nothing else, in a form: on every host that has
loaded the table. -/
def Table.Inspected (t : Table) (form : Report.Form) (text : String) : Prop :=
  ∀ (σ : Type) (h : Host (StateM σ)) (settings : Settings) (table : Option String) (d d' : σ)
    (l : Table.Loaded), (Table.load h (table.getD settings.generation.table)).run d = (.ok l, d') →
      l.table = t → ((h.inspect settings table form).run d).1 = ⟨text, .ok ()⟩

/-- **A check is content** with a table, and what it prints has a property: on every host that has
loaded the table. -/
def Table.Checked (t : Table) (p : String → Prop) : Prop :=
  ∀ (σ : Type) (h : Host (StateM σ)) (file : String) (d d' : σ) (l : Table.Loaded),
    (Table.load h file).run d = (.ok l, d') → l.table = t →
      ∃ text, ((h.validate file).run d).1 = ⟨text, .ok ()⟩ ∧ p text

/-- **An accepted table is described** by its summary. -/
theorem Table.inspected {t : Table} {g : Graph} (h : t.validate = .ok ())
    (hg : Graph.ofTable t = .ok g) (form : Report.Form) :
    t.Inspected form (Report.summary form t g) := by
  rintro σ host settings table d d' l hload rfl
  rw [Host.response_inspect form hload, Host.summaryOf_of_accepted form h hg]

/-- A loaded table comes with the digest of some text. -/
theorem Table.exists_digest_of_load {σ : Type} {h : Host (StateM σ)} {file : String} {d d' : σ}
    {l : Table.Loaded} (hload : (Table.load h file).run d = (.ok l, d')) :
    ∃ bytes, l.digest = textDigest bytes := by
  cases hread : (h.readText file).run d with
  | mk read d₁ =>
    rw [Table.load, run_bind_eq hread] at hload
    cases read with
    | error f => cases congrArg Prod.fst hload
    | ok text =>
      have hloaded : Loaded.ofText file text = .ok l := congrArg Prod.fst hload
      -- a text that could be read is decoded, and its digest is taken of its bytes
      cases htable : Table.ofText (Format.ofPath file) text with
      | error f =>
        rw [Loaded.ofText, htable] at hloaded
        cases hloaded
      | ok table =>
        rw [Loaded.ofText, htable] at hloaded
        exact ⟨_, congrArg Loaded.digest (Except.ok.inj hloaded).symm⟩

/-- **A check of an accepted table** prints what it finds. -/
theorem Table.checked {t : Table} {p : String → Prop} (h : t.validate = .ok ())
    (hp : ∀ file bytes, p (Report.findings file (textDigest bytes) t).1) : t.Checked p := by
  rintro σ host file d d' l hload rfl
  obtain ⟨bytes, hdigest⟩ := exists_digest_of_load hload
  refine ⟨_, ?_, hp file bytes⟩
  rw [Host.response_validate hload, Report.findings_of_accepted _ _ h, hdigest]

/-- A tree with one file, in which a table is written with all of its fields. -/
def FileTree.ofTable (t : Table) : FileTree :=
  ⟨Catalog.ofList [("table.json", .file (Document.Json.compact t.toDocument).toUTF8)]⟩

/-- **Every table is loaded** by some host. -/
theorem Table.load_ofTable (t : Table) : ∃ l d',
    (Table.load FileTree.quietHost "table.json").run (FileTree.ofTable t) = (.ok l, d') ∧
      l.table = t := by
  have hwrites : Document.Json.Writes t.toDocument (Document.Json.compact t.toDocument) :=
    t.printable_toDocument.spelling_compact.bare
  have htable : ofText .json (Document.Json.compact t.toDocument) = .ok t :=
    ofText_eq_ok_iff.mpr ⟨t.toDocument, Document.Json.read_of_writes hwrites,
      ofDocument_of_written t.written_toDocument hwrites.skippable⟩
  exact exists_load rfl (by decide) htable

namespace Report

/-! ### Documents -/

open Document.Json (Printable Writes)

theorem printable_ofNat (n : Nat) : Printable (.ofNat n) :=
  .number (Document.Json.numeral_toString n)

/-- **A summary can be printed**: all of its numbers are numerals. -/
theorem printable_summaryDocument (t : Table) (g : Graph) : Printable (summaryDocument t g) := by
  -- numbers are the only values that may be spelled wrong
  have hstats : Printable (statsDocument g.stats) := by
    refine .record ?_
    simp only [List.forall_mem_cons]
    exact ⟨.texts _, .texts _, .text _, printable_ofNat _, printable_ofNat _, printable_ofNat _,
      nofun⟩
  have hshape : Printable (shapeDocument g) := by
    refine .record ?_
    simp only [List.forall_mem_cons]
    exact ⟨.number (Decimal.numeral_ratio _ _), .boolean _, printable_ofNat _, .text _, nofun⟩
  have hnode : ∀ x, Printable (nodeDocument x) := by
    intro x
    refine .record ?_
    simp only [List.forall_mem_cons]
    exact ⟨.text _, .text _, printable_ofNat _, .text _, nofun⟩
  have hparam : ∀ p, Printable (paramDocument p) := by
    intro p
    refine .record ?_
    simp only [List.forall_mem_cons]
    exact ⟨.text _, .text _, nofun⟩
  have hevent : ∀ x, Printable (eventDocument x) := by
    rintro ⟨i, name, e⟩
    refine .record ?_
    simp only [List.forall_mem_cons]
    exact ⟨.text _, .text _, printable_ofNat _, .list (List.forall_mem_map.mpr fun p _ => hparam p),
      .texts _, nofun⟩
  refine .record ?_
  simp only [List.forall_mem_cons]
  exact ⟨hshape, .text _, .list (List.forall_mem_map.mpr fun x _ => hevent x), .boolean _, .text _,
    .text _, .text _, .list (List.forall_mem_map.mpr fun x _ => hnode x), hstats, nofun⟩

/-- **A summary as a document** is JSON. -/
theorem writes_summary (t : Table) (g : Graph) :
    Writes (summaryDocument t g) (summary .json t g) := by
  have hfeed : Document.Json.Blanks "\n".toList := fun c hc => List.mem_singleton.mp hc ▸ rfl
  have hvalue := (printable_summaryDocument t g).spelling_pretty 0
  have hentry := Document.Json.Spelling.entry Document.Json.blanks_nil hvalue hfeed
  rw [List.nil_append] at hentry
  rw [summary, Writes, String.toList_append, Document.Json.pretty]
  exact hentry

end Report

/-! ### Lines -/

/-- **A text of one line** holds no line feed. -/
def Text.OneLine (s : String) : Prop :=
  '\n' ∉ s.toList

instance (s : String) : Decidable (Text.OneLine s) :=
  inferInstanceAs (Decidable (¬ _))

namespace Text.OneLine

/-- Pieces of lines make a line. -/
theorem append {a b : String} (ha : OneLine a) (hb : OneLine b) : OneLine (a ++ b) := by
  rw [OneLine, String.toList_append, List.mem_append, not_or]
  exact ⟨ha, hb⟩

theorem of_isWord {s : String} (h : Identifier.IsWord s) : OneLine s :=
  h.notMem (by decide)

theorem toString (n : Nat) : OneLine (toString n) :=
  notMem_toString (by decide) n

theorem rule {c : Char} (hc : c ≠ '\n') (n : Nat) : OneLine (rule c n) := by
  rw [OneLine, Text.rule, String.toList_ofList]
  exact fun hmem => hc (List.eq_of_mem_replicate hmem).symm

theorem padRight {cell : String} (h : OneLine cell) (width : Nat) : OneLine (padRight width cell) :=
  h.append (rule (by decide) _)

theorem padLeft {cell : String} (h : OneLine cell) (width : Nat) : OneLine (padLeft width cell) :=
  (rule (by decide) _).append h

theorem width (w : Width) : OneLine w.name := by
  cases w <;> decide

/-- **Lines** are not split any further. -/
theorem flatMap_split {ls : List String} (h : ∀ l ∈ ls, OneLine l) : ls.flatMap split = ls := by
  induction ls with
  | nil => rfl
  | cons l ls ih =>
    obtain ⟨hline, hrest⟩ := List.forall_mem_cons.mp h
    rw [List.flatMap_cons, split_eq_singleton hline, ih hrest, List.singleton_append]

/-- Digits of any base hold no line feed. -/
theorem feed_notMem_toDigits {b : Nat} (hb : 1 < b) (n : Nat) : '\n' ∉ Nat.toDigits b n := by
  induction n using Nat.strongRecOn with
  | ind n ih =>
    rcases Nat.lt_or_ge n b with hlt | hge
    · rw [Nat.toDigits_of_lt_base hlt, List.mem_singleton]
      exact (Nat.digitChar_ne '\n' rfl).symm
    · rw [Nat.toDigits_of_base_le hb hge, List.mem_append, List.mem_singleton, not_or]
      exact ⟨ih (n / b) (Nat.div_lt_self (by omega) hb), (Nat.digitChar_ne '\n' rfl).symm⟩

/-- **A path is displayed** on one line. -/
theorem displayed (path : String) : OneLine (displayed path) := by
  have hchar : ∀ c, '\n' ∉ displayChar c := by
    intro c
    have hdigits : '\n' ∉ hexDigits c.toNat := feed_notMem_toDigits (by decide) _
    rw [displayChar]
    split_ifs with _ _ hfeed
    all_goals first
      | decide
      -- a character that stands for itself is none of those that are written as signs
      | exact fun hmem => hfeed (List.mem_singleton.mp hmem).symm
      | simp [hdigits]
  have hbody : '\n' ∉ path.toList.flatMap displayChar := fun hmem => by
    obtain ⟨c, -, hc⟩ := List.mem_flatMap.mp hmem
    exact hchar c hc
  rw [OneLine, Text.displayed, String.toList_ofList]
  simp [hbody]

/-- So is a digest. -/
theorem textDigest (bytes : ByteArray) : OneLine (textDigest bytes) := by
  have hbyte : ∀ b, '\n' ∉ hexByte b := by
    intro b
    simp [hexByte, (Nat.digitChar_ne '\n' rfl).symm]
  refine append (by decide) ?_
  rw [OneLine, String.toList_ofList]
  intro hmem
  obtain ⟨b, -, hb⟩ := List.mem_flatMap.mp hmem
  exact hbyte b hb

end Text.OneLine

section WellFormed

open Text (OneLine)

variable {t : Table} {s : States} (h : t.WellFormed)
include h

/-- **Names of states** of an accepted table are lines. -/
theorem Table.WellFormed.oneLine_reference {n : String} (hn : n ∈ t.references) : OneLine n :=
  .of_isWord (Identifier.isWord_of_valid (h.valid_of_mem_references hn))

/-- So is everything that is listed of an event. -/
theorem Table.WellFormed.oneLine_event {i : Nat} {name : String} {e : Event}
    (hx : (i, name, e) ∈ t.numberedEvents) :
    OneLine name ∧ OneLine (Text.joined ", " e.sources) ∧ OneLine e.destination := by
  have href : ∀ n ∈ e.states, OneLine n := fun n hn =>
    h.oneLine_reference (Table.mem_references_of_numberedEvents hx hn)
  have hwf := h.events_wellFormed _ (List.mem_of_getElem? (Table.mem_numberedEvents.mp hx))
  refine ⟨.of_isWord (Identifier.isWord_of_valid hwf.name_valid), ?_, ?_⟩
  · exact Text.notMem_joined (by decide) fun n hn => href n (List.mem_append_left _ hn)
  · exact href _ (List.mem_append_right _ (List.mem_singleton.mpr rfl))

variable (hs : States.ofTable t = some s)
include hs

/-- So are the names and the symbols of nodes. -/
theorem Graph.oneLine_node {x : Node} (hx : x ∈ (direct t s).states) :
    OneLine x.name ∧ OneLine x.symbol := by
  rw [states_direct] at hx
  have hnames := nodes_direct_map (t := t) (s := s) (f := Node.name) fun _ _ => rfl
  have hmem : x.name ∈ s.names := by
    rw [← names_nodesOf, ← hnames]
    exact List.mem_map.mpr ⟨x, hx, rfl⟩
  have href := (States.mem_names_ofTable hs).mp hmem
  -- the symbol is that of the name, and symbols of words are words
  have hsymbol : x.symbol = Symbol.ofState x.name :=
    Except.ok.inj ((Table.symbol_node hx).symm.trans (States.symbol_eq_ok hmem))
  rw [hsymbol]
  exact ⟨h.oneLine_reference href,
    .of_isWord (Symbol.isWord_ofState (h.valid_of_mem_references href))⟩

namespace Report

/-- **Every line of a page** is one line. -/
theorem oneLine_summaryLines : ∀ l ∈ summaryLines t (Graph.direct t s), OneLine l := by
  have hname : OneLine t.name := .of_isWord (Identifier.isWord_of_valid h.name_valid)
  have hpackage : OneLine t.packageName :=
    .of_isWord (Identifier.isWord_of_valid h.packageName_valid)
  have hinitial : OneLine (Graph.direct t s).stats.initial := by
    rw [Graph.initial_stats_direct]
    exact h.oneLine_reference ((States.mem_names_ofTable hs).mp (List.head_mem s.inhabited))
  have hshape : OneLine (Graph.direct t s).shape.title := by
    cases (Graph.direct t s).shape <;> decide
  have hcount : ∀ shown count, OneLine (countWithWidth shown count) := fun shown count =>
    ((((OneLine.toString shown).padRight 6).append (by decide)).append (.width _)).append
      (by decide)
  have hnode : ∀ x ∈ (Graph.direct t s).states,
      OneLine (stateRow (toString x.ordinal) x.name x.symbol x.place.name) := by
    intro x hx
    obtain ⟨hxname, hxsymbol⟩ := Graph.oneLine_node h hs hx
    have hplace : OneLine x.place.name := by cases x.place <;> decide
    refine Text.notMem_joined (by decide) ?_
    simp only [List.forall_mem_cons]
    exact ⟨(OneLine.toString _).padLeft _, hxname.padRight _, hxsymbol.padRight _,
      hplace.padRight _, nofun⟩
  have hevent : ∀ x ∈ t.numberedEvents, OneLine (eventRow (toString x.1) x.2.1
      (Text.joined ", " x.2.2.sources) x.2.2.destination) := by
    rintro ⟨i, name, e⟩ hx
    obtain ⟨hxname, hsources, hdest⟩ := h.oneLine_event hx
    refine Text.notMem_joined (by decide) ?_
    simp only [List.forall_mem_cons]
    exact ⟨(OneLine.toString _).padLeft _, hxname.padRight _, hsources.padRight _,
      hdest.padRight _, nofun⟩
  have htitle : OneLine ("State Machine " ++ t.name ++ " (package " ++ t.packageName ++ ")") :=
    ((((by decide : OneLine "State Machine ").append hname).append (by decide)).append
      hpackage).append (by decide)
  -- what remains is the same for all tables
  simp only [summaryLines, List.forall_mem_append, List.forall_mem_cons, List.forall_mem_map]
  exact ⟨⟨⟨⟨⟨htitle, by decide, by decide, by decide, .append (by decide) (hcount _ _),
    .append (by decide) (hcount _ _), .append (by decide) (.toString _),
    .append (by decide) hinitial, .append (by decide) hshape, by decide, by decide, by decide,
    by decide, by decide, nofun⟩, hnode⟩, by decide, by decide, by decide, by decide, by decide,
    nofun⟩, hevent⟩, by decide, nofun⟩

/-- Spaces, any number of them. -/
def spaces (n : Nat) : String :=
  String.ofList (List.replicate n ' ')

/-- **A summary as a page** has the lines that were put together. -/
theorem split_page : Text.split (summary .table t (Graph.direct t s)) =
    summaryLines t (Graph.direct t s) ++ [""] := by
  have hsplit := Text.split_lines_append (oneLine_summaryLines h hs) ""
  rwa [String.append_empty, Text.split_empty] at hsplit

end Report

end WellFormed

/-! ### Findings -/

namespace Report

open Text (OneLine)

/-- **The warning** about a state. -/
def warning (n : String) : String :=
  "   State '" ++ n ++ "' is never a destination"

/-- **The warnings** about states, under a title, or nothing if there are none. -/
def warnings (names : List String) : List String :=
  if names = [] then [] else "⚠️  Warnings:" :: names.map warning ++ [""]

/-- **A text warns about states**, in their order, between its lists and the last line.  Imports are
among the lists as they are, and they alone could hold a line that looks like a warning. -/
def Warns (t : Table) (names : List String) (text : String) : Prop :=
  ∃ above below, (∀ l ∈ above ++ below, ∀ n, l ≠ warning n) ∧ Text.split text =
    above ++ (t.imports.flatMap fun i => Text.split ("    - " ++ i)) ++ below ++ warnings names ++
      ["✅ Definition is valid!", ""]

/-- **A line of a list**: its first characters tell it from a warning. -/
structure Lists (l : String) : Prop where
  oneLine : OneLine l
  start : l.toList.take 4 ≠ [' ', ' ', ' ', 'S']

instance (l : String) : Decidable (Lists l) :=
  decidable_of_iff (OneLine l ∧ l.toList.take 4 ≠ [' ', ' ', ' ', 'S'])
    ⟨fun h => ⟨h.1, h.2⟩, fun h => ⟨h.oneLine, h.start⟩⟩

/-- It may go on with anything behind these characters. -/
theorem Lists.append {a b : String} (ha : Lists a) (hlength : 4 ≤ a.toList.length)
    (hb : OneLine b) : Lists (a ++ b) := by
  refine ⟨ha.oneLine.append hb, ?_⟩
  rw [String.toList_append, List.take_append_of_le_length hlength]
  exact ha.start

theorem Lists.ne_warning {l : String} (h : Lists l) (n : String) : l ≠ warning n := by
  rintro rfl
  exact h.start (by simp [warning])

/-- **Warnings** are about the nodes that are never entered. -/
theorem warningLines_eq (g : Graph) : warningLines g = warnings ((unreachable g).map Node.name) := by
  rw [warningLines, warnings]
  cases unreachable g with
  | nil => rfl
  | cons x xs =>
    rw [if_neg (by simp), List.map_map]
    rfl

/-- What is listed above the imports. -/
def aboveImports (file digest : String) (t : Table) : List String :=
  [ "📋 Definition Validation Report", Text.rule '━' 43, "File: " ++ Text.displayed file,
    "Digest: " ++ digest, "", "Machine:", "  Name: " ++ t.name, "  Package: " ++ t.packageName,
    "  Logging: " ++ (if t.logging then "yes" else "no"),
    "  Imports: " ++ toString t.imports.length ]

theorem declarationLines_eq (file digest : String) (t : Table) : declarationLines file digest t =
    aboveImports file digest t ++ t.imports.map ("    - " ++ ·) ++ [""] := rfl

/-- Counts are listed with their widths. -/
theorem lists_countLine {what : String} (h : Lists what) (hlength : 4 ≤ what.toList.length)
    (n : Nat) : Lists (countLine what n) := by
  have hcount : countLine what n =
      what ++ (": " ++ (toString n ++ (" (" ++ ((Width.forCount n).name ++ ")")))) := by
    simp only [← String.append_assoc]
    rfl
  rw [hcount]
  exact h.append hlength (.append (by decide) ((OneLine.toString n).append
    (.append (by decide) ((OneLine.width _).append (by decide)))))

section WellFormed

variable {t : Table} {s : States} (h : t.WellFormed)
include h

theorem lists_aboveImports (file : String) (bytes : ByteArray) :
    ∀ l ∈ aboveImports file (textDigest bytes) t, Lists l := by
  -- names are words, and all else is fixed, quoted, or a number
  have hname : OneLine t.name := .of_isWord (Identifier.isWord_of_valid h.name_valid)
  have hpackage : OneLine t.packageName :=
    .of_isWord (Identifier.isWord_of_valid h.packageName_valid)
  have hlogging : OneLine (if t.logging then "yes" else "no") := by
    cases t.logging <;> decide
  have hrule : Lists (Text.rule '━' 43) := ⟨.rule (by decide) _, by simp [Text.rule]⟩
  simp only [aboveImports, List.forall_mem_cons]
  exact ⟨by decide, hrule, .append (by decide) (by decide) (.displayed file),
    .append (by decide) (by decide) (.textDigest bytes), by decide, by decide,
    .append (by decide) (by decide) hname, .append (by decide) (by decide) hpackage,
    .append (by decide) (by decide) hlogging, .append (by decide) (by decide) (.toString _), nofun⟩

theorem lists_eventLines : ∀ l ∈ eventLines t, Lists l := by
  have hevent : ∀ x ∈ t.numberedEvents, Lists ("    " ++ Text.padLeft 3 (toString x.1) ++ " " ++
      x.2.1 ++ " [" ++ Text.joined ", " x.2.2.sources ++ "] -> " ++ x.2.2.destination) := by
    -- number, name, sources and destination, with fixed texts between them
    rintro ⟨i, name, e⟩ hx
    obtain ⟨hname, hsources, hdest⟩ := h.oneLine_event hx
    simp only [String.append_assoc]
    exact .append (by decide) (by decide) (((OneLine.toString i).padLeft 3).append
      (.append (by decide) (hname.append (.append (by decide) (hsources.append
        (.append (by decide) hdest))))))
  simp only [eventLines, List.forall_mem_append, List.forall_mem_cons, List.forall_mem_map]
  exact ⟨⟨lists_countLine (by decide) (by decide) _, hevent⟩, by decide, nofun⟩

variable (hs : States.ofTable t = some s)
include hs

theorem lists_stateLines : ∀ l ∈ stateLines s, Lists l := by
  have hstate : ∀ x ∈ s.numbered,
      Lists ("    " ++ Text.padLeft 3 (toString x.1) ++ " " ++ x.2) := by
    rintro ⟨i, n⟩ hx
    have hmem : n ∈ s.names := List.mem_of_getElem? (States.mem_numbered.mp hx)
    have hn : OneLine n := h.oneLine_reference ((States.mem_names_ofTable hs).mp hmem)
    simp only [String.append_assoc]
    exact .append (by decide) (by decide) (((OneLine.toString i).padLeft 3).append
      (.append (by decide) hn))
  simp only [stateLines, List.forall_mem_append, List.forall_mem_cons, List.forall_mem_map]
  exact ⟨⟨lists_countLine (by decide) (by decide) _, hstate⟩, by decide, nofun⟩

theorem oneLine_warnings :
    ∀ l ∈ warnings ((unreachable (Graph.direct t s)).map Node.name), OneLine l := by
  have hnode : ∀ x ∈ unreachable (Graph.direct t s), OneLine (warning x.name) := by
    intro x hx
    -- what is warned about are nodes, and their names are words
    have hstate : x ∈ (Graph.direct t s).states := by
      obtain ⟨i, -, hi⟩ := List.mem_filterMap.mp (List.mem_of_mem_filter hx)
      rw [Graph.states_direct]
      exact List.mem_of_getElem? hi
    exact ((by decide : OneLine "   State '").append (Graph.oneLine_node h hs hstate).1).append
      (by decide)
  rw [warnings]
  split
  · exact nofun
  · simp only [List.forall_mem_append, List.forall_mem_cons, List.forall_mem_map]
    exact ⟨⟨by decide, hnode⟩, by decide, nofun⟩

/-- Findings about an accepted table are lists, with the imports among them, and then warnings. -/
theorem exists_findings_eq (file : String) (bytes : ByteArray) :
    ∃ above below, (∀ l ∈ above, Lists l) ∧ (∀ l ∈ below, Lists l) ∧
      (findings file (textDigest bytes) t).1 =
        Text.lines (above ++ t.imports.map ("    - " ++ ·) ++ below ++
          warnings ((unreachable (Graph.direct t s)).map Node.name) ++
          ["✅ Definition is valid!"]) := by
  refine ⟨aboveImports file (textDigest bytes) t, [""] ++ stateLines s ++ eventLines t,
    lists_aboveImports h file bytes, ?_, ?_⟩
  · simp only [List.forall_mem_append]
    exact ⟨⟨by decide, lists_stateLines h hs⟩, lists_eventLines h⟩
  · have hstates : t.states = .ok s := by rw [Table.states, hs]
    -- none of the three faults of a check happens to a well formed table
    simp only [findings, Table.validate_eq_ok_iff_wellFormed.mpr h, hstates,
      Graph.ofTable_eq_ok hs, declarationLines_eq, warningLines_eq, List.append_assoc]

/-- **Findings about an accepted table** warn about the nodes that are never entered. -/
theorem warns_findings (file : String) (bytes : ByteArray) :
    Warns t ((unreachable (Graph.direct t s)).map Node.name)
      (findings file (textDigest bytes) t).1 := by
  obtain ⟨above, below, habove, hbelow, heq⟩ := exists_findings_eq h hs file bytes
  refine ⟨above, below, fun l hl n => ?_, ?_⟩
  · exact (List.forall_mem_append.mpr ⟨habove, hbelow⟩ l hl).ne_warning n
  · -- all lines but those of imports are lines as they are
    have hsplit := Text.split_lines_append_flatMap (above ++ t.imports.map ("    - " ++ ·) ++
      below ++ warnings ((unreachable (Graph.direct t s)).map Node.name) ++
      ["✅ Definition is valid!"]) ""
    rw [String.append_empty, ← heq] at hsplit
    have hlast : OneLine "✅ Definition is valid!" := by decide
    rw [hsplit, List.flatMap_append, List.flatMap_append, List.flatMap_append, List.flatMap_append,
      List.flatMap_map, OneLine.flatMap_split fun l hl => (habove l hl).oneLine,
      OneLine.flatMap_split fun l hl => (hbelow l hl).oneLine,
      OneLine.flatMap_split (oneLine_warnings h hs), List.flatMap_singleton,
      Text.split_eq_singleton hlast, Text.split_empty, List.append_assoc _ _ [""]]
    rfl

end WellFormed

end Report

end Automaton
