import Automaton.Generation
import Automaton.Proofs.Acceptance
import Automaton.Proofs.Blueprint.Lookup
import Automaton.Proofs.Graph.Agreement
import Automaton.Proofs.Table.Rearranged
import Automaton.Proofs.Target.GoLines

/-!
# Go sources can be read back

A Go source says all that matters about the table that it was made of.  Two tables that have one
source have the same names and the same events, up to the order of sources
(`Generator.draft_determines_table`).  Imports are the exception: they are written by the author
word for word, and two ways to write one import may come out the same.

## How a source is read

Two sources with one text have one body, line by line.  Each part of a body either has a fixed
length or ends with a line that does not occur within it, so the parts are the same as well
(`GoSource.read_body`).

Within a line, names are words, so they end where a character follows that is none of a word.  Types
are free, and what separates parameters is a comma, so a type may not contain one.

The order of a guard is that of ordinals, not that of sources, and repeated sources are dropped:
sources are read back as a set, through the symbols that are in the guard.
-/

namespace Automaton

open Identifier (IsWord)

namespace GoSource

/-! ### Reading the body -/

/-- A bracket closes the states, and it is not one of them. -/
theorem bracket_notMem_stateLines (c : Blueprint.Constants) : ")" ∉ stateLines c := by
  rw [stateLines]
  cases c.constants with
  | nil => exact List.not_mem_nil
  | cons first rest =>
    intro hmem
    rcases List.mem_cons.mp hmem with hmem | hmem
    · exact absurd (congrArg (·.toList.head?) hmem) (by simp)
    · obtain ⟨k, -, hk⟩ := List.mem_map.mp hmem
      exact absurd (congrArg (·.toList.head?) hk) (by simp)

/-- The line of a state in the lookup table. -/
def entryLine (x : Nat × String) : String :=
  "\t" ++ toString x.1 ++ ": " ++ Text.quote x.2 ++ ","

/-- **An entry** says which state it is for. -/
theorem name_eq_of_entryLine_eq {x y : Nat × String} (h : entryLine x = entryLine y) :
    x.2 = y.2 := by
  rw [entryLine, entryLine, String.append_left_inj] at h
  simp only [String.append_assoc] at h
  rw [String.append_right_inj] at h
  have hcolon : ∀ n : Nat, ':' ∉ (toString n).toList := Text.notMem_toString (by decide)
  obtain ⟨-, hquoted⟩ := Text.append_inj_of_notMem (hcolon _) (hcolon _) (by simp) (by simp) h
  exact Text.quote_inj ((String.append_right_inj _).mp hquoted)

/-- A brace closes the lookup table, and it is no entry. -/
theorem brace_notMem_entries (entries : List (Nat × String)) :
    "\x7d" ∉ entries.map entryLine := by
  intro hmem
  obtain ⟨x, -, hx⟩ := List.mem_map.mp hmem
  exact absurd (congrArg (·.toList.head?) hx) (by simp [entryLine])

/-- A method ends with a brace. -/
theorem transition_eq_dropLast (tr : Transition) :
    transition tr = (transition tr).dropLast ++ ["\x7d"] := by
  rw [transition]
  cases tr.log <;> rfl

/-- No other line of it is one, for no other line begins with a brace. -/
theorem brace_notMem_dropLast (tr : Transition) : "\x7d" ∉ (transition tr).dropLast := by
  have hhead : ∀ l ∈ (transition tr).dropLast, l.toList.head? ≠ some '\x7d' := by
    rw [transition]
    cases tr.log with
    | none => simp
    | some entry => simp [logLine]
  intro hmem
  exact hhead _ hmem (by decide)

/-- **A body is read** part by part: which machine it declares, which states it names, and the lines
of its methods. -/
theorem read_body {b c : Blueprint} (h : body b = body c) :
    b.machine.name = c.machine.name ∧
      b.lookup.entries.map Prod.snd = c.lookup.entries.map Prod.snd ∧
      List.Forall₂ (fun x y => transition x = transition y) b.transitions c.transitions := by
  -- constants end with a bracket, and constructor and type are as long in one source as in another
  obtain ⟨-, hrest⟩ := append_cons_inj (bracket_notMem_stateLines _) (bracket_notMem_stateLines _) h
  obtain ⟨-, hrest⟩ := List.append_inj hrest rfl
  obtain ⟨htype, hrest⟩ := List.append_inj hrest rfl
  have hname : "type " ++ b.machine.name ++ " struct \x7b" =
      "type " ++ c.machine.name ++ " struct \x7b" := Option.some.inj (congrArg (·[2]?) htype)
  rw [String.append_left_inj, String.append_right_inj] at hname
  -- the lookup table has three lines more than entries, and ends with a brace
  have hlookup : ∀ (l : Blueprint.Lookup) (after : List String), lookup l ++ after =
      (lookup l).take 3 ++ (l.entries.map entryLine ++ "\x7d" :: after) := by
    intro l after
    rw [lookup]
    simp only [List.append_assoc, List.cons_append, List.nil_append]
    rfl
  rw [hlookup, hlookup] at hrest
  obtain ⟨-, hrest⟩ := List.append_inj hrest rfl
  obtain ⟨hentries, hmethods⟩ :=
    append_cons_inj (brace_notMem_entries _) (brace_notMem_entries _) hrest
  refine ⟨hname, ?_, ?_⟩
  · exact map_eq_of_map_eq hentries fun x _ y _ hxy => name_eq_of_entryLine_eq hxy
  · exact forall₂_of_flatMap_eq transition_eq_dropLast brace_notMem_dropLast hmethods

/-! ### Reading a method -/

section Methods

variable {x y : Transition} (h : transition x = transition y)
include h

/-- **The comment** of a method says which event it is for and where the event leads. -/
theorem event_eq_of_transition_eq (hx : IsWord x.event) (hy : IsWord y.event) :
    x.event = y.event ∧ x.destination = y.destination := by
  -- the comment names the event and its destination, with a space behind the event
  have hline : "// " ++ x.event ++ " moves the machine to " ++ x.destination ++
        ". It fails without changing state when the" =
      "// " ++ y.event ++ " moves the machine to " ++ y.destination ++
        ". It fails without changing state when the" := Option.some.inj (congrArg (·[3]?) h)
  rw [String.append_left_inj] at hline
  simp only [String.append_assoc] at hline
  rw [String.append_right_inj] at hline
  have hspace : ∀ {event : String}, IsWord event → ' ' ∉ event.toList := fun hword =>
    hword.notMem (by decide)
  obtain ⟨hevent, hrest⟩ :=
    Text.append_inj_of_notMem (hspace hx) (hspace hy) (by simp) (by simp) hline
  exact ⟨hevent, (String.append_right_inj _).mp hrest⟩

/-- **The head** of a method says which parameters it takes. -/
theorem params_eq_of_transition_eq (hmachine : x.machine = y.machine) (hevent : x.event = y.event)
    (hx : ∀ p ∈ x.params, p.Legible) (hy : ∀ p ∈ y.params, p.Legible) : x.params = y.params := by
  have hline : "func (" ++ receiver ++ " *" ++ x.machine ++ ") " ++ x.event ++ "(" ++
        signature x.params ++ ") error \x7b" =
      "func (" ++ receiver ++ " *" ++ y.machine ++ ") " ++ y.event ++ "(" ++
        signature y.params ++ ") error \x7b" := Option.some.inj (congrArg (·[5]?) h)
  rw [hmachine, hevent, String.append_left_inj, String.append_right_inj] at hline
  -- neither names nor types contain commas, so the parts can be told
  have hpart : ∀ {params : List Param}, (∀ p ∈ params, p.Legible) →
      ∀ part ∈ params.map fun p => p.name ++ " " ++ p.type, part ≠ "" ∧ ',' ∉ part.toList := by
    intro params hparams part hpart
    obtain ⟨p, hp, rfl⟩ := List.mem_map.mp hpart
    have hcomma : ',' ∉ p.name.toList := (hparams p hp).name_isWord.notMem (by decide)
    refine ⟨by simp, ?_⟩
    simp [hcomma, (hparams p hp).type_comma]
  have hparts := Text.joined_inj (hpart hx) (hpart hy) hline
  refine eq_of_map_eq hparts fun p hp q hq hpq => ?_
  -- a name ends at the first space
  have hspace : ∀ {p : Param}, p.Legible → ' ' ∉ p.name.toList := fun hp =>
    hp.name_isWord.notMem (by decide)
  rw [String.append_assoc, String.append_assoc] at hpq
  obtain ⟨hname, htype⟩ := Text.append_inj_of_notMem (hspace (hx p hp)) (hspace (hy q hq))
    (by simp) (by simp) hpq
  rw [String.append_right_inj] at htype
  cases p
  cases q
  simp only at hname htype
  rw [hname, htype]

/-- **The case** of a method says which symbols are in its guard. -/
theorem guard_eq_of_transition_eq (hx : ∀ symbol ∈ x.guard, IsWord symbol ∧ symbol ≠ "")
    (hy : ∀ symbol ∈ y.guard, IsWord symbol ∧ symbol ≠ "") : x.guard = y.guard := by
  have hline : "\tcase " ++ Text.joined ", " x.guard ++ ":" =
      "\tcase " ++ Text.joined ", " y.guard ++ ":" := Option.some.inj (congrArg (·[7]?) h)
  rw [String.append_left_inj, String.append_right_inj] at hline
  have hpart : ∀ {guard : List String}, (∀ symbol ∈ guard, IsWord symbol ∧ symbol ≠ "") →
      ∀ symbol ∈ guard, symbol ≠ "" ∧ ',' ∉ symbol.toList := fun hguard symbol hsymbol =>
    ⟨(hguard symbol hsymbol).2, (hguard symbol hsymbol).1.notMem (by decide)⟩
  exact Text.joined_inj (hpart hx) (hpart hy) hline

/-- **The length** of a method says whether it logs. -/
theorem log_iff_of_transition_eq : x.log.isSome = y.log.isSome := by
  have hlength := congrArg List.length h
  rw [transition, transition] at hlength
  cases hlogx : x.log <;> cases hlogy : y.log
  · rfl
  · rw [hlogx, hlogy] at hlength
    exact absurd hlength (by simp)
  · rw [hlogx, hlogy] at hlength
    exact absurd hlength (by simp)
  · rfl

end Methods

/-- **Rendering** gives the lines of the source, if its names are in order. -/
theorem render_eq_ok_iff {b : Blueprint} {text : String} : render b = .ok text ↔
    Target.checkNames .go (declarations b) (uses b) = .ok () ∧ text = Text.lines (lines b) := by
  rw [render]
  cases hnames : Target.checkNames .go (declarations b) (uses b) with
  | error fault =>
    constructor
    · intro h
      exact absurd h nofun
    · rintro ⟨h, -⟩
      exact absurd h nofun
  | ok _ =>
    constructor
    · intro h
      exact ⟨rfl, (Except.ok.inj h).symm⟩
    · rintro ⟨-, rfl⟩
      rfl

end GoSource

/-! ### Tables that can be read -/

/-- **Plain types**: no type of a parameter contains a comma or a line feed. -/
def Table.PlainTypes (t : Table) : Prop :=
  ∀ entry ∈ t.events.entries, ∀ p ∈ entry.2.params, ',' ∉ p.type.toList ∧ '\n' ∉ p.type.toList

instance (t : Table) : Decidable t.PlainTypes :=
  inferInstanceAs (Decidable (∀ entry ∈ t.events.entries, ∀ p ∈ entry.2.params,
    ',' ∉ p.type.toList ∧ '\n' ∉ p.type.toList))

section Tables

variable {t : Table} {s : States} (h : t.WellFormed) (hs : States.ofTable t = some s)
  (hplain : t.PlainTypes)
include h hs hplain

/-- The transitions of a well formed table can be read. -/
theorem Transition.legible_direct {i : Nat} {name : String} {e : Event}
    (hentry : (name, e) ∈ t.events.entries) :
    (Transition.direct (Blueprint.settingOf t s) i name e).Legible := by
  -- names of a well formed table are words; only types need the assumption
  have he := h.events_wellFormed _ hentry
  have hdestination : Identifier.valid e.destination = true :=
    h.valid_of_mem_references (Table.mem_references.mpr ⟨name, e, hentry, .inr rfl⟩)
  exact
    { machine := Identifier.isWord_of_valid h.name_valid
      event := Identifier.isWord_of_valid he.name_valid
      eventSymbol := Symbol.isWord_ofEvent he.name_valid
      params := by
        intro p hp
        have hname := he.params_valid p hp
        exact
          { name_isWord := Identifier.isWord_of_valid hname
            name_ne_empty := by
              intro hempty
              rw [hempty, Identifier.valid_empty] at hname
              exact absurd hname Bool.false_ne_true
            type_comma := (hplain _ hentry p hp).1
            type_feed := (hplain _ hentry p hp).2 }
      guard := by
        intro symbol hsymbol
        obtain ⟨n, hn, rfl⟩ := List.mem_map.mp hsymbol
        have hmem : n ∈ t.references :=
          (States.mem_names_ofTable hs).mp (Transition.mem_accepted.mp hn).1
        exact ⟨Symbol.isWord_ofState (h.valid_of_mem_references hmem), by simp [Symbol.ofState]⟩
      destinationSymbol := Symbol.isWord_ofState hdestination
      destination := Identifier.isWord_of_valid hdestination
      log := by
        intro l hl
        obtain rfl := Transition.eq_logOf_of_log_direct hl
        constructor
        · intro f hf
          obtain ⟨p, hp, rfl⟩ := List.mem_map.mp hf
          exact Identifier.isWord_of_valid (he.params_valid p hp)
        · have hfeed : '\n' ∉ e.destination.toList :=
            (Identifier.isWord_of_valid hdestination).notMem (by decide)
          simp [Transition.logOf, hfeed] }

/-- **The blueprint of a well formed table** can be read. -/
theorem Blueprint.legible_direct : (Blueprint.direct t s).Legible where
  package := Identifier.isWord_of_valid h.packageName_valid
  constants := by
    intro c hc
    obtain ⟨i, n, hn, rfl⟩ := Blueprint.mem_constants.mp hc
    have hmem : n ∈ t.references := (States.mem_names_ofTable hs).mp (List.mem_of_getElem? hn)
    exact Symbol.isWord_ofState (h.valid_of_mem_references hmem)
  constructor_machine := Identifier.isWord_of_valid h.name_valid
  initialSymbol := by
    have hmem : s.initial ∈ t.references :=
      (States.mem_names_ofTable hs).mp (List.head_mem s.inhabited)
    exact Symbol.isWord_ofState (h.valid_of_mem_references hmem)
  machine := Identifier.isWord_of_valid h.name_valid
  lookup_machine := Identifier.isWord_of_valid h.name_valid
  entries := by
    rintro ⟨i, n⟩ hx
    have hn : n ∈ s.names := List.mem_of_getElem? (States.mem_numbered.mp hx)
    have hmem : n ∈ t.references := (States.mem_names_ofTable hs).mp hn
    exact Identifier.isWord_of_valid (h.valid_of_mem_references hmem)
  transitions := by
    intro tr htr
    obtain ⟨i, name, e, hentry, rfl⟩ := Blueprint.mem_transitions.mp htr
    exact Transition.legible_direct h hs hplain (List.mem_of_getElem? hentry)

end Tables

/-- A blueprint can be read with any origin. -/
theorem Blueprint.Legible.withDigest {b : Blueprint} (h : b.Legible) (digest : Option String) :
    (b.withDigest digest).Legible :=
  ⟨h.package, h.constants, h.constructor_machine, h.initialSymbol, h.machine, h.lookup_machine,
    h.entries, h.transitions⟩

/-! ### Reading tables -/

/-- **A draft** is the text of a blueprint whose table is well formed. -/
theorem Generator.draft_eq_ok_iff_render {g : Generator} {t : Table} {text : String} :
    g.draft t = .ok text ↔ t.WellFormed ∧ ∃ s, States.ofTable t = some s ∧
      g.target.render ((Blueprint.direct t s).withDigest g.digest) = .ok text := by
  rw [draft]
  constructor
  · intro h
    -- no blueprint, no draft
    cases hb : Blueprint.ofTable t with
    | error e =>
      rw [hb] at h
      exact absurd h nofun
    | ok b =>
      obtain ⟨hwf, s, hs, hdirect⟩ := Table.eq_direct_of_blueprint hb
      refine ⟨hwf, s, hs, ?_⟩
      rw [← hdirect]
      cases hrender : g.target.render (b.withDigest g.digest) with
      | error fault =>
        simp only [hb, bind, Except.bind, hrender] at h
        exact absurd h nofun
      | ok text' =>
        simp only [hb, bind, Except.bind, hrender] at h
        rw [← Except.ok.inj h]
  · rintro ⟨hwf, s, hs, hrender⟩
    rw [Blueprint.ofTable_eq_ok hwf hs]
    simp only [bind, Except.bind, hrender]
    rfl

/-- In Go, the text is a Go source. -/
theorem Generator.draft_eq_ok_iff {g : Generator} (hg : g.target = .go) {t : Table}
    {text : String} : g.draft t = .ok text ↔ t.WellFormed ∧ ∃ s, States.ofTable t = some s ∧
      GoSource.render ((Blueprint.direct t s).withDigest g.digest) = .ok text := by
  rw [draft_eq_ok_iff_render, hg]
  rfl

section TwoTables

variable {t u : Table} {s r : States} (ht : t.WellFormed) (hu : u.WellFormed)
  (hs : States.ofTable t = some s) (hr : States.ofTable u = some r)
  (hplain : t.PlainTypes) (hplain' : u.PlainTypes)
include ht hu hs hr hplain hplain'

/-- **Methods with the same lines** are of events that say the same, and log alike. -/
theorem Transition.respelled_of_transition_eq (hname : t.name = u.name) (hnames : s.names = r.names)
    {i j : Nat} {x y : String × Event} (hx : x ∈ t.events.entries) (hy : y ∈ u.events.entries)
    (heq : GoSource.transition (Transition.direct (Blueprint.settingOf t s) i x.1 x.2) =
      GoSource.transition (Transition.direct (Blueprint.settingOf u r) j y.1 y.2)) :
    Respelled x y ∧ t.logging = u.logging := by
  obtain ⟨name, e⟩ := x
  obtain ⟨name', f⟩ := y
  have hlegible := Transition.legible_direct ht hs hplain hx (i := i)
  have hlegible' := Transition.legible_direct hu hr hplain' hy (i := j)
  obtain ⟨hevent, hdestination⟩ :=
    GoSource.event_eq_of_transition_eq heq hlegible.event hlegible'.event
  have hparams := GoSource.params_eq_of_transition_eq heq hname hevent hlegible.params
    hlegible'.params
  have hguard := GoSource.guard_eq_of_transition_eq heq hlegible.guard hlegible'.guard
  have hlog := GoSource.log_iff_of_transition_eq heq
  refine ⟨⟨hevent, ⟨fun n => ?_, hdestination, hparams⟩⟩, ?_⟩
  · -- a source is in the guard under its symbol, and nothing else is
    have hknown : ∀ n, n ∈ e.sources ∨ n ∈ f.sources → n ∈ s.names := by
      rintro n (hn | hn)
      · exact Graph.known hs n (Table.mem_references.mpr ⟨name, e, hx, .inl hn⟩)
      · rw [hnames]
        exact Graph.known hr n (Table.mem_references.mpr ⟨name', f, hy, .inl hn⟩)
    constructor
    · intro hn
      have hmem := hknown n (.inl hn)
      have hin := (Graph.mem_guard_iff ht hs hmem i name e).mpr hn
      rw [hguard] at hin
      exact (Graph.mem_guard_iff hu hr (hnames ▸ hmem) j name' f).mp hin
    · intro hn
      have hmem := hknown n (.inr hn)
      have hin := (Graph.mem_guard_iff hu hr (hnames ▸ hmem) j name' f).mpr hn
      rw [← hguard] at hin
      exact (Graph.mem_guard_iff ht hs hmem i name e).mp hin
  · have hisSome : ∀ (v : Table) (q : States) (k : Nat) (n : String) (d : Event),
        (Transition.direct (Blueprint.settingOf v q) k n d).log.isSome = v.logging := by
      intro v q k n d
      show (if v.logging = true then some (Transition.logOf d) else none).isSome = v.logging
      cases v.logging <;> rfl
    rwa [hisSome, hisSome] at hlog

end TwoTables

/-! ### Two tables with one source -/

/-- The jobs once more: with sources in another order, and with quotes around what is imported. -/
def Table.jobsAgain : Table :=
  { Table.jobs with
    imports := ["\"time\""]
    events := Catalog.ofList
      [("fail", ⟨["pending", "running"], "failed", [⟨"code", "i32"⟩, ⟨"at", "u64"⟩]⟩),
       ("finish", ⟨["running", "running"], "done", []⟩),
       ("poll", ⟨["running"], "running", []⟩),
       ("start", ⟨["failed", "pending"], "running", [⟨"id", "u32"⟩]⟩)] }

/-- The states of the jobs. -/
def Table.jobStates : States :=
  ⟨["done", "failed", "pending", "running"], by decide, by decide⟩

/-- Both are drafted, and the drafts are the same. -/
theorem Generator.exists_draft_jobs : ∃ text,
    (Generator.mk .go .none none).draft Table.jobs = .ok text ∧
      (Generator.mk .go .none none).draft Table.jobsAgain = .ok text := by
  refine ⟨Text.lines (GoSource.lines (Blueprint.direct Table.jobs Table.jobStates)), ?_, ?_⟩
  · refine (draft_eq_ok_iff rfl).mpr ⟨?_, Table.jobStates, by decide, ?_⟩
    · exact Table.validate_eq_ok_iff_wellFormed.mp (by decide)
    · exact GoSource.render_eq_ok_iff.mpr ⟨by decide +kernel, rfl⟩
  · refine (draft_eq_ok_iff rfl).mpr ⟨?_, Table.jobStates, by decide, ?_⟩
    · exact Table.validate_eq_ok_iff_wellFormed.mp (by decide)
    · -- the blueprints differ in their imports only, and these are written alike
      have hblueprint : Blueprint.direct Table.jobsAgain Table.jobStates =
          { Blueprint.direct Table.jobs Table.jobStates with
            header := (Blueprint.direct Table.jobsAgain Table.jobStates).header } := by
        decide +kernel
      have hheader : GoSource.header (Blueprint.direct Table.jobs Table.jobStates).header =
          GoSource.header (Blueprint.direct Table.jobsAgain Table.jobStates).header := by
        decide +kernel
      refine GoSource.render_eq_ok_iff.mpr ⟨by decide +kernel, congrArg Text.lines ?_⟩
      show GoSource.lines (Blueprint.direct Table.jobs Table.jobStates) =
        GoSource.lines (Blueprint.direct Table.jobsAgain Table.jobStates)
      rw [hblueprint, GoSource.lines, GoSource.lines, hheader]

/-! ### The table of a source -/

/-- **A source determines its table** up to imports and the order of sources.  If two tables have
one source in Go, and no type of a parameter contains a comma or a line feed, then their machines
and their packages have the same names, both are logged or none is, and they have the same events:
each leads to the same state, with the same parameters, from the same set of states. -/
theorem Generator.draft_determines_table (g : Generator) (hg : g.target = .go) (t u : Table)
    (text : String) (ht : g.draft t = .ok text) (hu : g.draft u = .ok text) (hplain : t.PlainTypes)
    (hplain' : u.PlainTypes) :
    t.name = u.name ∧ t.packageName = u.packageName ∧ t.logging = u.logging ∧
      List.Forall₂ Respelled t.events.entries u.events.entries := by
  obtain ⟨htwf, s, hs, htrender⟩ := (draft_eq_ok_iff hg).mp ht
  obtain ⟨huwf, r, hr, hurender⟩ := (draft_eq_ok_iff hg).mp hu
  have hlegible := (Blueprint.legible_direct htwf hs hplain).withDigest g.digest
  have hlegible' := (Blueprint.legible_direct huwf hr hplain').withDigest g.digest
  have htext := (GoSource.render_eq_ok_iff.mp htrender).2.symm.trans
    (GoSource.render_eq_ok_iff.mp hurender).2
  have hpackage := GoSource.package_eq_of_text_eq hlegible hlegible' rfl htext
  have hbody := GoSource.body_eq_of_text_eq hlegible hlegible' htext
  obtain ⟨hname, hentries, hmethods⟩ := GoSource.read_body hbody
  have hnames : s.names = r.names := by
    rw [← States.names_numbered, ← States.names_numbered]
    exact hentries
  -- methods are those of numbered events, and each of these pairs says the same
  have hnumbered : List.Forall₂ (fun x y => Respelled x.2 y.2 ∧ t.logging = u.logging)
      t.numberedEvents u.numberedEvents := by
    have hpairs := List.forall₂_map_left_iff.mp (List.forall₂_map_right_iff.mp hmethods)
    refine forall₂_imp_mem hpairs fun x hx y hy heq => ?_
    have hentry := List.mem_of_getElem? (Table.mem_numberedEvents.mp hx)
    have hentry' := List.mem_of_getElem? (Table.mem_numberedEvents.mp hy)
    exact Transition.respelled_of_transition_eq htwf huwf hs hr hplain hplain' hname hnames hentry
      hentry' heq
  have hevents : List.Forall₂ Respelled t.events.entries u.events.entries := by
    rw [← t.entries_numberedEvents, ← u.entries_numberedEvents, List.forall₂_map_left_iff,
      List.forall₂_map_right_iff]
    exact hnumbered.imp fun _ _ hpair => hpair.1
  have hlogging : t.logging = u.logging := by
    cases hlist : t.numberedEvents with
    | nil =>
      -- without events, nothing would say whether they are logged
      have hnone := t.entries_numberedEvents
      rw [hlist] at hnone
      exact absurd hnone.symm htwf.events_ne_nil
    | cons x xs =>
      rw [hlist] at hnumbered
      obtain ⟨y, ys, hpair, -, -⟩ := List.forall₂_cons_left_iff.mp hnumbered
      exact hpair.2
  exact ⟨hname, hpackage, hlogging, hevents⟩

/-- The jobs, and the jobs once more, are told to be the same by their source. -/
theorem Generator.draft_determines_table_jobs :
    ∃ text, (Generator.mk .go .none none).draft Table.jobs = .ok text ∧
      (Generator.mk .go .none none).draft Table.jobsAgain = .ok text ∧
      Table.jobs.PlainTypes ∧ Table.jobsAgain.PlainTypes ∧
      Table.jobs.name = Table.jobsAgain.name ∧
      Table.jobs.packageName = Table.jobsAgain.packageName ∧
      Table.jobs.logging = Table.jobsAgain.logging ∧
      List.Forall₂ Respelled Table.jobs.events.entries Table.jobsAgain.events.entries := by
  obtain ⟨text, hjobs, hagain⟩ := exists_draft_jobs
  have hplain : Table.jobs.PlainTypes := by decide
  have hplain' : Table.jobsAgain.PlainTypes := by decide
  exact ⟨text, hjobs, hagain, hplain, hplain',
    draft_determines_table (Generator.mk .go .none none) rfl Table.jobs Table.jobsAgain text hjobs
      hagain hplain hplain'⟩

end Automaton
