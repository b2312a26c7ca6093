import Automaton.Proofs.Report.Printed

/-!
# One machine is described

A summary is made of the graph of a table, and a source of its blueprint.  `Describes` says what it
means that they describe one machine: they list the same states, the edges of an event are what its
guard lets through, whatever the graph counts is there to be counted in the blueprint, and the
widths that a command prints are those of the blueprint.  It holds of every accepted table
(`Graph.describes_ofTable`).

The widths are read off what is printed, and not off what was put together for printing: the
document as JSON, and the page by its lines.
-/

namespace Automaton

/-! ### What is printed about widths -/

namespace Report

/-- The name of a width, by its bits. -/
def widthName (w : Width) : String :=
  "uint" ++ toString w.bits

/-- The line of a page that counts something, with the width of its ordinals: the count is written
at the left of six columns. -/
def widthLine (title : String) (count : Nat) (w : Width) : String :=
  title ++ toString count ++ spaces (6 - (toString count).length) ++ " (" ++ widthName w ++ ")"

theorem append_countWithWidth (title : String) (shown count : Nat) :
    title ++ countWithWidth shown count = widthLine title shown (Width.forCount count) := by
  have hcell : Text.padRight 6 (toString shown) =
      toString shown ++ spaces (6 - (toString shown).length) := rfl
  simp only [countWithWidth, widthLine, hcell, String.append_assoc]
  rfl

end Report

/-- **A graph and a blueprint describe one machine.** -/
structure Describes (t : Table) (s : States) (g : Graph) (b : Blueprint) : Prop where
  /-- The states are paired from the lookup table and the constants, in order. -/
  states : (g.states.map fun n => ((n.ordinal, n.name), (⟨n.symbol, n.ordinal⟩ : Constant))) =
    b.lookup.entries.zip b.states.constants
  /-- Nothing is left over from either of them. -/
  lengths : b.lookup.entries.length = b.states.constants.length
  /-- Every event has a transition, and edges where its guard and its destination allow them. -/
  edges : ∀ ordinal name e, (ordinal, name, e) ∈ t.numberedEvents →
    ∃ tr, b.transitionOf? name = some tr ∧ ∀ source ∈ s.names, ∀ target ∈ s.names,
      (∃ x ∈ g.edges, g.Leads x source target ∧ x.label.event = name ∧
          x.label.ordinal = ordinal) ↔
        Symbol.ofState source ∈ tr.guard ∧ tr.destinationSymbol = Symbol.ofState target
  /-- No two edges leave one state for one event. -/
  edges_nodup : (g.edges.map fun x => (g.nameOf? x.source, x.label.event)).Nodup
  /-- There are as many states as constants. -/
  stateCount : g.stats.states = b.states.constants.length
  /-- There are as many events as transitions. -/
  eventCount : g.stats.events = b.transitions.length
  /-- There are as many edges as symbols in guards. -/
  edgeCount : g.stats.edges = (b.transitions.map fun tr => tr.guard.length).sum
  /-- The initial state is the name of the constructor's symbol. -/
  initial : ∃ i, b.ordinalOf? b.constructor.initialSymbol = some i ∧
    b.nameOf? i = some g.stats.initial
  /-- Inspection prints a summary, whatever its form. -/
  inspected : ∀ form, t.Inspected form (Report.summary form t g)
  /-- As a document, it is JSON, and has the widths of the machine. -/
  document : ∃ members,
    Document.Json.Writes (.record members) (Report.summary .json t g) ∧
    members.lookup "state_width" = some (.text (Report.widthName b.machine.stateWidth)) ∧
    members.lookup "event_width" = some (.text (Report.widthName b.machine.eventWidth))
  /-- As a page, it has them in two of its lines. -/
  page : (Text.split (Report.summary .table t g))[4]? = some
      (Report.widthLine "  States:  " b.states.constants.length b.machine.stateWidth) ∧
    (Text.split (Report.summary .table t g))[5]? = some
      (Report.widthLine "  Events:  " b.transitions.length b.machine.eventWidth)

/-- The number of the initial symbol is that of the initial state. -/
theorem Blueprint.nameOf?_initial {t : Table} {s : States} (h : t.WellFormed)
    (hs : States.ofTable t = some s) :
    ∃ i, (direct t s).ordinalOf? (direct t s).constructor.initialSymbol = some i ∧
      (direct t s).nameOf? i = some s.initial := by
  have hmem : s.initial ∈ s.names := List.head_mem s.inhabited
  obtain ⟨i, hi⟩ := List.mem_iff_getElem?.mp hmem
  exact ⟨i, (ordinalOf?_direct h hs hmem).mpr hi, (nameOf?_direct i).trans hi⟩

/-- **The graph and the blueprint** of a well formed table describe one machine. -/
theorem describes_direct {t : Table} {s : States} (h : t.WellFormed)
    (hs : States.ofTable t = some s) :
    Describes t s (Graph.direct t s) (Blueprint.direct t s) := by
  have hstates : (Graph.direct t s).stats.states = s.size := Graph.length_nodes_direct
  have hevents := Graph.events_stats_direct (s := s) h
  exact
    { states := Graph.states_eq_zip
      lengths := (List.length_map _).symm
      edges := by
        intro ordinal name e hx
        -- the transition of an event is found by its name, and its guard is compared
        have hentry := Table.mem_numberedEvents.mp hx
        refine ⟨_, Blueprint.transitionOf?_direct.mpr ⟨ordinal, e, hentry, rfl⟩, ?_⟩
        intro source hsource target htarget
        exact Graph.exists_edge_iff_guard h hs hentry hsource htarget
      edges_nodup := Graph.edges_direct_nodup (Graph.known hs)
      stateCount := hstates.trans Blueprint.length_constants.symm
      eventCount := hevents
      edgeCount := Graph.length_edges_direct hs
      initial := by
        rw [Graph.initial_stats_direct]
        exact Blueprint.nameOf?_initial h hs
      inspected := Table.inspected (Table.validate_eq_ok_iff_wellFormed.mpr h)
        (Graph.ofTable_eq_ok hs)
      document := by
        refine ⟨_, Report.writes_summary t (Graph.direct t s), ?_, rfl⟩
        -- what is printed is the count of nodes, which is that of the constants
        rw [hstates]
        rfl
      page := by
        rw [Report.split_page h hs]
        constructor
        · show some ("  States:  " ++ Report.countWithWidth _ (Graph.direct t s).stats.states) = _
          rw [hstates, Report.append_countWithWidth, Blueprint.length_constants]
          rfl
        · show some ("  Events:  " ++ Report.countWithWidth (Graph.direct t s).stats.events _) = _
          rw [hevents, Report.append_countWithWidth]
          rfl }

/-- **Graphs and blueprints agree**: if validation accepts a table, its graph and its blueprint
describe one machine. -/
theorem Graph.describes_ofTable (t : Table) (h : t.validate = .ok ()) :
    ∃ s g b, States.ofTable t = some s ∧ Graph.ofTable t = .ok g ∧ Blueprint.ofTable t = .ok b ∧
      Describes t s g b := by
  have hwf := Table.validate_eq_ok_iff_wellFormed.mp h
  obtain ⟨s, hs⟩ := Blueprint.exists_states hwf
  refine ⟨s, _, _, hs, ?_, ?_, describes_direct hwf hs⟩
  · exact Graph.ofTable_eq_ok hs
  · exact Blueprint.ofTable_eq_ok hwf hs

/-- The graph and the blueprint of the jobs describe one machine, and there is a host that prints
so. -/
theorem Graph.describes_jobs :
    Table.jobs.validate = .ok () ∧ ∃ s g b, States.ofTable Table.jobs = some s ∧
      Graph.ofTable Table.jobs = .ok g ∧ Blueprint.ofTable Table.jobs = .ok b ∧
      Describes Table.jobs s g b ∧
      ((FileTree.quietHost.inspect Settings.standard (some "table.json") .table).run
        (FileTree.ofTable Table.jobs)).1 = ⟨Report.summary .table Table.jobs g, .ok ()⟩ := by
  obtain ⟨s, g, b, hs, hg, hb, hdescribes⟩ := Graph.describes_ofTable Table.jobs (by decide)
  obtain ⟨l, d', hload, htable⟩ := Table.jobs.load_ofTable
  refine ⟨by decide, s, g, b, hs, hg, hb, hdescribes, ?_⟩
  exact hdescribes.inspected .table FileTree FileTree.quietHost Settings.standard
    (some "table.json") (FileTree.ofTable Table.jobs) d' l hload htable

end Automaton
