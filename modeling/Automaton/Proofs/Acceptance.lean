import Automaton.Commands
import Automaton.FileTree
import Automaton.Proofs.Blueprint.Direct
import Automaton.Proofs.Graph.Agreement
import Automaton.Proofs.Host.Disk
import Automaton.Proofs.Table.Proper
import Automaton.Proofs.Text.Utf8

/-!
# What validation accepts goes all the way

Behind validation there are more places where a table could be turned down: it could have no states,
the first state could be missing, a state could be none of those that were derived, and then a
transition, the blueprint or the graph would come to nothing.  `Table.Derivation` lists what has to
come about, and an accepted table has all of it (`Table.exists_derivation`).  The one reason is that
states are derived from the very references that are looked up later
(`States.mem_names_ofTable`).

So validation decides.  The commands that check and describe a table, and the making of the
blueprint, accept the same tables, and what they report otherwise is the violation that validation
found (`Table.acceptance`).  `Table.SameVerdict` says this of the two commands, and
`Host.response_validate` and `Host.response_inspect` are the runs that it is read off.
-/

namespace Automaton

/-! ### What is derived -/

/-- **Everything that is derived from a table**: its states, its blueprint and its graph, with each
step on the way to them. -/
structure Table.Derivation (t : Table) (s : States) (b : Blueprint) (g : Graph) : Prop where
  /-- The table has states. -/
  states : t.states = .ok s
  /-- There is a first one, and machines start in it. -/
  initial : s.names[0]? = some s.initial
  /-- It has a symbol. -/
  initialSymbol : s.symbol s.initial = .ok (Symbol.ofState s.initial)
  /-- So has every state that the table refers to. -/
  symbols : ∀ n ∈ t.references, s.symbol n = .ok (Symbol.ofState n)
  /-- Every event has a transition among these states, whatever else transitions share. -/
  transitions : ∀ name e, (name, e) ∈ t.events.entries → ∀ setting : Transition.Setting,
    setting.states = s → ∀ ordinal, ∃ tr, Transition.ofEvent setting ordinal name e = .ok tr
  /-- The declarations can be put together. -/
  declarations : Blueprint.ofStates t s = .ok b
  /-- They are the blueprint of the table. -/
  blueprint : Blueprint.ofTable t = .ok b
  /-- The table has a graph. -/
  graph : Graph.ofTable t = .ok g
  /-- The nodes carry the symbols that are found for their names. -/
  nodes : ∀ n ∈ g.nodes, s.symbol n.name = .ok n.symbol

/-- The initial state is the first one. -/
theorem States.getElem?_zero (s : States) : s.names[0]? = some s.initial := by
  rw [initial, ← List.head?_eq_getElem?]
  exact List.head?_eq_some_head s.inhabited

namespace Table

variable {t : Table} {s : States}

/-- An event of a table with states has a transition among them. -/
theorem exists_transition (hs : States.ofTable t = some s) {name : String} {e : Event}
    (hentry : (name, e) ∈ t.events.entries) {setting : Transition.Setting}
    (hsetting : setting.states = s) (ordinal : Nat) :
    ∃ tr, Transition.ofEvent setting ordinal name e = .ok tr := by
  refine ⟨_, Transition.ofEvent_eq_ok fun n hn => ?_⟩
  have href : n ∈ t.references := List.mem_flatMap.mpr ⟨e, List.mem_map.mpr ⟨_, hentry, rfl⟩, hn⟩
  rw [hsetting]
  exact Graph.known hs n href

/-- The nodes of a graph carry the symbols that are found for their names. -/
theorem symbol_node {n : Node} (hn : n ∈ (Graph.direct t s).nodes) :
    s.symbol n.name = .ok n.symbol := by
  -- nodes with their names and symbols are made of the numbered states
  have hpair : (n.name, n.symbol) ∈
      (Graph.nodesOf s).map fun n => (n.name, n.symbol) := by
    rw [← Graph.nodes_direct_map (t := t) fun _ _ => rfl]
    exact List.mem_map.mpr ⟨n, hn, rfl⟩
  obtain ⟨m, hm, heq⟩ := List.mem_map.mp hpair
  obtain ⟨⟨ordinal, name⟩, hnumbered, rfl⟩ := List.mem_map.mp hm
  obtain ⟨hname, hsymbol⟩ := Prod.mk.inj heq
  have hmem : name ∈ s.names := List.mem_of_getElem? (States.mem_numbered.mp hnumbered)
  rw [← hname, ← hsymbol]
  exact States.symbol_eq_ok hmem

/-- **An accepted table** has everything that is derived from tables. -/
theorem exists_derivation (h : t.validate = .ok ()) : ∃ s b g, t.Derivation s b g := by
  have hwf := validate_eq_ok_iff_wellFormed.mp h
  obtain ⟨s, hs⟩ := Blueprint.exists_states hwf
  -- what is made of an accepted table is made without lookups, which can then not fail
  refine ⟨s, Blueprint.direct t s, Graph.direct t s, ?_⟩
  exact
    { states := by rw [Table.states, hs]
      initial := s.getElem?_zero
      initialSymbol := States.symbol_eq_ok (List.head_mem s.inhabited)
      symbols := fun n hn => States.symbol_eq_ok (Graph.known hs n hn)
      transitions := fun _ _ hentry _ hsetting ordinal =>
        exists_transition hs hentry hsetting ordinal
      declarations := Blueprint.ofStates_eq_ok (Graph.known hs)
      blueprint := Blueprint.ofTable_eq_ok hwf hs
      graph := Graph.ofTable_eq_ok hs
      nodes := fun _ hn => symbol_node hn }

/-- **A rejected table** has no blueprint, and validation says why. -/
theorem ofTable_eq_error {v : Violation} (h : t.validate = .error v) :
    Blueprint.ofTable t = .error v.error := by
  rw [Blueprint.ofTable, h]

/-- **Validation decides** whether a table has a blueprint. -/
theorem exists_blueprint_iff : (∃ b, Blueprint.ofTable t = .ok b) ↔ t.validate = .ok () := by
  constructor
  · rintro ⟨b, hb⟩
    cases hv : t.validate with
    | ok _ => rfl
    | error v =>
      -- a violation would have ended the making of the blueprint
      rw [ofTable_eq_error hv] at hb
      exact absurd hb nofun
  · intro h
    obtain ⟨s, b, g, hder⟩ := exists_derivation h
    exact ⟨b, hder.blueprint⟩

/-- The blueprint of a table is the one that is made without failure. -/
theorem eq_direct_of_blueprint {b : Blueprint} (hb : Blueprint.ofTable t = .ok b) :
    t.WellFormed ∧ ∃ s, States.ofTable t = some s ∧ b = Blueprint.direct t s := by
  have hwf := validate_eq_ok_iff_wellFormed.mp (exists_blueprint_iff.mp ⟨b, hb⟩)
  obtain ⟨s, hs⟩ := Blueprint.exists_states hwf
  exact ⟨hwf, s, hs, Except.ok.inj (hb.symm.trans (Blueprint.ofTable_eq_ok hwf hs))⟩

end Table

/-! ### The two commands -/

/-- **The complaint of a check**: the violation in words, behind fixed ones. -/
def Report.complaint (v : Table.Violation) : Error :=
  .custom ("Definition validation failed: " ++ v.error.message)

/-- A check is content with an accepted table. -/
theorem Report.findings_of_accepted (file digest : String) {t : Table} (h : t.validate = .ok ()) :
    (findings file digest t).2 = .ok () := by
  obtain ⟨s, b, g, hder⟩ := Table.exists_derivation h
  simp only [findings, h, hder.states, hder.graph]

/-- A check complains about the violation of a rejected table. -/
theorem Report.findings_of_rejected (file digest : String) {t : Table} {v : Table.Violation}
    (h : t.validate = .error v) : (findings file digest t).2 = .error (complaint v) := by
  simp only [findings, h, complaint]

namespace Host

/-- An accepted table is summarized. -/
theorem summaryOf_of_accepted (form : Report.Form) {l : Table.Loaded} {g : Graph}
    (h : l.table.validate = .ok ()) (hg : Graph.ofTable l.table = .ok g) :
    summaryOf form l = .ok (Report.summary form l.table g) := by
  have hchecked : l.checked = .ok l := by rw [Table.Loaded.checked, h]
  rw [summaryOf, hchecked]
  show (do pure (Report.summary form l.table (← Graph.ofTable l.table))) = _
  rw [hg]
  rfl

/-- A rejected table is not. -/
theorem summaryOf_of_rejected (form : Report.Form) {l : Table.Loaded} {v : Table.Violation}
    (h : l.table.validate = .error v) : summaryOf form l = .error v.error := by
  have hchecked : l.checked = .error v.error := by rw [Table.Loaded.checked, h]
  rw [summaryOf, hchecked]
  rfl

variable {σ : Type} {h : Host (StateM σ)} {d d' : σ} {l : Table.Loaded}

/-- **The run of a check**, once the table is loaded. -/
theorem response_validate {file : String} (hload : (Table.load h file).run d = (.ok l, d')) :
    ((h.validate file).run d).1 =
      ⟨(Report.findings file l.digest l.table).1, (Report.findings file l.digest l.table).2⟩ := by
  rw [validate, run_bind_eq hload]
  rfl

/-- **The run of a description**, once the table is loaded. -/
theorem response_inspect {settings : Settings} {table : Option String} (form : Report.Form)
    (hload : (Table.load h (table.getD settings.generation.table)).run d = (.ok l, d')) :
    ((h.inspect settings table form).run d).1 =
      match summaryOf form l with
      | .error e => ⟨"", .error e⟩
      | .ok text => ⟨text, .ok ()⟩ := by
  rw [inspect, run_bind_eq hload]
  cases hsummary : summaryOf form l with
  | error e =>
    simp only [hsummary]
    rfl
  | ok text =>
    simp only [hsummary]
    rfl

end Host

/-! ### One verdict -/

/-- **The same verdict**: two commands and the making of the blueprint accept the table or reject
it, all three of them. -/
structure Table.SameVerdict (t : Table) (check description : Response) : Prop where
  /-- A check accepts what has a blueprint. -/
  check_iff : check.result = .ok () ↔ ∃ b, Blueprint.ofTable t = .ok b
  /-- So does a description. -/
  description_iff : description.result = .ok () ↔ ∃ b, Blueprint.ofTable t = .ok b
  /-- On rejection, all three report one violation, which the check puts in words. -/
  rejection : (¬ ∃ b, Blueprint.ofTable t = .ok b) →
    ∃ v, t.validate = .error v ∧ check.result = .error (Report.complaint v) ∧
      description.result = .error v.error ∧ Blueprint.ofTable t = .error v.error

/-- **Commands agree** with the making of the blueprint once the table is loaded. -/
theorem Table.sameVerdict_of_load {σ : Type} {h : Host (StateM σ)} {settings : Settings}
    {table : Option String} {form : Report.Form} {d d' : σ} {l : Table.Loaded}
    (hload : (Table.load h (table.getD settings.generation.table)).run d = (.ok l, d')) :
    l.table.SameVerdict ((h.validate (table.getD settings.generation.table)).run d).1
      ((h.inspect settings table form).run d).1 := by
  have hcheck := congrArg Response.result (Host.response_validate hload)
  have hdescription := congrArg Response.result (Host.response_inspect form hload)
  cases hv : l.table.validate with
  | ok _ =>
    have hblueprint : ∃ b, Blueprint.ofTable l.table = .ok b := exists_blueprint_iff.mpr hv
    obtain ⟨s, b, g, hder⟩ := exists_derivation hv
    rw [Report.findings_of_accepted _ _ hv] at hcheck
    rw [Host.summaryOf_of_accepted form hv hder.graph] at hdescription
    exact
      { check_iff := iff_of_true hcheck hblueprint
        description_iff := iff_of_true hdescription hblueprint
        rejection := fun hnone => absurd hblueprint hnone }
  | error v =>
    -- all three stop at the violation
    have hblueprint : ¬ ∃ b, Blueprint.ofTable l.table = .ok b := fun hex =>
      absurd (hv.symm.trans (exists_blueprint_iff.mp hex)) nofun
    rw [Report.findings_of_rejected _ _ hv] at hcheck
    rw [Host.summaryOf_of_rejected form hv] at hdescription
    exact
      { check_iff := iff_of_false (fun hok => absurd (hcheck.symm.trans hok) nofun) hblueprint
        description_iff :=
          iff_of_false (fun hok => absurd (hdescription.symm.trans hok) nofun) hblueprint
        rejection := fun _ => ⟨v, hv, hcheck, hdescription, ofTable_eq_error hv⟩ }

/-! ### A table that is loaded -/

/-- The lamp as a text. -/
def Table.lampText : String :=
  "\x7b\"Name\":\"Lamp\",\"PackageName\":\"lamps\",\"Events\":" ++
    "\x7b\"off\":\x7b\"Source\":[\"on\",\"ON\"],\"Destination\":\"dark\"\x7d\x7d\x7d"

/-- A tree with one file. -/
def FileTree.lamps (contents : ByteArray) : FileTree :=
  ⟨Catalog.ofList [("lamp.json", .file contents)]⟩

/-- A host that has trees and no programs. -/
def FileTree.quietHost : Host (StateM FileTree) :=
  host none 0 fun _ _ => .notStarted "no programs"

/-- **A table is loaded** from a file that has the bytes of one of its texts. -/
theorem Table.exists_load {file text : String} {t : Table} {d : FileTree}
    (hread : (FileTree.quietHost.read file).run d = (.ok text.toUTF8, d))
    (hformat : Format.ofPath file = .json) (htable : ofText .json text = .ok t) :
    ∃ l d', (load FileTree.quietHost file).run d = (.ok l, d') ∧ l.table = t := by
  have htext : (FileTree.quietHost.readText file).run d = (.ok text, d) := by
    rw [Host.readText, run_bind_eq hread]
    simp only [Utf8.decode_toUTF8]
    rfl
  -- the text of the file is decoded to the table, and nothing else is asked of it
  have hloaded : Loaded.ofText file text = .ok ⟨file, textDigest text.toUTF8, t⟩ := by
    rw [Loaded.ofText, hformat, htable]
  refine ⟨⟨file, textDigest text.toUTF8, t⟩, d, ?_, rfl⟩
  rw [load, run_bind_eq htext, ← hloaded]
  rfl

/-- The lamp is loaded from its text. -/
theorem Table.load_lamp : ∃ l d',
    (Table.load FileTree.quietHost "lamp.json").run (FileTree.lamps lampText.toUTF8) =
      (.ok l, d') ∧ l.table = lamp :=
  exists_load rfl (by decide) (by decide +kernel)

/-! ### Acceptance -/

/-- **Acceptance.**  A table has a blueprint exactly if validation accepts it, and otherwise the
violation that validation found is reported.  An accepted table has everything that is derived from
tables, so nothing behind validation turns it down.  Whatever table a host loads, the commands that
check and describe it give the verdict that the making of the blueprint gives. -/
theorem Table.acceptance (t : Table) :
    ((∃ b, Blueprint.ofTable t = .ok b) ↔ t.validate = .ok ()) ∧
    (∀ v, t.validate = .error v → Blueprint.ofTable t = .error v.error) ∧
    (t.validate = .ok () → ∃ s b g, t.Derivation s b g) ∧
    ∀ (σ : Type) (h : Host (StateM σ)) (settings : Settings) (table : Option String)
      (form : Report.Form) (d d' : σ) (l : Table.Loaded),
      (Table.load h (table.getD settings.generation.table)).run d = (.ok l, d') → l.table = t →
      t.SameVerdict ((h.validate (table.getD settings.generation.table)).run d).1
        ((h.inspect settings table form).run d).1 := by
  refine ⟨exists_blueprint_iff, fun v => ofTable_eq_error, exists_derivation, ?_⟩
  rintro σ h settings table form d d' l hload rfl
  exact sameVerdict_of_load hload

/-- The jobs have everything, and the lamp is rejected by one and all. -/
theorem Table.acceptance_lamp :
    (∃ s b g, Table.jobs.Derivation s b g) ∧
    Blueprint.ofTable Table.lamp = .error (.collision "STATE_ON" "ON" "on") ∧
    Table.lamp.SameVerdict
      ((FileTree.quietHost.validate "lamp.json").run (FileTree.lamps Table.lampText.toUTF8)).1
      ((FileTree.quietHost.inspect Settings.standard (some "lamp.json") .dot).run
        (FileTree.lamps Table.lampText.toUTF8)).1 := by
  obtain ⟨-, -, hderived, -⟩ := Table.acceptance Table.jobs
  obtain ⟨-, hrejected, -, hverdict⟩ := Table.acceptance Table.lamp
  obtain ⟨l, d', hload, htable⟩ := Table.load_lamp
  refine ⟨hderived (by decide), ?_, ?_⟩
  · exact hrejected (.collision "STATE_ON" "ON" "on") (by decide)
  · exact hverdict FileTree FileTree.quietHost Settings.standard (some "lamp.json") .dot
      (FileTree.lamps Table.lampText.toUTF8) d' l hload htable

end Automaton
