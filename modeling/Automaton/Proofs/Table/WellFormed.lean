import Automaton.Table.Validation
import Mathlib.Data.List.Nodup

/-!
# Well formed tables

`Table.validate` walks through a table and stops at the first violation.  `Table.WellFormed` says
what it looks for, one rule after the other and without any order:
`Table.validate_eq_ok_iff_wellFormed` is the bridge.

The rules about symbols are what keeps states apart once they have been renamed: a well formed table
has no two states, and no two events, with one symbol, so a state is known by its symbol
(`WellFormed.stateSymbol_inj`).
-/

namespace Automaton

/-- **A well formed event** under a name. -/
structure Event.WellFormed (name : String) (e : Event) : Prop where
  /-- The event is named by an identifier. -/
  name_valid : Identifier.valid name = true
  /-- The event can fire from somewhere. -/
  sources_ne_nil : e.sources ≠ []
  /-- The states that it refers to are named by identifiers. -/
  states_valid : ∀ s ∈ e.states, Identifier.valid s = true
  /-- So are its parameters. -/
  params_valid : ∀ p ∈ e.params, Identifier.valid p.name = true
  /-- The parameters have types. -/
  params_typed : ∀ p ∈ e.params, Text.isVoid p.type = false
  /-- No two of them share a name. -/
  params_nodup : (e.params.map Param.name).Nodup

/-- **A well formed table.** -/
structure Table.WellFormed (t : Table) : Prop where
  /-- The machine is named by an identifier. -/
  name_valid : Identifier.valid t.name = true
  /-- So is the package. -/
  packageName_valid : Identifier.valid t.packageName = true
  /-- No import is blank. -/
  imports_not_void : ∀ path ∈ t.imports, Text.isVoid path = false
  /-- There are events. -/
  events_ne_nil : t.events.entries ≠ []
  /-- They are well formed. -/
  events_wellFormed : ∀ entry ∈ t.events.entries, entry.2.WellFormed entry.1
  /-- No two events share a symbol. -/
  eventSymbols_nodup : (t.events.names.map Symbol.ofEvent).Nodup
  /-- No two states share a symbol. -/
  stateSymbols_nodup : ((States.sorted t.references).map Symbol.ofState).Nodup

namespace Table

/-! ### Rule by rule -/

/-- The demands that one makes of all items are met exactly if each item meets its own. -/
theorem flatMap_demand_eq_nil_iff {α : Type} {items : List α} {holds : α → Bool}
    {v : α → Violation} :
    (items.flatMap fun a => demand (holds a) (v a)) = [] ↔ ∀ a ∈ items, holds a = true := by
  simp only [List.flatMap_eq_nil_iff, demand_eq_nil_iff]

/-- Nothing is wrong with parameters if they are named and typed and their names are new. -/
theorem paramViolations_eq_nil_iff {event : String} {earlier : List String} {ps : List Param} :
    paramViolations event earlier ps = [] ↔
      (∀ p ∈ ps, Identifier.valid p.name = true) ∧ (∀ p ∈ ps, Text.isVoid p.type = false) ∧
        (ps.map Param.name).Nodup ∧ ∀ p ∈ ps, p.name ∉ earlier := by
  induction ps generalizing earlier with
  | nil => simp [paramViolations]
  | cons p ps ih =>
    rw [paramViolations]
    simp only [List.append_eq_nil_iff, demand_eq_nil_iff, ih, Bool.not_eq_true',
      List.contains_eq_mem, decide_eq_false_iff_not, List.forall_mem_cons, List.map_cons,
      List.nodup_cons, List.mem_map, not_exists, not_and]
    -- a name is new if it is none of the earlier ones, which the head joins
    constructor
    · rintro ⟨⟨⟨hname, htype⟩, hnew⟩, hnames, htypes, hnodup, hrest⟩
      exact ⟨⟨hname, hnames⟩, ⟨htype, htypes⟩,
        ⟨fun q hq => List.ne_of_not_mem_cons (hrest q hq), hnodup⟩, hnew,
        fun q hq => List.not_mem_of_not_mem_cons (hrest q hq)⟩
    · rintro ⟨⟨hname, hnames⟩, ⟨htype, htypes⟩, ⟨hne, hnodup⟩, hnew, hrest⟩
      exact ⟨⟨⟨hname, htype⟩, hnew⟩, hnames, htypes, hnodup,
        fun q hq => List.not_mem_cons_of_ne_of_not_mem (hne q hq) (hrest q hq)⟩

/-- Nothing is wrong with an event exactly if it is well formed. -/
theorem eventViolations_eq_nil_iff {name : String} {e : Event} :
    eventViolations name e = [] ↔ e.WellFormed name := by
  rw [eventViolations]
  simp only [List.append_eq_nil_iff, demand_eq_nil_iff, flatMap_demand_eq_nil_iff,
    paramViolations_eq_nil_iff, Bool.not_eq_true', List.isEmpty_eq_false_iff, List.not_mem_nil,
    not_false_eq_true, implies_true, and_true]
  -- the clauses are the same, in another grouping
  constructor
  · rintro ⟨⟨⟨hname, hsources⟩, hstates⟩, hvalid, htyped, hnodup⟩
    exact ⟨hname, hsources, hstates, hvalid, htyped, hnodup⟩
  · rintro ⟨hname, hsources, hstates, hvalid, htyped, hnodup⟩
    exact ⟨⟨⟨hname, hsources⟩, hstates⟩, hvalid, htyped, hnodup⟩

/-- Names do not collide exactly if their symbols are all different. -/
theorem collisions_eq_nil_iff {symbol : String → String} {names : List String} :
    collisions symbol names = [] ↔ (names.map symbol).Nodup := by
  rw [collisions, List.map_eq_nil_iff, Symbol.clashes_eq_nil_iff, List.map_map]
  rfl

/-- Validation looks at the first violation only. -/
theorem validate_eq_error_iff {t : Table} {v : Violation} :
    t.validate = .error v ↔ t.violations.head? = some v := by
  rw [validate]
  cases t.violations <;> simp

/-- **Validation accepts** exactly the well formed tables. -/
theorem validate_eq_ok_iff_wellFormed {t : Table} : t.validate = .ok () ↔ t.WellFormed := by
  rw [validate_eq_ok_iff, violations]
  simp only [List.append_eq_nil_iff, demand_eq_nil_iff, Bool.not_eq_true',
    List.isEmpty_eq_false_iff, List.flatMap_eq_nil_iff, eventViolations_eq_nil_iff,
    collisions_eq_nil_iff]
  constructor
  · rintro ⟨⟨⟨⟨⟨⟨hname, hpackage⟩, himports⟩, hne⟩, hevents⟩, heventSymbols⟩, hstateSymbols⟩
    exact ⟨hname, hpackage, himports, hne, hevents, heventSymbols, hstateSymbols⟩
  · rintro ⟨hname, hpackage, himports, hne, hevents, heventSymbols, hstateSymbols⟩
    exact ⟨⟨⟨⟨⟨⟨hname, hpackage⟩, himports⟩, hne⟩, hevents⟩, heventSymbols⟩, hstateSymbols⟩

/-- **A table to look at**: jobs that are started, polled and finished, and may be started again.
One of its sources is repeated, and one of its events leads back to where it came from. -/
def jobs : Table :=
  { name := "Worker"
    packageName := "jobs"
    imports := ["time"]
    logging := true
    events := Catalog.ofList
      [("start", ⟨["pending", "failed", "pending"], "running", [⟨"id", "u32"⟩]⟩),
       ("poll", ⟨["running"], "running", []⟩),
       ("finish", ⟨["running"], "done", []⟩),
       ("fail", ⟨["running", "pending"], "failed", [⟨"code", "i32"⟩, ⟨"at", "u64"⟩]⟩)] }

example : jobs.validate = .ok () := by decide

/-! ### What symbols tell apart -/

namespace WellFormed

variable {t : Table} (h : t.WellFormed)
include h

/-- States that a well formed table refers to are identifiers. -/
theorem valid_of_mem_references {n : String} (hn : n ∈ t.references) :
    Identifier.valid n = true := by
  obtain ⟨name, e, hentry, hstate⟩ := mem_references.mp hn
  refine (h.events_wellFormed _ hentry).states_valid n ?_
  rw [Event.states, List.mem_append, List.mem_singleton]
  exact hstate

/-- **States of a well formed table** are told apart by their symbols. -/
theorem stateSymbol_inj {a b : String} (ha : a ∈ t.references) (hb : b ∈ t.references)
    (heq : Symbol.ofState a = Symbol.ofState b) : a = b :=
  List.inj_on_of_nodup_map h.stateSymbols_nodup (States.mem_sorted.mpr ha)
    (States.mem_sorted.mpr hb) heq

end WellFormed

end Table

end Automaton
