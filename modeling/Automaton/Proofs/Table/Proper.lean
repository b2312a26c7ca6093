import Automaton.Proofs.Blueprint.Lookup
import Automaton.Proofs.Name
import Automaton.Proofs.Text.ByteOrder

/-!
# What validation accepts

`Table.Proper` lists what an author has to keep to, in terms that have nothing to do with how a
table is checked: names match a pattern, types and imports are not blank once they are trimmed, and
no two events and no two states are taken for the same.  When names are taken for the same is a
parameter of the rules.  Two readings are of interest: names are the same if they have one symbol,
or if they agree up to the case of their letters.

Validation accepts exactly the proper tables, in either reading
(`Table.validate_accepts_exactly_proper`).  The second one is an observation about identifiers,
whose symbols are plain upper case.

If validation complains about a shared symbol, then two events or two states do share it, and the
one that comes first in the order of bytes is named first.  The reason is that clashes are looked
for among names that increase (`Table.sharedBy_of_mem_collisions`).
-/

namespace Automaton

/-! ### The rules -/

/-- **A proper event** under a name. -/
structure Event.Proper (name : String) (e : Event) : Prop where
  /-- The name matches. -/
  name_matches : Identifier.Matches name
  /-- There are sources. -/
  sources_ne_nil : e.sources ≠ []
  /-- They match. -/
  sources_match : ∀ s ∈ e.sources, Identifier.Matches s
  /-- So does the destination. -/
  destination_matches : Identifier.Matches e.destination
  /-- So do the names of parameters. -/
  params_match : ∀ p ∈ e.params, Identifier.Matches p.name
  /-- Their types are not blank. -/
  params_typed : ∀ p ∈ e.params, Text.trim p.type ≠ ""
  /-- Their names are pairwise different. -/
  params_distinct : e.params.Pairwise fun p q => p.name ≠ q.name

/-- **A proper table**, given which names of events and which names of states are taken for the
same. -/
structure Table.Proper (sameEvent sameState : String → String → Prop) (t : Table) : Prop where
  /-- The name of the machine matches. -/
  name_matches : Identifier.Matches t.name
  /-- So does the name of the package. -/
  packageName_matches : Identifier.Matches t.packageName
  /-- No import is blank. -/
  imports_not_blank : ∀ path ∈ t.imports, Text.trim path ≠ ""
  /-- There is an event. -/
  events_ne_nil : t.events.entries ≠ []
  /-- All events are proper. -/
  events_proper : ∀ entry ∈ t.events.entries, entry.2.Proper entry.1
  /-- Events with different names are told apart. -/
  events_apart : ∀ a ∈ t.events.names, ∀ b ∈ t.events.names, a ≠ b → ¬ sameEvent a b
  /-- States with different names are told apart. -/
  states_apart : ∀ a ∈ t.references, ∀ b ∈ t.references, a ≠ b → ¬ sameState a b

/-- **Two names of a list share a symbol**, and the first one is the smaller in the order of
bytes. -/
structure Symbol.SharedBy (symbolOf : String → String) (names : List String)
    (symbol first second : String) : Prop where
  /-- The first name is one of the list. -/
  first_mem : first ∈ names
  /-- So is the second. -/
  second_mem : second ∈ names
  /-- The first one is smaller. -/
  first_lt : Text.bytes first < Text.bytes second
  /-- It has the symbol. -/
  first_symbol : symbolOf first = symbol
  /-- So has the second. -/
  second_symbol : symbolOf second = symbol

/-! ### Proper tables and well formed ones -/

/-- A text is void exactly if trimming leaves nothing of it. -/
theorem Text.isVoid_eq_false_iff {s : String} : isVoid s = false ↔ trim s ≠ "" := by
  rw [ne_eq, ← isVoid_iff_trim_eq_empty, Bool.not_eq_true]

/-- Proper events are well formed, and the other way round. -/
theorem Event.proper_iff_wellFormed {name : String} {e : Event} :
    e.Proper name ↔ e.WellFormed name := by
  -- the rules for sources and for the destination are one rule for all states
  have hstates : (∀ s ∈ e.states, Identifier.valid s = true) ↔
      (∀ s ∈ e.sources, Identifier.Matches s) ∧ Identifier.Matches e.destination := by
    simp only [Event.states, List.forall_mem_append, List.forall_mem_singleton,
      Identifier.valid_iff_matches]
  have hdistinct : (e.params.map Param.name).Nodup ↔
      e.params.Pairwise fun p q => p.name ≠ q.name := List.pairwise_map
  constructor
  · intro h
    exact
      { name_valid := Identifier.valid_iff_matches.mpr h.name_matches
        sources_ne_nil := h.sources_ne_nil
        states_valid := hstates.mpr ⟨h.sources_match, h.destination_matches⟩
        params_valid := fun p hp => Identifier.valid_iff_matches.mpr (h.params_match p hp)
        params_typed := fun p hp => Text.isVoid_eq_false_iff.mpr (h.params_typed p hp)
        params_nodup := hdistinct.mpr h.params_distinct }
  · intro h
    exact
      { name_matches := Identifier.valid_iff_matches.mp h.name_valid
        sources_ne_nil := h.sources_ne_nil
        sources_match := (hstates.mp h.states_valid).1
        destination_matches := (hstates.mp h.states_valid).2
        params_match := fun p hp => Identifier.valid_iff_matches.mp (h.params_valid p hp)
        params_typed := fun p hp => Text.isVoid_eq_false_iff.mp (h.params_typed p hp)
        params_distinct := hdistinct.mp h.params_nodup }

namespace Table

variable {t : Table}

/-- Among names that do not repeat, symbols do not repeat either exactly if different names have
different ones. -/
theorem nodup_map_iff_apart (symbolOf : String → String) {names : List String}
    (h : names.Nodup) : (names.map symbolOf).Nodup ↔
      ∀ a ∈ names, ∀ b ∈ names, a ≠ b → ¬ symbolOf a = symbolOf b := by
  rw [List.nodup_map_iff_inj_on h]
  exact forall₂_congr fun a _ => forall₂_congr fun b _ => not_imp_not.symm

/-- **Proper tables are well formed**, and the other way round. -/
theorem proper_iff_wellFormed :
    t.Proper (Symbol.ofEvent · = Symbol.ofEvent ·) (Symbol.ofState · = Symbol.ofState ·) ↔
      t.WellFormed := by
  -- names without repetitions have distinct symbols exactly if different names do
  have hevents := nodup_map_iff_apart Symbol.ofEvent t.events.names_nodup
  have hstates := nodup_map_iff_apart Symbol.ofState
    ((States.sorted_pairwise t.references).imp fun hlt => hlt.ne)
  simp only [States.mem_sorted] at hstates
  constructor
  · intro h
    exact
      { name_valid := Identifier.valid_iff_matches.mpr h.name_matches
        packageName_valid := Identifier.valid_iff_matches.mpr h.packageName_matches
        imports_not_void := fun path hp =>
          Text.isVoid_eq_false_iff.mpr (h.imports_not_blank path hp)
        events_ne_nil := h.events_ne_nil
        events_wellFormed := fun x hx => Event.proper_iff_wellFormed.mp (h.events_proper x hx)
        eventSymbols_nodup := hevents.mpr h.events_apart
        stateSymbols_nodup := hstates.mpr h.states_apart }
  · intro h
    exact
      { name_matches := Identifier.valid_iff_matches.mp h.name_valid
        packageName_matches := Identifier.valid_iff_matches.mp h.packageName_valid
        imports_not_blank := fun path hp => Text.isVoid_eq_false_iff.mp (h.imports_not_void path hp)
        events_ne_nil := h.events_ne_nil
        events_proper := fun x hx => Event.proper_iff_wellFormed.mpr (h.events_wellFormed x hx)
        events_apart := hevents.mp h.eventSymbols_nodup
        states_apart := hstates.mp h.stateSymbols_nodup }

/-! ### The same up to case -/

/-- The names of events match. -/
theorem matches_of_mem_names (h : ∀ entry ∈ t.events.entries, entry.2.Proper entry.1)
    {name : String} (hname : name ∈ t.events.names) : Identifier.Matches name := by
  obtain ⟨entry, hentry, rfl⟩ := List.mem_map.mp hname
  exact (h entry hentry).name_matches

/-- The states that are referred to match. -/
theorem matches_of_mem_references (h : ∀ entry ∈ t.events.entries, entry.2.Proper entry.1)
    {state : String} (hstate : state ∈ t.references) : Identifier.Matches state := by
  obtain ⟨name, e, hentry, hsource | rfl⟩ := mem_references.mp hstate
  · exact (h _ hentry).sources_match state hsource
  · exact (h _ hentry).destination_matches

/-- **What names are taken for the same** matters among names that match only. -/
theorem Proper.imp {sameEvent sameState sameEvent' sameState' : String → String → Prop}
    (hevent : ∀ a b, Identifier.Matches a → Identifier.Matches b → sameEvent' a b → sameEvent a b)
    (hstate : ∀ a b, Identifier.Matches a → Identifier.Matches b → sameState' a b → sameState a b)
    (h : t.Proper sameEvent sameState) : t.Proper sameEvent' sameState' where
  name_matches := h.name_matches
  packageName_matches := h.packageName_matches
  imports_not_blank := h.imports_not_blank
  events_ne_nil := h.events_ne_nil
  events_proper := h.events_proper
  events_apart := by
    intro a ha b hb hne hsame
    have hma := matches_of_mem_names h.events_proper ha
    have hmb := matches_of_mem_names h.events_proper hb
    exact h.events_apart a ha b hb hne (hevent a b hma hmb hsame)
  states_apart := by
    intro a ha b hb hne hsame
    have hma := matches_of_mem_references h.events_proper ha
    have hmb := matches_of_mem_references h.events_proper hb
    exact h.states_apart a ha b hb hne (hstate a b hma hmb hsame)

/-- **Symbols tell apart** what differs in more than case. -/
theorem proper_iff_proper_upToCase :
    t.Proper (Symbol.ofEvent · = Symbol.ofEvent ·) (Symbol.ofState · = Symbol.ofState ·) ↔
      t.Proper Text.SameUpToCase Text.SameUpToCase := by
  have hevent : ∀ a b, Identifier.Matches a → Identifier.Matches b →
      (Symbol.ofEvent a = Symbol.ofEvent b ↔ Text.SameUpToCase a b) := by
    intro a b ha hb
    rw [← Identifier.valid_iff_matches] at ha hb
    exact Symbol.ofEvent_eq_iff ha hb
  have hstate : ∀ a b, Identifier.Matches a → Identifier.Matches b →
      (Symbol.ofState a = Symbol.ofState b ↔ Text.SameUpToCase a b) := by
    intro a b ha hb
    rw [← Identifier.valid_iff_matches] at ha hb
    exact Symbol.ofState_eq_iff ha hb
  constructor
  · exact Proper.imp (fun a b ha hb => (hevent a b ha hb).mpr)
      fun a b ha hb => (hstate a b ha hb).mpr
  · exact Proper.imp (fun a b ha hb => (hevent a b ha hb).mp)
      fun a b ha hb => (hstate a b ha hb).mp

/-! ### Shared symbols -/

/-- What is demanded is reported in one way only. -/
theorem notMem_demand {holds : Bool} {v w : Violation} (hne : v ≠ w) : v ∉ demand holds w := by
  cases holds with
  | true => exact List.not_mem_nil
  | false => exact fun h => hne (List.mem_singleton.mp h)

/-- Only a collision is worded like one. -/
theorem Violation.error_eq_collision_iff {v : Violation} {symbol first second : String} :
    v.error = .collision symbol first second ↔ v = .collision symbol first second := by
  cases v <;> simp [Violation.error]

theorem collision_notMem_paramViolations (symbol first second event : String)
    (earlier : List String) (ps : List Param) :
    .collision symbol first second ∉ paramViolations event earlier ps := by
  induction ps generalizing earlier with
  | nil => exact List.not_mem_nil
  | cons p ps ih =>
    rw [paramViolations]
    simp only [List.mem_append, not_or]
    refine ⟨⟨⟨?_, ?_⟩, ?_⟩, ih _⟩ <;> exact notMem_demand (by simp)

/-- No event collides with itself. -/
theorem collision_notMem_eventViolations (symbol first second name : String) (e : Event) :
    .collision symbol first second ∉ eventViolations name e := by
  rw [eventViolations]
  simp only [List.mem_append, not_or, List.mem_flatMap, not_exists, not_and]
  refine ⟨⟨⟨?_, ?_⟩, ?_⟩, collision_notMem_paramViolations _ _ _ _ _ _⟩
  · exact notMem_demand (by simp)
  · exact notMem_demand (by simp)
  · exact fun _ _ => notMem_demand (by simp)

/-- **Collisions** are between events or between states. -/
theorem collision_mem_violations {symbol first second : String}
    (h : .collision symbol first second ∈ t.violations) :
    .collision symbol first second ∈ collisions Symbol.ofEvent t.events.names ∨
      .collision symbol first second ∈ collisions Symbol.ofState (States.sorted t.references) := by
  rw [violations] at h
  simp only [List.mem_append, List.mem_flatMap] at h
  -- the names of machine and package, imports, whether there are events, each of them, and then
  -- the symbols of events and of states
  rcases h with (((((h | h) | ⟨_, _, h⟩) | h) | ⟨_, _, h⟩) | h) | h
  · exact absurd h (notMem_demand (by simp))
  · exact absurd h (notMem_demand (by simp))
  · exact absurd h (notMem_demand (by simp))
  · exact absurd h (notMem_demand (by simp))
  · exact absurd h (collision_notMem_eventViolations _ _ _ _ _)
  · exact .inl h
  · exact .inr h

/-- **Names that collide** share the symbol, and if all names increase, they come in the order of
their bytes. -/
theorem sharedBy_of_mem_collisions {symbolOf : String → String} {names : List String}
    (hnames : names.Pairwise (· < ·)) {symbol first second : String}
    (h : .collision symbol first second ∈ collisions symbolOf names) :
    Symbol.SharedBy symbolOf names symbol first second := by
  obtain ⟨c, hc, hviolation⟩ := List.mem_map.mp h
  cases hviolation
  -- the two are names of the list, in its order
  obtain ⟨pair, hsub, hpair⟩ := List.sublist_map_iff.mp (Symbol.sublist_of_mem_clashes hc)
  obtain ⟨a, rest, rfl, ha, hrest⟩ := List.map_eq_cons_iff.mp hpair.symm
  obtain ⟨b, rest', rfl, hb, hnil⟩ := List.map_eq_cons_iff.mp hrest
  obtain rfl := List.map_eq_nil_iff.mp hnil
  obtain ⟨hsymbol, hfirst⟩ := Prod.mk.inj ha
  obtain ⟨hsymbol', hsecond⟩ := Prod.mk.inj hb
  have hlt : a < b := List.pairwise_iff_forall_sublist.mp hnames hsub
  rw [← hfirst, ← hsecond]
  exact
    { first_mem := hsub.subset List.mem_cons_self
      second_mem := hsub.subset (List.mem_cons_of_mem _ List.mem_cons_self)
      first_lt := Text.lt_iff_bytes_lt.mp hlt
      first_symbol := hsymbol
      second_symbol := hsymbol' }

/-! ### Validation -/

/-- **Validation accepts exactly the proper tables**, whether names are taken for the same if they
share a symbol or if they agree up to case.  If it answers that two names share a symbol, then these
are two events or two states that do, and the smaller one is named first. -/
theorem validate_accepts_exactly_proper (t : Table) :
    (t.validate = .ok () ↔
      t.Proper (Symbol.ofEvent · = Symbol.ofEvent ·) (Symbol.ofState · = Symbol.ofState ·)) ∧
    (t.validate = .ok () ↔ t.Proper Text.SameUpToCase Text.SameUpToCase) ∧
    ∀ v symbol first second, t.validate = .error v → v.error = .collision symbol first second →
      Symbol.SharedBy Symbol.ofEvent t.events.names symbol first second ∨
        Symbol.SharedBy Symbol.ofState t.references symbol first second := by
  refine ⟨?_, ?_, ?_⟩
  · rw [validate_eq_ok_iff_wellFormed, proper_iff_wellFormed]
  · rw [validate_eq_ok_iff_wellFormed, ← proper_iff_wellFormed, proper_iff_proper_upToCase]
  · intro v symbol first second hv herror
    rw [Violation.error_eq_collision_iff] at herror
    subst herror
    -- what is reported is among the violations, and only collisions are errors like it
    have hmem := List.mem_of_mem_head? (validate_eq_error_iff.mp hv)
    rcases collision_mem_violations hmem with hevents | hstates
    · exact .inl (sharedBy_of_mem_collisions t.events.names_pairwise hevents)
    · obtain ⟨hfirst, hsecond, hlt, hsymbol, hsymbol'⟩ :=
        sharedBy_of_mem_collisions (States.sorted_pairwise t.references) hstates
      exact .inr ⟨States.mem_sorted.mp hfirst, States.mem_sorted.mp hsecond, hlt, hsymbol, hsymbol'⟩

/-- **A lamp** with one state too many: two of its states differ in case only. -/
def lamp : Table :=
  { name := "Lamp"
    packageName := "lamps"
    imports := []
    logging := false
    events := Catalog.ofList [("off", ⟨["on", "ON"], "dark", []⟩)] }

/-- The lamp is rejected.  Its states `on` and `ON` share a symbol, and `ON` is named first because
it comes first in the order of bytes. -/
theorem validate_accepts_exactly_proper_lamp :
    lamp.validate = .error (.collision "STATE_ON" "ON" "on") ∧
      ¬ lamp.Proper Text.SameUpToCase Text.SameUpToCase ∧
      (Symbol.SharedBy Symbol.ofEvent lamp.events.names "STATE_ON" "ON" "on" ∨
        Symbol.SharedBy Symbol.ofState lamp.references "STATE_ON" "ON" "on") := by
  have hrejected : lamp.validate = .error (.collision "STATE_ON" "ON" "on") := by decide
  obtain ⟨-, hiff, hshared⟩ := validate_accepts_exactly_proper lamp
  refine ⟨hrejected, fun hproper => ?_, hshared _ _ _ _ hrejected rfl⟩
  exact absurd (hrejected.symm.trans (hiff.mpr hproper)) nofun

end Table

end Automaton
