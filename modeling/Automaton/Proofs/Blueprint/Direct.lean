import Automaton.Blueprint.OfTable
import Automaton.Proofs.Table.WellFormed
import Mathlib.Data.String.Basic

/-!
# Blueprints without look-ups

On its way from a table to a blueprint, every state is looked up, and every look-up could fail.
None of them does: states are exactly what the events of the table refer to.  `Blueprint.direct` is
the same blueprint written down without a single look-up, and `Blueprint.ofTable_eq_ok` says that
it is what a well formed table gets.

The one step with an idea in it is the guard.  It is made by putting the numbered symbols of the
sources in order and dropping repetitions, so it holds the symbols of *the states among the
sources*, in the order of the states (`Transition.guardOf_tagged`).  Numbers settle the order, and
they agree with the order of names (`States.ordinal_lt_ordinal`).
-/

namespace Automaton

/-- A list is walked through without failure if no item fails. -/
theorem mapM_eq_ok {ε α β : Type} {f : α → Except ε β} {g : α → β} {as : List α}
    (h : ∀ a ∈ as, f a = .ok (g a)) : as.mapM f = .ok (as.map g) := by
  induction as with
  | nil => rfl
  | cons a as ih =>
    obtain ⟨hhead, htail⟩ := List.forall_mem_cons.mp h
    rw [List.mapM_cons, hhead, ih htail]
    rfl

/-! ### Looking states up -/

namespace States

variable {s : States} {name : String}

/-- The number of a state is the place of its name. -/
theorem getElem?_ordinal (h : name ∈ s.names) :
    s.names[(s.ordinal? name).getD 0]? = some name := by
  obtain ⟨i, hi⟩ := Option.isSome_iff_exists.mp (contains_iff.mpr h)
  rw [hi]
  exact ordinal?_eq_some_iff.mp hi

/-- **Greater names have greater numbers.** -/
theorem ordinal_lt_ordinal {a b : String} (ha : a ∈ s.names) (hb : b ∈ s.names) (hlt : a < b) :
    (s.ordinal? a).getD 0 < (s.ordinal? b).getD 0 := by
  obtain ⟨hi, hai⟩ := List.getElem?_eq_some_iff.mp (getElem?_ordinal ha)
  obtain ⟨hj, hbj⟩ := List.getElem?_eq_some_iff.mp (getElem?_ordinal hb)
  have hiff := @names_lt_iff s.names.toArray s.ordered _ _ hi hj
  simp only [List.getElem_toArray, hai, hbj] at hiff
  exact hiff.mp hlt

/-- Numbering keeps the states and their order. -/
theorem names_numbered (s : States) : s.numbered.map Prod.snd = s.names := by
  rw [numbered, List.map_map]
  exact List.zipIdx_map_fst 0 s.names

/-- States are numbered from zero on. -/
theorem ordinals_numbered (s : States) : s.numbered.map Prod.fst = List.range s.size := by
  rw [numbered, List.map_map, size, List.range_eq_range']
  exact List.zipIdx_map_snd 0 s.names

end States

namespace Table

variable {t : Table}

/-- A numbered event stands at its number. -/
theorem mem_numberedEvents {i : Nat} {name : String} {e : Event} :
    (i, name, e) ∈ t.numberedEvents ↔ t.events.entries[i]? = some (name, e) := by
  simp only [numberedEvents, List.mem_map, Prod.mk.injEq, Prod.exists,
    List.mem_zipIdx_iff_getElem?]
  constructor
  · rintro ⟨n, d, j, hmem, rfl, rfl, rfl⟩
    exact hmem
  · intro hmem
    exact ⟨name, e, i, hmem, rfl, rfl, rfl⟩

/-- Numbering keeps the events and their order. -/
theorem entries_numberedEvents (t : Table) : t.numberedEvents.map Prod.snd = t.events.entries := by
  rw [numberedEvents, List.map_map]
  exact List.zipIdx_map_fst 0 t.events.entries

/-- It keeps their names as well. -/
theorem names_numberedEvents (t : Table) :
    (t.numberedEvents.map fun x => x.2.1) = t.events.names := by
  rw [Catalog.names, ← entries_numberedEvents, List.map_map]
  rfl

/-- Events are numbered from zero on. -/
theorem ordinals_numberedEvents (t : Table) :
    t.numberedEvents.map Prod.fst = List.range t.events.size := by
  rw [numberedEvents, List.map_map, Catalog.size, List.range_eq_range']
  exact List.zipIdx_map_snd 0 t.events.entries

/-- The states of numbered events are referred to by the table. -/
theorem mem_references_of_numberedEvents {i : Nat} {name n : String} {e : Event}
    (h : (i, name, e) ∈ t.numberedEvents) (hn : n ∈ e.states) : n ∈ t.references := by
  have hentry : (name, e) ∈ t.events.entries := List.mem_of_getElem? (mem_numberedEvents.mp h)
  exact List.mem_flatMap.mpr ⟨e, List.mem_map.mpr ⟨_, hentry, rfl⟩, hn⟩

end Table

/-! ### Guards -/

namespace Transition

theorem tagLe_iff {a b : Nat × String} : tagLe a b = true ↔ a.1 < b.1 ∨ a.1 = b.1 ∧ a.2 ≤ b.2 := by
  simp only [tagLe, Bool.or_eq_true, Bool.and_eq_true, decide_eq_true_eq, beq_iff_eq]

theorem tagLe_trans (a b c : Nat × String) (hab : tagLe a b = true) (hbc : tagLe b c = true) :
    tagLe a c = true := by
  rw [tagLe_iff] at hab hbc ⊢
  rcases hab with hab | ⟨hab, hab'⟩ <;> rcases hbc with hbc | ⟨hbc, hbc'⟩
  · exact .inl (hab.trans hbc)
  · -- only one of the two steps goes up in the number
    exact .inl (hbc ▸ hab)
  · exact .inl (hab ▸ hbc)
  · exact .inr ⟨hab.trans hbc, hab'.trans hbc'⟩

theorem tagLe_total (a b : Nat × String) : (tagLe a b || tagLe b a) = true := by
  rw [Bool.or_eq_true, tagLe_iff, tagLe_iff]
  rcases lt_trichotomy a.1 b.1 with h | h | h
  · exact .inl (.inl h)
  · exact (le_total a.2 b.2).imp (fun hle => .inr ⟨h, hle⟩) (fun hle => .inr ⟨h.symm, hle⟩)
  · exact .inr (.inl h)

theorem tagLe_antisymm (a b : Nat × String) (hab : tagLe a b = true) (hba : tagLe b a = true) :
    a = b := by
  rw [tagLe_iff] at hab hba
  have hfst : a.1 = b.1 := by omega
  have hsnd : a.2 = b.2 := by
    refine le_antisymm ?_ ?_
    · exact (hab.resolve_left (by omega)).2
    · exact (hba.resolve_left (by omega)).2
  exact Prod.ext hfst hsnd

/-- A state with its number and its symbol. -/
def tag (s : States) (name : String) : Nat × String :=
  ((s.ordinal? name).getD 0, Symbol.ofState name)

theorem tagged_eq_ok {s : States} {name : String} (h : name ∈ s.names) :
    tagged s name = .ok (tag s name) := by
  rw [tagged, States.symbol_eq_ok h]
  rfl

/-- **The states among the sources** of an event, by increasing ordinal. -/
def accepted (s : States) (sources : List String) : List String :=
  s.names.filter (sources.contains ·)

theorem mem_accepted {s : States} {sources : List String} {name : String} :
    name ∈ accepted s sources ↔ name ∈ s.names ∧ name ∈ sources := by
  simp only [accepted, List.mem_filter, List.contains_eq_mem, decide_eq_true_eq]

/-- Numbered symbols of different states increase with the states. -/
theorem tag_pairwise (s : States) (sources : List String) :
    ((accepted s sources).map (tag s)).Pairwise fun a b => tagLe a b = true ∧ a ≠ b := by
  rw [List.pairwise_map]
  refine List.Pairwise.imp_of_mem (fun {a b} ha hb hlt => ?_) (s.ordered.filter _)
  have hord : (tag s a).1 < (tag s b).1 :=
    States.ordinal_lt_ordinal (mem_accepted.mp ha).1 (mem_accepted.mp hb).1 hlt
  exact ⟨tagLe_iff.mpr (.inl hord), fun heq => absurd (heq ▸ hord) (lt_irrefl _)⟩

/-- **The guard of an event** holds the symbols of the states among its sources. -/
theorem guardOf_tagged {s : States} {sources : List String} (h : ∀ n ∈ sources, n ∈ s.names) :
    guardOf (sources.map (tag s)) = (accepted s sources).map Symbol.ofState := by
  -- the tags of the accepted states increase, and they are the tags of the sources
  have hranked : ranked tagLe (sources.map (tag s)) = (accepted s sources).map (tag s) := by
    refine ranked_eq_of_mem_iff tagLe_trans tagLe_total tagLe_antisymm (tag_pairwise s sources) ?_
    intro a
    simp only [List.mem_map, mem_accepted]
    constructor
    · rintro ⟨n, ⟨-, hn⟩, rfl⟩
      exact ⟨n, hn, rfl⟩
    · rintro ⟨n, hn, rfl⟩
      exact ⟨n, ⟨h n hn, hn⟩, rfl⟩
  rw [guardOf, hranked, List.map_map]
  rfl

/-! ### Transitions -/

/-- The transition of an event, without look-ups. -/
def direct (setting : Setting) (ordinal : Nat) (name : String) (e : Event) : Transition where
  machine := setting.machine
  event := name
  eventSymbol := Symbol.ofEvent name
  ordinal
  eventWidth := setting.eventWidth
  params := e.params
  guard := (accepted setting.states e.sources).map Symbol.ofState
  destinationSymbol := Symbol.ofState e.destination
  destination := e.destination
  log := if setting.logging then some (logOf e) else none

/-- If a transition is logged, the parameters of its event are. -/
theorem eq_logOf_of_log_direct {setting : Setting} {i : Nat} {name : String} {e : Event}
    {l : LogEntry} (hl : (direct setting i name e).log = some l) : l = logOf e := by
  change (if setting.logging = true then some (logOf e) else none) = some l at hl
  split at hl
  · exact (Option.some.inj hl).symm
  · exact absurd hl nofun

/-- **An event among known states** has its transition. -/
theorem ofEvent_eq_ok {setting : Setting} {ordinal : Nat} {name : String} {e : Event}
    (h : ∀ n ∈ e.states, n ∈ setting.states.names) :
    ofEvent setting ordinal name e = .ok (direct setting ordinal name e) := by
  have hsources : ∀ n ∈ e.sources, n ∈ setting.states.names :=
    fun n hn => h n (List.mem_append_left _ hn)
  have hdest : e.destination ∈ setting.states.names :=
    h _ (List.mem_append_right _ (List.mem_singleton.mpr rfl))
  have hmap := mapM_eq_ok fun n hn => tagged_eq_ok (hsources n hn)
  rw [ofEvent, hmap, States.symbol_eq_ok hdest]
  simp only [bind, Except.bind, pure, Except.pure, guardOf_tagged hsources, direct]

end Transition

/-! ### Blueprints -/

namespace Blueprint

/-- The transitions of a table with given states, without look-ups. -/
def directTransitions (t : Table) (s : States) : List Transition :=
  t.numberedEvents.map fun x => Transition.direct (settingOf t s) x.1 x.2.1 x.2.2

/-- **The blueprint of a table with given states**, without look-ups. -/
def direct (t : Table) (s : States) : Blueprint where
  header := { package := t.packageName, imports := importsOf t, digest := none }
  states :=
    { width := Width.forCount s.size
      constants := s.numbered.map fun (ordinal, name) => ⟨Symbol.ofState name, ordinal⟩ }
  constructor :=
    { machine := t.name
      initialSymbol := Symbol.ofState s.initial
      eventWidth := Width.forCount t.events.size }
  machine :=
    { name := t.name
      stateWidth := Width.forCount s.size
      eventWidth := Width.forCount t.events.size }
  lookup := { machine := t.name, keyWidth := Width.forCount s.size, entries := s.numbered }
  transitions := directTransitions t s

/-- **A table among known states** has its blueprint. -/
theorem ofStates_eq_ok {t : Table} {s : States} (h : ∀ n ∈ t.references, n ∈ s.names) :
    ofStates t s = .ok (direct t s) := by
  have hconstants : constantsOf s = .ok (direct t s).states.constants := by
    refine mapM_eq_ok fun ⟨ordinal, name⟩ hmem => ?_
    have hname : name ∈ s.names := List.mem_of_getElem? (States.mem_numbered.mp hmem)
    simp only [States.symbol_eq_ok hname]
    rfl
  -- the initial state is one of the states, and so are all states of events
  have hinitial : s.symbol s.initial = .ok (Symbol.ofState s.initial) :=
    States.symbol_eq_ok (List.head_mem s.inhabited)
  have htransitions : Transition.ofEvents (settingOf t s) t.numberedEvents =
      .ok (direct t s).transitions :=
    mapM_eq_ok fun ⟨i, name, e⟩ hmem => Transition.ofEvent_eq_ok fun n hn =>
      h n (Table.mem_references_of_numberedEvents hmem hn)
  rw [ofStates, hconstants, hinitial, htransitions]
  rfl

/-- A well formed table has states. -/
theorem exists_states {t : Table} (h : t.WellFormed) : ∃ s, States.ofTable t = some s :=
  Option.ne_none_iff_exists'.mp fun hnone => h.events_ne_nil (States.ofTable_eq_none_iff.mp hnone)

/-- **The blueprint of a well formed table.** -/
theorem ofTable_eq_ok {t : Table} {s : States} (h : t.WellFormed) (hs : States.ofTable t = some s) :
    ofTable t = .ok (direct t s) := by
  have hstates : t.states = .ok s := by rw [Table.states, hs]
  rw [ofTable, Table.validate_eq_ok_iff_wellFormed.mpr h]
  simp only [hstates, bind, Except.bind,
    ofStates_eq_ok fun n hn => (States.mem_names_ofTable hs).mpr hn]
  rfl

end Blueprint

end Automaton
