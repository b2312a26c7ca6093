import Automaton.Proofs.Blueprint.Lookup
import Automaton.Proofs.Text.ByteOrder
import Automaton.Target.Go
import Automaton.Target.Rust

/-!
# Blueprints are coherent

A blueprint says some things twice.  States are numbered among the constants and once more in the
lookup table; transitions refer to constants by their symbols; the name of the machine is in every
declaration.  Destination languages rely on different halves of this.  One numbers the constants by
position and keys the names of the states, the other writes the numbers down and finds the names by
position.

`Blueprint.Coherent` says that all of it fits together, for some names that are the states of the
table in the order of their bytes, and `Blueprint.ofTable_coherent` says that the blueprint of an
accepted table is coherent.

Symbols are where something could go wrong.  That those of states are all different, and those of
events, is a rule about tables; a state and an event are told apart by how their symbols begin
(`Symbol.ofState_ne_ofEvent`).  A guard has the symbols of states in the order of the states, so it
increases with them (`Blueprint.guard_precedes`).
-/

namespace Automaton

/-! ### What fits together -/

namespace Blueprint

/-- **A symbol is declared**: it is that of exactly one constant. -/
def Declares (b : Blueprint) (symbol : String) : Prop :=
  (b.states.constants.map Constant.symbol).count symbol = 1

/-- **A symbol precedes another** if its number is smaller. -/
def Precedes (b : Blueprint) (x y : String) : Prop :=
  ∃ i j, b.ordinalOf? x = some i ∧ b.ordinalOf? y = some j ∧ i < j

end Blueprint

/-- **A transition belongs to an event** of the table, with its number and its name. -/
structure Transition.BelongsTo (tr : Transition) (ordinal : Nat) (name : String) (e : Event) :
    Prop where
  /-- It has the number. -/
  ordinal_eq : tr.ordinal = ordinal
  /-- It has the name. -/
  event_eq : tr.event = name
  /-- Its constant has the symbol of the name. -/
  eventSymbol_eq : tr.eventSymbol = Symbol.ofEvent name
  /-- It takes the parameters of the event. -/
  params_eq : tr.params = e.params
  /-- Its guard has the symbols of the sources. -/
  mem_guard : ∀ symbol, symbol ∈ tr.guard ↔ ∃ n ∈ e.sources, symbol = Symbol.ofState n
  /-- It leads where the event leads. -/
  destination_eq : tr.destination = e.destination
  /-- It does so under the symbol of that state. -/
  destinationSymbol_eq : tr.destinationSymbol = Symbol.ofState e.destination

/-- **A transition is closed** in a blueprint: it refers to what is declared there, and its guard is
a list of cases as a language wants them. -/
structure Transition.Closed (b : Blueprint) (tr : Transition) : Prop where
  /-- There is a case. -/
  guard_ne_nil : tr.guard ≠ []
  /-- No case is repeated. -/
  guard_nodup : tr.guard.Nodup
  /-- The numbers of the cases increase. -/
  guard_precedes : tr.guard.Pairwise b.Precedes
  /-- The cases are declared. -/
  guard_declared : ∀ symbol ∈ tr.guard, b.Declares symbol
  /-- So is the destination. -/
  destination_declared : b.Declares tr.destinationSymbol
  /-- The transition belongs to the machine. -/
  machine_eq : tr.machine = b.machine.name

/-- **A coherent blueprint** of a table whose states have given names. -/
structure Blueprint.Coherent (t : Table) (names : List String) (b : Blueprint) : Prop where
  /-- The names are those that the table refers to. -/
  mem_names : ∀ n, n ∈ names ↔ n ∈ t.references
  /-- They come in the order of their bytes. -/
  names_increase : names.Pairwise fun m n => Text.bytes m < Text.bytes n
  /-- There is a constant for each name. -/
  length_constants : b.states.constants.length = names.length
  /-- It has the symbol of the name and its place. -/
  constants : ∀ (i : Nat) n, names[i]? = some n →
    b.states.constants[i]? = some ⟨Symbol.ofState n, i⟩
  /-- There is an entry for each name. -/
  length_entries : b.lookup.entries.length = names.length
  /-- It has the place of the name and the name. -/
  entries : ∀ (i : Nat) n, names[i]? = some n → b.lookup.entries[i]? = some (i, n)
  /-- Events come in the order of their bytes, too. -/
  events_increase : t.events.names.Pairwise fun m n => Text.bytes m < Text.bytes n
  /-- There is a transition for each event. -/
  length_transitions : b.transitions.length = t.events.names.length
  /-- It belongs to the event, and has its place. -/
  transitions : ∀ (j : Nat) tr, b.transitions[j]? = some tr → ∃ name e,
    t.events.entries[j]? = some (name, e) ∧ tr.BelongsTo j name e
  /-- All symbols are different, those of states and those of events. -/
  symbols_nodup : (b.states.constants.map Constant.symbol ++
    b.transitions.map Transition.eventSymbol).Nodup
  /-- Machines start in a state that is declared. -/
  initial_declared : b.Declares b.constructor.initialSymbol
  /-- All transitions are closed. -/
  transitions_closed : ∀ tr ∈ b.transitions, tr.Closed b
  /-- The constructor makes the machine. -/
  constructor_machine : b.constructor.machine = b.machine.name
  /-- The lookup table is that of the machine. -/
  lookup_machine : b.lookup.machine = b.machine.name
  /-- Numbered by position, a constant has the number under which its state is keyed. -/
  go_states : ∀ (i : Nat) n, names[i]? = some n →
    (GoSource.constants b.states)[i + 2]? = some ("\t" ++ Symbol.ofState n ++
      if i = 0 then " " ++ GoSource.typeOf b.states.width ++ " = iota" else "") ∧
    (GoSource.lookup b.lookup)[i + 3]? =
      some ("\t" ++ toString i ++ ": " ++ Text.quote n ++ ",")
  /-- Numbered in writing, a constant has the number of the place where its state stands. -/
  rust_states : ∀ (i : Nat) n, names[i]? = some n →
    (RustSource.constants b.states)[i + 1]? = some ("pub const " ++ Symbol.ofState n ++ ": " ++
      RustSource.typeOf b.states.width ++ " = " ++ toString i ++ ";") ∧
    (RustSource.lookup b.lookup)[i + 3]? =
      some ("    " ++ Text.quote n ++ ", // " ++ toString i)

/-! ### Constants and entries by position -/

/-- A state stands at its number. -/
theorem States.getElem?_numbered {s : States} {i : Nat} {n : String} (h : s.names[i]? = some n) :
    s.numbered[i]? = some (i, n) := by
  rw [numbered, List.getElem?_map, List.getElem?_zipIdx, h]
  simp only [Option.map_some, Nat.zero_add]

/-- So does an event. -/
theorem Table.eq_of_getElem?_numberedEvents {t : Table} {i j : Nat} {entry : String × Event}
    (h : t.numberedEvents[j]? = some (i, entry)) : i = j := by
  rw [numberedEvents, List.getElem?_map, List.getElem?_zipIdx] at h
  obtain ⟨_, hnumbered, heq⟩ := Option.map_eq_some_iff.mp h
  obtain ⟨_, -, rfl⟩ := Option.map_eq_some_iff.mp hnumbered
  exact ((Prod.mk.inj heq).1.symm).trans (Nat.zero_add j)

namespace Blueprint

variable {t : Table} {s : States}

/-- A constant stands at its number. -/
theorem getElem?_constants {i : Nat} {n : String} (h : s.names[i]? = some n) :
    (direct t s).states.constants[i]? = some ⟨Symbol.ofState n, i⟩ := by
  rw [direct, List.getElem?_map, States.getElem?_numbered h]
  rfl

/-- So does an entry. -/
theorem getElem?_entries {i : Nat} {n : String} (h : s.names[i]? = some n) :
    (direct t s).lookup.entries[i]? = some (i, n) :=
  States.getElem?_numbered h

/-- There is one entry for each state. -/
theorem length_entries : (direct t s).lookup.entries.length = s.size := by
  rw [direct, States.numbered, List.length_map, List.length_zipIdx, States.size]

end Blueprint

/-! ### Constants and entries by line -/

/-- A line that is made of an item stands where the item does, behind the lines before. -/
theorem getElem?_between {α : Type} {xs : List α} {i : Nat} {x : α} (h : xs[i]? = some x)
    (front back : List String) (line : α → String) :
    (front ++ xs.map line ++ back)[i + front.length]? = some (line x) := by
  obtain ⟨hi, -⟩ := List.getElem?_eq_some_iff.mp h
  rw [List.append_assoc, List.getElem?_append_right (Nat.le_add_left _ i), Nat.add_sub_cancel,
    List.getElem?_append_left (by rwa [List.length_map]), List.getElem?_map, h]
  rfl

/-- Constants in Go are numbered by their lines, behind the two lines that open the block. -/
theorem GoSource.getElem?_constants {c : Blueprint.Constants} {i j : Nat} {symbol : String}
    (h : c.constants[i]? = some ⟨symbol, j⟩) :
    (constants c)[i + 2]? = some ("\t" ++ symbol ++
      if i = 0 then " " ++ typeOf c.width ++ " = iota" else "") := by
  rw [constants, List.append_assoc]
  show (_ ++ [")"])[i]? = _
  cases hc : c.constants with
  | nil =>
    rw [hc] at h
    exact absurd h nofun
  | cons first rest =>
    rw [hc] at h
    -- the first line carries the type, all others are bare
    cases i with
    | zero =>
      obtain rfl := Option.some.inj h
      simp only [List.cons_append, List.getElem?_cons_zero, if_true, String.append_assoc]
    | succ i =>
      have hrest : rest[i]? = some ⟨symbol, j⟩ := h
      obtain ⟨hi, -⟩ := List.getElem?_eq_some_iff.mp hrest
      rw [List.cons_append, List.getElem?_cons_succ,
        List.getElem?_append_left (by rwa [List.length_map]), List.getElem?_map, hrest]
      simp only [Option.map_some, Nat.succ_ne_zero, if_false, String.append_empty]

/-- Names in Go are keyed, behind the three lines that open the table. -/
theorem GoSource.getElem?_lookup {l : Blueprint.Lookup} {i j : Nat} {n : String}
    (h : l.entries[i]? = some (j, n)) :
    (lookup l)[i + 3]? = some ("\t" ++ toString j ++ ": " ++ Text.quote n ++ ",") :=
  getElem?_between h _ _ _

/-- Constants in Rust have their numbers written down. -/
theorem RustSource.getElem?_constants {c : Blueprint.Constants} {i j : Nat} {symbol : String}
    (h : c.constants[i]? = some ⟨symbol, j⟩) :
    (constants c)[i + 1]? = some ("pub const " ++ symbol ++ ": " ++ typeOf c.width ++ " = " ++
      toString j ++ ";") := by
  rw [constants, List.getElem?_cons_succ, List.getElem?_map, h]
  rfl

/-- Names in Rust are found by their lines, behind the three lines that open the array. -/
theorem RustSource.getElem?_lookup {l : Blueprint.Lookup} {i j : Nat} {n : String}
    (h : l.entries[i]? = some (j, n)) :
    (lookup l)[i + 3]? = some ("    " ++ Text.quote n ++ ", // " ++ toString j) :=
  getElem?_between h _ _ _

/-! ### Symbols -/

/-- **States and events** are told apart by how their symbols begin. -/
theorem Symbol.ofState_ne_ofEvent (state event : String) : ofState state ≠ ofEvent event := by
  intro h
  have hlist := congrArg String.toList h
  rw [ofState, ofEvent, String.toList_append, String.toList_append] at hlist
  exact absurd (List.cons.inj hlist).1 (by decide)

namespace Blueprint

variable {t : Table} {s : States}

/-- The constants of events have the symbols of their names. -/
theorem eventSymbols_transitions :
    (direct t s).transitions.map Transition.eventSymbol = t.events.names.map Symbol.ofEvent := by
  rw [← Table.names_numberedEvents, direct, directTransitions, List.map_map, List.map_map]
  rfl

section WellFormed

variable (h : t.WellFormed) (hs : States.ofTable t = some s)
include h hs

/-- The symbols of states are all different. -/
theorem stateSymbols_nodup : ((direct t s).states.constants.map Constant.symbol).Nodup := by
  rw [symbols_constants, States.names_ofTable hs]
  exact h.stateSymbols_nodup

/-- **All symbols** of a blueprint are different. -/
theorem symbols_direct_nodup :
    ((direct t s).states.constants.map Constant.symbol ++
      (direct t s).transitions.map Transition.eventSymbol).Nodup := by
  refine (stateSymbols_nodup h hs).append ?_ ?_
  · rw [eventSymbols_transitions]
    exact h.eventSymbols_nodup
  · -- no symbol is both that of a state and that of an event
    rw [symbols_constants, eventSymbols_transitions]
    intro symbol hstate hevent
    obtain ⟨state, -, rfl⟩ := List.mem_map.mp hstate
    obtain ⟨event, -, heq⟩ := List.mem_map.mp hevent
    exact Symbol.ofState_ne_ofEvent state event heq.symm

/-- **The symbol of a state** is declared. -/
theorem declares_ofState {n : String} (hn : n ∈ s.names) :
    (direct t s).Declares (Symbol.ofState n) := by
  refine List.count_eq_one_of_mem (stateSymbols_nodup h hs) ?_
  rw [symbols_constants]
  exact List.mem_map.mpr ⟨n, hn, rfl⟩

/-- **Symbols precede** each other like their states. -/
theorem precedes_of_lt {m n : String} (hm : m ∈ s.names) (hn : n ∈ s.names) (hlt : m < n) :
    (direct t s).Precedes (Symbol.ofState m) (Symbol.ofState n) := by
  refine ⟨(s.ordinal? m).getD 0, (s.ordinal? n).getD 0, ?_, ?_, States.ordinal_lt_ordinal hm hn hlt⟩
  · rw [ordinalOf?_direct h hs hm]
    exact States.getElem?_ordinal hm
  · rw [ordinalOf?_direct h hs hn]
    exact States.getElem?_ordinal hn

/-! ### Transitions -/

/-- **Guards increase** in the numbers of their symbols. -/
theorem guard_precedes (sources : List String) :
    ((Transition.accepted s sources).map Symbol.ofState).Pairwise (direct t s).Precedes := by
  rw [List.pairwise_map]
  refine List.Pairwise.imp_of_mem (fun {m n} hm hn hlt => ?_) (s.ordered.filter _)
  exact precedes_of_lt h hs (Transition.mem_accepted.mp hm).1 (Transition.mem_accepted.mp hn).1 hlt

omit h in
/-- The transition of an event belongs to it. -/
theorem belongsTo_direct {j : Nat} {name : String} {e : Event}
    (hentry : t.events.entries[j]? = some (name, e)) :
    (Transition.direct (settingOf t s) j name e).BelongsTo j name e where
  ordinal_eq := rfl
  event_eq := rfl
  eventSymbol_eq := rfl
  params_eq := rfl
  mem_guard := by
    intro symbol
    -- sources are states, so none of them is left out of the guard
    have hknown : ∀ n ∈ e.sources, n ∈ s.names := fun n hn =>
      (States.mem_names_ofTable hs).mpr <|
        Table.mem_references.mpr ⟨name, e, List.mem_of_getElem? hentry, .inl hn⟩
    show symbol ∈ (Transition.accepted s e.sources).map Symbol.ofState ↔ _
    simp only [List.mem_map, Transition.mem_accepted]
    constructor
    · rintro ⟨n, ⟨-, hn⟩, rfl⟩
      exact ⟨n, hn, rfl⟩
    · rintro ⟨n, hn, rfl⟩
      exact ⟨n, ⟨hknown n hn, hn⟩, rfl⟩
  destination_eq := rfl
  destinationSymbol_eq := rfl

/-- **The transition of an event** is closed. -/
theorem closed_direct {j : Nat} {name : String} {e : Event}
    (hentry : t.events.entries[j]? = some (name, e)) :
    (Transition.direct (settingOf t s) j name e).Closed (direct t s) := by
  have hmem : (name, e) ∈ t.events.entries := List.mem_of_getElem? hentry
  have hbelongs := belongsTo_direct hs hentry
  have hknown : ∀ n, n ∈ e.sources ∨ n = e.destination → n ∈ s.names := fun n hn =>
    (States.mem_names_ofTable hs).mpr (Table.mem_references.mpr ⟨name, e, hmem, hn⟩)
  obtain ⟨source, hsource⟩ :=
    List.exists_mem_of_ne_nil _ (h.events_wellFormed _ hmem).sources_ne_nil
  have hprecedes := guard_precedes h hs e.sources
  exact
    { guard_ne_nil := List.ne_nil_of_mem ((hbelongs.mem_guard _).mpr ⟨source, hsource, rfl⟩)
      guard_nodup := by
        -- a symbol does not precede itself, for it has one number
        refine hprecedes.imp ?_
        rintro x _ ⟨i, j, hi, hj, hlt⟩ rfl
        exact absurd (Option.some.inj (hi.symm.trans hj)) hlt.ne
      guard_precedes := hprecedes
      guard_declared := by
        intro symbol hsymbol
        obtain ⟨n, hn, rfl⟩ := (hbelongs.mem_guard symbol).mp hsymbol
        exact declares_ofState h hs (hknown n (.inl hn))
      destination_declared := declares_ofState h hs (hknown _ (.inr rfl))
      machine_eq := rfl }

/-! ### The whole -/

/-- **The blueprint of a well formed table** is coherent. -/
theorem coherent_direct : (direct t s).Coherent t s.names where
  mem_names := fun _ => States.mem_names_ofTable hs
  names_increase := s.ordered.imp Text.lt_iff_bytes_lt.mp
  length_constants := length_constants
  constants := fun _ _ hn => getElem?_constants hn
  length_entries := length_entries
  entries := fun _ _ hn => getElem?_entries hn
  events_increase := t.events.names_pairwise.imp Text.lt_iff_bytes_lt.mp
  length_transitions := by
    rw [← events_transitions (t := t) (s := s), List.length_map]
  transitions := by
    intro j tr htr
    rw [direct, directTransitions, List.getElem?_map] at htr
    obtain ⟨⟨i, name, e⟩, hx, rfl⟩ := Option.map_eq_some_iff.mp htr
    -- the place of a transition is the number of its event
    obtain rfl := Table.eq_of_getElem?_numberedEvents hx
    have hentry := Table.mem_numberedEvents.mp (List.mem_of_getElem? hx)
    exact ⟨name, e, hentry, belongsTo_direct hs hentry⟩
  symbols_nodup := symbols_direct_nodup h hs
  initial_declared := declares_ofState h hs (List.head_mem s.inhabited)
  transitions_closed := by
    intro tr htr
    obtain ⟨j, name, e, hentry, rfl⟩ := mem_transitions.mp htr
    exact closed_direct h hs hentry
  constructor_machine := rfl
  lookup_machine := rfl
  go_states := fun _ _ hn =>
    ⟨GoSource.getElem?_constants (getElem?_constants hn),
      GoSource.getElem?_lookup (getElem?_entries hn)⟩
  -- in both languages, a state has the line of its ordinal
  rust_states := fun _ _ hn =>
    ⟨RustSource.getElem?_constants (getElem?_constants hn),
      RustSource.getElem?_lookup (getElem?_entries hn)⟩

end WellFormed

/-- **Blueprints are coherent**: every accepted table has a blueprint, and it is coherent for names
that are the states of the table. -/
theorem ofTable_coherent (t : Table) (h : t.validate = .ok ()) :
    ∃ b names, ofTable t = .ok b ∧ b.Coherent t names := by
  have hwf := Table.validate_eq_ok_iff_wellFormed.mp h
  obtain ⟨s, hs⟩ := exists_states hwf
  exact ⟨direct t s, s.names, ofTable_eq_ok hwf hs, coherent_direct hwf hs⟩

/-- The blueprint of the jobs is coherent. -/
theorem ofTable_coherent_jobs : Table.jobs.validate = .ok () ∧
    ∃ b names, ofTable Table.jobs = .ok b ∧ b.Coherent Table.jobs names :=
  ⟨by decide, ofTable_coherent Table.jobs (by decide)⟩

end Blueprint

end Automaton
