import Automaton.Error
import Automaton.Proofs.Blueprint.Simulation
import Automaton.Proofs.Text.ByteOrder

/-!
# The states of a table are its references

No table declares its states, and everything that is generated or drawn of a table starts by working
out what they are.  `States.AreThoseOf` says what all of that relies on: the states are the names
that events refer to, in the order of their bytes; looking a name up inverts numbering, for names
that are states and for names that are none; and machines start in the least state.

`Table.states_areThoseOf` says that every table with events has such states, whether it is valid or
not, and that a table without events has none.  Names need not be identifiers here: they may be
empty, or be spelled with whatever characters there are.

Names are found by halving, which takes for granted that the order in which it compares is the order
in which the states are listed (`States.searchBetween_eq_some_iff`).  All answers about a name
follow from where it is found.
-/

namespace Automaton

/-- **A table refers to a state** if some event has it as a source or as its destination. -/
def Table.RefersTo (t : Table) (n : String) : Prop :=
  ∃ name e, (name, e) ∈ t.events.entries ∧ (n ∈ e.sources ∨ n = e.destination)

namespace States

/-- **The states are those of a table**, and looking them up works. -/
structure AreThoseOf (s : States) (t : Table) : Prop where
  /-- They are listed in the order of their bytes, each of them once. -/
  names_increase : s.names.Pairwise fun m n => Text.bytes m < Text.bytes n
  /-- They are the names that the table refers to. -/
  mem_names : ∀ n, n ∈ s.names ↔ t.RefersTo n
  /-- A name has the number of the place where it is listed, and no other name has a number. -/
  ordinal? : ∀ q i, s.ordinal? q = some i ↔ s.names[i]? = some q
  /-- The names that count as states are those that the table refers to. -/
  contains : ∀ q, s.contains q = true ↔ t.RefersTo q
  /-- These have the symbols of states. -/
  symbol_ok : ∀ q symbol, s.symbol q = .ok symbol ↔ t.RefersTo q ∧ symbol = Symbol.ofState q
  /-- For all others there is a complaint by name. -/
  symbol_error : ∀ q e, (s.symbol q).mapError Unknown.error = .error e ↔
    ¬ t.RefersTo q ∧ e = .synthesis s!"state '{q}' is not part of the derived state set"
  /-- Listed with their numbers, they are the same states in the same order. -/
  numbered : s.numbered.map Prod.snd = s.names
  /-- The numbers count them. -/
  ordinals : s.numbered.map Prod.fst = List.range s.size
  /-- A number is the one that is found by looking up. -/
  numbered_ordinal? : ∀ i n, (i, n) ∈ s.numbered → s.ordinal? n = some i
  /-- Machines start in one of the states. -/
  initial_refersTo : t.RefersTo s.initial
  /-- It is the least of them in the order of bytes. -/
  initial_least : ∀ n, t.RefersTo n → Text.bytes s.initial ≤ Text.bytes n

variable {s : States} {q : String}

/-! ### Symbols -/

/-- **A state has its symbol**, and nothing else has one. -/
theorem symbol_eq_ok_iff {symbol : String} :
    s.symbol q = .ok symbol ↔ q ∈ s.names ∧ symbol = Symbol.ofState q := by
  by_cases hq : q ∈ s.names
  · rw [symbol_eq_ok hq, Except.ok.injEq, eq_comm, and_iff_right hq]
  · rw [States.symbol, if_neg (mt contains_iff.mp hq)]
    constructor
    · rintro ⟨⟩
    · exact fun h => absurd h.1 hq

/-- **Whatever is no state** is complained about by its name. -/
theorem symbol_eq_error_iff {u : Unknown} : s.symbol q = .error u ↔ q ∉ s.names ∧ u = ⟨q⟩ := by
  by_cases hq : q ∈ s.names
  · rw [symbol_eq_ok hq]
    exact iff_of_false nofun fun h => h.1 hq
  · rw [States.symbol, if_neg (mt contains_iff.mp hq), Except.error.injEq, eq_comm,
      and_iff_right hq]

end States

/-- An error that comes of complaints comes of one of them. -/
theorem mapError_eq_error_iff {ε ε' α : Type} {f : ε → ε'} {x : Except ε α} {e : ε'} :
    x.mapError f = .error e ↔ ∃ u, x = .error u ∧ e = f u := by
  cases x with
  | ok a => exact iff_of_false nofun fun ⟨_, hu, _⟩ => nomatch hu
  | error u =>
    refine ⟨fun h => ⟨u, rfl, (Except.error.inj h).symm⟩, ?_⟩
    rintro ⟨_, hu, rfl⟩
    rw [Except.error.inj hu]
    rfl

/-! ### The states of a table -/

/-- **The states that were worked out** are those of the table. -/
theorem States.areThoseOf_ofTable {t : Table} {s : States} (hs : ofTable t = some s) :
    s.AreThoseOf t := by
  -- all clauses are about the names of the states, and those are what a table refers to
  have hmem : ∀ n, n ∈ s.names ↔ t.RefersTo n := fun n =>
    (mem_names_ofTable hs).trans Table.mem_references
  exact
    { names_increase := s.ordered.imp Text.lt_iff_bytes_lt.mp
      mem_names := hmem
      ordinal? := fun _ _ => ordinal?_eq_some_iff
      contains := fun q => contains_iff.trans (hmem q)
      symbol_ok := fun q _ => symbol_eq_ok_iff.trans (and_congr_left' (hmem q))
      symbol_error := by
        intro q e
        rw [mapError_eq_error_iff, ← hmem]
        constructor
        · rintro ⟨u, hu, rfl⟩
          obtain ⟨hq, rfl⟩ := symbol_eq_error_iff.mp hu
          exact ⟨hq, rfl⟩
        · rintro ⟨hq, rfl⟩
          exact ⟨⟨q⟩, symbol_eq_error_iff.mpr ⟨hq, rfl⟩, rfl⟩
      numbered := names_numbered s
      ordinals := ordinals_numbered s
      numbered_ordinal? := fun _ _ hn => ordinal?_eq_some_iff.mpr (mem_numbered.mp hn)
      initial_refersTo := (hmem _).mp (List.head_mem s.inhabited)
      initial_least := fun n hn => Text.le_iff_bytes_le.mp (initial_le ((hmem n).mpr hn)) }

/-- **A table has states** exactly if it has events, and then they are the names that it refers
to. -/
theorem Table.states_areThoseOf (t : Table) :
    (t.events.entries = [] ∧ t.states = .error .noStates) ∨
      (t.events.entries ≠ [] ∧ ∃ s, t.states = .ok s ∧ s.AreThoseOf t) := by
  rw [states]
  cases hs : States.ofTable t with
  | none => exact .inl ⟨States.ofTable_eq_none_iff.mp hs, rfl⟩
  | some s =>
    -- there is a least state, so there was something to sort
    have hevents : t.events.entries ≠ [] := by
      rw [Ne, ← States.ofTable_eq_none_iff, hs]
      exact Option.some_ne_none s
    exact .inr ⟨hevents, s, rfl, States.areThoseOf_ofTable hs⟩

end Automaton
