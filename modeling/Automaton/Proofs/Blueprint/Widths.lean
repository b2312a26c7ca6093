import Automaton.Proofs.Blueprint.Lookup

/-!
# Widths fit

The width of a word is chosen by a *count*, of states or of events, but what words have to hold are
*ordinals*, and the greatest of these is one less than the count.  A blueprint writes a width down
wherever an ordinal is stored, so the choice has to be the right one in all of these places.

`Width.Fits` says when a width is right for some ordinals: it holds them all, and no smaller number
of bits would do.  `Width.fits_forCount` says this of the width for a count and the ordinals below
the count, and `Blueprint.ofTable_fitsWidths` of everything in the blueprint of an accepted table.

That nothing smaller would do is due to the way in which the ladder is climbed.  Widths increase on
it, so whatever is smaller than the chosen one has been passed over
(`Width.maximum_lt_of_bits_lt`).
-/

namespace Automaton

namespace Width

/-! ### What it means to fit -/

/-- **Words of some bits hold** ordinals if none of them is too great. -/
def Holds (bits : Nat) (ordinals : List Nat) : Prop :=
  ∀ i ∈ ordinals, i ≤ 2 ^ bits - 1

/-- **A width fits** some ordinals if it is the smallest that holds them. -/
structure Fits (w : Width) (ordinals : List Nat) : Prop where
  /-- Its words hold the ordinals. -/
  holds : Holds w.bits ordinals
  /-- Smaller words of the ladder do not. -/
  least : ∀ bits ∈ [8, 16, 32, 64], bits < w.bits → ¬ Holds bits ordinals

/-! ### Climbing the ladder -/

theorem mem_ladder (w : Width) : w ∈ ladder := by
  cases w <;> decide

/-- Widths increase on the ladder. -/
theorem ladder_increases : ladder.Pairwise (·.bits < ·.bits) := by
  decide

/-- **Smaller widths** than the chosen one do not hold the greatest ordinal. -/
theorem maximum_lt_of_bits_lt {count : Nat} {v : Width} (h : v.bits < (forCount count).bits) :
    v.maximum < count - 1 := by
  rw [forCount] at h
  cases hf : ladder.find? (count - 1 ≤ ·.maximum) with
  | none =>
    exact not_le.mp fun hle => List.find?_eq_none.mp hf v (mem_ladder v) (decide_eq_true hle)
  | some w =>
    rw [hf, Option.getD_some] at h
    obtain ⟨-, passed, rest, hladder, hpassed⟩ := List.find?_eq_some_iff_append.mp hf
    have hinc : (passed ++ w :: rest).Pairwise (·.bits < ·.bits) := hladder ▸ ladder_increases
    have hrest := (List.pairwise_cons.mp (List.pairwise_append.mp hinc).2.1).1
    -- `v` is on the ladder, but it is neither `w` nor behind it
    have hv : v ∈ passed := by
      rcases List.mem_append.mp (hladder ▸ mem_ladder v) with hv | hv
      · exact hv
      · rcases List.mem_cons.mp hv with rfl | hv
        · exact absurd h (lt_irrefl _)
        · exact absurd h (hrest v hv).asymm
    exact not_le.mp (of_decide_eq_false ((Bool.not_eq_true' _).mp (hpassed v hv)))

/-- **The width for a count** fits the ordinals below the count. -/
theorem fits_forCount {count : Nat} (h : count < 2 ^ 64) :
    (forCount count).Fits (List.range count) where
  holds := by
    intro i hi
    have hgreatest : count - 1 ≤ u64.maximum := Nat.sub_le_sub_right h.le 1
    calc i ≤ count - 1 := Nat.le_sub_one_of_lt (List.mem_range.mp hi)
      _ ≤ (forCount count).maximum := le_maximum_forCount hgreatest
      _ = 2 ^ (forCount count).bits - 1 := rfl
  least := by
    intro bits hbits hlt hholds
    obtain ⟨v, -, rfl⟩ : ∃ v ∈ ladder, v.bits = bits := List.mem_map.mp hbits
    have hmax : v.maximum < count - 1 := maximum_lt_of_bits_lt hlt
    -- so there are two things at least, and the last of them has an ordinal that is too great
    have hlast : count - 1 ∈ List.range count := List.mem_range.mpr (by omega)
    exact absurd (hholds _ hlast) hmax.not_ge

example : forCount 256 = u8 ∧ forCount 257 = u16 ∧ forCount (2 ^ 32) = u32 ∧
    forCount (2 ^ 32 + 1) = u64 := by
  decide

end Width

/-! ### Ordinals -/

namespace Blueprint

variable {t : Table} {s : States}

theorem ordinals_constants :
    (direct t s).states.constants.map Constant.ordinal = List.range s.size := by
  rw [← s.ordinals_numbered, direct, List.map_map]
  rfl

theorem ordinals_transitions :
    (direct t s).transitions.map Transition.ordinal = List.range t.events.size := by
  rw [← t.ordinals_numberedEvents, direct, directTransitions, List.map_map]
  rfl

/-! ### Blueprints -/

/-- **The widths of a blueprint fit** a table: they are the same wherever states, or events, are
numbered, these are numbered one by one, and the widths fit the ordinals that are used there. -/
structure FitsWidths (b : Blueprint) (t : Table) : Prop where
  /-- The constants number the states of the table. -/
  constants_ordinals : b.states.constants.map Constant.ordinal =
    List.range (States.sorted t.references).length
  /-- So do the entries of the lookup table. -/
  entries_ordinals : b.lookup.entries.map Prod.fst =
    List.range (States.sorted t.references).length
  /-- The transitions number the events. -/
  transitions_ordinals : b.transitions.map Transition.ordinal = List.range t.events.size
  /-- Constants are as wide as the state of the machine. -/
  states_width : b.states.width = b.machine.stateWidth
  /-- So are the keys of the lookup table. -/
  lookup_keyWidth : b.lookup.keyWidth = b.machine.stateWidth
  /-- The hook of the constructor is as wide as that of the machine. -/
  constructor_eventWidth : b.constructor.eventWidth = b.machine.eventWidth
  /-- So are the constants of all transitions. -/
  transitions_eventWidth : ∀ tr ∈ b.transitions, tr.eventWidth = b.machine.eventWidth
  /-- The width of the state fits the constants. -/
  constants : b.machine.stateWidth.Fits (b.states.constants.map Constant.ordinal)
  /-- It fits the keys of the lookup table. -/
  entries : b.machine.stateWidth.Fits (b.lookup.entries.map Prod.fst)
  /-- The width of the hook fits the transitions. -/
  transitions : b.machine.eventWidth.Fits (b.transitions.map Transition.ordinal)

/-- The lookup table numbers the states. -/
theorem ordinals_entries : (direct t s).lookup.entries.map Prod.fst = List.range s.size :=
  s.ordinals_numbered

/-- **The widths** of a blueprint without look-ups fit. -/
theorem fitsWidths_direct (hs : States.ofTable t = some s) (hstates : s.size < 2 ^ 64)
    (hevents : t.events.size < 2 ^ 64) : (direct t s).FitsWidths t where
  constants_ordinals := by rw [ordinals_constants, States.size, States.names_ofTable hs]
  entries_ordinals := by rw [ordinals_entries, States.size, States.names_ofTable hs]
  transitions_ordinals := ordinals_transitions
  states_width := rfl
  lookup_keyWidth := rfl
  constructor_eventWidth := rfl
  transitions_eventWidth := by
    intro tr htr
    obtain ⟨i, name, e, -, rfl⟩ := mem_transitions.mp htr
    rfl
  constants := by
    rw [ordinals_constants]
    exact Width.fits_forCount hstates
  entries := by
    rw [ordinals_entries]
    exact Width.fits_forCount hstates
  transitions := by
    rw [ordinals_transitions]
    exact Width.fits_forCount hevents

/-- **Widths fit**: an accepted table with fewer states and events than words of 64 bits can tell
apart has a blueprint whose widths fit. -/
theorem ofTable_fitsWidths (t : Table) (h : t.validate = .ok ())
    (hstates : (States.sorted t.references).length < 2 ^ 64) (hevents : t.events.size < 2 ^ 64) :
    ∃ b, ofTable t = .ok b ∧ b.FitsWidths t := by
  have hwf := Table.validate_eq_ok_iff_wellFormed.mp h
  obtain ⟨s, hs⟩ := exists_states hwf
  refine ⟨direct t s, ofTable_eq_ok hwf hs, fitsWidths_direct hs ?_ hevents⟩
  rw [States.size, States.names_ofTable hs]
  exact hstates

/-- The widths of the jobs fit. -/
theorem ofTable_fitsWidths_jobs :
    Table.jobs.validate = .ok () ∧ (States.sorted Table.jobs.references).length < 2 ^ 64 ∧
      Table.jobs.events.size < 2 ^ 64 ∧ ∃ b, ofTable Table.jobs = .ok b ∧
        b.FitsWidths Table.jobs :=
  ⟨by decide, by decide, by decide,
    ofTable_fitsWidths Table.jobs (by decide) (by decide) (by decide)⟩

end Blueprint

end Automaton
