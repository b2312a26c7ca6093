import Automaton.Proofs.Blueprint.Lookup
import Automaton.Proofs.Machine
import Automaton.Proofs.Text.ByteOrder

/-!
# A blueprint behaves like its table

A table says what its machine does in terms of names: it starts in the least of them, and an event
fires in a state that is one of its sources.  A blueprint says the same in terms of numbers, by way
of symbols: its machine starts at the number of the initial symbol, and a call fires if the present
number is that of a symbol in the guard.

`Machine.ofTable` and `Machine.ofBlueprint` are the two machines as they are described.  They
cannot be told apart by calling them (`Machine.ofBlueprint_behaves_as_ofTable`): the pairing of
numbers with names that the lookup table of the blueprint lists is a simulation
(`simulation_direct`).  One call is settled by two facts.  The number of a name's symbol is the
place of the name (`ordinalOf?_direct`), for which no two states may share a symbol; and the guard
has the symbols of the sources, no more and no less (`accepts_direct`).
-/

namespace Automaton

/-! ### The two machines -/

/-- The least of some names, by the order of their bytes. -/
def leastName? (names : List String) : Option String :=
  names.find? fun a => names.all fun b => Text.bytes a ≤ Text.bytes b

/-- Whether a transition may fire at a number: the number of one of the symbols in its guard. -/
def Blueprint.accepts (b : Blueprint) (tr : Transition) (current : Nat) : Bool :=
  tr.guard.any fun symbol => b.ordinalOf? symbol == some current

namespace Machine

/-- **The machine that a table describes.**  Its states are names, and it reports the place of an
event among all events. -/
def ofTable (t : Table) : Machine (Option String) where
  start := leastName? t.references
  call current event := do
    let state ← current
    let e ← t.events.get? event
    if state ∈ e.sources then some (some e.destination, t.events.names.idxOf event) else none

/-- **The machine that a blueprint describes.**  Its states are numbers, or nothing at all once a
symbol without a number was met, and it reports the ordinals of transitions. -/
def ofBlueprint (b : Blueprint) : Machine (Option Nat) where
  start := b.ordinalOf? b.constructor.initialSymbol
  call current event := do
    let number ← current
    let tr ← b.transitionOf? event
    if b.accepts tr number then some (b.ordinalOf? tr.destinationSymbol, tr.ordinal) else none

end Machine

/-! ### Where machines start -/

/-- The initial state comes before all others. -/
theorem States.initial_le {s : States} {n : String} (hn : n ∈ s.names) : s.initial ≤ n := by
  obtain ⟨first, rest, hnames⟩ := List.exists_cons_of_ne_nil s.inhabited
  have hordered := s.ordered
  simp only [initial, hnames, List.head_cons] at hn hordered ⊢
  rcases List.mem_cons.mp hn with rfl | hrest
  · exact le_refl _
  · exact ((List.pairwise_cons.mp hordered).1 n hrest).le

/-- A name that is below all names is the least one. -/
theorem leastName?_eq_some {names : List String} {a : String} (ha : a ∈ names)
    (hle : ∀ b ∈ names, a ≤ b) : leastName? names = some a := by
  have hleast : ∀ c, (names.all fun b => Text.bytes c ≤ Text.bytes b) = true ↔
      ∀ b ∈ names, c ≤ b := fun c => by
    simp only [List.all_eq_true, decide_eq_true_eq, Text.le_iff_bytes_le]
  obtain ⟨c, hc⟩ : ∃ c, leastName? names = some c :=
    Option.isSome_iff_exists.mp (List.find?_isSome.mpr ⟨a, ha, (hleast a).mpr hle⟩)
  have hcmem : c ∈ names := List.mem_of_find?_eq_some hc
  have hcle : ∀ b ∈ names, c ≤ b := by
    rw [leastName?] at hc
    have hsome := List.find?_some hc
    exact (hleast c).mp hsome
  -- what is found is below `a`, and `a` is below it
  rw [hc, le_antisymm (hcle a ha) (hle c hcmem)]

/-- **Machines start** in the least name that the table refers to. -/
theorem leastName?_references {t : Table} {s : States} (hs : States.ofTable t = some s) :
    leastName? t.references = some s.initial := by
  refine leastName?_eq_some ?_ fun b hb => ?_
  · exact (States.mem_names_ofTable hs).mp (List.head_mem s.inhabited)
  · exact States.initial_le ((States.mem_names_ofTable hs).mpr hb)

/-! ### One call -/

/-- **A number stands for a name** if it is the place of the name among the states. -/
def Stands (s : States) (number : Option Nat) (state : Option String) : Prop :=
  ∃ i n, number = some i ∧ state = some n ∧ s.names[i]? = some n

namespace Blueprint

variable {t : Table} {s : States} (h : t.WellFormed) (hs : States.ofTable t = some s)
include h hs

/-- The number of a state's symbol stands for the state. -/
theorem stands_ordinalOf? {n : String} (hn : n ∈ t.references) :
    Stands s ((direct t s).ordinalOf? (Symbol.ofState n)) (some n) := by
  have hmem : n ∈ s.names := (States.mem_names_ofTable hs).mpr hn
  obtain ⟨i, hi⟩ := List.mem_iff_getElem?.mp hmem
  exact ⟨i, n, (ordinalOf?_direct h hs hmem).mpr hi, rfl, hi⟩

/-- **A transition accepts** the numbers of its event's sources. -/
theorem accepts_direct {i : Nat} {n : String} (hn : s.names[i]? = some n) (ordinal : Nat)
    (event : String) (e : Event) :
    (direct t s).accepts (Transition.direct (settingOf t s) ordinal event e) i = true ↔
      n ∈ e.sources := by
  simp only [accepts, Transition.direct, settingOf, List.any_map, List.any_eq_true,
    Transition.mem_accepted, Function.comp_apply, beq_iff_eq]
  constructor
  · -- a state with the number of `n` is `n`
    rintro ⟨m, ⟨hm, hsource⟩, hordinal⟩
    rw [ordinalOf?_direct h hs hm, hn, Option.some.injEq] at hordinal
    exact hordinal ▸ hsource
  · intro hsource
    have hmem : n ∈ s.names := List.mem_of_getElem? hn
    exact ⟨n, ⟨hmem, hsource⟩, (ordinalOf?_direct h hs hmem).mpr hn⟩

/-- **A call** from a number has the outcome that it has from the name. -/
theorem call_direct {i : Nat} {n : String} (hn : s.names[i]? = some n) (event : String) :
    Option.Rel (fun x y => Stands s x.1 y.1 ∧ x.2 = y.2)
      ((Machine.ofBlueprint (direct t s)).call (some i) event)
      ((Machine.ofTable t).call (some n) event) := by
  simp only [Machine.ofBlueprint, Machine.ofTable, Option.bind_eq_bind, Option.bind_some,
    transitionOf?_eq]
  cases hget : t.events.get? event with
  | none => exact .none
  | some e =>
    have hentry := Catalog.get?_eq_some_iff.mp hget
    have hdest : e.destination ∈ t.references :=
      Table.mem_references.mpr ⟨event, e, hentry, .inr rfl⟩
    rw [Option.map_some, Option.bind_some, Option.bind_some]
    by_cases hsource : n ∈ e.sources
    · -- both accept: the destination has the number of its symbol
      rw [if_pos ((accepts_direct h hs hn _ event e).mpr hsource), if_pos hsource]
      exact .some ⟨stands_ordinalOf? h hs hdest, rfl⟩
    · -- both reject
      rw [if_neg (mt (accepts_direct h hs hn _ event e).mp hsource), if_neg hsource]
      exact .none

/-- **The blueprint simulates** its table. -/
theorem simulation_direct :
    Machine.Simulation (Machine.ofBlueprint (direct t s)) (Machine.ofTable t) (Stands s) where
  start := by
    rw [Machine.ofTable, leastName?_references hs]
    exact stands_ordinalOf? h hs ((States.mem_names_ofTable hs).mp (List.head_mem s.inhabited))
  call := by
    rintro _ _ event ⟨i, n, rfl, rfl, hn⟩
    exact call_direct h hs hn event

end Blueprint

/-! ### All runs -/

/-- **A blueprint behaves like its table.**  After any calls, the machine of the blueprint has
accepted the same calls as the machine of the table and has reported the same ordinals, and its
number is the one under which the lookup table lists the state of the other machine. -/
theorem Machine.ofBlueprint_behaves_as_ofTable (t : Table) (h : t.validate = .ok ()) :
    ∃ b, Blueprint.ofTable t = .ok b ∧ ∀ calls : List String,
      (Machine.ofBlueprint b).replies calls = (Machine.ofTable t).replies calls ∧
        ∃ number name, (Machine.ofBlueprint b).after calls = some number ∧
          (Machine.ofTable t).after calls = some name ∧ b.nameOf? number = some name := by
  have hwf := Table.validate_eq_ok_iff_wellFormed.mp h
  obtain ⟨s, hs⟩ := Blueprint.exists_states hwf
  -- the two machines start together, and one call keeps them together
  have sim := Blueprint.simulation_direct hwf hs
  refine ⟨Blueprint.direct t s, Blueprint.ofTable_eq_ok hwf hs, fun calls => ?_⟩
  refine ⟨sim.replies_eq calls, ?_⟩
  obtain ⟨i, n, hi, hn, hin⟩ := sim.after calls
  exact ⟨i, n, hi, hn, (Blueprint.nameOf?_direct i).trans hin⟩

/-- The blueprint of the jobs behaves like their table. -/
theorem Machine.ofBlueprint_behaves_as_ofTable_jobs :
    Table.jobs.validate = .ok () ∧ ∃ b, Blueprint.ofTable Table.jobs = .ok b ∧
      ∀ calls : List String,
        (Machine.ofBlueprint b).replies calls = (Machine.ofTable Table.jobs).replies calls ∧
          ∃ number name, (Machine.ofBlueprint b).after calls = some number ∧
            (Machine.ofTable Table.jobs).after calls = some name ∧ b.nameOf? number = some name :=
  ⟨by decide, Machine.ofBlueprint_behaves_as_ofTable Table.jobs (by decide)⟩

end Automaton
