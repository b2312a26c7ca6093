import Automaton.Proofs.Blueprint.Direct
import Mathlib.Data.List.Forall2

/-!
# Looking up in a blueprint

A blueprint refers to states by their symbols and to events by their names.  What a symbol or a name
stands for is found among its declarations: `Blueprint.ordinalOf?` finds the number of a symbol,
`Blueprint.transitionOf?` the transition of an event, `Blueprint.nameOf?` the name for a number.

In the blueprint of a well formed table nothing is declared twice, so looking up inverts declaring:
see `ordinalOf?_direct`, `transitionOf?_direct` and `nameOf?_direct`.
-/

namespace Automaton

/-- If no two items share a key, the item with a key is the one that is found under it. -/
theorem find?_key_eq_some_iff {α : Type} {key : α → String} {items : List α}
    (h : (items.map key).Nodup) {k : String} {a : α} :
    items.find? (key · == k) = some a ↔ a ∈ items ∧ key a = k := by
  have key_of_find {b : α} (hb : items.find? (key · == k) = some b) : b ∈ items ∧ key b = k :=
    ⟨List.mem_of_find?_eq_some hb, beq_iff_eq.mp (List.find?_some (p := (key · == k)) hb)⟩
  refine ⟨key_of_find, fun ⟨hmem, hkey⟩ => ?_⟩
  obtain ⟨b, hb⟩ : ∃ b, items.find? (key · == k) = some b :=
    Option.isSome_iff_exists.mp (List.find?_isSome.mpr ⟨a, hmem, beq_iff_eq.mpr hkey⟩)
  obtain ⟨hbmem, hbkey⟩ := key_of_find hb
  rw [hb, List.inj_on_of_nodup_map h hbmem hmem (hbkey.trans hkey.symm)]

/-- The names of a catalog are all different. -/
theorem Catalog.names_nodup {α : Type} (c : Catalog α) : c.names.Nodup :=
  c.names_pairwise.imp fun hlt => hlt.ne

namespace Blueprint

variable {t : Table} {s : States}

/-- **The number of a symbol.** -/
def ordinalOf? (b : Blueprint) (symbol : String) : Option Nat :=
  (b.states.constants.find? (·.symbol == symbol)).map Constant.ordinal

/-- **The transition of an event.** -/
def transitionOf? (b : Blueprint) (event : String) : Option Transition :=
  b.transitions.find? (·.event == event)

/-- **The name of the state** with a number. -/
def nameOf? (b : Blueprint) (ordinal : Nat) : Option String :=
  b.lookup.entries.lookup ordinal

/-! ### What is declared -/

theorem mem_constants {c : Constant} :
    c ∈ (direct t s).states.constants ↔
      ∃ i n, s.names[i]? = some n ∧ c = ⟨Symbol.ofState n, i⟩ := by
  simp only [direct, List.mem_map, Prod.exists, States.mem_numbered]
  exact exists_congr fun _ => exists_congr fun _ => and_congr_right fun _ => eq_comm

/-- There is one constant for each state. -/
theorem length_constants : (direct t s).states.constants.length = s.size := by
  rw [direct, List.length_map, States.numbered, List.length_map, List.length_zipIdx, States.size]

/-- The constants have the symbols of the states. -/
theorem symbols_constants :
    (direct t s).states.constants.map Constant.symbol = s.names.map Symbol.ofState := by
  rw [direct, ← States.names_numbered, List.map_map, List.map_map]
  rfl

theorem mem_transitions {tr : Transition} :
    tr ∈ (direct t s).transitions ↔
      ∃ i n e, t.events.entries[i]? = some (n, e) ∧
        tr = Transition.direct (settingOf t s) i n e := by
  simp only [direct, directTransitions, List.mem_map, Prod.exists, Table.mem_numberedEvents]
  exact exists_congr fun _ => exists_congr fun _ => exists_congr fun _ =>
    and_congr_right fun _ => eq_comm

/-- The transitions have the names of the events. -/
theorem events_transitions :
    (direct t s).transitions.map Transition.event = t.events.names := by
  rw [direct, directTransitions, List.map_map]
  exact Table.names_numberedEvents t

/-- **There is a transition for each event**, in order.  What holds of events and their transitions
one by one holds of all of them. -/
theorem forall₂_transitions {R : String × Event → Transition → Prop}
    (h : ∀ i n e, t.events.entries[i]? = some (n, e) →
      R (n, e) (Transition.direct (settingOf t s) i n e)) :
    List.Forall₂ R t.events.entries (direct t s).transitions := by
  show List.Forall₂ R t.events.entries (directTransitions t s)
  rw [← t.entries_numberedEvents, directTransitions, List.forall₂_map_left_iff,
    List.forall₂_map_right_iff, List.forall₂_same]
  rintro ⟨i, n, e⟩ hx
  exact h i n e (Table.mem_numberedEvents.mp hx)

/-! ### What is found -/

/-- **The number of a state's symbol** is the number of the state. -/
theorem ordinalOf?_direct (h : t.WellFormed) (hs : States.ofTable t = some s) {name : String}
    (hname : name ∈ s.names) {i : Nat} :
    (direct t s).ordinalOf? (Symbol.ofState name) = some i ↔ s.names[i]? = some name := by
  -- symbols are distinct, so at most one constant has the symbol
  have hnodup : ((direct t s).states.constants.map Constant.symbol).Nodup := by
    rw [symbols_constants, States.names_ofTable hs]
    exact h.stateSymbols_nodup
  rw [ordinalOf?, Option.map_eq_some_iff]
  simp only [find?_key_eq_some_iff hnodup, mem_constants]
  constructor
  · rintro ⟨c, ⟨⟨j, n, hn, rfl⟩, hsymbol⟩, rfl⟩
    have hmem : n ∈ s.names := List.mem_of_getElem? hn
    rw [States.mem_names_ofTable hs] at hname hmem
    rwa [← h.stateSymbol_inj hmem hname hsymbol]
  · intro hi
    exact ⟨_, ⟨⟨i, name, hi, rfl⟩, rfl⟩, rfl⟩

/-- **The transition of an event** is the one that was made of it. -/
theorem transitionOf?_direct {event : String} {tr : Transition} :
    (direct t s).transitionOf? event = some tr ↔
      ∃ i e, t.events.entries[i]? = some (event, e) ∧
        tr = Transition.direct (settingOf t s) i event e := by
  -- names of events are distinct, so at most one transition has the name
  have hnodup : ((direct t s).transitions.map Transition.event).Nodup := by
    rw [events_transitions]
    exact t.events.names_nodup
  rw [transitionOf?, find?_key_eq_some_iff hnodup, mem_transitions]
  constructor
  · rintro ⟨⟨i, n, e, hentry, rfl⟩, rfl⟩
    exact ⟨i, e, hentry, rfl⟩
  · rintro ⟨i, e, hentry, rfl⟩
    exact ⟨⟨i, event, e, hentry, rfl⟩, rfl⟩

/-- An event stands at its place among the names. -/
theorem idxOf_eq {i : Nat} {event : String} {e : Event}
    (hentry : t.events.entries[i]? = some (event, e)) : t.events.names.idxOf event = i := by
  have hname : t.events.names[i]? = some event := by
    rw [Catalog.names, List.getElem?_map, hentry]
    rfl
  obtain ⟨hi, rfl⟩ := List.getElem?_eq_some_iff.mp hname
  exact t.events.names_nodup.idxOf_getElem i hi

/-- **Transitions are found** exactly for the events of the table. -/
theorem transitionOf?_eq (event : String) :
    (direct t s).transitionOf? event =
      (t.events.get? event).map
        (Transition.direct (settingOf t s) (t.events.names.idxOf event) event) := by
  cases hget : t.events.get? event with
  | none =>
    refine Option.eq_none_iff_forall_ne_some.mpr fun tr htr => ?_
    obtain ⟨i, e, hentry, -⟩ := transitionOf?_direct.mp htr
    rw [Catalog.get?_eq_some_iff.mpr (List.mem_of_getElem? hentry)] at hget
    exact absurd hget (Option.some_ne_none e)
  | some e =>
    obtain ⟨i, hentry⟩ := List.mem_iff_getElem?.mp (Catalog.get?_eq_some_iff.mp hget)
    rw [idxOf_eq hentry]
    exact transitionOf?_direct.mpr ⟨i, e, hentry, rfl⟩

/-- **The name for a number** is the state that has it. -/
theorem nameOf?_direct (i : Nat) : (direct t s).nameOf? i = s.names[i]? := by
  -- numbers may begin anywhere, as they do for the rest of the states
  have hfrom : ∀ (ns : List String) (k : Nat), k ≤ i →
      ((ns.zipIdx k).map fun x => (x.2, x.1)).lookup i = ns[i - k]? := by
    intro ns
    induction ns with
    | nil => intro k _; rfl
    | cons n ns ih =>
      intro k hk
      rw [List.zipIdx_cons, List.map_cons, List.lookup_cons]
      by_cases hki : i = k
      · simp [hki]
      · have hne : (i == k) = false := beq_eq_false_iff_ne.mpr hki
        rw [hne, ih (k + 1) (by omega), show i - k = i - (k + 1) + 1 by omega,
          List.getElem?_cons_succ]
  exact hfrom s.names 0 (Nat.zero_le i)

end Blueprint

end Automaton
