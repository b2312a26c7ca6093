import Automaton.Proofs.Table.States
import Mathlib.Data.Finset.Card

/-!
# Transitions of arbitrary events

A transition is made of an event and of the states of a machine.  In a blueprint the event is one of
the table whose states these are, but nothing in the making of a transition depends on that, or on
the table being valid.

`Transition.ofEvent_madeOf` says what comes of an event that may be any.  It has a transition
exactly if all states that it refers to are states of the machine, and otherwise the first one that
is none is blamed, sources before the destination (`Event.Blames`).  The transition is the only one
that is made of the event in the sense of `Transition.MadeOf`.

## Guards

A guard is made by putting numbered symbols in order, and it is about *names*: each source is there
once, and two sources stay two even if they have one symbol.  The number of a source that is no
state would be zero, like that of the first state, but a guard is only made once all sources have
been found.
-/

namespace Automaton

/-- A list is walked through as far as the first item that fails. -/
theorem mapM_eq_error {ε α β : Type} {f : α → Except ε β} {before after : List α} {a : α} {u : ε}
    (hbefore : ∀ b ∈ before, ∃ y, f b = .ok y) (ha : f a = .error u) :
    (before ++ a :: after).mapM f = .error u := by
  induction before with
  | nil =>
    -- the first failure ends it
    rw [List.nil_append, List.mapM_cons, ha]
    rfl
  | cons b before ih =>
    obtain ⟨⟨y, hy⟩, hrest⟩ := List.forall_mem_cons.mp hbefore
    rw [List.cons_append, List.mapM_cons, hy, ih hrest]
    rfl

/-! ### The order of states -/

namespace States

variable {s : States}

/-- **A state comes before another** if its number is smaller. -/
def Before (s : States) (m n : String) : Prop :=
  ∃ i j, s.ordinal? m = some i ∧ s.ordinal? n = some j ∧ i < j

theorem Before.asymm {m n : String} (h : s.Before m n) : ¬ s.Before n m := by
  obtain ⟨i, j, hi, hj, hlt⟩ := h
  rintro ⟨j', i', hj', hi', hlt'⟩
  obtain rfl := Option.some.inj (hi.symm.trans hi')
  obtain rfl := Option.some.inj (hj.symm.trans hj')
  exact lt_asymm hlt hlt'

theorem Before.ne {m n : String} (h : s.Before m n) : m ≠ n := by
  rintro rfl
  exact h.asymm h

/-- Smaller names come before greater ones. -/
theorem before_of_lt {m n : String} (hm : m ∈ s.names) (hn : n ∈ s.names) (hlt : m < n) :
    s.Before m n :=
  ⟨_, _, ordinal?_eq_some_iff.mpr (getElem?_ordinal hm),
    ordinal?_eq_some_iff.mpr (getElem?_ordinal hn), ordinal_lt_ordinal hm hn hlt⟩

/-- **States in order** are determined by what they are. -/
theorem eq_of_pairwise_before {row other : List String} (h : row.Pairwise s.Before)
    (h' : other.Pairwise s.Before) (hmem : ∀ n, n ∈ row ↔ n ∈ other) : row = other := by
  refine List.Perm.eq_of_pairwise (fun _ _ _ _ hab hba => absurd hba hab.asymm) h h' ?_
  exact (List.perm_ext_iff_of_nodup (h.imp Before.ne) (h'.imp Before.ne)).mpr hmem

end States

/-! ### Events among states -/

namespace Event

/-- **An event is known** to the states of a machine if they have all states that it refers to. -/
def KnownTo (e : Event) (s : States) : Prop :=
  (∀ n ∈ e.sources, n ∈ s.names) ∧ e.destination ∈ s.names

/-- **An event blames a name** that it refers to and that is no state: the first such source, in the
order in which the sources are written, or the destination, if there is nothing wrong with the
sources. -/
structure Blames (e : Event) (s : States) (n : String) : Prop where
  /-- The name is no state. -/
  notMem : n ∉ s.names
  /-- All names that come before it are states. -/
  first : (∃ before after, e.sources = before ++ n :: after ∧ ∀ m ∈ before, m ∈ s.names) ∨
    (∀ m ∈ e.sources, m ∈ s.names) ∧ n = e.destination

variable {e : Event} {s : States} {n : String}

theorem KnownTo.mem_of_mem_states (h : e.KnownTo s) : ∀ n ∈ e.states, n ∈ s.names := by
  intro n hn
  rcases List.mem_append.mp hn with hn | hn
  · exact h.1 n hn
  · exact List.mem_singleton.mp hn ▸ h.2

/-- **An event that is not known** blames a name. -/
theorem exists_blames_of_not_knownTo (h : ¬ e.KnownTo s) : ∃ n, e.Blames s n := by
  cases hfind : e.sources.find? (· ∉ s.names) with
  | some n =>
    obtain ⟨hn, before, after, hsplit, hbefore⟩ := List.find?_eq_some_iff_append.mp hfind
    refine ⟨n, of_decide_eq_true hn, .inl ⟨before, after, hsplit, fun m hm => ?_⟩⟩
    simpa using hbefore m hm
  | none =>
    have hsources : ∀ m ∈ e.sources, m ∈ s.names := by simpa using hfind
    exact ⟨e.destination, fun hdest => h ⟨hsources, hdest⟩, .inr ⟨hsources, rfl⟩⟩

end Event

/-! ### Transitions -/

namespace Transition

/-- **A transition is made of an event**, with its number and its name, in a given setting. -/
structure MadeOf (setting : Setting) (ordinal : Nat) (name : String) (e : Event)
    (tr : Transition) : Prop where
  /-- It belongs to the machine. -/
  machine_eq : tr.machine = setting.machine
  /-- It has the name of the event. -/
  event_eq : tr.event = name
  /-- Its constant has the symbol of the name. -/
  eventSymbol_eq : tr.eventSymbol = Symbol.ofEvent name
  /-- It has the number of the event. -/
  ordinal_eq : tr.ordinal = ordinal
  /-- Its constant is as wide as all of them. -/
  eventWidth_eq : tr.eventWidth = setting.eventWidth
  /-- It takes the parameters of the event, in their order. -/
  params_eq : tr.params = e.params
  /-- Its guard has the symbols of the sources, each source once, by increasing number. -/
  guard_eq : ∃ row : List String, tr.guard = row.map Symbol.ofState ∧
    (∀ n, n ∈ row ↔ n ∈ e.sources) ∧ row.Pairwise setting.states.Before
  /-- It leads where the event leads. -/
  destination_eq : tr.destination = e.destination
  /-- It does so under the symbol of that state. -/
  destinationSymbol_eq : tr.destinationSymbol = Symbol.ofState e.destination
  /-- It is logged if transitions are. -/
  log_isSome : tr.log.isSome = setting.logging
  /-- What is logged are the parameters, in their order. -/
  log_fields : ∀ entry ∈ tr.log, entry.fields = e.params.map Param.name
  /-- The text says where the event leads. -/
  log_message : ∀ entry ∈ tr.log, entry.message = "transitioned to " ++ e.destination

variable {setting : Setting} {ordinal : Nat} {name : String} {e : Event}

/-- **A guard is as long** as there are different sources. -/
theorem MadeOf.length_guard {tr : Transition} (h : tr.MadeOf setting ordinal name e) :
    tr.guard.length = e.sources.toFinset.card := by
  obtain ⟨row, hguard, hmem, hrow⟩ := h.guard_eq
  have hsame : row.toFinset = e.sources.toFinset := by
    ext n
    rw [List.mem_toFinset, List.mem_toFinset, hmem]
  rw [hguard, List.length_map, ← hsame,
    List.toFinset_card_of_nodup (hrow.imp States.Before.ne)]

/-- A transition has the log entry of its event, or none at all. -/
theorem MadeOf.log_eq {tr : Transition} (h : tr.MadeOf setting ordinal name e) :
    tr.log = if setting.logging then some (logOf e) else none := by
  have hsome := h.log_isSome
  cases hlog : tr.log with
  | none =>
    rw [hlog, Option.isSome_none] at hsome
    rw [← hsome]
    rfl
  | some entry =>
    rw [hlog, Option.isSome_some] at hsome
    -- an entry is known by its fields and its message
    have hentry : entry = logOf e := by
      rw [logOf, ← h.log_fields entry hlog, ← h.log_message entry hlog]
    rw [← hsome, hentry]
    rfl

/-- **Only one transition** is made of an event. -/
theorem MadeOf.unique {tr other : Transition} (h : tr.MadeOf setting ordinal name e)
    (h' : other.MadeOf setting ordinal name e) : tr = other := by
  -- two guards of the same states in the same order are one guard
  have hguard : tr.guard = other.guard := by
    obtain ⟨row, hrow, hmem, hbefore⟩ := h.guard_eq
    obtain ⟨row', hrow', hmem', hbefore'⟩ := h'.guard_eq
    rw [hrow, hrow', States.eq_of_pairwise_before hbefore hbefore' fun n =>
      (hmem n).trans (hmem' n).symm]
  have hlog : tr.log = other.log := h.log_eq.trans h'.log_eq.symm
  obtain ⟨_, _, _, _, _, _, _, _, _, _⟩ := tr
  obtain ⟨_, _, _, _, _, _, _, _, _, _⟩ := other
  rw [Transition.mk.injEq]
  exact ⟨h.machine_eq.trans h'.machine_eq.symm, h.event_eq.trans h'.event_eq.symm,
    h.eventSymbol_eq.trans h'.eventSymbol_eq.symm, h.ordinal_eq.trans h'.ordinal_eq.symm,
    h.eventWidth_eq.trans h'.eventWidth_eq.symm, h.params_eq.trans h'.params_eq.symm, hguard,
    h.destinationSymbol_eq.trans h'.destinationSymbol_eq.symm,
    h.destination_eq.trans h'.destination_eq.symm, hlog⟩

/-- **The transition without look-ups** is made of its event. -/
theorem madeOf_direct (h : e.KnownTo setting.states) :
    (direct setting ordinal name e).MadeOf setting ordinal name e where
  machine_eq := rfl
  event_eq := rfl
  eventSymbol_eq := rfl
  ordinal_eq := rfl
  eventWidth_eq := rfl
  params_eq := rfl
  guard_eq := by
    refine ⟨accepted setting.states e.sources, rfl, fun n => ?_, ?_⟩
    · exact mem_accepted.trans (and_iff_right_of_imp (h.1 n))
    · -- the guard goes through the states in their order and picks the sources
      refine List.Pairwise.imp_of_mem (fun hm hn hlt => ?_) (setting.states.ordered.filter _)
      exact States.before_of_lt (mem_accepted.mp hm).1 (mem_accepted.mp hn).1 hlt
  destination_eq := rfl
  destinationSymbol_eq := rfl
  log_isSome := by
    show Option.isSome (if setting.logging then _ else _) = _
    cases setting.logging <;> rfl
  log_fields := fun _ hentry => congrArg LogEntry.fields (eq_logOf_of_log_direct hentry)
  log_message := fun _ hentry => congrArg LogEntry.message (eq_logOf_of_log_direct hentry)

/-- **An event that blames a name** has no transition. -/
theorem ofEvent_eq_error {n : String} (h : e.Blames setting.states n) :
    ofEvent setting ordinal name e = .error ⟨n⟩ := by
  have hsymbol : setting.states.symbol n = .error ⟨n⟩ :=
    States.symbol_eq_error_iff.mpr ⟨h.notMem, rfl⟩
  rcases h.first with ⟨before, after, hsplit, hbefore⟩ | ⟨hsources, rfl⟩
  · have htagged : tagged setting.states n = .error ⟨n⟩ := by
      rw [tagged, hsymbol]
      rfl
    rw [ofEvent, hsplit, mapM_eq_error (fun m hm => ⟨_, tagged_eq_ok (hbefore m hm)⟩) htagged]
    rfl
  · -- the sources are all found, and then the destination is not
    rw [ofEvent, mapM_eq_ok fun m hm => tagged_eq_ok (hsources m hm), hsymbol]
    rfl

/-- **What has a transition** is a known event, and it has the one that is made of it. -/
theorem ofEvent_eq_ok_iff {tr : Transition} : ofEvent setting ordinal name e = .ok tr ↔
    e.KnownTo setting.states ∧ tr.MadeOf setting ordinal name e := by
  -- if all states are known there is one transition, else the first unknown one is to blame
  by_cases hknown : e.KnownTo setting.states
  · have hmade : (direct setting ordinal name e).MadeOf setting ordinal name e :=
      madeOf_direct hknown
    rw [ofEvent_eq_ok hknown.mem_of_mem_states, and_iff_right hknown]
    constructor
    · rintro ⟨⟩
      exact hmade
    · intro htr
      rw [hmade.unique htr]
  · obtain ⟨n, hn⟩ := Event.exists_blames_of_not_knownTo hknown
    rw [ofEvent_eq_error hn]
    constructor
    · rintro ⟨⟩
    · exact fun h => absurd h.1 hknown

/-- **What is complained about** is the name that the event blames. -/
theorem ofEvent_eq_error_iff {u : States.Unknown} :
    ofEvent setting ordinal name e = .error u ↔ e.Blames setting.states u.name := by
  constructor
  · intro hu
    have hunknown : ¬ e.KnownTo setting.states := by
      intro hknown
      rw [ofEvent_eq_ok hknown.mem_of_mem_states] at hu
      cases hu
    obtain ⟨n, hn⟩ := Event.exists_blames_of_not_knownTo hunknown
    -- it has an error for this name, so the name is the one in the error
    obtain rfl : u = ⟨n⟩ := Except.error.inj (hu.symm.trans (ofEvent_eq_error hn))
    exact hn
  · exact ofEvent_eq_error

/-- **Events and their transitions**, whatever the event: there is a transition exactly if the event
is known, it is the one that is made of the event, and if there is none, the error is about the name
that the event blames. -/
theorem ofEvent_madeOf (setting : Setting) (ordinal : Nat) (name : String) (e : Event) :
    ((∃ tr, ofEvent setting ordinal name e = .ok tr) ↔ e.KnownTo setting.states) ∧
    (∀ tr, ofEvent setting ordinal name e = .ok tr ↔
      e.KnownTo setting.states ∧ tr.MadeOf setting ordinal name e ∧
        tr.guard.length = e.sources.toFinset.card) ∧
    ∀ error, (ofEvent setting ordinal name e).mapError States.Unknown.error = .error error ↔
      ∃ n, e.Blames setting.states n ∧
        error = .synthesis s!"state '{n}' is not part of the derived state set" := by
  refine ⟨⟨?_, ?_⟩, fun tr => ?_, fun error => ?_⟩
  · rintro ⟨tr, htr⟩
    exact (ofEvent_eq_ok_iff.mp htr).1
  · intro hknown
    exact ⟨_, ofEvent_eq_ok hknown.mem_of_mem_states⟩
  · rw [ofEvent_eq_ok_iff]
    exact and_congr_right fun _ => (and_iff_left_of_imp MadeOf.length_guard).symm
  · rw [mapError_eq_error_iff]
    constructor
    · rintro ⟨u, hu, rfl⟩
      exact ⟨u.name, ofEvent_eq_error_iff.mp hu, rfl⟩
    · rintro ⟨n, hn, rfl⟩
      exact ⟨⟨n⟩, ofEvent_eq_error hn, rfl⟩

end Transition

end Automaton
