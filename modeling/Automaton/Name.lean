import Automaton.Text.Uppercase

/-!
# Names and symbols

Machines, events, states and parameters are named in the table, and their names end up in generated
sources as they are.  A name must therefore be an *identifier*: an ASCII letter or an underscore,
followed by letters, digits and underscores.

States and events also get a generated constant each, whose *symbol* is the name in upper case
behind a fixed beginning.  Names that differ in case only have one symbol.  `Symbol.clashes` finds
such names: it walks through a list and compares each symbol with those before it, so the name that
comes first is the one that is blamed first.
-/

namespace Automaton

namespace Identifier

/-- The characters that an identifier may begin with. -/
def isStart (c : Char) : Bool :=
  c.isAlpha || c == '_'

/-- The characters that an identifier may go on with. -/
def isPart (c : Char) : Bool :=
  c.isAlphanum || c == '_'

/-- **Identifiers**, as lists of characters. -/
def validList : List Char → Bool
  | [] => false
  | c :: cs => isStart c && cs.all isPart

/-- **Identifiers**: names that can stand in a generated source as they are. -/
def valid (name : String) : Bool :=
  validList name.toList

/-- The empty text names nothing. -/
@[simp]
theorem valid_empty : valid "" = false := by
  simp [valid, validList]

/-- All characters of an identifier are ASCII letters, digits or underscores. -/
theorem isPart_of_valid {name : String} (h : valid name = true) :
    ∀ c ∈ name.toList, isPart c = true := by
  unfold valid at h
  cases hn : name.toList with
  | nil => simp
  | cons c cs =>
    rw [hn] at h
    simp only [validList, Bool.and_eq_true, List.all_eq_true] at h
    intro d hd
    rcases List.mem_cons.mp hd with rfl | hd
    · -- what may begin a name may also go on with it
      have hs := h.1
      simp only [isStart, isPart, Char.isAlphanum, Bool.or_eq_true] at hs ⊢
      rcases hs with hs | hs
      · exact .inl (.inl hs)
      · exact .inr hs
    · exact h.2 d hd

end Identifier

namespace Symbol

/-- **The symbol of a state.** -/
def ofState (name : String) : String :=
  "STATE_" ++ Text.upper name

/-- **The symbol of an event.** -/
def ofEvent (name : String) : String :=
  "EVENT_" ++ Text.upper name

/-- **Two names with one symbol.** -/
structure Clash where
  /-- The symbol. -/
  symbol : String
  /-- The name that had the symbol first. -/
  first : String
  /-- The name that wants it too. -/
  second : String
  deriving DecidableEq, Repr

/-- The clashes among symbols with their names, given the ones before them. -/
def clashesAfter (earlier : List (String × String)) : List (String × String) → List Clash
  | [] => []
  | (symbol, name) :: rest =>
    (match earlier.find? (·.1 == symbol) with
      | some (_, first) => [⟨symbol, first, name⟩]
      | none => []) ++
    clashesAfter (earlier ++ [(symbol, name)]) rest

/-- **The clashes** among symbols with their names. -/
def clashes (items : List (String × String)) : List Clash :=
  clashesAfter [] items

/-- Without clashes, no symbol occurs twice, neither here nor before. -/
theorem clashesAfter_eq_nil_iff {earlier items : List (String × String)} :
    clashesAfter earlier items = [] ↔
      (items.map (·.1)).Nodup ∧ ∀ i ∈ items, ∀ e ∈ earlier, e.1 ≠ i.1 := by
  induction items generalizing earlier with
  | nil => simp [clashesAfter]
  | cons i items ih =>
    obtain ⟨symbol, name⟩ := i
    rw [clashesAfter, List.append_eq_nil_iff, ih]
    -- the head clashes with nothing exactly if no earlier item has its symbol
    have hfind : (match earlier.find? (·.1 == symbol) with
        | some (_, first) => [(⟨symbol, first, name⟩ : Clash)]
        | none => []) = [] ↔ ∀ e ∈ earlier, e.1 ≠ symbol := by
      split
      · next first h =>
        have hmem := List.mem_of_find?_eq_some h
        have heq := List.find?_some h
        simp only [beq_iff_eq] at heq
        simp only [List.cons_ne_nil, false_iff]
        intro hall
        exact hall _ hmem heq
      · next h => simpa using h
    rw [hfind]
    simp only [List.map_cons, List.nodup_cons, List.mem_map, List.mem_cons, List.mem_append,
      List.not_mem_nil, or_false]
    -- the head counts as earlier for the rest, which is what makes symbols distinct
    constructor
    · rintro ⟨hnew, hnodup, hrest⟩
      refine ⟨⟨?_, hnodup⟩, ?_⟩
      · rintro ⟨x, hx, hxs⟩
        exact hrest x hx _ (.inr rfl) hxs.symm
      · rintro x (rfl | hx) e he
        · exact hnew e he
        · exact hrest x hx e (.inl he)
    · rintro ⟨⟨hnot, hnodup⟩, hall⟩
      refine ⟨fun e he => hall _ (.inl rfl) e he, hnodup, ?_⟩
      rintro x hx e (he | rfl)
      · exact hall x (.inr hx) e he
      · intro heq
        exact hnot ⟨x, hx, heq.symm⟩

/-- **Without clashes**, no symbol occurs twice. -/
theorem clashes_eq_nil_iff {items : List (String × String)} :
    clashes items = [] ↔ (items.map (·.1)).Nodup := by
  simp [clashes, clashesAfter_eq_nil_iff]

end Symbol

end Automaton
