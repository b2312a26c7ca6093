import Automaton.Proofs.Target.Mentions

/-!
# Names that a source relies on

A source mentions names that it does not declare and that are there all the same: types of the
language, packages that it imports, a value or two.  It also declares names of its own, next to
which the language's no longer count.  So these must be different.

One of them is chosen by the author.  The machine is a type, and it may be called like a type that
the source relies on, as `error` in Go or `Option` in Rust, and then it takes its place
(`Target.machine_takes_over`).  The others are made of that name or are constants, and none of them
ever takes the place of anything: nothing is taken over exactly if the name of the machine is not
among those that the source relies on (`Target.relies_on`).

## What is relied on

The lists are part of what is proved.  All that a source mentions behind its head is a keyword, is
declared, stands for something only where it is, or is on the list (`Target.Resolves`); and the
source does mention everything on the list.
-/

namespace Automaton

open GoSource (Named identifiers)

namespace GoSource

/-- **What a source relies on**: types of the language, packages, a value, and the numbering of
constants. -/
def reliedOn (logging : Bool) (b : Blueprint) : List String :=
  ["error", "string", "nil", "iota", "fmt", typeOf b.machine.stateWidth,
    typeOf b.machine.eventWidth] ++ if logging then ["slog"] else []

/-- **What stands for something only where it is**: fields, methods, and parameters. -/
def inner (b : Blueprint) : List String :=
  [receiver, "State", "hook", "event"] ++ b.transitions.map Transition.event ++
    b.transitions.flatMap fun tr => tr.params.map Param.name

end GoSource

namespace RustSource

/-- **What a source relies on**: types of the language and its library. -/
def reliedOn (b : Blueprint) : List String :=
  ["Option", "Result", "str", "std", "usize", typeOf b.machine.stateWidth,
    typeOf b.machine.eventWidth]

/-- **What stands for something only where it is**: fields, methods, parameters, and what is
selected from the library; and values and macros, which are no types. -/
def inner (b : Blueprint) : List String :=
  ["new", "state", "event", "hook", "f", "_", startField, "fmt", "Display", "Formatter", "error",
      "Error", "matches", "write", "info"] ++
    constructors ++ (declarations b).map Prod.fst ++ b.transitions.map Transition.event ++
    b.transitions.flatMap fun tr => tr.params.map Param.name

end RustSource

namespace Target

/-- What a source relies on without declaring it. -/
def reliedOn : Target → Bool → Blueprint → List String
  | go => GoSource.reliedOn
  | rust => fun _ => RustSource.reliedOn

/-- **What a source declares next to its machine**, the machine included: in Go everything that it
declares, in Rust types. -/
def items : Target → Blueprint → List String
  | go, b => (GoSource.declarations b).map Prod.fst
  | rust, b => [b.machine.name, RustSource.rejection b.machine.name]

/-- What stands for something only where it is. -/
def inner : Target → Blueprint → List String
  | go => GoSource.inner
  | rust => RustSource.inner

/-- **A name is resolved** in the source of a blueprint. -/
inductive Resolves (target : Target) (logging : Bool) (b : Blueprint) (name : String) : Prop where
  /-- It is a keyword. -/
  | keyword (h : name ∈ target.keywords)
  /-- It is declared. -/
  | item (h : name ∈ target.items b)
  /-- It stands for something only where it is. -/
  | inner (h : name ∈ target.inner b)
  /-- The source relies on it. -/
  | relied (h : name ∈ target.reliedOn logging b)

/-- **What a source relies on**, and when it is taken over. -/
structure Relies (target : Target) (t : Table) (b : Blueprint) : Prop where
  /-- Without types, the source has the same lines behind its head, except for those that methods
  begin with. -/
  untyped : List.Forall₂ (target.LosesTypes b) (target.code b) (target.code b.untyped)
  /-- All names in these lines are resolved. -/
  resolves : ∀ name ∈ (target.code b.untyped).flatMap mentions, target.Resolves t.logging b name
  /-- The source mentions everything that it relies on. -/
  mentioned : target.reliedOn t.logging b ⊆ (target.code b.untyped).flatMap mentions
  /-- Nothing is taken over exactly if the machine is not called like something of that. -/
  disjoint_iff : (target.items b).Disjoint (target.reliedOn t.logging b) ↔
    t.name ∉ target.reliedOn t.logging b

end Target

/-! ### Symbols and transitions of tables -/

section Tables

variable {t : Table} {s : States} (h : t.WellFormed) (hs : States.ofTable t = some s)

include hs in
theorem Blueprint.hasSymbol_of_mem_constants {k : Constant}
    (hk : k ∈ (direct t s).states.constants) : t.HasSymbol k.symbol := by
  obtain ⟨i, n, hn, rfl⟩ := mem_constants.mp hk
  exact .inl ⟨n, (States.mem_names_ofTable hs).mp (List.mem_of_getElem? hn), rfl⟩

include h in
/-- Symbols of a well formed table are identifiers. -/
theorem Table.HasSymbol.valid {symbol : String} (hsymbol : t.HasSymbol symbol) :
    Identifier.valid symbol = true := by
  obtain ⟨n, hn, rfl⟩ | ⟨n, hn, rfl⟩ := hsymbol
  · exact Symbol.valid_ofState (h.valid_of_mem_references hn)
  · obtain ⟨entry, hentry, rfl⟩ := List.mem_map.mp hn
    exact Symbol.valid_ofEvent (h.events_wellFormed _ hentry).name_valid

include hs in
theorem Blueprint.hasSymbol_initialSymbol :
    t.HasSymbol (direct t s).constructor.initialSymbol :=
  .inl ⟨_, (States.mem_names_ofTable hs).mp (List.head_mem s.inhabited), rfl⟩

include h in
theorem Blueprint.exists_mem_transitions : ∃ tr, tr ∈ (direct t s).transitions := by
  obtain ⟨⟨name, e⟩, hmem⟩ := List.exists_mem_of_ne_nil _ h.events_ne_nil
  obtain ⟨i, hentry⟩ := List.mem_iff_getElem?.mp hmem
  exact ⟨_, mem_transitions.mpr ⟨i, name, e, hentry, rfl⟩⟩

/-- **A transition is named after a table**: all names in it come from there. -/
structure Transition.NamedAfter (t : Table) (b : Blueprint) (tr : Transition) : Prop where
  /-- They are identifiers. -/
  named : Named tr
  /-- The machine is that of the table. -/
  machine_eq : tr.machine = t.name
  /-- Its ordinals are as wide as those that hooks receive. -/
  eventWidth_eq : tr.eventWidth = b.machine.eventWidth
  /-- The guard has symbols of the table. -/
  guard : ∀ symbol ∈ tr.guard, t.HasSymbol symbol
  /-- The destination has one. -/
  destinationSymbol : t.HasSymbol tr.destinationSymbol
  /-- So has the event. -/
  eventSymbol : t.HasSymbol tr.eventSymbol
  /-- The transition is logged if the table says so. -/
  isSome_log : tr.log.isSome = t.logging
  /-- All of its parameters are. -/
  fields : ∀ l, tr.log = some l → l.fields = tr.params.map Param.name

include h hs in
/-- The transitions of a table are named after it. -/
theorem Transition.namedAfter_of_mem {tr : Transition}
    (htr : tr ∈ (Blueprint.direct t s).transitions) : tr.NamedAfter t (Blueprint.direct t s) := by
  obtain ⟨i, name, e, hentry, rfl⟩ := Blueprint.mem_transitions.mp htr
  obtain ⟨hguard, hdestination, hevent⟩ := Transition.hasSymbol_direct hs hentry
  exact
    { named := GoSource.named_direct h hs hentry
      machine_eq := rfl
      eventWidth_eq := rfl
      guard := hguard
      destinationSymbol := hdestination
      eventSymbol := hevent
      isSome_log := by
        show (if t.logging = true then some (Transition.logOf e) else none).isSome = t.logging
        cases t.logging <;> rfl
      fields := by
        intro l hl
        rw [Transition.eq_logOf_of_log_direct hl]
        rfl }

/-! ### In both languages -/

namespace Target

/-- The names in the constant and the method of an event. -/
def namesOf : Target → Transition → List String
  | go => GoSource.namesOf
  | rust => RustSource.namesOf

variable (target : Target)

include h hs in
/-- **The names in methods**, one by one. -/
theorem mentions_events : ((Blueprint.direct t s).transitions.map Transition.untyped).flatMap
    (fun tr => (target.transition tr).flatMap mentions) =
      (Blueprint.direct t s).transitions.flatMap target.namesOf := by
  rw [List.flatMap_map]
  -- each method mentions its names, whatever the types were
  refine List.flatMap_congr fun tr htr => ?_
  obtain ⟨i, name, e, hentry, rfl⟩ := Blueprint.mem_transitions.mp htr
  have hnamed := GoSource.named_direct h hs hentry
  have he := h.events_wellFormed _ (List.mem_of_getElem? hentry)
  cases target with
  | go => exact GoSource.mentions_transition he.params_valid hnamed he.name_valid
  | rust => exact RustSource.mentions_transition he.params_valid hnamed he.name_valid

include hs in
/-- **Symbols are resolved**: in Go they are declared next to the machine, in Rust they are
values. -/
theorem resolves_symbol {symbol : String} (hsymbol : t.HasSymbol symbol) :
    target.Resolves t.logging (Blueprint.direct t s) symbol := by
  have hmem := (Blueprint.mem_symbols_direct hs).mpr hsymbol
  cases target with
  | go =>
    refine .item (List.mem_cons_of_mem _ (List.mem_cons_of_mem _ ?_))
    exact List.mem_cons_of_mem _ hmem
  | rust =>
    refine .inner (List.mem_append_left _ (List.mem_append_left _ (List.mem_append_right _ ?_)))
    exact List.mem_cons_of_mem _ hmem

/-- **Events and parameters are resolved**: they stand for something where they are. -/
theorem resolves_event {tr : Transition} (htr : tr ∈ (Blueprint.direct t s).transitions) :
    target.Resolves t.logging (Blueprint.direct t s) tr.event ∧
      ∀ n ∈ tr.params.map Param.name, target.Resolves t.logging (Blueprint.direct t s) n := by
  have hevent : tr.event ∈ (Blueprint.direct t s).transitions.map Transition.event :=
    List.mem_map.mpr ⟨tr, htr, rfl⟩
  have hparams : ∀ n ∈ tr.params.map Param.name,
      n ∈ (Blueprint.direct t s).transitions.flatMap fun tr => tr.params.map Param.name :=
    fun n hn => List.mem_flatMap.mpr ⟨tr, htr, hn⟩
  cases target with
  | go =>
    exact ⟨.inner (List.mem_append_left _ (List.mem_append_right _ hevent)),
      fun n hn => .inner (List.mem_append_right _ (hparams n hn))⟩
  | rust =>
    exact ⟨.inner (List.mem_append_left _ (List.mem_append_right _ hevent)),
      fun n hn => .inner (List.mem_append_right _ (hparams n hn))⟩

end Target

/-! ### In Go -/

namespace GoSource

open Target (Resolves mentions resolves_event resolves_symbol)

/-- The machine is declared, and so are its function and its table. -/
theorem resolves_machine : ∀ name ∈ [t.name, maker t.name, namesTable t.name],
    Resolves .go t.logging (Blueprint.direct t s) name := by
  intro name hname
  have hdeclared : [t.name, maker t.name, namesTable t.name] ⊆
      Target.items .go (Blueprint.direct t s) :=
    List.subset_append_left _ ((Blueprint.direct t s).symbols.map Prod.fst)
  exact .item (hdeclared hname)

/-- **Fixed words** of a Go source are keywords, stand for something where they are, or are relied
on. -/
theorem resolves_words : (∀ n ∈ ["const", "func", "return", "type", "struct", "var", "map",
      "switch", "case", "default", "if"], Resolves .go t.logging (Blueprint.direct t s) n) ∧
    (∀ n ∈ [receiver, "State", "hook", "event"],
      Resolves .go t.logging (Blueprint.direct t s) n) ∧
    ∀ n ∈ ["error", "string", "nil", "iota", "fmt",
        typeOf (Blueprint.direct t s).machine.stateWidth,
        typeOf (Blueprint.direct t s).machine.eventWidth],
      Resolves .go t.logging (Blueprint.direct t s) n := by
  refine ⟨fun n hn => .keyword ?_, fun n hn => .inner ?_, fun n hn => .relied ?_⟩
  · exact (show _ ⊆ keywords by decide) hn
  · exact List.mem_append_left _ (List.mem_append_left _ hn)
  · exact List.mem_append_left _ hn

include h hs

/-- **The names in a Go source**, one by one. -/
theorem mentions_code :
    (Target.code .go (Blueprint.direct t s).untyped).flatMap mentions =
      ("const" :: match (Blueprint.direct t s).states.constants with
        | [] => []
        | first :: rest => first.symbol :: typeOf (Blueprint.direct t s).machine.stateWidth ::
            "iota" :: rest.map Constant.symbol) ++
      ["func", maker t.name, "hook", "func", "event",
        typeOf (Blueprint.direct t s).machine.eventWidth, t.name, "return", t.name, "State",
        (Blueprint.direct t s).constructor.initialSymbol, "hook", "hook"] ++
      ["type", t.name, "struct", "State", typeOf (Blueprint.direct t s).machine.stateWidth, "hook",
        "func", "event", typeOf (Blueprint.direct t s).machine.eventWidth] ++
      ["var", namesTable t.name, "map", typeOf (Blueprint.direct t s).machine.stateWidth,
        "string"] ++
      (Blueprint.direct t s).transitions.flatMap namesOf := by
  have hconstants := mentions_constants (c := (Blueprint.direct t s).states) fun k hk =>
    (Blueprint.hasSymbol_of_mem_constants hs hk).valid h
  have hconstructor := mentions_constructor (c := (Blueprint.direct t s).constructor) h.name_valid
    ((Blueprint.hasSymbol_initialSymbol hs).valid h)
  have hmachine := mentions_machineType (m := (Blueprint.direct t s).machine) h.name_valid
  have hlookup := mentions_lookup (l := (Blueprint.direct t s).lookup) h.name_valid
  have hevents := Target.mentions_events h hs .go
  -- the parts follow each other in the order of the source
  unfold Target.code
  rw [List.flatMap_append, List.flatMap_append, List.flatMap_append, List.flatMap_append,
    List.flatMap_assoc]
  exact congrArg₂ _ (congrArg₂ _ (congrArg₂ _ (congrArg₂ _ hconstants hconstructor) hmachine)
    hlookup) hevents

/-- **The names in a method** are resolved. -/
theorem resolves_namesOf {tr : Transition} (htr : tr ∈ (Blueprint.direct t s).transitions) :
    ∀ name ∈ namesOf tr, Resolves .go t.logging (Blueprint.direct t s) name := by
  have hafter := Transition.namedAfter_of_mem h hs htr
  obtain ⟨hevent, hparams⟩ := resolves_event .go htr
  have hcases : ∀ symbol ∈ tr.guard, Resolves .go t.logging (Blueprint.direct t s) symbol :=
    fun symbol hmem => resolves_symbol hs .go (hafter.guard symbol hmem)
  have hdestination := resolves_symbol hs .go hafter.destinationSymbol
  have hsymbol := resolves_symbol hs .go hafter.eventSymbol
  obtain ⟨hkeyword, hinner, hrelied⟩ := resolves_words (t := t) (s := s)
  have hdeclared := resolves_machine (t := t) (s := s)
  simp only [List.forall_mem_cons, List.not_mem_nil, false_imp_iff, implies_true, and_true]
    at hkeyword hinner hrelied hdeclared
  -- the names of a method are known one by one
  rw [namesOf, identifiers_methodBody hafter.named, hafter.machine_eq, hafter.eventWidth_eq]
  -- what is left are the cases, the parameters, and the fields of the log
  cases hl : tr.log with
  | none =>
    simp only [List.forall_mem_append, List.forall_mem_cons, List.not_mem_nil, false_imp_iff,
      implies_true, and_true, true_and, hkeyword, hinner, hrelied, hdeclared, hevent, hdestination,
      hsymbol]
    exact ⟨hparams, hcases⟩
  | some l =>
    have hlogging : t.logging = true := by rw [← hafter.isSome_log, hl]; rfl
    have hslog : Resolves .go t.logging (Blueprint.direct t s) "slog" := by
      refine .relied (List.mem_append_right _ ?_)
      rw [if_pos hlogging]
      exact List.mem_singleton_self _
    simp only [List.forall_mem_append, List.forall_mem_cons, List.not_mem_nil, false_imp_iff,
      implies_true, and_true, true_and, hkeyword, hinner, hrelied, hdeclared, hevent, hdestination,
      hsymbol, hslog, hafter.fields l hl]
    exact ⟨hparams, hcases, hparams⟩

/-- **What a Go source mentions** is resolved. -/
theorem resolves_code : ∀ name ∈
    (Target.code .go (Blueprint.direct t s).untyped).flatMap mentions,
      Resolves .go t.logging (Blueprint.direct t s) name := by
  have hinitial := resolves_symbol hs .go (Blueprint.hasSymbol_initialSymbol hs)
  have hconstants : ∀ k ∈ (Blueprint.direct t s).states.constants,
      Resolves .go t.logging (Blueprint.direct t s) k.symbol := fun k hk =>
    resolves_symbol hs .go (Blueprint.hasSymbol_of_mem_constants hs hk)
  have hmethods : ∀ name ∈ (Blueprint.direct t s).transitions.flatMap namesOf,
      Resolves .go t.logging (Blueprint.direct t s) name :=
    List.forall_mem_flatMap.mpr fun tr htr => resolves_namesOf h hs htr
  obtain ⟨hkeyword, hinner, hrelied⟩ := resolves_words (t := t) (s := s)
  have hdeclared := resolves_machine (t := t) (s := s)
  simp only [List.forall_mem_cons, List.not_mem_nil, false_imp_iff, implies_true, and_true]
    at hkeyword hinner hrelied hdeclared
  rw [mentions_code h hs]
  -- only the first constant mentions the type, so the others are apart from it
  cases hsymbols : (Blueprint.direct t s).states.constants with
  | nil =>
    simp only [List.forall_mem_append, List.forall_mem_cons, List.not_mem_nil, false_imp_iff,
      implies_true, and_true, true_and, hkeyword, hinner, hrelied, hdeclared, hinitial]
    exact hmethods
  | cons first rest =>
    rw [hsymbols] at hconstants
    obtain ⟨hfirst, hrest⟩ := List.forall_mem_cons.mp hconstants
    simp only [List.forall_mem_append, List.forall_mem_cons, List.forall_mem_map, List.not_mem_nil,
      false_imp_iff, implies_true, and_true, true_and, hkeyword, hinner, hrelied, hdeclared,
      hinitial, hfirst]
    exact ⟨hrest, hmethods⟩

/-- **A Go source mentions** everything that it relies on. -/
theorem reliedOn_subset : reliedOn t.logging (Blueprint.direct t s) ⊆
    (Target.code .go (Blueprint.direct t s).untyped).flatMap mentions := by
  -- there is an event, so there is a method that returns something, fails, and may log
  obtain ⟨tr, htr⟩ := Blueprint.exists_mem_transitions h (s := s)
  have hafter := Transition.namedAfter_of_mem h hs htr
  have hmethod : ∀ n ∈ namesOf tr,
      n ∈ (Target.code .go (Blueprint.direct t s).untyped).flatMap mentions := by
    intro n hn
    rw [mentions_code h hs]
    exact List.mem_append_right _ (List.mem_flatMap.mpr ⟨tr, htr, hn⟩)
  rw [namesOf, identifiers_methodBody hafter.named] at hmethod
  have hiota : "iota" ∈ (Target.code .go (Blueprint.direct t s).untyped).flatMap mentions := by
    rw [mentions_code h hs]
    -- there is a state for the machine to start in
    cases hconstants : (Blueprint.direct t s).states.constants with
    | nil =>
      have hlength := Blueprint.length_constants (t := t) (s := s)
      rw [hconstants] at hlength
      exact absurd (List.eq_nil_of_length_eq_zero hlength.symm) s.inhabited
    | cons first rest => simp
  -- the types of words and of texts are in the parts that every source has
  have hstring : ∀ n ∈ ["string", typeOf (Blueprint.direct t s).machine.stateWidth,
      typeOf (Blueprint.direct t s).machine.eventWidth],
      n ∈ (Target.code .go (Blueprint.direct t s).untyped).flatMap mentions := by
    intro n hn
    rw [mentions_code h hs]
    simp only [List.mem_append, List.mem_cons, List.not_mem_nil, or_false] at hn ⊢
    tauto
  -- logging is relied on only if there are lines that log
  have hslog : t.logging = true →
      "slog" ∈ (Target.code .go (Blueprint.direct t s).untyped).flatMap mentions := by
    intro hlogging
    rw [← hafter.isSome_log] at hlogging
    obtain ⟨l, hl⟩ := Option.isSome_iff_exists.mp hlogging
    apply hmethod
    rw [hl]
    simp
  refine List.append_subset.mpr ⟨?_, ?_⟩
  · simp only [List.cons_subset, List.nil_subset, and_true]
    exact ⟨hmethod _ (by simp), hstring _ (by simp), hmethod _ (by simp), hiota,
      hmethod _ (by simp), hstring _ (by simp), hstring _ (by simp)⟩
  · intro n hn
    split at hn
    · next hlogging => exact List.mem_singleton.mp hn ▸ hslog hlogging
    · exact absurd hn List.not_mem_nil

omit h hs in
/-- What is relied on begins with a small letter, and it is short. -/
theorem reliedOn_small {logging : Bool} {b : Blueprint} : ∀ n ∈ reliedOn logging b,
    n.toList.head?.any Char.isLower = true ∧ n.length < 10 := by
  have hwidth : ∀ w : Width, (typeOf w).toList.head?.any Char.isLower = true ∧
      (typeOf w).length < 10 := by
    intro w
    cases w <;> decide
  have hfixed : ∀ n ∈ ["error", "string", "nil", "iota", "fmt", "slog"],
      n.toList.head?.any Char.isLower = true ∧ n.length < 10 := by decide
  intro n hn
  unfold reliedOn at hn
  rw [List.mem_append] at hn
  obtain hn | hn := hn
  · -- either it is one of the fixed names, or a type of words
    have hsplit : n ∈ ["error", "string", "nil", "iota", "fmt"] ∨
        n ∈ [typeOf b.machine.stateWidth, typeOf b.machine.eventWidth] := List.mem_append.mp hn
    obtain hn | hn := hsplit
    · exact hfixed n (List.mem_append_left ["slog"] hn)
    · obtain rfl | rfl := List.mem_pair.mp hn
      · exact hwidth _
      · exact hwidth _
  · split at hn
    · rw [List.mem_singleton.mp hn]
      decide
    · exact absurd hn List.not_mem_nil

omit h in
/-- **In Go**, nothing is taken over exactly if the machine takes over nothing. -/
theorem disjoint_reliedOn_iff :
    (Target.items .go (Blueprint.direct t s)).Disjoint
        (reliedOn t.logging (Blueprint.direct t s)) ↔
      t.name ∉ reliedOn t.logging (Blueprint.direct t s) := by
  constructor
  · intro hdisjoint
    exact hdisjoint List.mem_cons_self
  · intro hmachine n hitem hrelied
    -- other names that are declared are long or begin with a capital
    obtain ⟨hsmall, hshort⟩ := reliedOn_small n hrelied
    have hdeclared : n ∈ t.name :: maker t.name :: namesTable t.name ::
        (Blueprint.direct t s).symbols.map Prod.fst := hitem
    rw [List.mem_cons, List.mem_cons, List.mem_cons] at hdeclared
    obtain rfl | rfl | rfl | hsymbol := hdeclared
    · exact hmachine hrelied
    · have hhead : (maker t.name).toList.head? = some 'N' := by simp [maker]
      rw [hhead] at hsmall
      exact absurd hsmall (by decide)
    · have hlength : (namesTable t.name).length = t.name.length + 10 :=
        String.length_append t.name "StateNames"
      omega
    · rcases ((Blueprint.mem_symbols_direct hs).mp hsymbol).head? with hS | hE
      · rw [hS] at hsmall
        exact absurd hsmall (by decide)
      · rw [hE] at hsmall
        exact absurd hsmall (by decide)

end GoSource

/-! ### In Rust -/

namespace RustSource

open Target (Resolves mentions resolves_event resolves_symbol)

/-- The machine and its rejections are declared, and the array of names is a value. -/
theorem resolves_machine : ∀ name ∈ [t.name, rejection t.name, namesTable t.name],
    Resolves .rust t.logging (Blueprint.direct t s) name := by
  simp only [List.forall_mem_cons, List.not_mem_nil, false_imp_iff, implies_true, and_true]
  refine ⟨.item List.mem_cons_self, .item (List.mem_cons_of_mem _ List.mem_cons_self), .inner ?_⟩
  refine List.mem_append_left _ (List.mem_append_left _ (List.mem_append_right _ ?_))
  exact List.mem_cons_self

/-- **Fixed words** of a Rust source are keywords, stand for something where they are, or are relied
on. -/
theorem resolves_words : (∀ n ∈ ["pub", "const", "impl", "fn", "Self", "self", "struct", "static",
      "for", "mut", "as", "if", "let", "return"],
      Resolves .rust t.logging (Blueprint.direct t s) n) ∧
    (∀ n ∈ ["new", "state", "event", "hook", "f", "_", startField, "fmt", "Display", "Formatter",
        "error", "Error", "matches", "write", "info"] ++ constructors,
      Resolves .rust t.logging (Blueprint.direct t s) n) ∧
    ∀ n ∈ ["Option", "Result", "str", "std", "usize",
        typeOf (Blueprint.direct t s).machine.stateWidth,
        typeOf (Blueprint.direct t s).machine.eventWidth],
      Resolves .rust t.logging (Blueprint.direct t s) n := by
  refine ⟨fun n hn => .keyword ?_, fun n hn => .inner ?_, fun n hn => .relied hn⟩
  · exact (show _ ⊆ keywords by decide) hn
  · exact List.mem_append_left _ (List.mem_append_left _ (List.mem_append_left _ hn))

include h hs

/-- **The names in a Rust source**, one by one. -/
theorem mentions_code :
    (Target.code .rust (Blueprint.direct t s).untyped).flatMap mentions =
      ((Blueprint.direct t s).states.constants.flatMap fun k =>
        ["pub", "const", k.symbol, typeOf (Blueprint.direct t s).machine.stateWidth]) ++
      ["impl", t.name, "pub", "fn", "new", "hook", "Option", "fn",
        typeOf (Blueprint.direct t s).machine.eventWidth, "Self", "Self", "state",
        (Blueprint.direct t s).constructor.initialSymbol, "hook"] ++
      ["pub", "struct", t.name, "pub", "state", typeOf (Blueprint.direct t s).machine.stateWidth,
        "hook", "Option", "fn", typeOf (Blueprint.direct t s).machine.eventWidth] ++
      ["pub", "struct", rejection t.name, "pub", "event", "static", "str", "pub", "state",
        typeOf (Blueprint.direct t s).machine.stateWidth, "impl", "std", "fmt", "Display", "for",
        rejection t.name, "fn", "fmt", "self", "f", "mut", "std", "fmt", "Formatter", "_", "std",
        "fmt", "Result", "write", "f", "self", namesTable t.name, "self", "as", "usize", "impl",
        "std", "error", "Error", "for", rejection t.name] ++
      ["pub", "const", namesTable t.name, "str"] ++
      (Blueprint.direct t s).transitions.flatMap namesOf := by
  have hconstants := mentions_constants (c := (Blueprint.direct t s).states) fun k hk =>
    (Blueprint.hasSymbol_of_mem_constants hs hk).valid h
  have hconstructor := mentions_constructor (c := (Blueprint.direct t s).constructor) h.name_valid
    ((Blueprint.hasSymbol_initialSymbol hs).valid h)
  have hmachine := mentions_machineType (m := (Blueprint.direct t s).machine) h.name_valid
  have hrejection := mentions_rejectionType (m := (Blueprint.direct t s).machine) h.name_valid
  have hlookup := mentions_lookup (l := (Blueprint.direct t s).lookup) h.name_valid
  have hevents := Target.mentions_events h hs .rust
  -- as above, with the type of rejections behind that of the machine
  unfold Target.code
  rw [List.flatMap_append, List.flatMap_append, List.flatMap_append, List.flatMap_append,
    List.flatMap_append, List.flatMap_assoc]
  exact congrArg₂ _ (congrArg₂ _ (congrArg₂ _ (congrArg₂ _ (congrArg₂ _ hconstants hconstructor)
    hmachine) hrejection) hlookup) hevents

/-- **The names in a method** are resolved. -/
theorem resolves_namesOf {tr : Transition} (htr : tr ∈ (Blueprint.direct t s).transitions) :
    ∀ name ∈ namesOf tr, Resolves .rust t.logging (Blueprint.direct t s) name := by
  have hafter := Transition.namedAfter_of_mem h hs htr
  obtain ⟨hevent, hparams⟩ := resolves_event .rust htr
  have hpattern : ∀ symbol ∈ tr.guard, Resolves .rust t.logging (Blueprint.direct t s) symbol :=
    fun symbol hmem => resolves_symbol hs .rust (hafter.guard symbol hmem)
  have hdestination := resolves_symbol hs .rust hafter.destinationSymbol
  have hsymbol := resolves_symbol hs .rust hafter.eventSymbol
  obtain ⟨hkeyword, hinner, hrelied⟩ := resolves_words (t := t) (s := s)
  have hdeclared := resolves_machine (t := t) (s := s)
  simp only [constructors, List.forall_mem_append, List.forall_mem_cons, List.not_mem_nil,
    false_imp_iff, implies_true, and_true] at hkeyword hinner hrelied hdeclared
  rw [namesOf, identifiers_methodBody hafter.named, hafter.machine_eq, hafter.eventWidth_eq]
  -- what is left are the pattern, the parameters, and the fields of the log
  cases hl : tr.log with
  | none =>
    simp only [List.forall_mem_append, List.forall_mem_cons, List.not_mem_nil, false_imp_iff,
      implies_true, and_true, true_and, hkeyword, hinner, hrelied, hdeclared, hevent, hdestination,
      hsymbol]
    exact ⟨hparams, hpattern⟩
  | some l =>
    have hfields : ∀ n ∈ l.fields.flatMap fun f => [f, f],
        Resolves .rust t.logging (Blueprint.direct t s) n := by
      intro n hn
      obtain ⟨f, hf, hpair⟩ := List.mem_flatMap.mp hn
      rw [hafter.fields l hl] at hf
      obtain rfl | rfl := List.mem_pair.mp hpair
      · exact hparams _ hf
      · exact hparams _ hf
    simp only [List.forall_mem_append, List.forall_mem_cons, List.not_mem_nil, false_imp_iff,
      implies_true, and_true, true_and, hkeyword, hinner, hrelied, hdeclared, hevent, hdestination,
      hsymbol]
    exact ⟨hparams, hpattern, hfields⟩

/-- **What a Rust source mentions** is resolved. -/
theorem resolves_code : ∀ name ∈
    (Target.code .rust (Blueprint.direct t s).untyped).flatMap mentions,
      Resolves .rust t.logging (Blueprint.direct t s) name := by
  have hinitial := resolves_symbol hs .rust (Blueprint.hasSymbol_initialSymbol hs)
  have hmethods : ∀ name ∈ (Blueprint.direct t s).transitions.flatMap namesOf,
      Resolves .rust t.logging (Blueprint.direct t s) name :=
    List.forall_mem_flatMap.mpr fun tr htr => resolves_namesOf h hs htr
  obtain ⟨hkeyword, hinner, hrelied⟩ := resolves_words (t := t) (s := s)
  have hdeclared := resolves_machine (t := t) (s := s)
  simp only [constructors, List.forall_mem_append, List.forall_mem_cons, List.not_mem_nil,
    false_imp_iff, implies_true, and_true] at hkeyword hinner hrelied hdeclared
  -- a constant has the name of a state and the type of all of them
  have hconstants : ∀ k ∈ (Blueprint.direct t s).states.constants,
      ∀ n ∈ ["pub", "const", k.symbol, typeOf (Blueprint.direct t s).machine.stateWidth],
        Resolves .rust t.logging (Blueprint.direct t s) n := by
    intro k hk
    have hsymbol := resolves_symbol hs .rust (Blueprint.hasSymbol_of_mem_constants hs hk)
    simp only [List.forall_mem_cons, List.not_mem_nil, false_imp_iff, implies_true, and_true,
      hkeyword, hrelied, hsymbol]
  rw [mentions_code h hs]
  simp only [List.forall_mem_append, List.forall_mem_flatMap, List.forall_mem_cons,
    List.not_mem_nil, false_imp_iff, implies_true, and_true, true_and, hkeyword, hinner, hrelied,
    hdeclared, hinitial] at hconstants hmethods ⊢
  exact ⟨hconstants, hmethods⟩

/-- **A Rust source mentions** everything that it relies on. -/
theorem reliedOn_subset : reliedOn (Blueprint.direct t s) ⊆
    (Target.code .rust (Blueprint.direct t s).untyped).flatMap mentions := by
  rw [mentions_code h hs]
  unfold reliedOn
  -- all of it is in the types of the machine and of rejections
  simp only [List.cons_subset, List.nil_subset, and_true]
  refine ⟨?_, ?_, ?_, ?_, ?_, ?_, ?_⟩ <;> simp

omit h hs in
/-- What is relied on is short. -/
theorem reliedOn_small {b : Blueprint} : ∀ n ∈ reliedOn b, n.length < 15 := by
  have hwidth : ∀ w : Width, (typeOf w).length < 15 := by
    intro w
    cases w <;> decide
  have hfixed : ∀ n ∈ ["Option", "Result", "str", "std", "usize"], n.length < 15 := by decide
  intro n hn
  have hsplit : n ∈ ["Option", "Result", "str", "std", "usize"] ∨
      n ∈ [typeOf b.machine.stateWidth, typeOf b.machine.eventWidth] := List.mem_append.mp hn
  obtain hn | hn := hsplit
  · exact hfixed n hn
  · obtain rfl | rfl := List.mem_pair.mp hn
    · exact hwidth _
    · exact hwidth _

omit h hs in
/-- **In Rust**, nothing is taken over exactly if the machine takes over nothing. -/
theorem disjoint_reliedOn_iff :
    (Target.items .rust (Blueprint.direct t s)).Disjoint (reliedOn (Blueprint.direct t s)) ↔
      t.name ∉ reliedOn (Blueprint.direct t s) := by
  constructor
  · intro hdisjoint
    exact hdisjoint List.mem_cons_self
  · intro hmachine n hitem hrelied
    obtain rfl | rfl := List.mem_pair.mp hitem
    · exact hmachine hrelied
    · -- the type of rejections is too long a name for anything that is relied on
      have hlength : (rejection t.name).length = t.name.length + 15 :=
        String.length_append t.name "TransitionError"
      have hshort : (rejection t.name).length < 15 := reliedOn_small _ hrelied
      omega

end RustSource

include h hs

/-- **What the source of a well formed table relies on.** -/
theorem Target.relies_direct (target : Target) : target.Relies t (Blueprint.direct t s) where
  untyped := code_untyped target _
  resolves := by
    cases target with
    | go => exact GoSource.resolves_code h hs
    | rust => exact RustSource.resolves_code h hs
  mentioned := by
    cases target with
    | go => exact GoSource.reliedOn_subset h hs
    | rust => exact RustSource.reliedOn_subset h hs
  disjoint_iff := by
    cases target with
    | go => exact GoSource.disjoint_reliedOn_iff hs
    | rust => exact RustSource.disjoint_reliedOn_iff

end Tables

/-! ### Sources of tables -/

/-- **What a source relies on.**  If there is a source for the blueprint of a table, then all names
behind its head are resolved, and of the names that it declares, only that of the machine may take
over what it relies on. -/
theorem Target.relies_on (target : Target) (t : Table) (b : Blueprint) (text : String)
    (hb : Blueprint.ofTable t = .ok b) (htext : target.render b = .ok text) :
    text = Text.lines (target.header b.header ++ target.code b) ∧ target.Relies t b := by
  obtain ⟨hwf, s, hs, rfl⟩ := Table.eq_direct_of_blueprint hb
  refine ⟨?_, relies_direct hwf hs target⟩
  rw [← lines_eq_header_append]
  exact eq_lines_of_render htext

/-- The jobs take over nothing. -/
theorem Target.relies_on_jobs : ∃ b, Blueprint.ofTable Table.jobs = .ok b ∧ ∀ target : Target,
    (∃ text, target.render b = .ok text ∧
      text = Text.lines (target.header b.header ++ target.code b)) ∧
      target.Relies Table.jobs b ∧
      (target.items b).Disjoint (target.reliedOn Table.jobs.logging b) := by
  have hwf := Table.validate_eq_ok_iff_wellFormed.mp (show Table.jobs.validate = .ok () by decide)
  have hs : States.ofTable Table.jobs = some Table.jobStates := by decide
  have hb := Blueprint.ofTable_eq_ok hwf hs
  refine ⟨_, hb, fun target => ?_⟩
  obtain ⟨text, htext⟩ := exists_render hwf hs target (by cases target <;> decide)
    (by cases target <;> decide)
  obtain ⟨hlines, hrelies⟩ := relies_on target Table.jobs _ text hb htext
  refine ⟨⟨text, htext, hlines⟩, hrelies, hrelies.disjoint_iff.mpr ?_⟩
  cases target <;> decide

/-- **The machine of a table takes over** something that its source relies on, and nothing is said
against it. -/
def Target.TakesOver (target : Target) (t : Table) : Prop :=
  t.validate = .ok () ∧ ∃ b text, Blueprint.ofTable t = .ok b ∧ target.render b = .ok text ∧
    t.name ∈ target.items b ∧ t.name ∈ target.reliedOn t.logging b

/-- It does so if there is a source, and its name is among those that the source relies on. -/
theorem Target.takesOver_of_mem {target : Target} {t : Table} {s : States}
    (hvalid : t.validate = .ok ()) (hs : States.ofTable t = some s)
    (hrender : ¬ target.Collides t ∧ ¬ target.Reserves t)
    (htaken : t.name ∈ target.reliedOn t.logging (Blueprint.direct t s)) : target.TakesOver t := by
  have hwf := Table.validate_eq_ok_iff_wellFormed.mp hvalid
  obtain ⟨text, htext⟩ := exists_render hwf hs target hrender.1 hrender.2
  refine ⟨hvalid, _, text, Blueprint.ofTable_eq_ok hwf hs, htext, ?_, htaken⟩
  cases target with
  | go => exact List.mem_cons_self
  | rust => exact List.mem_cons_self

/-- A switch with a machine of a given name. -/
def Table.switchCalled (name : String) : Table where
  name
  packageName := "switches"
  imports := []
  logging := false
  events := Catalog.ofList [("turn", ⟨["on"], "off", []⟩)]

/-- **Types are taken over**: in Go the one that methods return, and in Rust the one that tells
whether there is a hook. -/
theorem Target.machine_takes_over : TakesOver .go (Table.switchCalled "error") ∧
    TakesOver .rust (Table.switchCalled "Option") := by
  have herror : States.ofTable (Table.switchCalled "error") = some Table.switchStates := by decide
  have hoption : States.ofTable (Table.switchCalled "Option") = some Table.switchStates := by decide
  exact ⟨takesOver_of_mem (by decide) herror (by decide) (by decide),
    takesOver_of_mem (by decide) hoption (by decide) (by decide)⟩

end Automaton
