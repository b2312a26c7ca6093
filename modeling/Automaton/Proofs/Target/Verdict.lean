import Automaton.Generation
import Automaton.Proofs.Target.GoScope

/-!
# What a language turns down

Validation does not know in which language a source will be written.  So there are accepted tables
without a source: names stand in a source as they are, and each language has names of its own.

`Target.Verdict` says exactly when a source is turned down, and for which of two reasons.

* Two declarations have one name (`Target.Collides`).  Few of them can: in Go only the type of the
  machine, in Rust only the array of state names, and only if its name is that of a constant.
* A name is reserved (`Target.Reserves`), because it is a keyword or because a method needs it.

Both are read off the table, and `Target.verdict` says that every accepted table gets its verdict.

## Names that cannot collide

In Go, a source also declares a function and a variable under names made of that of the machine.
They are out of the way of each other and of the machine by their lengths.  They are out of the way
of constants because the first one begins with a letter with which no symbol begins, and the other
one ends in a small letter, while there are none in symbols (`Symbol.isLower_eq_false_of_mem`).
-/

namespace Automaton

/-! ### Symbols of a table -/

/-- **A symbol of a table**: that of a state that it refers to, or of one of its events. -/
def Table.HasSymbol (t : Table) (symbol : String) : Prop :=
  (∃ n ∈ t.references, symbol = Symbol.ofState n) ∨ ∃ n ∈ t.events.names, symbol = Symbol.ofEvent n

instance (t : Table) (symbol : String) : Decidable (t.HasSymbol symbol) :=
  inferInstanceAs (Decidable (_ ∨ _))

namespace Symbol

/-- There are no small letters in upper case. -/
theorem isLower_eq_false_of_mem_upper {name : String} (h : Identifier.valid name = true) {c : Char}
    (hc : c ∈ (Text.upper name).toList) : c.isLower = false := by
  rw [toList_upper_of_valid h] at hc
  obtain ⟨d, hd, rfl⟩ := List.mem_map.mp hc
  exact Identifier.forall_isPart (p := fun c => c.toUpper.isLower = false) (by decide)
    (Identifier.isPart_of_valid h d hd)

end Symbol

section Symbols

variable {t : Table} {symbol : String}

/-- **Symbols begin** with one of two letters. -/
theorem Table.HasSymbol.head? (h : t.HasSymbol symbol) :
    symbol.toList.head? = some 'S' ∨ symbol.toList.head? = some 'E' := by
  obtain ⟨n, -, rfl⟩ | ⟨n, -, rfl⟩ := h
  · exact .inl (by simp [Symbol.ofState])
  · exact .inr (by simp [Symbol.ofEvent])

/-- **Symbols of a well formed table** are spelled without small letters. -/
theorem Table.HasSymbol.isLower_eq_false (ht : t.WellFormed) (h : t.HasSymbol symbol) {c : Char}
    (hc : c ∈ symbol.toList) : c.isLower = false := by
  -- a symbol is a fixed text before a name in capitals
  have hfixed : ∀ d ∈ "STATE_".toList ++ "EVENT_".toList, d.isLower = false := by simp
  obtain ⟨n, hn, rfl⟩ | ⟨n, hn, rfl⟩ := h
  · rw [Symbol.ofState, String.toList_append, List.mem_append] at hc
    rcases hc with hc | hc
    · exact hfixed c (List.mem_append_left _ hc)
    · exact Symbol.isLower_eq_false_of_mem_upper (ht.valid_of_mem_references hn) hc
  · rw [Symbol.ofEvent, String.toList_append, List.mem_append] at hc
    obtain ⟨entry, hentry, rfl⟩ := List.mem_map.mp hn
    rcases hc with hc | hc
    · exact hfixed c (List.mem_append_right _ hc)
    · exact Symbol.isLower_eq_false_of_mem_upper (ht.events_wellFormed _ hentry).name_valid hc

variable {s : States}

/-- The symbols of a blueprint are those of its constants, states first. -/
theorem Blueprint.symbols_direct : (direct t s).symbols.map Prod.fst =
    (direct t s).states.constants.map Constant.symbol ++
      (direct t s).transitions.map Transition.eventSymbol := by
  unfold symbols eventSymbols
  rw [List.map_append, stateSymbols_direct, List.map_map]
  rfl

/-- **The symbols of a blueprint** are those of the table. -/
theorem Blueprint.mem_symbols_direct (hs : States.ofTable t = some s) :
    symbol ∈ (direct t s).symbols.map Prod.fst ↔ t.HasSymbol symbol := by
  rw [symbols_direct, symbols_constants, eventSymbols_transitions, List.mem_append, List.mem_map,
    List.mem_map]
  unfold Table.HasSymbol
  simp only [States.mem_names_ofTable hs, eq_comm (a := symbol)]

/-- **What a transition refers to** by symbols: the states of its guard, its destination, and its
own event. -/
theorem Transition.hasSymbol_direct (hs : States.ofTable t = some s) {i : Nat} {name : String}
    {e : Event} (hentry : t.events.entries[i]? = some (name, e)) :
    let tr := Transition.direct (Blueprint.settingOf t s) i name e
    (∀ symbol ∈ tr.guard, t.HasSymbol symbol) ∧ t.HasSymbol tr.destinationSymbol ∧
      t.HasSymbol tr.eventSymbol := by
  have hmem : (name, e) ∈ t.events.entries := List.mem_of_getElem? hentry
  -- what an event refers to are states, and these have symbols
  have hstate : ∀ n, n ∈ e.sources ∨ n = e.destination → t.HasSymbol (Symbol.ofState n) :=
    fun n hn => .inl ⟨n, Table.mem_references.mpr ⟨name, e, hmem, hn⟩, rfl⟩
  refine ⟨fun symbol hsymbol => ?_, hstate _ (.inr rfl), ?_⟩
  · obtain ⟨n, hn, rfl⟩ := ((Blueprint.belongsTo_direct hs hentry).mem_guard symbol).mp hsymbol
    exact hstate n (.inl hn)
  · exact .inr ⟨name, List.mem_map.mpr ⟨_, hmem, rfl⟩, rfl⟩

end Symbols

/-! ### Rules -/

namespace Target

/-- **Two declarations have one name**: in Go, the type of the machine is called like a constant,
and in Rust, the array of state names is. -/
def Collides (target : Target) (t : Table) : Prop :=
  match target with
  | go => t.HasSymbol t.name
  | rust => t.HasSymbol (RustSource.screaming t.name ++ "_STATE_NAMES")

/-- **What a language reserves** in the source of a table. -/
structure Rules where
  /-- The keywords of the language. -/
  keywords : List String
  /-- What a source is called: as a whole, or its machine. -/
  heads : List String
  /-- What no event may be called. -/
  methods : List String
  /-- What no parameter may be called, other than constants. -/
  scope : List String

/-- The rules of the languages. -/
def rules (target : Target) (t : Table) : Rules :=
  match target with
  | go =>
    { keywords := keywords go
      heads := [t.packageName, t.name]
      methods := ["State", "hook"]
      scope := ["fsm", "fmt", "slog", "nil", t.name ++ "StateNames"] }
  | rust =>
    { keywords := keywords rust
      heads := [t.name]
      methods := ["new"]
      scope := ["start_state", RustSource.screaming t.name ++ "_STATE_NAMES"] }

/-- **An event breaks the rules**: its name is reserved, or that of one of its parameters. -/
def Rules.BrokenBy (r : Rules) (t : Table) (event : String) (params : List Param) : Prop :=
  (event ∈ r.keywords ∨ event ∈ r.methods) ∨
    ∃ p ∈ params, p.name ∈ r.keywords ∨ p.name ∈ r.scope ∨ t.HasSymbol p.name

/-- **A name is reserved** in the source of a table. -/
def Reserves (target : Target) (t : Table) : Prop :=
  (∃ n ∈ (target.rules t).heads, n ∈ (target.rules t).keywords) ∨
    ∃ entry ∈ t.events.entries, (target.rules t).BrokenBy t entry.1 entry.2.params

/-- **A table keeps the rules**: none of its names is reserved. -/
structure Keeps (target : Target) (t : Table) : Prop where
  /-- What a source is called is no keyword. -/
  heads : ∀ n ∈ (target.rules t).heads, n ∉ (target.rules t).keywords
  /-- No event is called like a keyword or like something that methods may not be called. -/
  events : ∀ entry ∈ t.events.entries,
    entry.1 ∉ (target.rules t).keywords ∧ entry.1 ∉ (target.rules t).methods
  /-- No parameter is called like a keyword, like something that methods need, or like a symbol. -/
  params : ∀ entry ∈ t.events.entries, ∀ p ∈ entry.2.params,
    p.name ∉ (target.rules t).keywords ∧ p.name ∉ (target.rules t).scope ∧ ¬ t.HasSymbol p.name

/-- The rules are kept exactly if no name is reserved. -/
theorem not_reserves_iff {target : Target} {t : Table} : ¬ target.Reserves t ↔ target.Keeps t := by
  unfold Reserves Rules.BrokenBy
  push Not
  constructor
  · rintro ⟨hheads, hentries⟩
    exact ⟨hheads, fun entry hentry => (hentries entry hentry).1,
      fun entry hentry => (hentries entry hentry).2⟩
  · rintro ⟨hheads, hevents, hparams⟩
    exact ⟨hheads, fun entry hentry => ⟨hevents entry hentry, hparams entry hentry⟩⟩

instance (target : Target) (t : Table) : Decidable (target.Collides t) :=
  match target with
  | go => inferInstanceAs (Decidable (t.HasSymbol _))
  | rust => inferInstanceAs (Decidable (t.HasSymbol _))

instance (r : Rules) (t : Table) (event : String) (params : List Param) :
    Decidable (r.BrokenBy t event params) :=
  inferInstanceAs (Decidable ((_ ∨ _) ∨ ∃ p ∈ params, _ ∨ _ ∨ _))

instance (target : Target) (t : Table) : Decidable (target.Reserves t) :=
  inferInstanceAs (Decidable ((∃ n ∈ (target.rules t).heads, _) ∨ ∃ e ∈ t.events.entries, _))

/-- **The verdict** on the source of a table: it is turned down because two of its declarations
collide, or else because a name is reserved, and otherwise there is one. -/
structure Verdict (target : Target) (t : Table) (result : Except Error String) : Prop where
  /-- When a collision is reported. -/
  collision_iff : (∃ symbol first second, result = .error (.collision symbol first second)) ↔
    target.Collides t
  /-- When it is reported that there is no valid source. -/
  synthesis_iff : (∃ words, result = .error (.synthesis words)) ↔
    ¬ target.Collides t ∧ target.Reserves t
  /-- When there is a source. -/
  ok_iff : (∃ text, result = .ok text) ↔ ¬ target.Collides t ∧ ¬ target.Reserves t

/-! ### What checking names comes to -/

section Checking

variable (target : Target) {declarations : List (String × String)}

/-- Declarations that share a name are a clash. -/
theorem exists_checkNames_eq_clash (uses : List Use) (h : ¬ (declarations.map (·.1)).Nodup) :
    ∃ c, checkNames target declarations uses = .error (.clash c) := by
  rw [← Symbol.clashes_eq_nil_iff] at h
  obtain ⟨c, cs, hclashes⟩ := List.exists_cons_of_ne_nil h
  exact ⟨c, by rw [checkNames, hclashes]⟩

/-- Without clashes, a name that is taken is reported. -/
theorem exists_checkNames_eq_reserved {uses : List Use} (h : (declarations.map (·.1)).Nodup)
    (htaken : ∃ u ∈ uses, u.name ∈ u.taken) :
    ∃ role name, checkNames target declarations uses = .error (.reserved target role name) := by
  obtain ⟨u, hu, hname⟩ := htaken
  obtain ⟨v, hv⟩ : ∃ v, uses.find? (fun u => u.taken.contains u.name) = some v := by
    apply Option.isSome_iff_exists.mp
    exact List.find?_isSome.mpr ⟨u, hu, List.contains_iff_mem.mpr hname⟩
  rw [← Symbol.clashes_eq_nil_iff] at h
  exact ⟨v.role, v.name, by rw [checkNames, h]; simp only [hv]⟩

/-- **Names are checked against the rules** if declarations collide and names are taken when the
rules say so, and the verdict follows. -/
theorem verdict_of_checkNames {uses : List Use} {t : Table} {text : String}
    (hcollides : ¬ (declarations.map (·.1)).Nodup ↔ target.Collides t)
    (hreserves : (∃ u ∈ uses, u.name ∈ u.taken) ↔ target.Reserves t) :
    target.Verdict t (((checkNames target declarations uses).map fun _ => text).mapError
      NameFault.error) := by
  -- collisions are looked for first, so they decide whatever else is wrong
  by_cases hc : target.Collides t
  · obtain ⟨c, hclash⟩ := exists_checkNames_eq_clash target uses (hcollides.mpr hc)
    rw [hclash]
    exact
      { collision_iff := iff_of_true ⟨c.symbol, c.first, c.second, rfl⟩ hc
        synthesis_iff := iff_of_false nofun fun h => h.1 hc
        ok_iff := iff_of_false nofun fun h => h.1 hc }
  · have hnodup : (declarations.map (·.1)).Nodup := not_not.mp fun h => hc (hcollides.mp h)
    by_cases hr : target.Reserves t
    · obtain ⟨role, name, hreserved⟩ :=
        exists_checkNames_eq_reserved target hnodup (hreserves.mpr hr)
      rw [hreserved]
      exact
        { collision_iff := iff_of_false nofun hc
          synthesis_iff := iff_of_true ⟨_, rfl⟩ ⟨hc, hr⟩
          ok_iff := iff_of_false nofun fun h => h.2 hr }
    · have hok : checkNames target declarations uses = .ok () := by
        -- with neither, every check passes
        refine checkNames_eq_ok_iff.mpr ⟨hnodup, fun u hu hname => ?_⟩
        exact hr (hreserves.mp ⟨u, hu, hname⟩)
      rw [hok]
      exact
        { collision_iff := iff_of_false nofun hc
          synthesis_iff := iff_of_false nofun fun h => hr h.2
          ok_iff := iff_of_true ⟨text, rfl⟩ ⟨hc, hr⟩ }

/-- **The uses of names in methods**, as both languages have them: the name of the event, and then
those of its parameters. -/
theorem exists_taken_iff {keywords methods referred : List String} {trs : List Transition} :
    (∃ u ∈ trs.flatMap fun tr => (⟨"event", tr.event, keywords⟩ : Use) ::
        ⟨"event", tr.event, methods⟩ :: tr.params.flatMap fun p =>
          [⟨"parameter", p.name, keywords⟩, ⟨"parameter", p.name, referred⟩],
      u.name ∈ u.taken) ↔
    ∃ tr ∈ trs, (tr.event ∈ keywords ∨ tr.event ∈ methods) ∨
      ∃ p ∈ tr.params, p.name ∈ keywords ∨ p.name ∈ referred := by
  simp only [List.mem_flatMap, List.mem_cons, List.not_mem_nil, or_false]
  -- four uses for each transition: two of its event, and two of every parameter
  constructor
  · rintro ⟨u, ⟨tr, htr, rfl | rfl | ⟨p, hp, rfl | rfl⟩⟩, hname⟩
    · exact ⟨tr, htr, .inl (.inl hname)⟩
    · exact ⟨tr, htr, .inl (.inr hname)⟩
    · exact ⟨tr, htr, .inr ⟨p, hp, .inl hname⟩⟩
    · exact ⟨tr, htr, .inr ⟨p, hp, .inr hname⟩⟩
  · rintro ⟨tr, htr, (hname | hname) | ⟨p, hp, hname | hname⟩⟩
    · exact ⟨_, ⟨tr, htr, .inl rfl⟩, hname⟩
    · exact ⟨_, ⟨tr, htr, .inr (.inl rfl)⟩, hname⟩
    · exact ⟨_, ⟨tr, htr, .inr (.inr ⟨p, hp, .inl rfl⟩)⟩, hname⟩
    · exact ⟨_, ⟨tr, htr, .inr (.inr ⟨p, hp, .inr rfl⟩)⟩, hname⟩

end Checking

end Target

/-! ### The verdict of each language -/

/-- Rendering is checking names, with the text of the source in the end. -/
theorem GoSource.render_eq (b : Blueprint) : render b =
    (Target.checkNames .go (declarations b) (uses b)).map fun _ => Text.lines (lines b) := by
  unfold render
  cases Target.checkNames .go (declarations b) (uses b) <;> rfl

theorem RustSource.render_eq (b : Blueprint) : render b =
    (Target.checkNames .rust (declarations b) (uses b)).map fun _ => Text.lines (lines b) := by
  unfold render
  cases Target.checkNames .rust (declarations b) (uses b) <;> rfl

/-- The lines of a source in a language. -/
def Target.lines : Target → Blueprint → List String
  | go => GoSource.lines
  | rust => RustSource.lines

/-- **If there is a source**, then it has these lines. -/
theorem Target.eq_lines_of_render {target : Target} {b : Blueprint} {text : String}
    (h : target.render b = .ok text) : text = Text.lines (target.lines b) := by
  -- a check before the text is written changes nothing about the text
  have hmap : ∀ {checked : Except NameFault Unit} {words : String},
      (checked.map fun _ => words) = .ok text → text = words := by
    intro checked words hchecked
    cases checked with
    | error fault => exact absurd hchecked nofun
    | ok _ => exact (Except.ok.inj hchecked).symm
  cases target with
  | go => exact hmap ((GoSource.render_eq b).symm.trans h)
  | rust => exact hmap ((RustSource.render_eq b).symm.trans h)

/-- The transitions of a blueprint have the names and the parameters of the events. -/
theorem Blueprint.exists_transition_iff {t : Table} {s : States}
    {P : String → List Param → Prop} : (∃ tr ∈ (direct t s).transitions, P tr.event tr.params) ↔
      ∃ entry ∈ t.events.entries, P entry.1 entry.2.params := by
  constructor
  · rintro ⟨tr, htr, hP⟩
    obtain ⟨i, name, e, hentry, rfl⟩ := mem_transitions.mp htr
    exact ⟨(name, e), List.mem_of_getElem? hentry, hP⟩
  · rintro ⟨⟨name, e⟩, hmem, hP⟩
    obtain ⟨i, hentry⟩ := List.mem_iff_getElem?.mp hmem
    exact ⟨_, mem_transitions.mpr ⟨i, name, e, hentry, rfl⟩, hP⟩

/-- **Methods break the rules** exactly if events do, where what a method refers to is in the rules
or is a symbol. -/
theorem Target.exists_broken_iff (target : Target) {t : Table} {s : States} {referred : List String}
    (h : ∀ n, n ∈ referred ↔ n ∈ (target.rules t).scope ∨ t.HasSymbol n) :
    (∃ u ∈ (Blueprint.direct t s).transitions.flatMap fun tr =>
        (⟨"event", tr.event, (target.rules t).keywords⟩ : Use) ::
          ⟨"event", tr.event, (target.rules t).methods⟩ :: tr.params.flatMap fun p =>
            [⟨"parameter", p.name, (target.rules t).keywords⟩, ⟨"parameter", p.name, referred⟩],
      u.name ∈ u.taken) ↔
    ∃ entry ∈ t.events.entries, (target.rules t).BrokenBy t entry.1 entry.2.params := by
  rw [exists_taken_iff]
  simp only [h]
  exact Blueprint.exists_transition_iff (P := (target.rules t).BrokenBy t)

section WellFormed

variable {t : Table} {s : States} (h : t.WellFormed) (hs : States.ofTable t = some s)

include h hs in
/-- The symbols of a blueprint are all different. -/
theorem Blueprint.symbols_nodup : ((direct t s).symbols.map Prod.fst).Nodup := by
  rw [symbols_direct]
  exact symbols_direct_nodup h hs

namespace GoSource

/-- **The function and the variable** of the package are out of the way: whatever else is declared,
each of their names is there once. -/
structure Apart (b : Blueprint) : Prop where
  /-- There is one function that makes machines. -/
  maker_once : ((declarations b).map Prod.fst).count (maker b.machine.name) = 1
  /-- There is one table of state names. -/
  namesTable_once : ((declarations b).map Prod.fst).count (namesTable b.machine.name) = 1

/-- The machine and what is named after it differ in the lengths of their names. -/
theorem names_apart (m : String) : m ≠ maker m ∧ m ≠ namesTable m ∧ maker m ≠ namesTable m := by
  have hmaker : (maker m).length = 3 + m.length := String.length_append "New" m
  have htable : (namesTable m).length = m.length + 10 := String.length_append m "StateNames"
  refine ⟨fun heq => ?_, fun heq => ?_, fun heq => ?_⟩
  all_goals
    have hlength := congrArg String.length heq
    omega

/-- The function that makes machines is not called like a constant: no symbol begins like that. -/
theorem not_hasSymbol_maker (t : Table) (m : String) : ¬ t.HasSymbol (maker m) := by
  intro hsymbol
  have hhead : (maker m).toList.head? = some 'N' := by simp [maker]
  rcases hsymbol.head? with hS | hE
  · rw [hhead] at hS
    exact absurd hS (by decide)
  · rw [hhead] at hE
    exact absurd hE (by decide)

include h in
/-- Neither is the table of state names: there are no small letters in symbols. -/
theorem not_hasSymbol_namesTable (m : String) : ¬ t.HasSymbol (namesTable m) := by
  intro hsymbol
  have hmem : 's' ∈ (namesTable m).toList := by simp [namesTable]
  exact absurd (hsymbol.isLower_eq_false h hmem) (by decide)

include h hs

/-- **In Go**, declarations collide exactly if the machine is called like a constant. -/
theorem declarations_nodup_iff :
    ((declarations (Blueprint.direct t s)).map Prod.fst).Nodup ↔ ¬ t.HasSymbol t.name := by
  obtain ⟨hmaker, htable, hmaker_table⟩ := names_apart t.name
  have hsymbol : ∀ x, x ∈ (Blueprint.direct t s).symbols.map Prod.fst ↔ t.HasSymbol x := fun x =>
    Blueprint.mem_symbols_direct hs
  show (t.name :: maker t.name :: namesTable t.name ::
    (Blueprint.direct t s).symbols.map Prod.fst).Nodup ↔ _
  rw [List.nodup_cons, List.nodup_cons, List.nodup_cons, List.mem_cons, List.mem_cons,
    List.mem_cons, hsymbol, hsymbol, hsymbol]
  -- all but the first condition are met by every table
  refine ⟨fun hnodup hname => hnodup.1 (.inr (.inr hname)), fun hname => ?_⟩
  refine ⟨?_, ?_, not_hasSymbol_namesTable h t.name, Blueprint.symbols_nodup h hs⟩
  · rintro (heq | heq | hsym)
    · exact hmaker heq
    · exact htable heq
    · exact hname hsym
  · rintro (heq | hsym)
    · exact hmaker_table heq
    · exact not_hasSymbol_maker t t.name hsym

/-- **Nothing collides** with the function and the variable of the package. -/
theorem apart_direct : Apart (Blueprint.direct t s) := by
  obtain ⟨hmaker, htable, hmaker_table⟩ := names_apart t.name
  -- no state or event has a symbol like the two names that are made up
  have hnone : ∀ x, ¬ t.HasSymbol x → ((Blueprint.direct t s).symbols.map Prod.fst).count x = 0 :=
    fun x hx => List.count_eq_zero.mpr fun hmem => hx ((Blueprint.mem_symbols_direct hs).mp hmem)
  have hcount : ∀ x, ((declarations (Blueprint.direct t s)).map Prod.fst).count x =
      (t.name :: maker t.name :: namesTable t.name ::
        (Blueprint.direct t s).symbols.map Prod.fst).count x := fun _ => rfl
  constructor
  · show _ = 1
    rw [hcount]
    show List.count (maker t.name) _ = 1
    rw [List.count_cons_of_ne hmaker, List.count_cons_self, List.count_cons_of_ne hmaker_table.symm,
      hnone _ (not_hasSymbol_maker t t.name)]
  · rw [hcount]
    show List.count (namesTable t.name) _ = 1
    rw [List.count_cons_of_ne htable, List.count_cons_of_ne hmaker_table, List.count_cons_self,
      hnone _ (not_hasSymbol_namesTable h t.name)]

omit h in
/-- **In Go**, a name is taken exactly if the rules say so. -/
theorem exists_use_taken_iff : (∃ u ∈ uses (Blueprint.direct t s), u.name ∈ u.taken) ↔
    Target.Reserves .go t := by
  -- what methods refer to are the fixed names and all symbols
  have hreferred : ∀ n, n ∈ referred (Blueprint.direct t s) ↔
      n ∈ (Target.rules .go t).scope ∨ t.HasSymbol n := by
    intro n
    rw [← Blueprint.mem_symbols_direct hs]
    exact List.mem_append
  calc (∃ u ∈ uses (Blueprint.direct t s), u.name ∈ u.taken)
      ↔ t.packageName ∈ keywords ∨ t.name ∈ keywords ∨
          ∃ u ∈ (Blueprint.direct t s).transitions.flatMap
            (transitionUses (Blueprint.direct t s)), u.name ∈ u.taken := by
        unfold uses
        rw [List.exists_mem_cons_iff, List.exists_mem_cons_iff]
        rfl
    _ ↔ t.packageName ∈ keywords ∨ t.name ∈ keywords ∨
          ∃ entry ∈ t.events.entries,
            (Target.rules .go t).BrokenBy t entry.1 entry.2.params :=
        or_congr_right (or_congr_right (Target.exists_broken_iff .go hreferred))
    _ ↔ Target.Reserves .go t := by
        unfold Target.Reserves
        rw [← or_assoc]
        simp [Target.rules, keywords_eq]

/-- **The verdict in Go.** -/
theorem verdict_direct : Target.Verdict .go t
    ((Target.render .go (Blueprint.direct t s)).mapError Target.NameFault.error) := by
  show Target.Verdict .go t ((render (Blueprint.direct t s)).mapError Target.NameFault.error)
  rw [render_eq]
  refine Target.verdict_of_checkNames _ ?_ (exists_use_taken_iff hs)
  exact not_iff_comm.mp (declarations_nodup_iff h hs).symm

end GoSource

namespace RustSource

include h hs

/-- **In Rust**, declarations collide exactly if the array of names is called like a constant. -/
theorem declarations_nodup_iff :
    ((declarations (Blueprint.direct t s)).map Prod.fst).Nodup ↔
      ¬ t.HasSymbol (namesTable t.name) := by
  show (namesTable t.name :: (Blueprint.direct t s).symbols.map Prod.fst).Nodup ↔ _
  rw [List.nodup_cons, Blueprint.mem_symbols_direct hs]
  exact and_iff_left (Blueprint.symbols_nodup h hs)

omit h in
/-- **In Rust**, a name is taken exactly if the rules say so. -/
theorem exists_use_taken_iff : (∃ u ∈ uses (Blueprint.direct t s), u.name ∈ u.taken) ↔
    Target.Reserves .rust t := by
  -- as above: fixed names and symbols, though written in another order
  have hreferred : ∀ n, n ∈ referred (Blueprint.direct t s) ↔
      n ∈ (Target.rules .rust t).scope ∨ t.HasSymbol n := by
    intro n
    rw [← Blueprint.mem_symbols_direct hs]
    show n ∈ namesTable t.name :: (Blueprint.direct t s).symbols.map Prod.fst ++ [startField] ↔
      n ∈ [startField, namesTable t.name] ∨ _
    simp only [List.mem_append, List.mem_cons, List.not_mem_nil, or_false]
    tauto
  calc (∃ u ∈ uses (Blueprint.direct t s), u.name ∈ u.taken)
      ↔ t.name ∈ keywords ∨ ∃ u ∈ (Blueprint.direct t s).transitions.flatMap
            (transitionUses (Blueprint.direct t s)), u.name ∈ u.taken := by
        unfold uses
        rw [List.exists_mem_cons_iff]
        rfl
    _ ↔ t.name ∈ keywords ∨ ∃ entry ∈ t.events.entries,
            (Target.rules .rust t).BrokenBy t entry.1 entry.2.params :=
        or_congr_right (Target.exists_broken_iff .rust hreferred)
    _ ↔ Target.Reserves .rust t := by
        unfold Target.Reserves
        simp [Target.rules, keywords_eq]

/-- **The verdict in Rust.** -/
theorem verdict_direct : Target.Verdict .rust t
    ((Target.render .rust (Blueprint.direct t s)).mapError Target.NameFault.error) := by
  show Target.Verdict .rust t ((render (Blueprint.direct t s)).mapError Target.NameFault.error)
  rw [render_eq]
  refine Target.verdict_of_checkNames _ ?_ (exists_use_taken_iff hs)
  exact not_iff_comm.mp (declarations_nodup_iff h hs).symm

end RustSource

include h hs

/-- **The verdict** on the blueprint of a well formed table. -/
theorem Target.verdict_direct (target : Target) : target.Verdict t
    ((target.render (Blueprint.direct t s)).mapError NameFault.error) := by
  cases target with
  | go => exact GoSource.verdict_direct h hs
  | rust => exact RustSource.verdict_direct h hs

/-- **There is a source** of a table whose names do not collide and are not reserved. -/
theorem Target.exists_render (target : Target) (hcollides : ¬ target.Collides t)
    (hreserves : ¬ target.Reserves t) :
    ∃ text, target.render (Blueprint.direct t s) = .ok text := by
  obtain ⟨text, htext⟩ := (verdict_direct h hs target).ok_iff.mpr ⟨hcollides, hreserves⟩
  cases hrender : target.render (Blueprint.direct t s) with
  | error fault =>
    rw [hrender] at htext
    exact absurd htext nofun
  | ok text => exact ⟨text, rfl⟩

/-- **If there is a source**, then the table keeps the rules. -/
theorem Target.keeps_of_render {target : Target} {text : String}
    (htext : target.render (Blueprint.direct t s) = .ok text) : target.Keeps t := by
  have hok : ∃ text, (target.render (Blueprint.direct t s)).mapError NameFault.error =
      .ok text := ⟨text, by rw [htext]; rfl⟩
  exact not_reserves_iff.mp ((verdict_direct h hs target).ok_iff.mp hok).2

end WellFormed

/-- **What is turned down.**  An accepted table has a blueprint, and in each language the verdict on
its source is this: there is a collision if the machine, in Go, or the array of state names, in
Rust, is called like the constant of a state or of an event; otherwise there is no valid source if
a name is reserved; and otherwise there is one.  In Go, neither the function that makes machines nor
the table of state names ever collides with anything. -/
theorem Target.verdict (t : Table) (h : t.validate = .ok ()) :
    ∃ b, Blueprint.ofTable t = .ok b ∧ GoSource.Apart b ∧
      ∀ target : Target, target.Verdict t ((target.render b).mapError NameFault.error) := by
  have hwf := Table.validate_eq_ok_iff_wellFormed.mp h
  obtain ⟨s, hs⟩ := Blueprint.exists_states hwf
  exact ⟨_, Blueprint.ofTable_eq_ok hwf hs, GoSource.apart_direct hwf hs,
    fun target => verdict_direct hwf hs target⟩

/-- A machine called like the beginning of symbols, with a state called like the rest of the name of
its array. -/
def Table.awkward : Table where
  name := "State"
  packageName := "states"
  imports := []
  logging := true
  events := Catalog.ofList
    [("go_on", ⟨["state_names"], "next", [⟨"start_state", "u8"⟩, ⟨"Go", "u8"⟩]⟩)]

/-- In Rust, the array of that machine collides with the constant of that state, and in Go there is
a source. -/
theorem Target.verdict_awkward :
    Table.awkward.validate = .ok () ∧ ∃ b, Blueprint.ofTable Table.awkward = .ok b ∧
      GoSource.Apart b ∧
      (∀ target : Target,
        target.Verdict Table.awkward ((target.render b).mapError NameFault.error)) ∧
      Target.Collides .rust Table.awkward ∧ ¬ Target.Collides .go Table.awkward ∧
      ¬ Target.Reserves .go Table.awkward := by
  have hvalid : Table.awkward.validate = .ok () := by decide
  obtain ⟨b, hb, hapart, hverdict⟩ := Target.verdict Table.awkward hvalid
  exact ⟨hvalid, b, hb, hapart, hverdict, by decide, by decide, by decide⟩

end Automaton
