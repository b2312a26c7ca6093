import Automaton.Generation
import Automaton.Proofs.Blueprint.Direct
import Automaton.Proofs.Table.Rearranged
import Mathlib.Data.List.Sort

/-!
# The order of declarations

Two tables that agree up to the order of sources have one blueprint, and therefore one source in
every language: states are sorted, events stand in a catalog, and a guard is made of the states that
are among the sources (`Blueprint.ofTable_rearranged`).

Tables that are no good are a different matter.  Validation reports the first violation, and it
reads sources in the order in which they are written.  If an event has several sources that are no
identifiers, the first of them is the one that is reported, so the texts of the two errors can
differ, and this is the only way in which they can (`SameComplaint`).

## How errors are compared

Of all violations only the first one counts.  `SameFirst` compares
two lists of violations by their heads, and is kept by everything that such lists are made with
(`SameFirst.append`, `SameFirst.flatMap`).
-/

namespace Automaton

/-- **The first source** of an event that is no identifier. -/
def Event.misnamed? (e : Event) : Option String :=
  e.sources.find? fun s => !Identifier.valid s

/-- **Violations that say the same** of two lists of declarations: they are equal, or both complain
about a source of one event, each about the first source that is no identifier. -/
inductive SameComplaint (ds es : List (String × Event)) :
    Table.Violation → Table.Violation → Prop where
  /-- The violations are equal. -/
  | refl (v : Table.Violation) : SameComplaint ds es v v
  /-- They differ in which source they name. -/
  | source {name : String} {e f : Event} {a b : String} (he : (name, e) ∈ ds)
      (hf : (name, f) ∈ es) (ha : e.misnamed? = some a) (hb : f.misnamed? = some b) :
      SameComplaint ds es (.stateName a name) (.stateName b name)

/-- **Outcomes that say the same**: they are equal, or both are errors and have the texts of
violations that say the same. -/
def SameOutcome {α : Type} (ds es : List (String × Event)) (x y : Except Error α) : Prop :=
  x = y ∨ ∃ v w, SameComplaint ds es v w ∧ x = .error v.error ∧ y = .error w.error

section SameOutcome

variable {α β : Type} {ds es : List (String × Event)} {x y : Except Error α}

/-- Outcomes that say the same are the same successes. -/
theorem SameOutcome.eq_ok_iff (h : SameOutcome ds es x y) (a : α) : x = .ok a ↔ y = .ok a := by
  rcases h with rfl | ⟨v, w, -, rfl, rfl⟩
  · rfl
  · simp only [reduceCtorEq]

/-- Whatever is done with successes does not tell outcomes apart that say the same. -/
theorem SameOutcome.bind (h : SameOutcome ds es x y) (f : α → Except Error β) :
    SameOutcome ds es (x >>= f) (y >>= f) := by
  rcases h with rfl | ⟨v, w, hvw, rfl, rfl⟩
  · exact .inl rfl
  · exact .inr ⟨v, w, hvw, rfl, rfl⟩

end SameOutcome

/-! ### First violations -/

/-- **Lists of violations with the same head**, up to a relation. -/
def SameFirst (R : Table.Violation → Table.Violation → Prop) (vs ws : List Table.Violation) :
    Prop :=
  Option.Rel R vs.head? ws.head?

namespace SameFirst

variable {R : Table.Violation → Table.Violation → Prop}

theorem refl (hR : ∀ v, R v v) (vs : List Table.Violation) : SameFirst R vs vs := by
  unfold SameFirst
  cases vs.head? with
  | none => exact .none
  | some v => exact .some (hR v)

theorem append {vs ws vs' ws' : List Table.Violation} (h : SameFirst R vs ws)
    (h' : SameFirst R vs' ws') : SameFirst R (vs ++ vs') (ws ++ ws') := by
  unfold SameFirst at h h' ⊢
  rw [List.head?_append, List.head?_append]
  generalize vs.head? = v at h ⊢
  generalize ws.head? = w at h ⊢
  cases h with
  | none => exact h'
  | some hvw => exact .some hvw

theorem flatMap {α : Type} {P : α → α → Prop} {f : α → List Table.Violation} {as bs : List α}
    (h : List.Forall₂ P as bs) (hf : ∀ a ∈ as, ∀ b ∈ bs, P a b → SameFirst R (f a) (f b)) :
    SameFirst R (as.flatMap f) (bs.flatMap f) := by
  induction h with
  | nil => exact .none
  | @cons a b as bs hab _ ih =>
    rw [List.flatMap_cons, List.flatMap_cons]
    refine (hf a List.mem_cons_self b List.mem_cons_self hab).append (ih fun a ha b hb => ?_)
    exact hf a (List.mem_cons_of_mem _ ha) b (List.mem_cons_of_mem _ hb)

end SameFirst

/-! ### Validation -/

namespace Table

/-- The first complaint about sources is about the first that is no identifier. -/
theorem head?_sourceViolations (name : String) (e : Event) :
    (e.sources.flatMap fun s => demand (Identifier.valid s) (.stateName s name)).head? =
      e.misnamed?.map (Violation.stateName · name) := by
  rw [Event.misnamed?]
  induction e.sources with
  | nil => rfl
  | cons s ss ih =>
    rw [List.flatMap_cons, List.find?_cons, demand]
    cases Identifier.valid s with
    | true => exact ih
    | false => rfl

/-- An event has a source that is no identifier, or none, however its sources are written. -/
theorem misnamed?_eq_none_iff {e f : Event} (h : e.Rearranged f) :
    e.misnamed? = none ↔ f.misnamed? = none := by
  simp only [Event.misnamed?, List.find?_eq_none, h.sources]

variable {ds es : List (String × Event)}

/-- **An event** with its sources in another order has the same violations, up to the source that is
named first. -/
theorem eventViolations_rearranged {x y : String × Event} (hx : x ∈ ds) (hy : y ∈ es)
    (h : Respelled x y) :
    SameFirst (SameComplaint ds es) (eventViolations x.1 x.2) (eventViolations y.1 y.2) := by
  obtain ⟨name, e⟩ := x
  obtain ⟨name', f⟩ := y
  obtain ⟨rfl, h⟩ : name = name' ∧ e.Rearranged f := h
  have hempty : e.sources.isEmpty = f.sources.isEmpty := by
    rw [Bool.eq_iff_iff, List.isEmpty_iff, List.isEmpty_iff, List.eq_nil_iff_forall_not_mem,
      List.eq_nil_iff_forall_not_mem]
    simp only [h.sources]
  have hsources : SameFirst (SameComplaint ds es)
      (e.sources.flatMap fun s => demand (Identifier.valid s) (.stateName s name))
      (f.sources.flatMap fun s => demand (Identifier.valid s) (.stateName s name)) := by
    unfold SameFirst
    rw [head?_sourceViolations, head?_sourceViolations]
    -- both events have a source that is no identifier, or neither has one
    cases he : e.misnamed? with
    | none =>
      rw [(misnamed?_eq_none_iff h).mp he]
      exact .none
    | some a =>
      cases hf : f.misnamed? with
      | none => rw [(misnamed?_eq_none_iff h).mpr hf] at he; exact absurd he nofun
      | some b => exact .some (.source hx hy he hf)
  rw [eventViolations, eventViolations, Event.states, Event.states, List.flatMap_append,
    List.flatMap_append, hempty, h.destination, h.params]
  exact (((SameFirst.refl .refl _).append (.refl .refl _)).append
    (hsources.append (.refl .refl _))).append (.refl .refl _)

/-! ### The states -/

/-- The events of rearranged tables have the same names. -/
theorem Rearranged.names_eq {t u : Table} (h : t.Rearranged u) :
    t.events.names = u.events.names := by
  rw [Catalog.names, Catalog.names, ← List.forall₂_eq_eq_eq, List.forall₂_map_left_iff,
    List.forall₂_map_right_iff]
  exact h.entries.imp fun _ _ hxy => hxy.1

/-- Rearranged tables refer to the same states. -/
theorem Rearranged.mem_references_iff {t u : Table} (h : t.Rearranged u) (n : String) :
    n ∈ t.references ↔ n ∈ u.references := by
  have hentries := h.entries
  unfold references Catalog.values
  rw [List.flatMap_map, List.flatMap_map]
  -- the induction is on the events of both tables, which go in step
  generalize t.events.entries = es at hentries ⊢
  generalize u.events.entries = fs at hentries ⊢
  induction hentries with
  | nil => rfl
  | cons hxy _ ih =>
    rw [List.flatMap_cons, List.flatMap_cons, List.mem_append, List.mem_append]
    exact or_congr (hxy.2.mem_states_iff n) ih

/-- Rearranged tables refer to the same states, in the same order. -/
theorem Rearranged.sorted_references_eq {t u : Table} (h : t.Rearranged u) :
    States.sorted t.references = States.sorted u.references := by
  refine (States.sorted_pairwise _).eq_of_mem_iff (States.sorted_pairwise _) fun n => ?_
  rw [States.mem_sorted, States.mem_sorted, h.mem_references_iff]

/-- **Validation** says the same of rearranged tables. -/
theorem Rearranged.violations {t u : Table} (h : t.Rearranged u) :
    SameFirst (SameComplaint t.events.entries u.events.entries) t.violations u.violations := by
  have hevents : SameFirst (SameComplaint t.events.entries u.events.entries)
      (t.events.entries.flatMap fun x => eventViolations x.1 x.2)
      (u.events.entries.flatMap fun x => eventViolations x.1 x.2) :=
    SameFirst.flatMap h.entries fun _ hx _ hy hxy => eventViolations_rearranged hx hy hxy
  -- lists of one length are both empty or both not
  have hempty : t.events.entries.isEmpty = u.events.entries.isEmpty := by
    have hlength := h.entries.length_eq
    rw [Bool.eq_iff_iff, List.isEmpty_iff_length_eq_zero, List.isEmpty_iff_length_eq_zero, hlength]
  rw [Table.violations, Table.violations, h.name, h.packageName, h.imports, hempty, h.names_eq,
    h.sorted_references_eq]
  exact (((SameFirst.refl .refl _).append hevents).append (.refl .refl _)).append (.refl .refl _)

end Table

/-! ### Blueprints -/

/-- States are determined by their names. -/
theorem States.ext_names {s r : States} (h : s.names = r.names) : s = r := by
  cases s
  cases r
  congr

/-- **Rearranged tables** have the same states, if they have any. -/
theorem Table.Rearranged.states_eq {t u : Table} (h : t.Rearranged u) :
    States.ofTable t = States.ofTable u := by
  -- a table has states exactly if it has events, however these are arranged
  have hempty : t.events.entries = [] ↔ u.events.entries = [] := by
    rw [← List.length_eq_zero_iff, ← List.length_eq_zero_iff, h.entries.length_eq]
  cases ht : States.ofTable t with
  | none =>
    exact (States.ofTable_eq_none_iff.mpr (hempty.mp (States.ofTable_eq_none_iff.mp ht))).symm
  | some s =>
    cases hu : States.ofTable u with
    | none =>
      rw [States.ofTable_eq_none_iff.mpr (hempty.mpr (States.ofTable_eq_none_iff.mp hu))] at ht
      exact absurd ht nofun
    | some r =>
      refine congrArg some (States.ext_names ?_)
      rw [States.names_ofTable ht, States.names_ofTable hu, h.sorted_references_eq]

/-- Numbered items that agree make the same list. -/
theorem map_zipIdx_eq_of_forall₂ {α β : Type} {P : α → α → Prop} {f : α × Nat → β}
    (hf : ∀ i a b, P a b → f (a, i) = f (b, i)) {as bs : List α} (h : List.Forall₂ P as bs)
    (k : Nat) : (as.zipIdx k).map f = (bs.zipIdx k).map f := by
  induction h generalizing k with
  | nil => rfl
  | @cons a b as bs hab _ ih =>
    rw [List.zipIdx_cons, List.zipIdx_cons, List.map_cons, List.map_cons, hf k a b hab, ih]

/-- The states that are among the sources do not depend on how these are written. -/
theorem Transition.accepted_rearranged (s : States) {e f : Event} (h : e.Rearranged f) :
    accepted s e.sources = accepted s f.sources := by
  refine List.filter_congr fun n _ => ?_
  rw [Bool.eq_iff_iff, List.contains_iff_mem, List.contains_iff_mem, h.sources]

/-- A guard is made of the states that are among the sources, however these are written. -/
theorem Transition.direct_rearranged (setting : Setting) (ordinal : Nat) (name : String)
    {e f : Event} (h : e.Rearranged f) :
    direct setting ordinal name e = direct setting ordinal name f := by
  have hlog : logOf e = logOf f := by
    rw [logOf, logOf, h.params, h.destination]
  rw [direct, direct, accepted_rearranged _ h, hlog, h.params, h.destination]

namespace Blueprint

theorem direct_rearranged {t u : Table} (h : t.Rearranged u) (s : States) :
    direct t s = direct u s := by
  have hsize : t.events.size = u.events.size := h.entries.length_eq
  have hsetting : settingOf t s = settingOf u s := by
    rw [settingOf, settingOf, h.name, h.logging, hsize]
  have himports : importsOf t = importsOf u := by
    rw [importsOf, importsOf, h.imports, h.logging]
  have htransitions : directTransitions t s = directTransitions u s := by
    rw [directTransitions, directTransitions, Table.numberedEvents, Table.numberedEvents,
      List.map_map, List.map_map, hsetting]
    -- sources are all that differs, and a guard lists states, not sources
    refine map_zipIdx_eq_of_forall₂ (fun i x y hxy => ?_) h.entries 0
    obtain ⟨name, e⟩ := x
    obtain ⟨name', f⟩ := y
    obtain ⟨rfl, hef⟩ : name = name' ∧ e.Rearranged f := hxy
    exact Transition.direct_rearranged _ i name hef
  rw [direct, direct, htransitions, himports, h.name, h.packageName, hsize]

/-- **Rearranged tables have one blueprint**, or say the same about why they have none. -/
theorem ofTable_rearranged {t u : Table} (h : t.Rearranged u) :
    SameOutcome t.events.entries u.events.entries (ofTable t) (ofTable u) := by
  have hviolations := h.violations
  unfold SameFirst at hviolations
  cases ht : t.violations.head? with
  | none =>
    rw [ht] at hviolations
    cases hu : u.violations.head? with
    | some w => rw [hu] at hviolations; cases hviolations
    | none =>
      -- both tables are well formed, so all that is left to compare is `Blueprint.direct`
      have hwt : t.WellFormed := Table.validate_eq_ok_iff_wellFormed.mp
        (Table.validate_eq_ok_iff.mpr (List.head?_eq_none_iff.mp ht))
      have hwu : u.WellFormed := Table.validate_eq_ok_iff_wellFormed.mp
        (Table.validate_eq_ok_iff.mpr (List.head?_eq_none_iff.mp hu))
      obtain ⟨s, hs⟩ := exists_states hwt
      refine .inl ?_
      rw [ofTable_eq_ok hwt hs, ofTable_eq_ok hwu (h.states_eq ▸ hs), direct_rearranged h]
  | some v =>
    rw [ht] at hviolations
    cases hu : u.violations.head? with
    | none => rw [hu] at hviolations; cases hviolations
    | some w =>
      rw [hu] at hviolations
      obtain ⟨hvw⟩ := hviolations
      refine .inr ⟨v, w, hvw, ?_, ?_⟩
      · rw [ofTable, Table.validate_eq_error_iff.mpr ht]
      · rw [ofTable, Table.validate_eq_error_iff.mpr hu]

end Blueprint

/-! ### Sources -/

/-- Complaints about some declarations are complaints about more of them. -/
theorem SameComplaint.mono {ds es ds' es' : List (String × Event)} (hds : ds ⊆ ds')
    (hes : es ⊆ es') {v w : Table.Violation} (h : SameComplaint ds es v w) :
    SameComplaint ds' es' v w := by
  cases h with
  | refl => exact .refl v
  | source he hf ha hb => exact .source (hds he) (hes hf) ha hb

/-- **The order of declarations** leaves no trace in what is generated.  Declarations that say the
same have the same blueprint or none.  In every language and with every formatter, they have the
same source or the same error, except that of several sources of one event that are no identifiers,
the one that is written first is reported. -/
theorem Generator.run_reordered (name packageName : String) (logging : Bool)
    (imports : List String) {ds es : List (String × Event)} (hnames : (ds.map Prod.fst).Nodup)
    (h : Reordered ds es) :
    (∀ b, Blueprint.ofTable (Table.built name packageName logging imports ds) = .ok b ↔
        Blueprint.ofTable (Table.built name packageName logging imports es) = .ok b) ∧
      ∀ (g : Generator) (tools : Toolbox),
        SameOutcome ds es (g.run tools (Table.built name packageName logging imports ds))
          (g.run tools (Table.built name packageName logging imports es)) := by
  have hblueprint : SameOutcome ds es
      (Blueprint.ofTable (Table.built name packageName logging imports ds))
      (Blueprint.ofTable (Table.built name packageName logging imports es)) := by
    have hrearranged := Table.built_rearranged name packageName logging imports hnames h
    refine (Blueprint.ofTable_rearranged hrearranged).imp_right ?_
    rintro ⟨v, w, hvw, hds, hes⟩
    -- the events of a table are among its declarations
    rw [Table.built_eq, Table.built_eq] at hvw
    exact ⟨v, w, hvw.mono (fun _ => Catalog.mem_of_mem_entries_ofList)
      (fun _ => Catalog.mem_of_mem_entries_ofList), hds, hes⟩
  refine ⟨hblueprint.eq_ok_iff, fun g tools => ?_⟩
  -- a generator looks at nothing but the blueprint
  unfold Generator.run Generator.draft
  exact (hblueprint.bind _).bind _

/-- Doors are generated alike from both of their declarations. -/
theorem Generator.run_reordered_doors :
    (doors.map Prod.fst).Nodup ∧ Reordered doors doorsAgain ∧
      (∀ b, Blueprint.ofTable (Table.built "Door" "doors" true ["time"] doors) = .ok b ↔
        Blueprint.ofTable (Table.built "Door" "doors" true ["time"] doorsAgain) = .ok b) ∧
      ∀ (g : Generator) (tools : Toolbox), SameOutcome doors doorsAgain
        (g.run tools (Table.built "Door" "doors" true ["time"] doors))
        (g.run tools (Table.built "Door" "doors" true ["time"] doorsAgain)) :=
  ⟨by decide, reordered_doors,
    Generator.run_reordered "Door" "doors" true ["time"] (by decide) reordered_doors⟩

/-- Of two sources that are no identifiers, the one that is written first is reported: here the two
orders of them have two errors. -/
theorem Generator.run_misnamed_ne :
    Reordered [("go", ⟨["1a", "2b"], "c", []⟩)] [("go", ⟨["2b", "1a"], "c", []⟩)] ∧
      (⟨.go, .none, none⟩ : Generator).run (fun _ _ => .notStarted "")
          (Table.built "M" "p" false [] [("go", ⟨["1a", "2b"], "c", []⟩)]) =
        .error (.invalid "state '1a' referenced by event 'go' is not a valid identifier") ∧
      (⟨.go, .none, none⟩ : Generator).run (fun _ _ => .notStarted "")
          (Table.built "M" "p" false [] [("go", ⟨["2b", "1a"], "c", []⟩)]) =
        .error (.invalid "state '2b' referenced by event 'go' is not a valid identifier") ∧
      (⟨.go, .none, none⟩ : Generator).run (fun _ _ => .notStarted "")
          (Table.built "M" "p" false [] [("go", ⟨["1a", "2b"], "c", []⟩)]) ≠
        (⟨.go, .none, none⟩ : Generator).run (fun _ _ => .notStarted "")
          (Table.built "M" "p" false [] [("go", ⟨["2b", "1a"], "c", []⟩)]) := by
  -- the first violation that is met is reported, and which one that is depends on the order
  refine ⟨⟨_, .refl _, .cons ⟨rfl, ⟨fun s => ?_, rfl, rfl⟩⟩ .nil⟩, ?_, ?_, ?_⟩
  · simp only [List.mem_cons, List.not_mem_nil, or_false]
    exact or_comm
  · decide
  · decide
  · decide

end Automaton
