import Automaton.Proofs.Graph.Moves
import Automaton.Proofs.Report.Printed

/-!
# Places of states

Which states are dead ends, and which cannot be entered again, is reported three times.  The numbers
of a graph list the names of both kinds, every node has a place of its own, and a check warns about
states that are never entered.  Each of these looks at edges in its own way, and none looks at the
blueprint, though it is the generated machine that the reports are about.

`Places` says that all of them are right about the blueprint and agree with each other, and
`Graph.places_ofTable` that they do for every accepted table.  What a check and a description report
is what is printed for them: the lines of the one that begin like warnings, and the members and rows
of the other (`Report.Warns`, `Report.Shows`).

Two things keep the reports apart.  The state that machines start in has a place of its own,
whatever its edges are, but it is listed like all others.  And a place is either that of a dead end
or that of a state that is never entered, which contradict each other only because *every state is
at an end of some move* (`Table.mem_starts_or_mem_goals`).
-/

namespace Automaton

/-! ### What a blueprint says -/

namespace Blueprint

/-- **A state can be left** if its symbol is in some guard. -/
def Leaves (b : Blueprint) (n : String) : Prop :=
  ∃ tr ∈ b.transitions, Symbol.ofState n ∈ tr.guard

/-- **A state can be entered** if its symbol is the destination of some transition. -/
def Enters (b : Blueprint) (n : String) : Prop :=
  ∃ tr ∈ b.transitions, tr.destinationSymbol = Symbol.ofState n

instance (b : Blueprint) (n : String) : Decidable (b.Leaves n) :=
  inferInstanceAs (Decidable (∃ tr ∈ b.transitions, Symbol.ofState n ∈ tr.guard))

instance (b : Blueprint) (n : String) : Decidable (b.Enters n) :=
  inferInstanceAs (Decidable (∃ tr ∈ b.transitions, tr.destinationSymbol = Symbol.ofState n))

variable {t : Table} {s : States} (h : t.WellFormed) (hs : States.ofTable t = some s)
include h hs

/-- A state can be left exactly if some move begins there. -/
theorem leaves_direct_iff {n : String} (hn : n ∈ s.names) :
    (direct t s).Leaves n ↔ n ∈ t.moves.map Prod.fst := by
  rw [Table.mem_starts, Leaves]
  refine ⟨?_, ?_⟩
  · -- transitions are those of events, and guards have the symbols of sources
    rintro ⟨tr, htr, hguard⟩
    obtain ⟨i, name, e, hentry, rfl⟩ := mem_transitions.mp htr
    exact ⟨name, e, List.mem_of_getElem? hentry, (Graph.mem_guard_iff h hs hn i name e).mp hguard⟩
  · rintro ⟨name, e, hentry, hsource⟩
    obtain ⟨i, hi⟩ := List.mem_iff_getElem?.mp hentry
    exact ⟨_, mem_transitions.mpr ⟨i, name, e, hi, rfl⟩,
      (Graph.mem_guard_iff h hs hn i name e).mpr hsource⟩

/-- A state can be entered exactly if some move ends there. -/
theorem enters_direct_iff {n : String} (hn : n ∈ s.names) :
    (direct t s).Enters n ↔ n ∈ t.moves.map Prod.snd := by
  have href := (States.mem_names_ofTable hs).mp hn
  rw [Table.mem_goals h, Enters]
  refine ⟨?_, ?_⟩
  · rintro ⟨tr, htr, hsymbol⟩
    obtain ⟨i, name, e, hentry, rfl⟩ := mem_transitions.mp htr
    have hmem := List.mem_of_getElem? hentry
    -- a symbol has one state only, so it is the destination
    have hdest : e.destination ∈ t.references := Table.mem_references.mpr ⟨name, e, hmem, .inr rfl⟩
    exact ⟨name, e, hmem, h.stateSymbol_inj hdest href hsymbol⟩
  · rintro ⟨name, e, hentry, rfl⟩
    obtain ⟨i, hi⟩ := List.mem_iff_getElem?.mp hentry
    exact ⟨_, mem_transitions.mpr ⟨i, name, e, hi, rfl⟩, rfl⟩

/-- **A state that cannot be left** is one in which every call is rejected. -/
theorem forall_call_eq_none_iff {i : Nat} {n : String} (hn : s.names[i]? = some n) :
    (∀ event, (Machine.ofBlueprint (direct t s)).call (some i) event = none) ↔
      n ∉ t.moves.map Prod.fst := by
  -- the machine of the table rejects the same calls, and it looks at sources by name
  have hreject : ∀ event, (Machine.ofBlueprint (direct t s)).call (some i) event = none ↔
      (Machine.ofTable t).call (some n) event = none := by
    intro event
    have hrel := call_direct h hs hn event
    generalize (Machine.ofBlueprint (direct t s)).call (some i) event = x at hrel ⊢
    generalize (Machine.ofTable t).call (some n) event = y at hrel ⊢
    cases hrel with
    | none => exact iff_of_true rfl rfl
    | some _ => exact iff_of_false (Option.some_ne_none _) (Option.some_ne_none _)
  simp only [hreject, Table.mem_starts, Option.eq_none_iff_forall_ne_some, ne_eq,
    Table.call_eq_some_iff]
  refine ⟨?_, ?_⟩
  · rintro hall ⟨name, e, hentry, hsource⟩
    exact hall name _ ⟨e, hentry, hsource, rfl⟩
  · rintro hnone event r ⟨e, hentry, hsource, -⟩
    exact hnone ⟨event, e, hentry, hsource⟩

end Blueprint

/-! ### Places of nodes -/

namespace Graph

section Single

variable {g : Graph} {i : Nat} {x : Node}

theorem placeOf_eq_initial_iff : g.placeOf i x = .initial ↔ x.ordinal = 0 := by
  rw [placeOf]
  split_ifs <;> simp [*]

theorem placeOf_eq_absorbing_iff (hx : x.ordinal ≠ 0) :
    g.placeOf i x = .absorbing ↔ (g.leaving i).isEmpty = true := by
  rw [placeOf, if_neg hx]
  split_ifs <;> simp [*]

theorem placeOf_eq_entryOnly_iff (hx : x.ordinal ≠ 0) :
    g.placeOf i x = .entryOnly ↔
      ¬ (g.leaving i).isEmpty = true ∧ (g.entering i).isEmpty = true := by
  rw [placeOf, if_neg hx]
  split_ifs <;> simp [*]

theorem placeOf_eq_active_iff (hx : x.ordinal ≠ 0) :
    g.placeOf i x = .active ↔
      ¬ (g.leaving i).isEmpty = true ∧ ¬ (g.entering i).isEmpty = true := by
  rw [placeOf, if_neg hx]
  split_ifs <;> simp [*]

end Single

variable {t : Table} {s : States}

/-- The nodes are numbered like the states. -/
theorem numbered_nodes_direct :
    (direct t s).nodes.map (fun x => (x.ordinal, x.name)) = s.numbered := by
  rw [nodes_direct_map fun _ _ => rfl, nodesOf, List.map_map]
  exact List.map_id s.numbered

theorem getElem?_names_of_mem_nodes {x : Node} (hx : x ∈ (direct t s).nodes) :
    s.names[x.ordinal]? = some x.name := by
  refine States.mem_numbered.mp ?_
  rw [← numbered_nodes_direct (t := t)]
  exact List.mem_map.mpr ⟨x, hx, rfl⟩

/-- A node stands at its number. -/
theorem ordinal_eq_of_getElem?_nodes {i : Nat} {x : Node} (hx : (direct t s).nodes[i]? = some x) :
    x.ordinal = i := by
  have hname : (direct t s).nameOf? i = some x.name := by
    rw [nameOf?, hx]
    rfl
  have hnumber := getElem?_names_of_mem_nodes (List.mem_of_getElem? hx)
  exact ((nameOf?_eq_some_iff hnumber).mp hname).symm

/-- **The place of a node** is what its edges make of it. -/
theorem place_of_mem_nodes {x : Node} (hx : x ∈ (direct t s).nodes) :
    x.place = (direct t s).placeOf x.ordinal x := by
  obtain ⟨i, hi⟩ := List.mem_iff_getElem?.mp hx
  -- a node stands at its own ordinal, and places were given by where nodes stand
  have hordinal := ordinal_eq_of_getElem?_nodes hi
  rw [direct, placed, List.getElem?_map] at hi
  obtain ⟨⟨y, j⟩, hy, rfl⟩ := Option.map_eq_some_iff.mp hi
  rw [List.getElem?_zipIdx] at hy
  obtain ⟨z, -, hz⟩ := Option.map_eq_some_iff.mp hy
  obtain ⟨-, hij⟩ := Prod.mk.inj hz
  have hj : j = y.ordinal := by
    rw [← hij, Nat.zero_add]
    exact hordinal.symm
  subst hj
  rfl

/-! ### Lists of nodes -/

/-- **Nodes picked by number**, in the order of their names, are nodes picked by their ordinals. -/
theorem filter_listed_direct (p : Nat → Bool) :
    ((direct t s).listed.filter p).filterMap ((direct t s).nodes[·]?) =
      (direct t s).nodes.filter fun x => p x.ordinal := by
  have hlisted : (direct t s).listed = List.range (direct t s).nodes.length := by
    rw [length_nodes_direct, direct, listed_placed, List.range_eq_range']
    exact List.zipIdx_map_snd 0 s.names
  rw [hlisted, filterMap_filter_comm, filterMap_getElem?_range]
  exact fun i _ x hx => congrArg p (ordinal_eq_of_getElem?_nodes hx).symm

theorem absorbing_direct : (direct t s).absorbing =
    (direct t s).nodes.filter fun x => ((direct t s).leaving x.ordinal).isEmpty :=
  filter_listed_direct _

theorem entryOnly_direct : (direct t s).entryOnly =
    (direct t s).nodes.filter fun x => ((direct t s).entering x.ordinal).isEmpty :=
  filter_listed_direct _

/-- Their names are the names of states, picked in the same way. -/
theorem names_filter_nodes_direct {p : Nat → Bool} {q : String → Bool}
    (h : ∀ i n, s.names[i]? = some n → p i = q n) :
    ((direct t s).nodes.filter fun x => p x.ordinal).map Node.name = s.names.filter q := by
  have hnames : s.names = (direct t s).nodes.map Node.name := by
    rw [nodes_direct_map fun _ _ => rfl, names_nodesOf]
  rw [hnames, List.filter_map]
  refine congrArg _ (List.filter_congr fun x hx => ?_)
  exact h _ _ (getElem?_names_of_mem_nodes hx)

section Known

variable (hknown : ∀ n ∈ t.references, n ∈ s.names)
include hknown

/-- **Dead ends** are the states where no move begins. -/
theorem absorbing_stats_direct :
    (direct t s).stats.absorbing = s.names.filter fun n => n ∉ t.moves.map Prod.fst := by
  show (direct t s).absorbing.map Node.name = _
  rw [absorbing_direct]
  refine names_filter_nodes_direct (p := fun i => ((direct t s).leaving i).isEmpty) fun i n hn => ?_
  rw [Bool.eq_iff_iff, decide_eq_true_eq, leaving_isEmpty_iff hknown hn]

/-- **States that are never entered** are those where no move ends. -/
theorem entryOnly_stats_direct :
    (direct t s).stats.entryOnly = s.names.filter fun n => n ∉ t.moves.map Prod.snd := by
  show (direct t s).entryOnly.map Node.name = _
  rw [entryOnly_direct]
  apply names_filter_nodes_direct (p := fun i => ((direct t s).entering i).isEmpty)
  intro i n hn
  rw [Bool.eq_iff_iff, decide_eq_true_eq, entering_isEmpty_iff hknown hn]

/-- A node is that of a dead end exactly if its name is listed as one. -/
theorem leaving_isEmpty_iff_mem_absorbing {x : Node} (hx : x ∈ (direct t s).nodes) :
    ((direct t s).leaving x.ordinal).isEmpty = true ↔
      x.name ∈ (direct t s).stats.absorbing := by
  have hname := getElem?_names_of_mem_nodes hx
  rw [leaving_isEmpty_iff hknown hname, absorbing_stats_direct hknown, List.mem_filter,
    decide_eq_true_eq, and_iff_right (List.mem_of_getElem? hname)]

/-- A node is never entered exactly if its name is listed so. -/
theorem entering_isEmpty_iff_mem_entryOnly {x : Node} (hx : x ∈ (direct t s).nodes) :
    ((direct t s).entering x.ordinal).isEmpty = true ↔
      x.name ∈ (direct t s).stats.entryOnly := by
  have hname := getElem?_names_of_mem_nodes hx
  rw [entering_isEmpty_iff hknown hname, entryOnly_stats_direct hknown, List.mem_filter,
    decide_eq_true_eq, and_iff_right (List.mem_of_getElem? hname)]

/-- **No dead end** is a state that is never entered. -/
theorem disjoint_stats_direct (h : t.WellFormed) (hs : States.ofTable t = some s) :
    (direct t s).stats.absorbing.Disjoint (direct t s).stats.entryOnly := by
  rw [absorbing_stats_direct hknown, entryOnly_stats_direct hknown]
  intro n habsorbing hentryOnly
  obtain ⟨hn, hstart⟩ := List.mem_filter.mp habsorbing
  obtain ⟨-, hgoal⟩ := List.mem_filter.mp hentryOnly
  rw [decide_eq_true_eq] at hstart hgoal
  -- the name is listed because some event refers to it
  rcases Table.mem_starts_or_mem_goals h ((States.mem_names_ofTable hs).mp hn) with hmem | hmem
  · exact hstart hmem
  · exact hgoal hmem

end Known

end Graph

/-! ### What is printed -/

namespace Report

/-- **A document shows a class** for a state. -/
def Shows (d : Document) (n c : String) : Prop :=
  ∃ members states, d = .record members ∧ members.lookup "states" = some (.list states) ∧
    ∃ fields, .record fields ∈ states ∧ fields.lookup "name" = some (.text n) ∧
      fields.lookup "class" = some (.text c)

/-- **The row of a state** on a page: the number stands at the right of four columns, and then the
name, the symbol and the class at the left of 24, 32 and 12, with a space in between. -/
def rowOf (number name symbol title : String) : String :=
  spaces (4 - number.length) ++ number ++ " " ++ name ++ spaces (24 - name.length) ++ " " ++
    symbol ++ spaces (32 - symbol.length) ++ " " ++ title ++ spaces (12 - title.length)

/-- The line between rows. -/
def pageRule : String :=
  String.ofList (List.replicate 80 '-')

/-- The name of a place. -/
def classOf : Place → String
  | .initial => "Initial"
  | .active => "Active"
  | .entryOnly => "Entry-only"
  | .absorbing => "Absorbing"

theorem name_eq_classOf (p : Place) : p.name = classOf p := by
  cases p <;> rfl

theorem stateRow_eq (number name symbol title : String) :
    stateRow number name symbol title = rowOf number name symbol title := by
  have hleft : ∀ width cell, Text.padRight width cell = cell ++ spaces (width - cell.length) :=
    fun _ _ => rfl
  have hright : Text.padLeft 4 number = spaces (4 - number.length) ++ number := rfl
  simp only [stateRow, Text.joined_cons_cons, Text.joined_singleton, hleft, hright, rowOf,
    String.append_assoc]

/-- **The rows of states** stand between what is summed up and the events. -/
theorem exists_summaryLines_eq (t : Table) (g : Graph) : ∃ above below, above.length = 10 ∧
    summaryLines t g ++ [""] =
      above ++ ["States:", pageRule, rowOf "#" "Name" "Symbol" "Class", pageRule] ++
      (g.states.map fun x => rowOf (toString x.ordinal) x.name x.symbol (classOf x.place)) ++
      [""] ++ below := by
  -- ten lines sum up the table, and the events come last
  refine ⟨(summaryLines t g).take 10,
    "Events:" :: thinRule :: eventRow "#" "Name" "From" "To" :: thinRule ::
      ((t.numberedEvents.map fun x => eventRow (toString x.1) x.2.1
        (Text.joined ", " x.2.2.sources) x.2.2.destination) ++ ["", ""]),
    rfl, ?_⟩
  simp only [← stateRow_eq, ← name_eq_classOf, summaryLines, List.append_assoc, List.cons_append,
    List.nil_append, List.take_succ_cons, List.take_zero]
  rfl

/-- A description shows the nodes of a graph with their places. -/
theorem shows_summaryDocument_iff {t : Table} {g : Graph} {n c : String} :
    Shows (summaryDocument t g) n c ↔ ∃ x ∈ g.states, x.name = n ∧ x.place.name = c := by
  have hfields : ∀ x : Node, ∃ fields, nodeDocument x = .record fields ∧
      fields.lookup "name" = some (.text x.name) ∧
      fields.lookup "class" = some (.text x.place.name) := fun x => ⟨_, rfl, rfl, rfl⟩
  refine ⟨?_, ?_⟩
  · rintro ⟨members, states, hrecord, hstates, fields, hmem, hname, hclass⟩
    rw [← Document.record.inj hrecord] at hstates
    rw [← Document.list.inj (Option.some.inj hstates)] at hmem
    obtain ⟨x, hx, heq⟩ := List.mem_map.mp hmem
    -- the fields are those of the node, and it has one name and one class
    obtain ⟨fields', hnode, hname', hclass'⟩ := hfields x
    obtain rfl := Document.record.inj (hnode.symm.trans heq)
    refine ⟨x, hx, ?_, ?_⟩
    · exact Document.text.inj (Option.some.inj (hname'.symm.trans hname))
    · exact Document.text.inj (Option.some.inj (hclass'.symm.trans hclass))
  · rintro ⟨x, hx, rfl, rfl⟩
    obtain ⟨fields, hnode, hname, hclass⟩ := hfields x
    refine ⟨_, _, rfl, rfl, fields, ?_, hname, hclass⟩
    rw [← hnode]
    exact List.mem_map.mpr ⟨x, hx, rfl⟩

end Report

/-! ### All reports together -/

/-- The states with the place of one that is never entered, in their order. -/
def Graph.neverEntered (g : Graph) : List String :=
  (g.states.filter fun x => x.place = .entryOnly).map Node.name

/-- **Reports about places** are right about a blueprint, and they agree. -/
structure Places (t : Table) (s : States) (g : Graph) (b : Blueprint) : Prop where
  /-- Nodes are listed like the states, with their numbers. -/
  listed : g.states.map (fun x => (x.ordinal, x.name)) = s.numbered
  /-- Dead ends are, in the order of states, those that cannot be left. -/
  absorbing : g.stats.absorbing = s.names.filter fun n => ¬ b.Leaves n
  /-- In them, and in no other state, every call is rejected. -/
  rejecting : ∀ (i : Nat) n, s.names[i]? = some n →
    (n ∈ g.stats.absorbing ↔ ∀ event, (Machine.ofBlueprint b).call (some i) event = none)
  /-- States that are never entered are, in the order of states, those that no transition leads
  to. -/
  entryOnly : g.stats.entryOnly = s.names.filter fun n => ¬ b.Enters n
  /-- No state is both. -/
  disjoint : g.stats.absorbing.Disjoint g.stats.entryOnly
  /-- The first state is where machines start. -/
  initial_iff : ∀ x ∈ g.states, x.place = .initial ↔ x.ordinal = 0
  /-- Any other state has the place of a dead end if it is listed as one. -/
  absorbing_iff : ∀ x ∈ g.states, x.ordinal ≠ 0 →
    (x.place = .absorbing ↔ x.name ∈ g.stats.absorbing)
  /-- It has the place of a state that is never entered if it is listed so. -/
  entryOnly_iff : ∀ x ∈ g.states, x.ordinal ≠ 0 →
    (x.place = .entryOnly ↔ x.name ∈ g.stats.entryOnly)
  /-- It is active if it is in neither list. -/
  active_iff : ∀ x ∈ g.states, x.ordinal ≠ 0 →
    (x.place = .active ↔ x.name ∉ g.stats.absorbing ∧ x.name ∉ g.stats.entryOnly)
  /-- Inspection prints a summary, whatever its form. -/
  inspected : ∀ form, t.Inspected form (Report.summary form t g)
  /-- A check is content, and warns about the states with the place of one that is never entered, in
  their order. -/
  checked : t.Checked (Report.Warns t g.neverEntered)
  /-- They are those that the document printed by inspection shows with the class for it. -/
  warned : ∃ d, Document.Json.Writes d (Report.summary .json t g) ∧
    ∀ n, n ∈ g.neverEntered ↔ Report.Shows d n "Entry-only"
  /-- The page printed by inspection has a row for each state, with the name of its place. -/
  page : ∃ above below, above.length = 10 ∧ Text.split (Report.summary .table t g) =
    above ++ ["States:", Report.pageRule, Report.rowOf "#" "Name" "Symbol" "Class",
      Report.pageRule] ++
    (g.states.map fun x =>
      Report.rowOf (toString x.ordinal) x.name x.symbol (Report.classOf x.place)) ++ [""] ++ below

/-- A place is called as it is. -/
theorem Place.name_eq_entryOnly_iff {p : Place} : p.name = "Entry-only" ↔ p = .entryOnly := by
  cases p <;> decide

namespace Graph

variable {t : Table} {s : States} (h : t.WellFormed) (hs : States.ofTable t = some s)
include h hs

/-- A node has the place of a state that is never entered if nothing enters it, and it is not where
machines start: being a state, it can be left. -/
theorem place_eq_entryOnly_iff {x : Node} (hx : x ∈ (direct t s).nodes) :
    x.place = .entryOnly ↔
      x.ordinal ≠ 0 ∧ ((direct t s).entering x.ordinal).isEmpty = true := by
  have hknown := known hs
  rw [place_of_mem_nodes hx]
  by_cases hzero : x.ordinal = 0
  · rw [placeOf_eq_initial_iff.mpr hzero]
    exact iff_of_false nofun fun hne => hne.1 hzero
  · rw [placeOf_eq_entryOnly_iff hzero, and_iff_right hzero]
    refine and_iff_right_of_imp fun hentering hleaving => ?_
    -- a node that is neither left nor entered would be in both lists
    rw [entering_isEmpty_iff_mem_entryOnly hknown hx] at hentering
    rw [leaving_isEmpty_iff_mem_absorbing hknown hx] at hleaving
    exact disjoint_stats_direct hknown h hs hleaving hentering

/-- **Warnings** are about the nodes with the place of a state that is never entered. -/
theorem unreachable_direct :
    Report.unreachable (direct t s) = (direct t s).states.filter fun x => x.place = .entryOnly := by
  rw [Report.unreachable, entryOnly_direct, List.filter_filter, states_direct]
  refine List.filter_congr fun x hx => ?_
  rw [Bool.eq_iff_iff, Bool.and_eq_true, bne_iff_ne, decide_eq_true_eq,
    place_eq_entryOnly_iff h hs hx]

/-- **Reports about places** of a well formed table. -/
theorem places_direct : Places t s (direct t s) (Blueprint.direct t s) := by
  have hknown := known hs
  have hvalid : t.validate = .ok () := Table.validate_eq_ok_iff_wellFormed.mpr h
  have hnodes : ∀ x ∈ (direct t s).states, x ∈ (direct t s).nodes := fun x hx =>
    states_direct (t := t) ▸ hx
  exact
    { listed := by
        rw [states_direct]
        exact numbered_nodes_direct
      absorbing := by
        rw [absorbing_stats_direct hknown]
        refine List.filter_congr fun n hn => ?_
        rw [Bool.eq_iff_iff, decide_eq_true_eq, decide_eq_true_eq,
          Blueprint.leaves_direct_iff h hs hn]
      -- a machine rejects all calls where nothing leads away
      rejecting := by
        intro i n hn
        rw [Blueprint.forall_call_eq_none_iff h hs hn, absorbing_stats_direct hknown,
          List.mem_filter, decide_eq_true_eq, and_iff_right (List.mem_of_getElem? hn)]
      entryOnly := by
        rw [entryOnly_stats_direct hknown]
        refine List.filter_congr fun n hn => ?_
        rw [Bool.eq_iff_iff, decide_eq_true_eq, decide_eq_true_eq,
          Blueprint.enters_direct_iff h hs hn]
      disjoint := disjoint_stats_direct hknown h hs
      -- places look at the edges of a node, and lists of names at the events of the table
      initial_iff := by
        intro x hx
        rw [place_of_mem_nodes (hnodes x hx)]
        exact placeOf_eq_initial_iff
      absorbing_iff := by
        intro x hx hne
        rw [place_of_mem_nodes (hnodes x hx), placeOf_eq_absorbing_iff hne,
          leaving_isEmpty_iff_mem_absorbing hknown (hnodes x hx)]
      entryOnly_iff := by
        intro x hx hne
        rw [place_eq_entryOnly_iff h hs (hnodes x hx), and_iff_right hne,
          entering_isEmpty_iff_mem_entryOnly hknown (hnodes x hx)]
      active_iff := by
        intro x hx hne
        rw [place_of_mem_nodes (hnodes x hx), placeOf_eq_active_iff hne,
          leaving_isEmpty_iff_mem_absorbing hknown (hnodes x hx),
          entering_isEmpty_iff_mem_entryOnly hknown (hnodes x hx)]
      inspected := Table.inspected hvalid (ofTable_eq_ok hs)
      checked := by
        rw [neverEntered, ← unreachable_direct h hs]
        exact Table.checked hvalid (Report.warns_findings h hs)
      -- what a description shows is a place, and places are settled above
      warned := by
        refine ⟨_, Report.writes_summary t (direct t s), fun n => ?_⟩
        rw [Report.shows_summaryDocument_iff, neverEntered, List.mem_map]
        refine exists_congr fun x => ?_
        rw [List.mem_filter, decide_eq_true_eq, Place.name_eq_entryOnly_iff, and_assoc,
          and_comm (a := x.place = _)]
      page := by
        rw [Report.split_page h hs]
        exact Report.exists_summaryLines_eq t (direct t s) }

end Graph

/-- **Reports tell the truth** about the machine that is generated, and they agree: for every
accepted table, its graph reports about dead ends and about states that are never entered what its
blueprint makes of them. -/
theorem Graph.places_ofTable (t : Table) (h : t.validate = .ok ()) :
    ∃ s g b, States.ofTable t = some s ∧ Graph.ofTable t = .ok g ∧ Blueprint.ofTable t = .ok b ∧
      Places t s g b := by
  have hwf := Table.validate_eq_ok_iff_wellFormed.mp h
  obtain ⟨s, hs⟩ := Blueprint.exists_states hwf
  refine ⟨s, _, _, hs, ?_, ?_, places_direct hwf hs⟩
  · exact Graph.ofTable_eq_ok hs
  · exact Blueprint.ofTable_eq_ok hwf hs

/-- What is reported about the jobs: the first of them is a dead end, and one is never entered, as a
host that checks them prints. -/
theorem Graph.places_jobs :
    Table.jobs.validate = .ok () ∧ ∃ s g b, States.ofTable Table.jobs = some s ∧
      Graph.ofTable Table.jobs = .ok g ∧ Blueprint.ofTable Table.jobs = .ok b ∧
      Places Table.jobs s g b ∧ ∃ text,
        ((FileTree.quietHost.validate "table.json").run (FileTree.ofTable Table.jobs)).1 =
          ⟨text, .ok ()⟩ ∧ Report.Warns Table.jobs g.neverEntered text := by
  obtain ⟨s, g, b, hs, hg, hb, hplaces⟩ := Graph.places_ofTable Table.jobs (by decide)
  obtain ⟨l, d', hload, htable⟩ := Table.jobs.load_ofTable
  refine ⟨by decide, s, g, b, hs, hg, hb, hplaces, ?_⟩
  exact hplaces.checked FileTree FileTree.quietHost "table.json" (FileTree.ofTable Table.jobs) d' l
    hload htable

end Automaton
