import Automaton.Graph.Dot
import Automaton.Proofs.Blueprint.Coherence
import Automaton.Proofs.Blueprint.Reordering
import Automaton.Proofs.Graph.Places
import Automaton.Proofs.Text.Delimited

/-!
# Drawings of tables

A drawing lists the nodes of a graph and then its edges, in an order that is made for the drawing.
What it shows of a table can be said without the graph: a line for each state, and a *stroke* for
each pair of an event and one of its sources.  `Draws` says that a text consists of these lines, and
`Graph.dot_draws` that the drawing of every accepted table does.

Edges are collected in the order in which the sources are written, and sorted by the ordinals of the
event and of the source.  This order is strict on the strokes of a table, so there is only one way
to sort them (`mergeSort_eq_of_perm`), and how the sources are written leaves no trace.
-/

namespace Automaton

/-- **Sorting in a strict order**: items that increase strictly are what sorting makes of them,
however they are shuffled. -/
theorem mergeSort_eq_of_perm {α : Type} {le : α → α → Bool}
    (trans : ∀ a b c, le a b = true → le b c = true → le a c = true)
    (total : ∀ a b, (le a b || le b a) = true) {as bs : List α} (hperm : as.Perm bs)
    (hbs : bs.Pairwise fun a b => le a b = true ∧ ¬ le b a = true) : as.mergeSort le = bs := by
  -- two items of the list that are not apart in the order are the same item
  have hantisymm : ∀ a ∈ bs, ∀ b ∈ bs, le a b = true → le b a = true → a = b := by
    intro a ha b hb
    refine List.Pairwise.forall_of_forall_of_flip (R := fun a b => le a b → le b a → a = b)
      (fun _ _ _ _ => rfl) (hbs.imp fun hab _ hba => absurd hba hab.2)
      (hbs.imp fun hab hba _ => absurd hba hab.2) ha hb
  have hsorted : (as.mergeSort le).Perm bs := (List.mergeSort_perm as le).trans hperm
  refine List.Perm.eq_of_pairwise (fun a b ha hb => ?_) (List.pairwise_mergeSort trans total as)
    (hbs.imp And.left) hsorted
  exact hantisymm a (hsorted.mem_iff.mp ha) b hb

/-! ### What a drawing shows of a table -/

/-- **The place of a state** in a table, by its moves. -/
def Table.placeOf (t : Table) (ordinal : Nat) (n : String) : Place :=
  if ordinal = 0 then .initial
  else if n ∉ t.moves.map Prod.fst then .absorbing
  else if n ∉ t.moves.map Prod.snd then .entryOnly
  else .active

/-- **A stroke**: an event and one of its sources, each with its ordinal. -/
structure Stroke where
  /-- The ordinal of the event. -/
  ordinal : Nat
  /-- The name of the event. -/
  name : String
  /-- The event. -/
  event : Event
  /-- The ordinal of the source. -/
  number : Nat
  /-- The name of the source. -/
  source : String

namespace Stroke

/-- The label of a stroke: the name of the event and, if it has parameters, their names in
parentheses, with commas between them. -/
def label (k : Stroke) : String :=
  if k.event.params = [] then k.name
  else k.name ++ "(" ++ ", ".intercalate (k.event.params.map Param.name) ++ ")"

/-- The line of a stroke: from the source to the destination, with its label. -/
def line (k : Stroke) : String :=
  "  \"" ++ k.source ++ "\" -> \"" ++ k.event.destination ++ "\" [label=\"" ++ k.label ++ "\"];"

/-- The order of strokes: by event, and then by source. -/
def Before (k l : Stroke) : Prop :=
  k.ordinal < l.ordinal ∨ k.ordinal = l.ordinal ∧ k.number < l.number

end Stroke

/-- The line of a state: its name, labelled with name and ordinal, in the colour of its place. -/
def Table.stateLine (t : Table) : Nat × String → String
  | (ordinal, n) => "  \"" ++ n ++ "\" [label=\"" ++ n ++ " (" ++ toString ordinal ++
      ")\", fillcolor=\"" ++ (t.placeOf ordinal n).color ++ "\"];"

/-- **All strokes of a table**, in order. -/
structure Strokes (t : Table) (s : States) (ks : List Stroke) : Prop where
  /-- There is one for each event of the table and each state among its sources, and no other. -/
  mem_iff : ∀ k, k ∈ ks ↔ (k.ordinal, k.name, k.event) ∈ t.numberedEvents ∧
    (k.number, k.source) ∈ s.numbered ∧ k.source ∈ k.event.sources
  /-- They increase strictly. -/
  increases : ks.Pairwise Stroke.Before

/-- **A text draws a table**: its lines are those of the states, in their order, and those of the
strokes, between lines that are the same for all tables but for the name of the machine. -/
structure Draws (t : Table) (s : States) (text : String) : Prop where
  exists_strokes : ∃ ks, Strokes t s ks ∧ Text.split text =
    ["digraph " ++ t.name ++ " \x7b", "  rankdir=LR;", "  node [shape=box, style=filled];", ""] ++
      s.numbered.map t.stateLine ++ [""] ++ ks.map Stroke.line ++ ["\x7d", ""]

namespace Graph

variable {t u : Table} {s : States}

/-! ### Nodes -/

/-- The node of a state. -/
def nodeOf (t : Table) (ordinal : Nat) (n : String) : Node :=
  ⟨n, ordinal, Symbol.ofState n, t.placeOf ordinal n⟩

theorem nodeLine_nodeOf (t : Table) (ordinal : Nat) (n : String) :
    nodeLine (nodeOf t ordinal n) = t.stateLine (ordinal, n) := by
  have hcaption : (nodeOf t ordinal n).caption = n ++ " (" ++ toString ordinal ++ ")" := rfl
  rw [nodeLine, Table.stateLine, hcaption]
  simp only [String.append_assoc]
  rfl

section Known

variable (hknown : ∀ n ∈ t.references, n ∈ s.names)
include hknown

/-- The place of a node is the place of its state. -/
theorem place_eq_placeOf {x : Node} (hx : x ∈ (direct t s).nodes) :
    x.place = t.placeOf x.ordinal x.name := by
  have hname := getElem?_names_of_mem_nodes hx
  have hleaving := leaving_isEmpty_iff hknown hname
  have hentering := entering_isEmpty_iff hknown hname
  rw [place_of_mem_nodes hx, placeOf, Table.placeOf]
  simp only [hleaving, hentering]

/-- **The nodes of a graph** are those of the states. -/
theorem nodes_direct_eq : (direct t s).nodes = s.numbered.map fun x => nodeOf t x.1 x.2 := by
  have hself : (direct t s).nodes = (direct t s).nodes.map fun x =>
      ⟨x.name, x.ordinal, x.symbol, t.placeOf x.ordinal x.name⟩ := by
    conv_lhs => rw [← List.map_id (direct t s).nodes]
    refine List.map_congr_left fun x hx => ?_
    rw [← place_eq_placeOf hknown hx]
    rfl
  -- made anew, a node does not depend on the place that it had
  rw [hself, nodes_direct_map fun _ _ => rfl, nodesOf, List.map_map]
  rfl

theorem getElem?_nodes_ordinal {n : String} (hn : n ∈ s.names) :
    (direct t s).nodes[(s.ordinal? n).getD 0]? = some (nodeOf t ((s.ordinal? n).getD 0) n) := by
  rw [nodes_direct_eq hknown, List.getElem?_map,
    States.getElem?_numbered (States.getElem?_ordinal hn), Option.map_some]

end Known

/-! ### Strokes -/

/-- The strokes of an event, in the order of states. -/
def strokesOf (s : States) : Nat × String × Event → List Stroke
  | (ordinal, name, e) => (Transition.accepted s e.sources).map fun source =>
      ⟨ordinal, name, e, (s.ordinal? source).getD 0, source⟩

/-- **Strokes of events in order**, each in the order of states, are all strokes of a table. -/
theorem strokes_flatMap (t : Table) (s : States) :
    Strokes t s (t.numberedEvents.flatMap (strokesOf s)) where
  mem_iff := by
    rintro ⟨i, name, e, number, source⟩
    simp only [List.mem_flatMap, Prod.exists, strokesOf, List.mem_map, Transition.mem_accepted,
      Stroke.mk.injEq, States.mem_numbered]
    constructor
    · rintro ⟨_, _, _, hevent, n, ⟨hn, hsource⟩, rfl, rfl, rfl, rfl, rfl⟩
      exact ⟨hevent, States.getElem?_ordinal hn, hsource⟩
    · rintro ⟨hevent, hnumber, hsource⟩
      refine ⟨i, name, e, hevent, source, ⟨List.mem_of_getElem? hnumber, hsource⟩, rfl, rfl, rfl,
        ?_, rfl⟩
      rw [States.ordinal?_eq_some_iff.mpr hnumber, Option.getD_some]
  increases := by
    refine List.pairwise_flatMap.mpr ⟨fun x _ => ?_, ?_⟩
    · -- within an event, sources stand in the order of states
      refine List.pairwise_map.mpr ((s.ordered.filter _).imp_of_mem fun ha hb hlt => ?_)
      exact .inr ⟨rfl, States.ordinal_lt_ordinal (Transition.mem_accepted.mp ha).1
        (Transition.mem_accepted.mp hb).1 hlt⟩
    · have hordinals : t.numberedEvents.Pairwise fun x y => x.1 < y.1 := by
        rw [← List.pairwise_map (f := fun x : Nat × String × Event => x.1),
          Table.ordinals_numberedEvents]
        exact List.pairwise_lt_range
      refine hordinals.imp fun hlt k hk l hl => .inl ?_
      obtain ⟨_, -, rfl⟩ := List.mem_map.mp hk
      obtain ⟨_, -, rfl⟩ := List.mem_map.mp hl
      exact hlt

/-- The arrow of a stroke. -/
def arrowOf (t : Table) (s : States) (k : Stroke) : Arrow where
  source := nodeOf t k.number k.source
  target := nodeOf t ((s.ordinal? k.event.destination).getD 0) k.event.destination
  label := labelOf k.ordinal k.name k.event

theorem caption_labelOf (k : Stroke) : (labelOf k.ordinal k.name k.event).caption = k.label := by
  rw [Stroke.label, labelOf, Label.caption]
  cases k.event.params <;> rfl

theorem arrowLine_arrowOf (t : Table) (s : States) (k : Stroke) :
    arrowLine (arrowOf t s k) = k.line := by
  rw [Stroke.line, ← caption_labelOf]
  rfl

/-- The arrow of an edge, if both of its ends are nodes. -/
def arrow? (g : Graph) (x : Edge) : Option Arrow := do
  pure ⟨← g.nodes[x.source]?, ← g.nodes[x.target]?, x.label⟩

theorem arrows_eq (g : Graph) : g.arrows = g.edges.filterMap g.arrow? := rfl

/-- **No edge gets lost**: each has the arrow of a stroke. -/
theorem arrow?_direct (hs : States.ofTable t = some s) {i : Nat} {name : String} {e : Event}
    (hx : (i, name, e) ∈ t.numberedEvents) {source : String} (hsource : source ∈ e.sources) :
    (direct t s).arrow?
        ⟨(s.ordinal? source).getD 0, (s.ordinal? e.destination).getD 0, labelOf i name e⟩ =
      some (arrowOf t s ⟨i, name, e, (s.ordinal? source).getD 0, source⟩) := by
  -- both ends are states, so there are nodes at their ordinals
  have hname : ∀ n ∈ e.states, n ∈ s.names := fun n hn =>
    known hs n (Table.mem_references_of_numberedEvents hx hn)
  have hfrom := getElem?_nodes_ordinal (known hs)
    (hname source (List.mem_append_left _ hsource))
  have hto := getElem?_nodes_ordinal (known hs)
    (hname e.destination (List.mem_append_right _ (List.mem_singleton.mpr rfl)))
  rw [arrow?, hfrom, hto]
  rfl

/-- The arrows of a graph are those of its strokes, in another order. -/
theorem arrows_perm (hs : States.ofTable t = some s) : (direct t s).arrows.Perm
    ((t.numberedEvents.flatMap (strokesOf s)).map (arrowOf t s)) := by
  rw [arrows_eq]
  -- the places of nodes do not matter to edges
  change ((t.numberedEvents.flatMap (edgesOf s)).filterMap (direct t s).arrow?).Perm _
  rw [List.filterMap_flatMap, List.map_flatMap]
  refine List.Perm.flatMap_left _ ?_
  rintro ⟨i, name, e⟩ hx
  have harrows : (edgesOf s (i, name, e)).filterMap (direct t s).arrow? =
      e.sources.eraseDups.map fun source =>
        arrowOf t s ⟨i, name, e, (s.ordinal? source).getD 0, source⟩ := by
    rw [edgesOf, List.filterMap_map, ← List.filterMap_eq_map]
    refine List.filterMap_congr fun source hsource => ?_
    exact arrow?_direct hs hx (List.mem_eraseDups.mp hsource)
  rw [harrows, strokesOf, List.map_map]
  exact (eraseDups_perm_accepted hs hx).map _

theorem Arrow.le_iff {a b : Arrow} : Arrow.le a b = true ↔ a.label.ordinal < b.label.ordinal ∨
    a.label.ordinal = b.label.ordinal ∧ a.source.ordinal ≤ b.source.ordinal := by
  simp only [Arrow.le, Bool.or_eq_true, Bool.and_eq_true, decide_eq_true_eq, beq_iff_eq]

/-- **Sorting arrows** puts the strokes of the table in order. -/
theorem mergeSort_arrows (hs : States.ofTable t = some s) :
    (direct t s).arrows.mergeSort Arrow.le =
      (t.numberedEvents.flatMap (strokesOf s)).map (arrowOf t s) := by
  -- the order is transitive and total, and strict between the strokes of a table
  refine mergeSort_eq_of_perm (fun a b c hab hbc => ?_) (fun a b => ?_) (arrows_perm hs) ?_
  · rw [Arrow.le_iff] at hab hbc ⊢
    omega
  · rw [Bool.or_eq_true, Arrow.le_iff, Arrow.le_iff]
    omega
  · refine List.pairwise_map.mpr ((strokes_flatMap t s).increases.imp fun {k l} hkl => ?_)
    rw [Arrow.le_iff, Arrow.le_iff]
    change k.ordinal < l.ordinal ∨ k.ordinal = l.ordinal ∧ k.number < l.number at hkl
    change (k.ordinal < l.ordinal ∨ k.ordinal = l.ordinal ∧ k.number ≤ l.number) ∧
      ¬ (l.ordinal < k.ordinal ∨ l.ordinal = k.ordinal ∧ l.number ≤ k.number)
    omega

/-! ### Lines -/

/-- **The lines of a drawing** are those of the states and of the strokes. -/
theorem dotLines_direct (hs : States.ofTable t = some s) : (direct t s).dotLines =
    ["digraph " ++ t.name ++ " \x7b", "  rankdir=LR;", "  node [shape=box, style=filled];", ""] ++
      s.numbered.map t.stateLine ++ [""] ++
      (t.numberedEvents.flatMap (strokesOf s)).map Stroke.line ++ ["\x7d"] := by
  have hnodes : (direct t s).states.map nodeLine = s.numbered.map t.stateLine := by
    rw [states_direct, nodes_direct_eq (known hs), List.map_map]
    exact List.map_congr_left fun x _ => nodeLine_nodeOf t x.1 x.2
  -- sorting the edges gives the strokes, however the edges were added
  have harrows : ((direct t s).arrows.mergeSort Arrow.le).map arrowLine =
      (t.numberedEvents.flatMap (strokesOf s)).map Stroke.line := by
    rw [mergeSort_arrows hs, List.map_map]
    exact List.map_congr_left fun k _ => arrowLine_arrowOf t s k
  rw [dotLines, hnodes, harrows]
  rfl

/-- Captions of words consist of words, digits and some signs. -/
theorem notMem_caption {c : Char} (hpart : Identifier.isPart c = false)
    (hsign : c ∉ [' ', '(', ')', ',']) {l : Label} (hevent : Identifier.IsWord l.event)
    (hparams : ∀ p ∈ l.params, Identifier.IsWord p) : c ∉ l.caption.toList := by
  have hjoined : c ∉ (", ".intercalate l.params).toList :=
    Text.notMem_joined (by simp_all) fun p hp => (hparams p hp).notMem hpart
  rw [Label.caption]
  split
  · exact hevent.notMem hpart
  · simp_all [hevent.notMem hpart]

theorem notMem_caption_node {c : Char} (hpart : Identifier.isPart c = false)
    (hsign : c ∉ [' ', '(', ')', ',']) {x : Node} (hname : Identifier.IsWord x.name) :
    c ∉ x.caption.toList := by
  have hdigit : c.isDigit = false := by
    simp only [Identifier.isPart, Char.isAlphanum, Bool.or_eq_false_iff] at hpart
    exact hpart.1.2
  have hnumber : c ∉ (toString x.ordinal).toList := Text.notMem_toString hdigit _
  have hcaption : x.caption = x.name ++ " (" ++ toString x.ordinal ++ ")" := rfl
  rw [hcaption]
  simp_all [hname.notMem hpart]

section WellFormed

variable (h : t.WellFormed)
include h

theorem isWord_labelOf {i : Nat} {name : String} {e : Event}
    (hx : (i, name, e) ∈ t.numberedEvents) : Identifier.IsWord (labelOf i name e).event ∧
      ∀ p ∈ (labelOf i name e).params, Identifier.IsWord p := by
  have he := h.events_wellFormed _ (List.mem_of_getElem? (Table.mem_numberedEvents.mp hx))
  refine ⟨Identifier.isWord_of_valid he.name_valid, fun p hp => ?_⟩
  obtain ⟨q, hq, rfl⟩ := List.mem_map.mp hp
  exact Identifier.isWord_of_valid (he.params_valid q hq)

section States

variable (hs : States.ofTable t = some s)
include hs

theorem isWord_of_mem_numbered {x : Nat × String} (hx : x ∈ s.numbered) :
    Identifier.IsWord x.2 := by
  have hmem : x.2 ∈ s.names := List.mem_of_getElem? (States.mem_numbered.mp hx)
  exact Identifier.isWord_of_valid
    (h.valid_of_mem_references ((States.mem_names_ofTable hs).mp hmem))

/-- **Names at a stroke** are words. -/
theorem isWord_of_mem_strokes {k : Stroke} (hk : k ∈ t.numberedEvents.flatMap (strokesOf s)) :
    (Identifier.IsWord k.source ∧ Identifier.IsWord k.event.destination) ∧
      Identifier.IsWord (labelOf k.ordinal k.name k.event).event ∧
      ∀ p ∈ (labelOf k.ordinal k.name k.event).params, Identifier.IsWord p := by
  obtain ⟨hevent, hnumber, -⟩ := ((strokes_flatMap t s).mem_iff k).mp hk
  have hdest : k.event.destination ∈ t.references :=
    Table.mem_references_of_numberedEvents hevent
      (List.mem_append_right _ (List.mem_singleton.mpr rfl))
  exact ⟨⟨isWord_of_mem_numbered h hs hnumber,
    Identifier.isWord_of_valid (h.valid_of_mem_references hdest)⟩, isWord_labelOf h hevent⟩

/-- **Every line of a drawing** is one line. -/
theorem feed_notMem_dotLines : ∀ l ∈ (direct t s).dotLines, '\n' ∉ l.toList := by
  -- names are words, so no line feed comes from the table
  have hname : '\n' ∉ t.name.toList := (Identifier.isWord_of_valid h.name_valid).notMem (by decide)
  have hstate : ∀ x ∈ s.numbered, '\n' ∉ (t.stateLine x).toList := by
    rintro ⟨i, n⟩ hx
    have hn : Identifier.IsWord (nodeOf t i n).name := isWord_of_mem_numbered h hs hx
    have hfeed : '\n' ∉ (nodeOf t i n).name.toList := hn.notMem (by decide)
    have hcaption : '\n' ∉ (nodeOf t i n).caption.toList :=
      notMem_caption_node (by decide) (by decide) hn
    have hcolor : '\n' ∉ (nodeOf t i n).place.color.toList := by
      cases (nodeOf t i n).place <;> decide
    rw [← nodeLine_nodeOf, nodeLine]
    simp [hfeed, hcaption, hcolor]
  have hstroke : ∀ k ∈ t.numberedEvents.flatMap (strokesOf s), '\n' ∉ k.line.toList := by
    intro k hk
    obtain ⟨⟨hsource, hdest⟩, hevent, hparams⟩ := isWord_of_mem_strokes h hs hk
    have hlabel : '\n' ∉ k.label.toList :=
      caption_labelOf k ▸ notMem_caption (by decide) (by decide) hevent hparams
    have hfrom : '\n' ∉ k.source.toList := hsource.notMem (by decide)
    have hto : '\n' ∉ k.event.destination.toList := hdest.notMem (by decide)
    rw [Stroke.line]
    simp [hfrom, hto, hlabel]
  rw [dotLines_direct hs]
  simp only [List.forall_mem_append, List.forall_mem_cons, List.forall_mem_map]
  refine ⟨⟨⟨⟨⟨?_, by decide, by decide, by decide, nofun⟩, hstate⟩, by decide, nofun⟩, hstroke⟩,
    by decide, nofun⟩
  simp [hname]

end States

end WellFormed

/-! ### Tables in another order -/

/-- Rearranged tables have the same moves. -/
theorem mem_moves_rearranged (h : t.Rearranged u) (m : String × String) :
    m ∈ t.moves ↔ m ∈ u.moves := by
  have hentries := h.entries
  unfold Table.moves
  -- the induction is on the events of both tables, which go in step
  generalize t.events.entries = es at hentries ⊢
  generalize u.events.entries = fs at hentries ⊢
  induction hentries with
  | nil => rfl
  | cons hxy _ ih =>
    rw [List.flatMap_cons, List.flatMap_cons, List.mem_append, List.mem_append]
    refine or_congr ?_ ih
    simp only [List.mem_map, List.mem_eraseDups, hxy.2.sources, hxy.2.destination]

theorem placeOf_rearranged (h : t.Rearranged u) (ordinal : Nat) (n : String) :
    t.placeOf ordinal n = u.placeOf ordinal n := by
  have hmoves : ∀ f : String × String → String, n ∈ t.moves.map f ↔ n ∈ u.moves.map f := by
    intro f
    simp only [List.mem_map, mem_moves_rearranged h]
  simp only [Table.placeOf, hmoves]

/-- The strokes of an event have the same lines, however its sources are written. -/
theorem lines_strokesOf_rearranged {e f : Event} (h : e.Rearranged f) (s : States) (i : Nat)
    (name : String) : (strokesOf s (i, name, e)).map Stroke.line =
      (strokesOf s (i, name, f)).map Stroke.line := by
  simp only [strokesOf, Transition.accepted_rearranged s h, List.map_map, Function.comp_def,
    Stroke.line, Stroke.label, h.params, h.destination]

/-- **However sources are written**, the drawing is the same. -/
theorem dot_rearranged (h : t.Rearranged u) (hs : States.ofTable t = some s)
    (hu : States.ofTable u = some s) : (direct t s).dot = (direct u s).dot := by
  have hstates : t.stateLine = u.stateLine := by
    funext ⟨i, n⟩
    rw [Table.stateLine, Table.stateLine, placeOf_rearranged h]
  have hstrokes : (t.numberedEvents.flatMap (strokesOf s)).map Stroke.line =
      (u.numberedEvents.flatMap (strokesOf s)).map Stroke.line := by
    rw [List.map_flatMap, List.map_flatMap, List.flatMap_def, List.flatMap_def,
      Table.numberedEvents, Table.numberedEvents, List.map_map, List.map_map]
    congr 1
    -- events keep their order, so an event and its rearrangement have one number
    refine map_zipIdx_eq_of_forall₂ (fun i x y hxy => ?_) h.entries 0
    obtain ⟨name, e⟩ := x
    obtain ⟨name', f⟩ := y
    obtain ⟨rfl, hef⟩ : name = name' ∧ e.Rearranged f := hxy
    exact lines_strokesOf_rearranged hef s i name
  rw [dot, dot, dotLines_direct hs, dotLines_direct hu, h.name, hstates, hstrokes]

/-- **The drawing of a table** has a line for each state and one for each pair of an event and one
of its sources, in the order of their ordinals, and no others.  It is the same however the sources
of an event are written. -/
theorem dot_draws (t : Table) (h : t.validate = .ok ()) :
    ∃ s g, States.ofTable t = some s ∧ ofTable t = .ok g ∧ Draws t s g.dot ∧
      ∀ u, t.Rearranged u → ∃ g', ofTable u = .ok g' ∧ g'.dot = g.dot := by
  have hwf := Table.validate_eq_ok_iff_wellFormed.mp h
  obtain ⟨s, hs⟩ := Blueprint.exists_states hwf
  refine ⟨s, direct t s, hs, ofTable_eq_ok hs, ⟨_, strokes_flatMap t s, ?_⟩, fun u hu => ?_⟩
  · -- the last line feed divides the closing brace from nothing
    have hsplit := Text.split_lines_append (feed_notMem_dotLines hwf hs) ""
    rw [String.append_empty, Text.split_empty] at hsplit
    rw [dot, hsplit, dotLines_direct hs]
    simp only [List.append_assoc, List.cons_append, List.nil_append]
  · have hsu : States.ofTable u = some s := hu.states_eq ▸ hs
    exact ⟨direct u s, ofTable_eq_ok hsu, (dot_rearranged hu hs hsu).symm⟩

/-- The drawing of the jobs shows how a failed job is started again. -/
theorem dot_draws_jobs :
    Table.jobs.validate = .ok () ∧
      ∃ s g, States.ofTable Table.jobs = some s ∧ ofTable Table.jobs = .ok g ∧
        Draws Table.jobs s g.dot ∧
        "  \"failed\" -> \"running\" [label=\"start(id)\"];" ∈ Text.split g.dot ∧
        ∀ u, Table.jobs.Rearranged u → ∃ g', ofTable u = .ok g' ∧ g'.dot = g.dot := by
  obtain ⟨s, g, hs, hg, ⟨ks, hks, hlines⟩, hsame⟩ := dot_draws Table.jobs (by decide)
  have hnames : s.names = ["done", "failed", "pending", "running"] := by
    rw [States.names_ofTable hs]
    decide
  -- the edge of the fourth event from the second state; another source is written twice
  let k : Stroke :=
    ⟨3, "start", ⟨["pending", "failed", "pending"], "running", [⟨"id", "u32"⟩]⟩, 1, "failed"⟩
  have hk : k ∈ ks :=
    (hks.mem_iff k).mpr ⟨by decide, States.mem_numbered.mpr (by rw [hnames]; rfl), by decide⟩
  refine ⟨by decide, s, g, hs, hg, ⟨ks, hks, hlines⟩, ?_, hsame⟩
  rw [hlines]
  simp only [List.mem_append, List.mem_map]
  exact .inl (.inr ⟨k, hk, by decide⟩)

end Graph

end Automaton
