import Automaton.Proofs.Graph.Dot.Grammar
import Automaton.Proofs.Graph.Drawing

/-!
# Reading drawings back

The drawing of a table is printed without regard to what may stand in a name, so whether it can be
read rests on what is accepted as a name.  Every name and every label stands in quotes and has
neither a quote nor a backslash, so it ends where it is meant to.  The name of the machine stands
without quotes: it is an identifier, and so a name of the drawing unless it is a keyword.

Line by line the text is cut into the tokens of settled statements (`Graph.tokens_dot`).  So there
is one tree that the text can denote (`Graph.denotes_iff`), and it shows the nodes and the edges of
the graph (`Graph.dot_denotes`).
-/

namespace Automaton

theorem forall₂_filterMap {α β : Type} {f : α → Option β} {R : α → β → Prop} {as : List α}
    (h : ∀ a ∈ as, ∃ b, f a = some b ∧ R a b) : List.Forall₂ R as (as.filterMap f) := by
  induction as with
  | nil => exact .nil
  | cons a as ih =>
    obtain ⟨⟨b, hb, hab⟩, hrest⟩ := List.forall_mem_cons.mp h
    rw [List.filterMap_cons_some hb]
    exact .cons hab (ih hrest)

/-! ### Scanning lines -/

namespace Dot

/-- **The tokens of a line**, which ends where another one can begin. -/
def Scans (line : String) (ts : List Token) : Prop :=
  run (.between true) (line.toList ++ ['\n']) = some (ts, .between true)

instance (line : String) (ts : List Token) : Decidable (Scans line ts) :=
  inferInstanceAs (Decidable (_ = _))

/-- Lines are scanned one after the other. -/
theorem run_lines {ls : List String} {tss : List (List Token)} (h : List.Forall₂ Scans ls tss) :
    run (.between true) (Text.lines ls).toList = some (tss.flatten, .between true) := by
  induction h with
  | nil => rfl
  | @cons l ts ls tss hline _ ih =>
    rw [Text.lines_cons, String.toList_append, String.toList_append, List.flatten_cons]
    exact run_append hline ih

theorem tokens?_lines {ls : List String} {tss : List (List Token)} (h : List.Forall₂ Scans ls tss) :
    tokens? (Text.lines ls) = some tss.flatten := by
  rw [tokens?, run_lines h]
  exact congrArg some (List.append_nil _)

theorem forall₂_scans {α : Type} {line : α → String} {tokens : α → List Token} {as : List α}
    (h : ∀ a ∈ as, Scans (line a) (tokens a ++ [.mark .semicolon])) :
    List.Forall₂ Scans (as.map line) (ended (as.map tokens)) := by
  rw [ended, List.map_map, List.forall₂_map_left_iff, List.forall₂_map_right_iff]
  exact List.forall₂_same.mpr h

end Dot

namespace Graph

open Dot

/-! ### What a drawing denotes -/

/-- The settings at the beginning of a drawing. -/
def settings : List Statement :=
  [.assign (.text "rankdir", .text "LR"),
   .defaults .node [(.text "shape", .text "box"), (.text "style", .text "filled")]]

/-- The statement of a node. -/
def nodeStatement (n : Node) : Statement :=
  .node (.text n.name) []
    [(.text "label", .text n.caption), (.text "fillcolor", .text n.place.color)]

/-- The statement of an edge between two states. -/
def edgeStatement (source target : String) (l : Label) : Statement :=
  .edge (.node (.text source) []) [.node (.text target) []] [(.text "label", .text l.caption)]

/-- **A statement shows an edge**: it has the names of the ends and the label. -/
def EdgeShown (g : Graph) (x : Edge) (s : Statement) : Prop :=
  ∃ source target, g.Leads x source target ∧ s = edgeStatement source target x.label

/-- **A tree shows a graph**: it is directed and has the name of the machine, and behind the
settings it has a statement for each node and one for each edge, and no others. -/
structure Shows (g : Graph) (tree : Tree) : Prop where
  strict_eq : tree.strict = false
  directed_eq : tree.directed = true
  name_eq : tree.name = some (.text g.machine)
  /-- Nodes stand in their order, and edges in some order. -/
  statements_eq : ∃ ss ss', List.Forall₂ g.EdgeShown g.edges ss ∧ ss'.Perm ss ∧
    tree.statements = settings ++ g.nodes.map nodeStatement ++ ss'

/-- The statement of an arrow. -/
def arrowStatement (a : Arrow) : Statement :=
  edgeStatement a.source.name a.target.name a.label

/-- **The tree of a graph**, in the order in which its lines are printed. -/
def tree (g : Graph) : Tree :=
  ⟨false, true, some (.text g.machine),
    settings ++ g.states.map nodeStatement ++ (g.arrows.mergeSort Arrow.le).map arrowStatement⟩

/-! ### The tokens of a drawing -/

/-- The tokens of the settings. -/
def settingTokens : List (List Token) :=
  [[.word "rankdir", .mark .equals, .word "LR"],
   .keyword .node :: .mark .openBracket ::
     bracketed [(.word "shape", .word "box"), (.word "style", .word "filled")]]

/-- The tokens of a node. -/
def nodeTokens (n : Node) : List Token :=
  .quoted n.name :: .mark .openBracket ::
    bracketed [(.word "label", .quoted n.caption), (.word "fillcolor", .quoted n.place.color)]

/-- The tokens of an arrow. -/
def arrowTokens (a : Arrow) : List Token :=
  .quoted a.source.name :: .mark .arrow :: .quoted a.target.name :: .mark .openBracket ::
    bracketed [(.word "label", .quoted a.label.caption)]

/-- **All statements of a drawing**, as tokens. -/
def statementTokens (g : Graph) : List (List Token) :=
  settingTokens ++ g.states.map nodeTokens ++ (g.arrows.mergeSort Arrow.le).map arrowTokens

theorem settled_statementTokens (g : Graph) :
    List.Forall₂ (Settled true) g.statementTokens g.tree.statements := by
  -- first what holds for all nodes, then the nodes, then the edges
  refine List.rel_append (List.rel_append ?_ ?_) ?_
  · exact .cons (settled_assign (a := .word "rankdir") (b := .word "LR"))
      (.cons (settled_defaults (by decide)
        [(.word "shape", .word "box"), (.word "style", .word "filled")]) .nil)
  · rw [List.forall₂_map_left_iff, List.forall₂_map_right_iff]
    exact List.forall₂_same.mpr fun n _ => settled_node (a := .quoted n.name)
      [(.word "label", .quoted n.caption), (.word "fillcolor", .quoted n.place.color)]
  · rw [List.forall₂_map_left_iff, List.forall₂_map_right_iff]
    exact List.forall₂_same.mpr fun a _ => settled_edge (a := .quoted a.source.name)
      (b := .quoted a.target.name) [(.word "label", .quoted a.label.caption)]

theorem run_indent : run (.between true) "  \"".toList = some ([], .quoted []) := by
  decide

theorem run_label : run (.between false) " [label=\"".toList =
    some ([.mark .openBracket, .word "label", .mark .equals], .quoted []) := by
  decide

theorem run_end : run (.between false) "];\n".toList =
    some ([.mark .closeBracket, .mark .semicolon], .between true) := by
  decide

/-- **The line of a node** is its statement, if all of its texts are plain. -/
theorem scans_nodeLine {n : Node} (hname : Plain n.name) (hcaption : Plain n.caption) :
    Scans (nodeLine n) (nodeTokens n ++ [.mark .semicolon]) := by
  have hcolor : Plain n.place.color := by
    cases n.place <;> decide
  have hfill : run (.between false) ", fillcolor=\"".toList =
      some ([.mark .comma, .word "fillcolor", .mark .equals], .quoted []) := by
    decide
  -- the line falls into fixed parts and three texts in quotes
  have hline : (nodeLine n).toList ++ ['\n'] = "  \"".toList ++ (n.name.toList ++ '"' ::
      (" [label=\"".toList ++ (n.caption.toList ++ '"' :: (", fillcolor=\"".toList ++
        (n.place.color.toList ++ '"' :: "];\n".toList))))) := by
    simp [nodeLine]
  have hbehind := run_append hfill (run_enclosed hcolor run_end)
  have hrun := run_append run_indent (run_enclosed hname (run_append run_label
    (run_enclosed hcaption hbehind)))
  rw [Scans, hline]
  exact hrun

theorem scans_arrowLine {a : Arrow} (hsource : Plain a.source.name) (htarget : Plain a.target.name)
    (hcaption : Plain a.label.caption) :
    Scans (arrowLine a) (arrowTokens a ++ [.mark .semicolon]) := by
  have harrow : run (.between false) " -> \"".toList = some ([.mark .arrow], .quoted []) := by
    decide
  -- the line falls into fixed parts and three texts in quotes, like that of a node
  have hline : (arrowLine a).toList ++ ['\n'] = "  \"".toList ++ (a.source.name.toList ++ '"' ::
      (" -> \"".toList ++ (a.target.name.toList ++ '"' :: (" [label=\"".toList ++
        (a.label.caption.toList ++ '"' :: "];\n".toList))))) := by
    simp [arrowLine]
  have hrun := run_append run_indent (run_enclosed hsource (run_append harrow
    (run_enclosed htarget (run_append run_label (run_enclosed hcaption run_end)))))
  rw [Scans, hline]
  exact hrun

/-- **The first line** has the name of the machine as a token. -/
theorem scans_header {name : String} (h : Identifier.valid name = true) :
    Scans ("digraph " ++ name ++ " \x7b")
      [.keyword .digraph, wordToken name.toList, .mark .openBrace] := by
  have hkeyword : run (.between true) "digraph ".toList =
      some ([.keyword .digraph], .between false) := by
    decide
  have hbrace : run (.between false) "\x7b\n".toList =
      some ([.mark .openBrace], .between true) := by
    decide
  -- the blank behind the name is what ends it
  have hline : ("digraph " ++ name ++ " \x7b").toList ++ ['\n'] =
      "digraph ".toList ++ ((name.toList ++ [' ']) ++ "\x7b\n".toList) := by
    simp
  rw [Scans, hline]
  exact run_append hkeyword (run_append (run_name h false) hbrace)

theorem scans_settings : List.Forall₂ Scans
    ["  rankdir=LR;", "  node [shape=box, style=filled];", ""] (ended settingTokens ++ [[]]) := by
  refine .cons ?_ (.cons ?_ (.cons ?_ .nil)) <;> decide

section Plain

variable {g : Graph} (hmachine : Identifier.valid g.machine = true)
  (hnodes : ∀ n ∈ g.states, Plain n.name ∧ Plain n.caption)
  (harrows : ∀ a ∈ g.arrows, Plain a.source.name ∧ Plain a.target.name ∧ Plain a.label.caption)
include hmachine hnodes harrows

/-- **The tokens of a drawing** without quotes and backslashes. -/
theorem tokens_dot : tokens? g.dot =
    some (.keyword .digraph :: wordToken g.machine.toList :: .mark .openBrace ::
      ((ended g.statementTokens).flatten ++ [.mark .closeBrace])) := by
  have hlines : List.Forall₂ Scans g.dotLines
      ([.keyword .digraph, wordToken g.machine.toList, .mark .openBrace] :: ended settingTokens ++
        [[]] ++ ended (g.states.map nodeTokens) ++ [[]] ++
        ended ((g.arrows.mergeSort Arrow.le).map arrowTokens) ++ [[.mark .closeBrace]]) := by
    refine List.rel_append (List.rel_append (List.rel_append (List.rel_append
      (.cons (scans_header hmachine) scans_settings) ?_) (.cons (by decide) .nil)) ?_)
      (.cons (by decide) .nil)
    · exact forall₂_scans fun n hn => scans_nodeLine (hnodes n hn).1 (hnodes n hn).2
    · refine forall₂_scans fun a ha => ?_
      obtain ⟨hsource, htarget, hcaption⟩ := harrows a (List.mem_mergeSort.mp ha)
      exact scans_arrowLine hsource htarget hcaption
  rw [dot, tokens?_lines hlines, statementTokens, ended_append, ended_append]
  -- blank lines have no tokens
  simp only [List.flatten_append, List.flatten_cons, List.flatten_nil, List.append_assoc,
    List.cons_append, List.nil_append, List.append_nil]

/-- **What a drawing denotes**: its tree, unless its name is a keyword. -/
theorem denotes_iff_plain {tree : Tree} : Denotes g.dot tree ↔
    (∀ k : Keyword, ¬ Text.SameUpToCase g.machine k.word) ∧ tree = g.tree := by
  rw [Denotes, tokens_dot hmachine hnodes harrows]
  constructor
  · rintro ⟨_, htokens, hwritten⟩
    obtain rfl := Option.some.inj htokens
    have hkeyword : ∀ k : Keyword, ¬ Text.SameUpToCase g.machine k.word := by
      intro k hk
      -- no rule lets a keyword stand between `digraph` and the brace
      rw [wordToken, keyword?_eq_some_iff.mpr hk] at hwritten
      exact not_written hwritten
    rw [wordToken_eq_word hkeyword, written_iff g.settled_statementTokens] at hwritten
    exact ⟨hkeyword, hwritten⟩
  · rintro ⟨hkeyword, rfl⟩
    rw [wordToken_eq_word hkeyword]
    exact ⟨_, rfl, (written_iff g.settled_statementTokens).mpr rfl⟩

end Plain

/-! ### Drawings of tables -/

theorem plain_of_isWord {s : String} (h : Identifier.IsWord s) : Plain s :=
  ⟨h.notMem (by decide), h.notMem (by decide)⟩

section WellFormed

variable {t : Table} {s : States} (h : t.WellFormed) (hs : States.ofTable t = some s)
include h hs

theorem plain_of_mem_states {n : Node} (hn : n ∈ (direct t s).states) :
    Plain n.name ∧ Plain n.caption := by
  rw [states_direct, nodes_direct_eq (known hs)] at hn
  obtain ⟨x, hx, rfl⟩ := List.mem_map.mp hn
  have hword : Identifier.IsWord (nodeOf t x.1 x.2).name := isWord_of_mem_numbered h hs hx
  exact ⟨plain_of_isWord hword, notMem_caption_node (by decide) (by decide) hword,
    notMem_caption_node (by decide) (by decide) hword⟩

theorem plain_of_mem_arrows {a : Arrow} (ha : a ∈ (direct t s).arrows) :
    Plain a.source.name ∧ Plain a.target.name ∧ Plain a.label.caption := by
  obtain ⟨k, hk, rfl⟩ := List.mem_map.mp ((arrows_perm hs).mem_iff.mp ha)
  obtain ⟨⟨hsource, hdest⟩, hevent, hparams⟩ := isWord_of_mem_strokes h hs hk
  exact ⟨plain_of_isWord hsource, plain_of_isWord hdest,
    notMem_caption (by decide) (by decide) hevent hparams,
    notMem_caption (by decide) (by decide) hevent hparams⟩

/-- **What the drawing of a table denotes.** -/
theorem denotes_iff {tree : Tree} : Denotes (direct t s).dot tree ↔
    (∀ k : Keyword, ¬ Text.SameUpToCase t.name k.word) ∧ tree = (direct t s).tree :=
  denotes_iff_plain (g := direct t s) h.name_valid (fun _ => plain_of_mem_states h hs)
    (fun _ => plain_of_mem_arrows h hs)

end WellFormed

section Known

variable {t : Table} {s : States} (hs : States.ofTable t = some s)
include hs

/-- **Every edge has an arrow**, between the states that it leads from and to. -/
theorem forall₂_arrows : List.Forall₂
    (fun x a => (direct t s).Leads x a.source.name a.target.name ∧ a.label = x.label)
    (direct t s).edges (direct t s).arrows := by
  rw [arrows_eq]
  refine forall₂_filterMap fun x hx => ?_
  obtain ⟨i, name, e, hentry, source, hsource, rfl⟩ := mem_edges_direct.mp hx
  exact ⟨_, arrow?_direct hs (Table.mem_numberedEvents.mpr hentry) hsource,
    (leads_direct_iff (known hs) hentry hsource _).mpr ⟨rfl, rfl⟩, rfl⟩

/-- **The tree of a graph** shows it. -/
theorem shows_tree : Shows (direct t s) (direct t s).tree where
  strict_eq := rfl
  directed_eq := rfl
  name_eq := rfl
  statements_eq := by
    refine ⟨(direct t s).arrows.map arrowStatement, _, ?_,
      (List.mergeSort_perm (direct t s).arrows Arrow.le).map _, ?_⟩
    · refine List.forall₂_map_right_iff.mpr ((forall₂_arrows hs).imp fun x a hxa => ?_)
      obtain ⟨hleads, hlabel⟩ := hxa
      exact ⟨_, _, hleads, by rw [arrowStatement, hlabel]⟩
    · rw [tree, states_direct]

end Known

/-- **The drawing of a table** denotes one tree, and this shows the graph, unless the machine is
called like a keyword in some case.  Then it denotes nothing. -/
theorem dot_denotes (t : Table) (h : t.validate = .ok ()) :
    ∃ g tree, ofTable t = .ok g ∧ Shows g tree ∧
      ∀ tree', Denotes g.dot tree' ↔
        (∀ k : Keyword, ¬ Text.SameUpToCase t.name k.word) ∧ tree' = tree := by
  have hwf := Table.validate_eq_ok_iff_wellFormed.mp h
  obtain ⟨s, hs⟩ := Blueprint.exists_states hwf
  exact ⟨direct t s, (direct t s).tree, ofTable_eq_ok hs, shows_tree hs, fun _ =>
    denotes_iff hwf hs⟩

/-- The drawing of the jobs can be read back. -/
theorem dot_denotes_jobs :
    Table.jobs.validate = .ok () ∧ ∃ g tree, ofTable Table.jobs = .ok g ∧ Shows g tree ∧
      Denotes g.dot tree := by
  obtain ⟨g, tree, hg, hshows, hdenotes⟩ := dot_denotes Table.jobs (by decide)
  have hname : ∀ k : Keyword, ¬ Text.SameUpToCase Table.jobs.name k.word := by
    intro k
    unfold Text.SameUpToCase
    cases k <;> decide
  exact ⟨by decide, g, tree, hg, hshows, (hdenotes tree).mpr ⟨hname, rfl⟩⟩

/-- A machine called `Graph`, which turns off. -/
def graphTable : Table :=
  { Table.new "Graph" "machines" with events := Catalog.ofList [("turn", ⟨["on"], "off", []⟩)] }

/-- It is accepted, but its drawing is none, as the name is read as a keyword. -/
theorem not_denotes_graph :
    graphTable.validate = .ok () ∧ ∃ g, ofTable graphTable = .ok g ∧
      ¬ ∃ tree, Denotes g.dot tree := by
  have hvalid : graphTable.validate = .ok () := by decide
  have hwf := Table.validate_eq_ok_iff_wellFormed.mp hvalid
  obtain ⟨s, hs⟩ := Blueprint.exists_states hwf
  refine ⟨hvalid, direct graphTable s, ofTable_eq_ok hs, ?_⟩
  rintro ⟨tree, htree⟩
  -- the name is a keyword to a reader, whatever the case of its letters
  have hkeyword : Text.SameUpToCase graphTable.name Keyword.graph.word := by
    unfold Text.SameUpToCase
    decide
  exact ((denotes_iff hwf hs).mp htree).1 .graph hkeyword

end Graph

end Automaton
