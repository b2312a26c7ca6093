import Automaton.Proofs.Graph.Dot.Token

/-!
# The grammar of DOT

Which sequences of tokens are drawings, and what they say, told by rules and not by a reader.  As
the rules leave out many marks, they are about *prefixes*: `Derives directed p ts us` holds if the
tokens `ts` begin with the phrase `p`, so that `us` is left.  A text denotes a tree if its tokens
are written by the rules and nothing is left (`Denotes`).

By the rules alone a phrase may end early, and then what follows it must be no phrase either.  What
the first token of a phrase can be (`Derives.statements_mark`, `Derives.settings_mark` and so on)
therefore decides how a text is read.  A statement that ends with a semicolon is *settled* if this
is the only way to go on behind it (`Settled`), and settled statements in a row can be read in only
one way (`statements_iff`).
-/

namespace Automaton.Dot

/-! ### Trees -/

/-- **Names**: of graphs, nodes and attributes, and also the values of attributes. -/
inductive Name where
  | text (s : String)
  | markup (s : String)
  deriving DecidableEq, Repr

/-- **Settings**: an attribute with its value. -/
abbrev Setting := Name × Name

mutual

/-- **What an edge connects.** -/
inductive End where
  /-- A node, perhaps with the place where the edge meets it. -/
  | node (name : Name) (port : List Name)
  /-- All nodes of a group. -/
  | group (name : Option Name) (body : List Statement)

/-- **Statements.** -/
inductive Statement where
  /-- A node. -/
  | node (name : Name) (port : List Name) (settings : List Setting)
  /-- Edges from each end to the next. -/
  | edge (source : End) (targets : List End) (settings : List Setting)
  /-- Settings for all graphs, nodes or edges that follow. -/
  | defaults (kind : Keyword) (settings : List Setting)
  /-- A setting for the graph itself. -/
  | assign (setting : Setting)
  /-- A group of statements. -/
  | group (name : Option Name) (body : List Statement)

end

/-- **A drawing.** -/
structure Tree where
  /-- Whether no two edges have the same ends. -/
  strict : Bool
  /-- Whether edges have a direction. -/
  directed : Bool
  /-- The name of the graph. -/
  name : Option Name
  /-- What it consists of. -/
  statements : List Statement

/-! ### Rules -/

/-- **Phrases**, and what they say. -/
inductive Phrase where
  /-- Texts in quotes with plus signs between them. -/
  | quoted (s : String)
  /-- A name. -/
  | name (n : Name)
  /-- A name or nothing. -/
  | title (n : Option Name)
  /-- A place of a node, or nothing. -/
  | port (ps : List Name)
  /-- Settings, perhaps with marks behind them. -/
  | settings (as : List Setting)
  /-- Settings in brackets, any number of times. -/
  | attributes (as : List Setting)
  /-- A node or a group. -/
  | endpoint (e : End)
  /-- What edges lead to. -/
  | targets (es : List End)
  /-- A group. -/
  | group (n : Option Name) (ss : List Statement)
  /-- A statement. -/
  | statement (s : Statement)
  /-- Statements, perhaps with semicolons behind them. -/
  | statements (ss : List Statement)

/-- The mark that stands between the ends of an edge. -/
def edgeMark (directed : Bool) : Mark :=
  if directed then .arrow else .line

/-- The sides of a node. -/
def sides : List String :=
  ["n", "ne", "e", "se", "s", "sw", "w", "nw", "c", "_"]

/-- One of some marks may be left out. -/
def Skips (ms : List Mark) (ts us : List Token) : Prop :=
  us = ts ∨ ∃ m ∈ ms, ts = .mark m :: us

/-- **The rules**: some tokens begin with a phrase, and others are left. -/
inductive Derives (directed : Bool) : Phrase → List Token → List Token → Prop where
  | lastQuoted {s : String} {ts : List Token} : Derives directed (.quoted s) (.quoted s :: ts) ts
  | moreQuoted {s s' : String} {ts us : List Token} (h : Derives directed (.quoted s') ts us) :
    Derives directed (.quoted (s ++ s')) (.quoted s :: .mark .plus :: ts) us
  | wordName {s : String} {ts : List Token} : Derives directed (.name (.text s)) (.word s :: ts) ts
  | quotedName {s : String} {ts us : List Token} (h : Derives directed (.quoted s) ts us) :
    Derives directed (.name (.text s)) ts us
  | markupName {s : String} {ts : List Token} :
    Derives directed (.name (.markup s)) (.markup s :: ts) ts
  | untitled {ts : List Token} : Derives directed (.title none) ts ts
  | titled {n : Name} {ts us : List Token} (h : Derives directed (.name n) ts us) :
    Derives directed (.title (some n)) ts us
  | noPort {ts : List Token} : Derives directed (.port []) ts ts
  | port {p : Name} {ts us : List Token} (h : Derives directed (.name p) ts us) :
    Derives directed (.port [p]) (.mark .colon :: ts) us
  | portSide {p : Name} {side : String} {ts us vs : List Token} (hside : side ∈ sides)
    (h : Derives directed (.name p) ts (.mark .colon :: us))
    (h' : Derives directed (.name (.text side)) us vs) :
    Derives directed (.port [p, .text side]) (.mark .colon :: ts) vs
  | noSetting {ts : List Token} : Derives directed (.settings []) ts ts
  | setting {key value : Name} {as : List Setting} {ts us vs ws xs : List Token}
    (hkey : Derives directed (.name key) ts (.mark .equals :: us))
    (hvalue : Derives directed (.name value) us vs) (hmark : Skips [.semicolon, .comma] vs ws)
    (hmore : Derives directed (.settings as) ws xs) :
    Derives directed (.settings ((key, value) :: as)) ts xs
  | noBrackets {ts : List Token} : Derives directed (.attributes []) ts ts
  | brackets {as bs : List Setting} {ts us vs : List Token}
    (h : Derives directed (.settings as) ts (.mark .closeBracket :: us))
    (hmore : Derives directed (.attributes bs) us vs) :
    Derives directed (.attributes (as ++ bs)) (.mark .openBracket :: ts) vs
  | nodeEnd {n : Name} {ps : List Name} {ts us vs : List Token}
    (hname : Derives directed (.name n) ts us) (hport : Derives directed (.port ps) us vs) :
    Derives directed (.endpoint (.node n ps)) ts vs
  | groupEnd {n : Option Name} {ss : List Statement} {ts us : List Token}
    (h : Derives directed (.group n ss) ts us) : Derives directed (.endpoint (.group n ss)) ts us
  | lastTarget {m : Mark} {e : End} {ts us : List Token} (hmark : m = edgeMark directed)
    (h : Derives directed (.endpoint e) ts us) : Derives directed (.targets [e]) (.mark m :: ts) us
  | moreTargets {m : Mark} {e : End} {es : List End} {ts us vs : List Token}
    (hmark : m = edgeMark directed) (h : Derives directed (.endpoint e) ts us)
    (hmore : Derives directed (.targets es) us vs) :
    Derives directed (.targets (e :: es)) (.mark m :: ts) vs
  | braces {ss : List Statement} {ts us : List Token}
    (h : Derives directed (.statements ss) ts (.mark .closeBrace :: us)) :
    Derives directed (.group none ss) (.mark .openBrace :: ts) us
  | subgraph {n : Option Name} {ss : List Statement} {ts us vs : List Token}
    (htitle : Derives directed (.title n) ts (.mark .openBrace :: us))
    (h : Derives directed (.statements ss) us (.mark .closeBrace :: vs)) :
    Derives directed (.group n ss) (.keyword .subgraph :: ts) vs
  | node {n : Name} {ps : List Name} {as : List Setting} {ts us vs ws : List Token}
    (hname : Derives directed (.name n) ts us) (hport : Derives directed (.port ps) us vs)
    (h : Derives directed (.attributes as) vs ws) :
    Derives directed (.statement (.node n ps as)) ts ws
  | edge {e : End} {es : List End} {as : List Setting} {ts us vs ws : List Token}
    (hsource : Derives directed (.endpoint e) ts us)
    (htargets : Derives directed (.targets es) us vs)
    (h : Derives directed (.attributes as) vs ws) :
    Derives directed (.statement (.edge e es as)) ts ws
  | defaults {k : Keyword} {as bs : List Setting} {ts us vs : List Token}
    (hkind : k ∈ [.graph, .node, .edge])
    (h : Derives directed (.settings as) ts (.mark .closeBracket :: us))
    (hmore : Derives directed (.attributes bs) us vs) :
    Derives directed (.statement (.defaults k (as ++ bs)))
      (.keyword k :: .mark .openBracket :: ts) vs
  | assign {key value : Name} {ts us vs : List Token}
    (hkey : Derives directed (.name key) ts (.mark .equals :: us))
    (hvalue : Derives directed (.name value) us vs) :
    Derives directed (.statement (.assign (key, value))) ts vs
  | group {n : Option Name} {ss : List Statement} {ts us : List Token}
    (h : Derives directed (.group n ss) ts us) :
    Derives directed (.statement (.group n ss)) ts us
  | noStatement {ts : List Token} : Derives directed (.statements []) ts ts
  | statement {s : Statement} {ss : List Statement} {ts us vs ws : List Token}
    (h : Derives directed (.statement s) ts us) (hmark : Skips [.semicolon] us vs)
    (hmore : Derives directed (.statements ss) vs ws) :
    Derives directed (.statements (s :: ss)) ts ws

/-- **A whole drawing.** -/
inductive Written : Tree → List Token → Prop where
  | undirected {n : Option Name} {ss : List Statement} {ts us : List Token}
    (htitle : Derives false (.title n) ts (.mark .openBrace :: us))
    (h : Derives false (.statements ss) us [.mark .closeBrace]) :
    Written ⟨false, false, n, ss⟩ (.keyword .graph :: ts)
  | directed {n : Option Name} {ss : List Statement} {ts us : List Token}
    (htitle : Derives true (.title n) ts (.mark .openBrace :: us))
    (h : Derives true (.statements ss) us [.mark .closeBrace]) :
    Written ⟨false, true, n, ss⟩ (.keyword .digraph :: ts)
  | strict {directed : Bool} {n : Option Name} {ss : List Statement} {ts : List Token}
    (h : Written ⟨false, directed, n, ss⟩ ts) :
    Written ⟨true, directed, n, ss⟩ (.keyword .strict :: ts)

/-- **A text denotes a drawing** if its tokens are written by the rules. -/
def Denotes (text : String) (tree : Tree) : Prop :=
  ∃ ts, tokens? text = some ts ∧ Written tree ts

/-! ### What the first token decides -/

namespace Derives

variable {d : Bool} {m : Mark} {ts us : List Token}

theorem not_name_mark {n : Name} : ¬ Derives d (.name n) (.mark m :: ts) us := by
  intro h
  cases h with
  | quotedName h => cases h

theorem not_name_keyword {n : Name} {k : Keyword} :
    ¬ Derives d (.name n) (.keyword k :: ts) us := by
  intro h
  cases h with
  | quotedName h => cases h

theorem not_group_mark {n : Option Name} {ss : List Statement} (hm : m ≠ .openBrace) :
    ¬ Derives d (.group n ss) (.mark m :: ts) us := by
  intro h
  cases h
  exact hm rfl

theorem not_endpoint_mark {e : End} (hm : m ≠ .openBrace) :
    ¬ Derives d (.endpoint e) (.mark m :: ts) us := by
  intro h
  cases h with
  | nodeEnd hname => exact not_name_mark hname
  | groupEnd h => exact not_group_mark hm h

/-- **No statement** begins with a mark other than a brace. -/
theorem not_statement_mark {s : Statement} (hm : m ≠ .openBrace) :
    ¬ Derives d (.statement s) (.mark m :: ts) us := by
  intro h
  cases h with
  | node hname => exact not_name_mark hname
  | edge hsource => exact not_endpoint_mark hm hsource
  | assign hkey => exact not_name_mark hkey
  | group h => exact not_group_mark hm h

theorem statements_mark {ss : List Statement} (hm : m ≠ .openBrace)
    (h : Derives d (.statements ss) (.mark m :: ts) us) : ss = [] ∧ us = .mark m :: ts := by
  cases h with
  | noStatement => exact ⟨rfl, rfl⟩
  | statement h => exact absurd h (not_statement_mark hm)

theorem settings_mark {as : List Setting} (h : Derives d (.settings as) (.mark m :: ts) us) :
    as = [] ∧ us = .mark m :: ts := by
  cases h with
  | noSetting => exact ⟨rfl, rfl⟩
  | setting hkey => exact absurd hkey not_name_mark

theorem port_ne {t : Token} (ht : t ≠ .mark .colon) {ps : List Name}
    (h : Derives d (.port ps) (t :: ts) us) : ps = [] ∧ us = t :: ts := by
  cases h with
  | noPort => exact ⟨rfl, rfl⟩
  | port => exact absurd rfl ht
  | portSide => exact absurd rfl ht

theorem attributes_ne {t : Token} (ht : t ≠ .mark .openBracket) {as : List Setting}
    (h : Derives d (.attributes as) (t :: ts) us) : as = [] ∧ us = t :: ts := by
  cases h with
  | noBrackets => exact ⟨rfl, rfl⟩
  | brackets => exact absurd rfl ht

end Derives

/-! ### Atoms -/

/-- **Atoms**: names of one token. -/
inductive Atom where
  | word (s : String)
  | quoted (s : String)
  deriving DecidableEq, Repr

namespace Atom

/-- The token of an atom. -/
def token : Atom → Token
  | word s => .word s
  | quoted s => .quoted s

/-- The name that it is. -/
def name : Atom → Name
  | word s => .text s
  | quoted s => .text s

variable {d : Bool} {a : Atom} {t : Token} {ts us : List Token}

theorem token_ne_mark {m : Mark} : a.token ≠ .mark m := by
  cases a <;> nofun

theorem token_ne_keyword {k : Keyword} : a.token ≠ .keyword k := by
  cases a <;> nofun

/-- **An atom is a name** by itself, if no plus sign adds to it. -/
theorem derives_iff (ht : t ≠ .mark .plus) {n : Name} :
    Derives d (.name n) (a.token :: t :: ts) us ↔ n = a.name ∧ us = t :: ts := by
  constructor
  · intro h
    cases a with
    | word s =>
      cases h with
      | wordName => exact ⟨rfl, rfl⟩
      | quotedName h => cases h
    | quoted s =>
      cases h with
      | quotedName h =>
        cases h with
        -- nothing is joined to the text, so it is the whole name
        | lastQuoted => exact ⟨rfl, rfl⟩
        | moreQuoted => exact absurd rfl ht
  · rintro ⟨rfl, rfl⟩
    cases a with
    | word s => exact .wordName
    | quoted s => exact .quotedName .lastQuoted

theorem not_group {n : Option Name} {ss : List Statement} :
    ¬ Derives d (.group n ss) (a.token :: ts) us := by
  intro h
  cases a <;> cases h

theorem endpoint_iff (ht : t ∉ [.mark .plus, .mark .colon]) {e : End} :
    Derives d (.endpoint e) (a.token :: t :: ts) us ↔ e = .node a.name [] ∧ us = t :: ts := by
  simp only [List.mem_cons, List.not_mem_nil, or_false, not_or] at ht
  constructor
  · intro h
    cases h with
    | nodeEnd hname hport =>
      obtain ⟨rfl, rfl⟩ := (derives_iff ht.1).mp hname
      obtain ⟨rfl, rfl⟩ := hport.port_ne ht.2
      exact ⟨rfl, rfl⟩
    | groupEnd h => exact absurd h not_group
  · rintro ⟨rfl, rfl⟩
    exact .nodeEnd ((derives_iff ht.1).mpr ⟨rfl, rfl⟩) .noPort

end Atom

/-! ### Settings in brackets -/

/-- Settings of atoms. -/
def settingsOf (as : List (Atom × Atom)) : List Setting :=
  as.map fun a => (a.1.name, a.2.name)

/-- **Settings with commas between them**, and the bracket behind them. -/
def bracketed : List (Atom × Atom) → List Token
  | [] => [.mark .closeBracket]
  | [(key, value)] => [key.token, .mark .equals, value.token, .mark .closeBracket]
  | (key, value) :: a :: as =>
    key.token :: .mark .equals :: value.token :: .mark .comma :: bracketed (a :: as)

section Settings

variable {d : Bool} {ts us : List Token}

/-- **A setting of atoms** in front of settings that a bracket ends. -/
theorem setting_iff {key value : Atom} {m : Mark} (hm : m ≠ .plus) {as : List Setting} :
    Derives d (.settings as) (key.token :: .mark .equals :: value.token :: .mark m :: ts)
        (.mark .closeBracket :: us) ↔
      ∃ bs vs, as = (key.name, value.name) :: bs ∧ Skips [.semicolon, .comma] (.mark m :: ts) vs ∧
        Derives d (.settings bs) vs (.mark .closeBracket :: us) := by
  have hplus : Token.mark m ≠ .mark .plus := fun h => hm (Token.mark.inj h)
  constructor
  · intro h
    -- the tokens have to be a variable for the derivation to be taken apart
    generalize htokens : key.token :: _ = tokens at h
    cases h with
    | noSetting => exact absurd (List.cons.inj htokens).1 Atom.token_ne_mark
    | setting hkey hvalue hmark hmore =>
      subst htokens
      obtain ⟨rfl, hvalues⟩ := (Atom.derives_iff (by nofun)).mp hkey
      obtain rfl := (List.cons.inj hvalues).2
      obtain ⟨rfl, rfl⟩ := (Atom.derives_iff hplus).mp hvalue
      exact ⟨_, _, rfl, hmark, hmore⟩
  · rintro ⟨bs, vs, rfl, hmark, hmore⟩
    exact .setting ((Atom.derives_iff (by nofun)).mpr ⟨rfl, rfl⟩)
      ((Atom.derives_iff hplus).mpr ⟨rfl, rfl⟩) hmark hmore

/-- **Bracketed settings** can be read in only one way. -/
theorem settings_iff (as : List (Atom × Atom)) {bs : List Setting} :
    Derives d (.settings bs) (bracketed as ++ ts) (.mark .closeBracket :: us) ↔
      bs = settingsOf as ∧ us = ts := by
  induction as using bracketed.induct generalizing bs with
  | case1 =>
    constructor
    · intro h
      obtain ⟨rfl, hus⟩ := h.settings_mark
      exact ⟨rfl, (List.cons.inj hus).2⟩
    · rintro ⟨rfl, rfl⟩
      exact .noSetting
  | case2 key value =>
    refine (setting_iff (by nofun)).trans ?_
    constructor
    · rintro ⟨bs, vs, rfl, rfl | ⟨m, hm, hvs⟩, h⟩
      · obtain ⟨rfl, hus⟩ := h.settings_mark
        exact ⟨rfl, (List.cons.inj hus).2⟩
      · obtain rfl := Token.mark.inj (List.cons.inj hvs).1
        exact absurd hm (by decide)
    · rintro ⟨rfl, rfl⟩
      exact ⟨[], _, rfl, .inl rfl, .noSetting⟩
  | case3 key value a as ih =>
    refine (setting_iff (by nofun)).trans ?_
    constructor
    · rintro ⟨bs, vs, rfl, rfl | ⟨m, hm, hvs⟩, h⟩
      · -- a comma that is not skipped would begin a setting
        obtain ⟨-, hus⟩ := h.settings_mark
        exact absurd (Token.mark.inj (List.cons.inj hus).1) nofun
      · obtain rfl := (List.cons.inj hvs).2
        obtain ⟨rfl, rfl⟩ := ih.mp h
        exact ⟨rfl, rfl⟩
    · rintro ⟨rfl, rfl⟩
      exact ⟨_, _, rfl, .inr ⟨.comma, by decide, rfl⟩, ih.mpr ⟨rfl, rfl⟩⟩

theorem attributes_iff (as : List (Atom × Atom)) {t : Token} (ht : t ≠ .mark .openBracket)
    {bs : List Setting} :
    Derives d (.attributes bs) (.mark .openBracket :: (bracketed as ++ t :: ts)) us ↔
      bs = [] ∧ us = .mark .openBracket :: (bracketed as ++ t :: ts) ∨
        bs = settingsOf as ∧ us = t :: ts := by
  constructor
  · intro h
    cases h with
    | noBrackets => exact .inl ⟨rfl, rfl⟩
    | brackets h hmore =>
      obtain ⟨rfl, rfl⟩ := (settings_iff as).mp h
      -- what follows opens no other bracket, so these are all attributes
      obtain ⟨rfl, rfl⟩ := hmore.attributes_ne ht
      exact .inr ⟨List.append_nil _, rfl⟩
  · rintro (⟨rfl, rfl⟩ | ⟨rfl, rfl⟩)
    · exact .noBrackets
    · have hsettings : Derives d (.settings (settingsOf as)) (bracketed as ++ t :: ts)
          (.mark .closeBracket :: t :: ts) := (settings_iff as).mpr ⟨rfl, rfl⟩
      have h := Derives.brackets hsettings .noBrackets
      rwa [List.append_nil] at h

end Settings

/-! ### Statements with semicolons behind them -/

/-- **Settled statements**: the tokens are the statement, if a semicolon follows.  Whatever they
can be read as otherwise leaves a mark that no statement goes on with. -/
structure Settled (d : Bool) (ts : List Token) (s : Statement) : Prop where
  /-- The statement can be read. -/
  derives (us : List Token) : Derives d (.statement s) (ts ++ .mark .semicolon :: us)
    (.mark .semicolon :: us)
  /-- Nothing else can. -/
  only {s' : Statement} {us vs : List Token}
    (h : Derives d (.statement s') (ts ++ .mark .semicolon :: us) vs) :
    s' = s ∧ vs = .mark .semicolon :: us ∨
      ∃ m ws, vs = .mark m :: ws ∧ m ∉ [.openBrace, .closeBrace, .semicolon]

section Statements

variable {d : Bool} {ts us vs : List Token} {s : Statement}

theorem statement_iff (h : Settled d ts s) {ss : List Statement} :
    Derives d (.statements ss) (ts ++ .mark .semicolon :: us) (.mark .closeBrace :: vs) ↔
      ∃ rest, ss = s :: rest ∧ Derives d (.statements rest) us (.mark .closeBrace :: vs) := by
  constructor
  · intro hss
    generalize htokens : ts ++ _ = tokens at hss
    cases hss with
    | noStatement =>
      -- then the statement would begin with the closing brace
      have hmark := h.derives us
      rw [htokens] at hmark
      exact absurd hmark (Derives.not_statement_mark nofun)
    | statement hs hmark hmore =>
      subst htokens
      obtain ⟨rfl, rfl⟩ | ⟨m, ws, rfl, hm⟩ := h.only hs
      · obtain rfl | ⟨m, -, hws⟩ := hmark
        · -- a semicolon that is not skipped would begin a statement
          obtain ⟨-, hvs⟩ := hmore.statements_mark (by nofun)
          exact absurd (Token.mark.inj (List.cons.inj hvs).1) nofun
        · obtain rfl := (List.cons.inj hws).2
          exact ⟨_, rfl, hmore⟩
      · -- nor does any statement begin with what is left otherwise
        simp only [List.mem_cons, List.not_mem_nil, or_false, not_or] at hm
        obtain rfl | ⟨m', hm', hws⟩ := hmark
        · obtain ⟨-, hvs⟩ := hmore.statements_mark hm.1
          exact absurd (Token.mark.inj (List.cons.inj hvs).1).symm hm.2.1
        · obtain rfl := Token.mark.inj (List.cons.inj hws).1
          exact absurd (List.mem_singleton.mp hm') hm.2.2
  · rintro ⟨rest, rfl, hrest⟩
    exact .statement (h.derives us) (.inr ⟨.semicolon, List.mem_singleton.mpr rfl, rfl⟩) hrest

/-- Statements with semicolons behind them. -/
def ended (tss : List (List Token)) : List (List Token) :=
  tss.map (· ++ [.mark .semicolon])

theorem ended_append (tss uss : List (List Token)) :
    ended (tss ++ uss) = ended tss ++ ended uss :=
  List.map_append

/-- **Settled statements in a row** can be read in only one way. -/
theorem statements_iff {tss : List (List Token)} {ss ss' : List Statement}
    (h : List.Forall₂ (Settled d) tss ss) :
    Derives d (.statements ss') ((ended tss).flatten ++ .mark .closeBrace :: us)
        (.mark .closeBrace :: vs) ↔ ss' = ss ∧ us = vs := by
  induction h generalizing ss' with
  | nil =>
    constructor
    · intro hss
      obtain ⟨rfl, hvs⟩ := hss.statements_mark (by nofun)
      exact ⟨rfl, ((List.cons.inj hvs).2).symm⟩
    · rintro ⟨rfl, rfl⟩
      exact .noStatement
  | @cons ts s tss ss hs _ ih =>
    -- a semicolon ends the first statement, and the others are behind it
    have htokens : (ended (ts :: tss)).flatten ++ .mark .closeBrace :: us =
        ts ++ .mark .semicolon :: ((ended tss).flatten ++ .mark .closeBrace :: us) := by
      rw [ended, List.map_cons, List.flatten_cons, ← ended, List.append_assoc, List.append_assoc,
        List.singleton_append]
    rw [htokens, statement_iff hs]
    constructor
    · rintro ⟨rest, rfl, hrest⟩
      obtain ⟨rfl, rfl⟩ := ih.mp hrest
      exact ⟨rfl, rfl⟩
    · rintro ⟨rfl, rfl⟩
      exact ⟨_, rfl, ih.mpr ⟨rfl, rfl⟩⟩

/-! ### Four forms of statements -/

variable {a b : Atom} {t : Token}

/-- A statement that begins with an atom is a node, an edge or a setting. -/
theorem Atom.statement_cases (ht : t ∉ [.mark .plus, .mark .colon])
    (h : Derives d (.statement s) (a.token :: t :: ts) us) :
    (∃ as, s = .node a.name [] as ∧ Derives d (.attributes as) (t :: ts) us) ∨
    (∃ es as vs, s = .edge (.node a.name []) es as ∧ Derives d (.targets es) (t :: ts) vs ∧
      Derives d (.attributes as) vs us) ∨
    ∃ v, t = .mark .equals ∧ s = .assign (a.name, v) ∧ Derives d (.name v) ts us := by
  -- the atom is joined to nothing, and it has no port
  have hends : t ≠ .mark .plus ∧ t ≠ .mark .colon := by
    simpa only [List.mem_cons, List.not_mem_nil, or_false, not_or] using ht
  generalize htokens : a.token :: t :: ts = tokens at h
  cases h with
  | node hname hport h =>
    subst htokens
    obtain ⟨rfl, rfl⟩ := (Atom.derives_iff hends.1).mp hname
    obtain ⟨rfl, rfl⟩ := hport.port_ne hends.2
    exact .inl ⟨_, rfl, h⟩
  | edge hsource htargets h =>
    subst htokens
    obtain ⟨rfl, rfl⟩ := (Atom.endpoint_iff ht).mp hsource
    exact .inr (.inl ⟨_, _, _, rfl, htargets, h⟩)
  | defaults => exact absurd (List.cons.inj htokens).1 Atom.token_ne_keyword
  | assign hkey hvalue =>
    subst htokens
    obtain ⟨rfl, hrest⟩ := (Atom.derives_iff hends.1).mp hkey
    obtain ⟨rfl, rfl⟩ := List.cons.inj hrest
    exact .inr (.inr ⟨_, rfl, rfl, hvalue⟩)
  | group h =>
    subst htokens
    exact absurd h Atom.not_group

theorem targets_head {es : List End} (h : Derives d (.targets es) (t :: ts) us) :
    t = .mark (edgeMark d) := by
  cases h with
  | lastTarget hmark => rw [hmark]
  | moreTargets hmark => rw [hmark]

/-- **One target**, if nothing adds to it. -/
theorem targets_iff (ht : t ∉ [.mark .plus, .mark .colon, .mark .arrow, .mark .line])
    {es : List End} :
    Derives d (.targets es) (.mark (edgeMark d) :: b.token :: t :: ts) us ↔
      es = [.node b.name []] ∧ us = t :: ts := by
  have hend : t ∉ [.mark .plus, .mark .colon] := fun h => ht (by
    simp only [List.mem_cons, List.not_mem_nil, or_false] at h ⊢
    tauto)
  constructor
  · intro h
    generalize htokens : Token.mark (edgeMark d) :: _ = tokens at h
    cases h with
    | lastTarget _ h =>
      obtain rfl := (List.cons.inj htokens).2
      obtain ⟨rfl, rfl⟩ := (Atom.endpoint_iff hend).mp h
      exact ⟨rfl, rfl⟩
    | moreTargets _ h hmore =>
      obtain rfl := (List.cons.inj htokens).2
      obtain ⟨rfl, rfl⟩ := (Atom.endpoint_iff hend).mp h
      -- another target would need another mark of edges
      have hmem : t ∈ [.mark .plus, .mark .colon, .mark .arrow, .mark .line] := by
        rw [targets_head hmore]
        cases d <;> decide
      exact absurd hmem ht
  · rintro ⟨rfl, rfl⟩
    exact .lastTarget rfl ((Atom.endpoint_iff hend).mpr ⟨rfl, rfl⟩)

/-- **A setting for the graph.** -/
theorem settled_assign :
    Settled d [a.token, .mark .equals, b.token] (.assign (a.name, b.name)) where
  derives us := .assign ((Atom.derives_iff (by nofun)).mpr ⟨rfl, rfl⟩)
    ((Atom.derives_iff (by nofun)).mpr ⟨rfl, rfl⟩)
  only h := by
    -- an equals sign can only belong to an assignment
    obtain ⟨_, rfl, hattributes⟩ | ⟨_, _, _, -, htargets, -⟩ | ⟨_, -, rfl, hvalue⟩ :=
      Atom.statement_cases (by decide) h
    · obtain ⟨-, rfl⟩ := hattributes.attributes_ne (by nofun)
      exact .inr ⟨_, _, rfl, by decide⟩
    · cases d <;> exact absurd (targets_head htargets) (by decide)
    · obtain ⟨rfl, rfl⟩ := (Atom.derives_iff (by nofun)).mp hvalue
      exact .inl ⟨rfl, rfl⟩

/-- **Settings for whatever follows.** -/
theorem settled_defaults {k : Keyword} (hkind : k ∈ [.graph, .node, .edge])
    (as : List (Atom × Atom)) :
    Settled d (.keyword k :: .mark .openBracket :: bracketed as) (.defaults k (settingsOf as)) where
  derives us := by
    have hsettings : Derives d (.settings (settingsOf as))
        (bracketed as ++ .mark .semicolon :: us) (.mark .closeBracket :: .mark .semicolon :: us) :=
      (settings_iff as).mpr ⟨rfl, rfl⟩
    have h := Derives.defaults hkind hsettings .noBrackets
    rwa [List.append_nil] at h
  only {s' us vs} h := by
    -- the keyword of groups is another one
    have hgroup {n : Option Name} {ss : List Statement} {ts us : List Token} :
        ¬ Derives d (.group n ss) (.keyword k :: ts) us := by
      intro h
      cases h
      exact absurd hkind (by decide)
    cases h with
    | node hname => exact absurd hname Derives.not_name_keyword
    | edge hsource =>
      cases hsource with
      | nodeEnd hname => exact absurd hname Derives.not_name_keyword
      | groupEnd h => exact absurd h hgroup
    | defaults _ h hmore =>
      obtain ⟨rfl, rfl⟩ := (settings_iff as).mp h
      obtain ⟨rfl, rfl⟩ := hmore.attributes_ne (by nofun)
      exact .inl ⟨by rw [List.append_nil], rfl⟩
    | assign hkey => exact absurd hkey Derives.not_name_keyword
    | group h => exact absurd h hgroup

/-- **A node.** -/
theorem settled_node (as : List (Atom × Atom)) :
    Settled d (a.token :: .mark .openBracket :: bracketed as)
      (.node a.name [] (settingsOf as)) where
  derives us := .node ((Atom.derives_iff (by nofun)).mpr ⟨rfl, rfl⟩) .noPort
    ((attributes_iff as (by nofun)).mpr (.inr ⟨rfl, rfl⟩))
  only h := by
    obtain ⟨_, rfl, hattributes⟩ | ⟨_, _, _, -, htargets, -⟩ | ⟨_, hequals, -⟩ :=
      Atom.statement_cases (by decide) h
    · obtain ⟨-, rfl⟩ | ⟨rfl, rfl⟩ := (attributes_iff as (by nofun)).mp hattributes
      · -- the node without its settings leaves a bracket
        exact .inr ⟨_, _, rfl, by decide⟩
      · exact .inl ⟨rfl, rfl⟩
    · cases d <;> exact absurd (targets_head htargets) (by decide)
    · exact absurd hequals (by decide)

/-- **An edge with a direction.** -/
theorem settled_edge (as : List (Atom × Atom)) :
    Settled true (a.token :: .mark .arrow :: b.token :: .mark .openBracket :: bracketed as)
      (.edge (.node a.name []) [.node b.name []] (settingsOf as)) where
  derives us := .edge ((Atom.endpoint_iff (by decide)).mpr ⟨rfl, rfl⟩)
    ((targets_iff (by decide)).mpr ⟨rfl, rfl⟩)
    ((attributes_iff as (by nofun)).mpr (.inr ⟨rfl, rfl⟩))
  only h := by
    obtain ⟨_, rfl, hattributes⟩ | ⟨_, _, _, rfl, htargets, hattributes⟩ | ⟨_, hequals, -⟩ :=
      Atom.statement_cases (by decide) h
    · -- the source taken for a node leaves the arrow
      obtain ⟨-, rfl⟩ := hattributes.attributes_ne (by nofun)
      exact .inr ⟨_, _, rfl, by decide⟩
    · obtain ⟨rfl, rfl⟩ := (targets_iff (by decide)).mp htargets
      obtain ⟨-, rfl⟩ | ⟨rfl, rfl⟩ := (attributes_iff as (by nofun)).mp hattributes
      · exact .inr ⟨_, _, rfl, by decide⟩
      · exact .inl ⟨rfl, rfl⟩
    · exact absurd hequals (by decide)

end Statements

/-! ### Drawings -/

/-- **A directed drawing** of settled statements can be read in only one way. -/
theorem written_iff {name : String} {tss : List (List Token)} {ss : List Statement}
    (h : List.Forall₂ (Settled true) tss ss) {tree : Tree} :
    Written tree (.keyword .digraph :: .word name :: .mark .openBrace ::
        ((ended tss).flatten ++ [.mark .closeBrace])) ↔
      tree = ⟨false, true, some (.text name), ss⟩ := by
  constructor
  · intro hw
    cases hw with
    | directed htitle hss =>
      -- the title is the word that follows, as a name without one does not begin so
      generalize htokens : Token.word name :: _ = tokens at htitle
      cases htitle with
      | untitled => exact absurd (List.cons.inj htokens).1 nofun
      | titled hname =>
        subst htokens
        obtain ⟨rfl, hus⟩ := (Atom.derives_iff (a := .word name) (by nofun)).mp hname
        obtain rfl := (List.cons.inj hus).2
        obtain ⟨rfl, -⟩ := (statements_iff h).mp hss
        rfl
  · rintro rfl
    exact .directed (.titled .wordName) ((statements_iff h).mpr ⟨rfl, rfl⟩)

/-- **No drawing** has a keyword for a name. -/
theorem not_written {tree : Tree} {k : Keyword} {ts : List Token} :
    ¬ Written tree (.keyword .digraph :: .keyword k :: ts) := by
  intro hw
  cases hw with
  | directed htitle =>
    cases htitle with
    | titled hname => exact absurd hname Derives.not_name_keyword

end Automaton.Dot
