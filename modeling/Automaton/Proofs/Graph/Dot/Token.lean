import Automaton.Proofs.Name

/-!
# Tokens of DOT

How a text in the language of drawings is cut into tokens.  A scanner reads the text character by
character and is always in a `Mode`: between tokens, within one, or within a comment.  A character
may complete a token, and so may the end of the text.

* **Words** are identifiers, in which all characters beyond ASCII count as letters, and numbers.
  The words of `Keyword` are keywords, however their letters are cased.
* **Quoted texts** are those between double quotes.  A backslash in front of a quote escapes it, one
  in front of a line feed continues the line, and all others stand for themselves.
* **Markup** stands between angle brackets, which may be nested.
* **Marks** are the remaining signs of the grammar.

Blanks and comments are passed over, and so are lines that begin with a number sign.

Scanning goes piece by piece (`Dot.run_append`), so a text is scanned by scanning its fixed pieces,
which is a computation, and the names within it (`Dot.run_enclosed`, `Dot.run_name`).
-/

namespace Automaton.Dot

/-- **Keywords.** -/
inductive Keyword where
  | strict
  | graph
  | digraph
  | node
  | edge
  | subgraph
  deriving DecidableEq, Repr

namespace Keyword

/-- The word of a keyword. -/
def word : Keyword → String
  | strict => "strict"
  | graph => "graph"
  | digraph => "digraph"
  | node => "node"
  | edge => "edge"
  | subgraph => "subgraph"

/-- All of them. -/
def all : List Keyword := [strict, graph, digraph, node, edge, subgraph]

theorem mem_all (k : Keyword) : k ∈ all := by
  cases k <;> decide

theorem eq_of_sameUpToCase {k l : Keyword} (h : Text.SameUpToCase k.word l.word) : k = l := by
  cases k <;> cases l <;> first | rfl | exact absurd h (by unfold Text.SameUpToCase; decide)

end Keyword

/-- **Marks.** -/
inductive Mark where
  | openBrace
  | closeBrace
  | openBracket
  | closeBracket
  | semicolon
  | comma
  | equals
  | colon
  | plus
  | arrow
  | line
  deriving DecidableEq, Repr

/-- **Tokens.** -/
inductive Token where
  /-- An identifier that is no keyword, or a number. -/
  | word (text : String)
  /-- A text in quotes. -/
  | quoted (text : String)
  /-- Markup, without its outer brackets. -/
  | markup (text : String)
  /-- A keyword. -/
  | keyword (k : Keyword)
  /-- A mark. -/
  | mark (m : Mark)
  deriving DecidableEq, Repr

/-! ### The scanner -/

/-- **Where the scanner is.**  What it has read of a token is kept backwards. -/
inductive Mode where
  /-- Between tokens, perhaps at the beginning of a line. -/
  | between (fresh : Bool)
  /-- In an identifier. -/
  | word (read : List Char)
  /-- In a number, before its point. -/
  | whole (read : List Char)
  /-- In a number, at a point without a digit. -/
  | point (read : List Char)
  /-- In a number, behind its point. -/
  | fraction (read : List Char)
  /-- Behind a dash, which begins a number or connects nodes. -/
  | dash
  /-- Behind a slash, which begins a comment. -/
  | slash
  /-- In a comment that ends with the line. -/
  | lineComment
  /-- In a comment that ends with a star and a slash. -/
  | comment
  /-- In such a comment, behind a star. -/
  | star
  /-- In quotes. -/
  | quoted (read : List Char)
  /-- In quotes, behind a backslash. -/
  | escaped (read : List Char)
  /-- In markup, with so many brackets open besides the outer one. -/
  | markup (depth : Nat) (read : List Char)
  deriving DecidableEq, Repr

/-- The characters that identifiers begin with. -/
def isLetter (c : Char) : Bool :=
  c.isAlpha || c == '_' || 0x80 ≤ c.toNat

/-- The mark that a character is by itself. -/
def mark? : Char → Option Mark
  | '\x7b' => some .openBrace
  | '\x7d' => some .closeBrace
  | '[' => some .openBracket
  | ']' => some .closeBracket
  | ';' => some .semicolon
  | ',' => some .comma
  | '=' => some .equals
  | ':' => some .colon
  | '+' => some .plus
  | _ => none

/-- The keyword that a word is in some case. -/
def keyword? (read : List Char) : Option Keyword :=
  Keyword.all.find? fun k => read.map Char.toLower == k.word.toList.map Char.toLower

/-- The token of an identifier. -/
def wordToken (read : List Char) : Token :=
  match keyword? read with
  | some k => .keyword k
  | none => .word (String.ofList read)

/-- **A character between tokens.** -/
def opens (fresh : Bool) (c : Char) : Option (List Token × Mode) :=
  if c = '\n' then some ([], .between true)
  else if c = ' ' ∨ c = '\t' ∨ c = '\r' then some ([], .between false)
  else if c = '#' ∧ fresh = true then some ([], .lineComment)
  else if c = '/' then some ([], .slash)
  else if c = '"' then some ([], .quoted [])
  else if c = '<' then some ([], .markup 0 [])
  else if c = '-' then some ([], .dash)
  else if c = '.' then some ([], .point ['.'])
  else if isLetter c then some ([], .word [c])
  else if c.isDigit then some ([], .whole [c])
  else (mark? c).map fun m => ([.mark m], .between false)

/-- A character behind a token that goes on as long as it can. -/
def closes (t : Token) (c : Char) : Option (List Token × Mode) :=
  (opens false c).map fun r => (t :: r.1, r.2)

/-- **One character**: the tokens that it completes, and where the scanner is then. -/
def step : Mode → Char → Option (List Token × Mode)
  | .between fresh, c => opens fresh c
  | .word read, c =>
    if isLetter c || c.isDigit then some ([], .word (c :: read))
    else closes (wordToken read.reverse) c
  | .whole read, c =>
    if c.isDigit then some ([], .whole (c :: read))
    else if c = '.' then some ([], .fraction ('.' :: read))
    else closes (.word (String.ofList read.reverse)) c
  | .point read, c => if c.isDigit then some ([], .fraction (c :: read)) else none
  | .fraction read, c =>
    if c.isDigit then some ([], .fraction (c :: read))
    else closes (.word (String.ofList read.reverse)) c
  | .dash, c =>
    if c = '>' then some ([.mark .arrow], .between false)
    else if c = '-' then some ([.mark .line], .between false)
    else if c = '.' then some ([], .point ['.', '-'])
    else if c.isDigit then some ([], .whole [c, '-'])
    else none
  | .slash, c =>
    if c = '/' then some ([], .lineComment)
    else if c = '*' then some ([], .comment)
    else none
  | .lineComment, c => some ([], if c = '\n' then .between true else .lineComment)
  | .comment, c => some ([], if c = '*' then .star else .comment)
  | .star, c =>
    some ([], if c = '/' then .between false else if c = '*' then .star else .comment)
  | .quoted read, c =>
    if c = '"' then some ([.quoted (String.ofList read.reverse)], .between false)
    else if c = '\\' then some ([], .escaped read)
    else some ([], .quoted (c :: read))
  | .escaped read, c =>
    if c = '"' then some ([], .quoted ('"' :: read))
    else if c = '\n' then some ([], .quoted read)
    else some ([], .quoted (c :: '\\' :: read))
  | .markup depth read, c =>
    if c = '<' then some ([], .markup (depth + 1) (c :: read))
    else if c = '>' then
      match depth with
      | 0 => some ([.markup (String.ofList read.reverse)], .between false)
      | depth + 1 => some ([], .markup depth (c :: read))
    else some ([], .markup depth (c :: read))

/-- **Some characters** in a row. -/
def run (m : Mode) : List Char → Option (List Token × Mode)
  | [] => some ([], m)
  | c :: cs => do
    let (ts, m') ← step m c
    let (us, m'') ← run m' cs
    pure (ts ++ us, m'')

/-- **The end of the text**: the token that it completes, if the text may end here. -/
def finish : Mode → Option (List Token)
  | .between _ => some []
  | .lineComment => some []
  | .word read => some [wordToken read.reverse]
  | .whole read => some [.word (String.ofList read.reverse)]
  | .fraction read => some [.word (String.ofList read.reverse)]
  | _ => none

/-- **The tokens of a text**, if it can be cut into tokens. -/
def tokens? (text : String) : Option (List Token) := do
  let (ts, m) ← run (.between true) text.toList
  let us ← finish m
  pure (ts ++ us)

/-! ### Piece by piece -/

theorem run_cons {m m' m'' : Mode} {c : Char} {cs : List Char} {ts us : List Token}
    (hstep : step m c = some (ts, m')) (hrun : run m' cs = some (us, m'')) :
    run m (c :: cs) = some (ts ++ us, m'') := by
  rw [run, hstep]
  show (do let (us, m'') ← run m' cs; pure (ts ++ us, m'')) = _
  rw [hrun]
  rfl

/-- **Scanning goes piece by piece.** -/
theorem run_append {m m' m'' : Mode} {as bs : List Char} {ts us : List Token}
    (ha : run m as = some (ts, m')) (hb : run m' bs = some (us, m'')) :
    run m (as ++ bs) = some (ts ++ us, m'') := by
  induction as generalizing m ts with
  | nil =>
    obtain ⟨rfl, rfl⟩ := Prod.mk.inj (Option.some.inj ha)
    exact hb
  | cons c as ih =>
    -- the first character is scanned as before, and the others are a shorter piece
    obtain ⟨⟨ts₁, m₁⟩, hstep, ha⟩ := Option.bind_eq_some_iff.mp ha
    obtain ⟨⟨ts₂, m₂⟩, hrun, ha⟩ := Option.bind_eq_some_iff.mp ha
    obtain ⟨rfl, rfl⟩ := Prod.mk.inj (Option.some.inj ha)
    rw [List.cons_append, run_cons hstep (ih hrun), List.append_assoc]

/-- **Plain texts**, which stand for themselves between quotes. -/
def Plain (s : String) : Prop :=
  '"' ∉ s.toList ∧ '\\' ∉ s.toList

instance (s : String) : Decidable (Plain s) :=
  inferInstanceAs (Decidable (_ ∧ _))

theorem run_quoted {cs : List Char} (hquote : '"' ∉ cs) (hescape : '\\' ∉ cs) (read : List Char) :
    run (.quoted read) cs = some ([], .quoted (cs.reverse ++ read)) := by
  induction cs generalizing read with
  | nil => rfl
  | cons c cs ih =>
    -- neither sign is met, so the character is one of the text
    have hstep : step (.quoted read) c = some ([], .quoted (c :: read)) := by
      rw [step, if_neg (List.ne_of_not_mem_cons hquote).symm,
        if_neg (List.ne_of_not_mem_cons hescape).symm]
    have hrest := ih (List.not_mem_of_not_mem_cons hquote) (List.not_mem_of_not_mem_cons hescape)
    rw [run_cons hstep (hrest _), List.reverse_cons, List.append_assoc, List.singleton_append,
      List.nil_append]

/-- **A plain text in quotes** ends at the quote behind it. -/
theorem run_enclosed {s : String} (h : Plain s) {cs : List Char} {ts : List Token} {m : Mode}
    (hrest : run (.between false) cs = some (ts, m)) :
    run (.quoted []) (s.toList ++ '"' :: cs) = some (.quoted s :: ts, m) := by
  have hquote : step (.quoted (s.toList.reverse ++ [])) '"' =
      some ([.quoted (String.ofList (s.toList.reverse ++ []).reverse)], .between false) := rfl
  rw [List.append_nil, List.reverse_reverse, String.ofList_toList,
    ← List.append_nil s.toList.reverse] at hquote
  exact run_append (run_quoted h.1 h.2 []) (run_cons hquote hrest)

/-- **An identifier** goes on as long as there are characters of identifiers. -/
theorem run_word {cs : List Char} (h : ∀ c ∈ cs, Identifier.isPart c = true) (read : List Char) :
    run (.word read) cs = some ([], .word (cs.reverse ++ read)) := by
  induction cs generalizing read with
  | nil => rfl
  | cons c cs ih =>
    obtain ⟨hpart, hrest⟩ := List.forall_mem_cons.mp h
    -- what goes on in an identifier goes on in a word
    have hletter : (isLetter c || c.isDigit) = true := by
      simp only [Identifier.isPart, Char.isAlphanum, Bool.or_eq_true, beq_iff_eq] at hpart
      simp only [isLetter, Bool.or_eq_true, beq_iff_eq]
      tauto
    have hstep : step (.word read) c = some ([], .word (c :: read)) := by
      rw [step, if_pos hletter]
    rw [run_cons hstep (ih hrest _), List.reverse_cons, List.append_assoc, List.singleton_append,
      List.nil_append]

theorem opens_letter {c : Char} (h : Identifier.isStart c = true) (fresh : Bool) :
    opens fresh c = some ([], .word [c]) := by
  have hne : ∀ d, Identifier.isStart d = false → c ≠ d := by
    rintro d hd rfl
    exact Bool.false_ne_true (hd.symm.trans h)
  have hletter : isLetter c = true := by
    rw [isLetter, ← Identifier.isStart, h, Bool.true_or]
  -- a letter is none of the characters that are asked for before letters are
  have hblank : ¬ (c = ' ' ∨ c = '\t' ∨ c = '\r') := by
    rintro (hc | hc | hc) <;> exact hne _ rfl hc
  have hsign : ¬ (c = '#' ∧ fresh = true) := fun hc => hne '#' rfl hc.1
  rw [opens, if_neg (hne '\n' rfl), if_neg hblank, if_neg hsign, if_neg (hne '/' rfl),
    if_neg (hne '"' rfl), if_neg (hne '<' rfl), if_neg (hne '-' rfl), if_neg (hne '.' rfl),
    if_pos hletter]

/-- **A name between blanks** is a token by itself. -/
theorem run_name {name : String} (h : Identifier.valid name = true) (fresh : Bool) :
    run (.between fresh) (name.toList ++ [' ']) =
      some ([wordToken name.toList], .between false) := by
  unfold Identifier.valid at h
  cases hname : name.toList with
  | nil =>
    rw [hname] at h
    exact absurd h Bool.false_ne_true
  | cons c cs =>
    rw [hname, Identifier.validList, Bool.and_eq_true, List.all_eq_true] at h
    have hstep : step (.between fresh) c = some ([], .word [c]) := opens_letter h.1 fresh
    have hword := run_cons hstep (run_word h.2 [c])
    -- the blank ends the word, whose letters were kept in reverse
    have hblank : run (.word (cs.reverse ++ [c])) [' '] =
        some ([wordToken (c :: cs)], .between false) := by
      rw [← List.reverse_cons]
      conv_rhs => rw [← List.reverse_reverse (c :: cs)]
      rfl
    exact run_append hword hblank

theorem sameUpToCase_of_keyword? {name : String} {k : Keyword}
    (h : keyword? name.toList = some k) : Text.SameUpToCase name k.word := by
  rw [keyword?] at h
  have hsame := List.find?_some h
  exact beq_iff_eq.mp hsame

/-- **Keywords** are the words that are the same in some case. -/
theorem keyword?_eq_some_iff {name : String} {k : Keyword} :
    keyword? name.toList = some k ↔ Text.SameUpToCase name k.word := by
  refine ⟨sameUpToCase_of_keyword?, fun h => ?_⟩
  have hfound : (keyword? name.toList).isSome := by
    rw [keyword?, List.find?_isSome]
    exact ⟨k, k.mem_all, beq_iff_eq.mpr h⟩
  obtain ⟨l, hl⟩ := Option.isSome_iff_exists.mp hfound
  have hsame := sameUpToCase_of_keyword? hl
  rw [hl, Keyword.eq_of_sameUpToCase (hsame.symm.trans h)]

theorem wordToken_eq_word {name : String} (h : ∀ k : Keyword, ¬ Text.SameUpToCase name k.word) :
    wordToken name.toList = .word name := by
  have hnone : keyword? name.toList = none :=
    Option.eq_none_iff_forall_ne_some.mpr fun k hk => h k (keyword?_eq_some_iff.mp hk)
  rw [wordToken, hnone, String.ofList_toList]

end Automaton.Dot
