import Automaton.Filter.Basic

/-!
# Patterns

A *pattern* describes pieces of a text.  `Pattern.ends` lists where a piece may end that begins at
a given place, and `Pattern.find` looks for the first piece of a text.

## Which piece is found

Pieces that begin earlier come first, and of those that begin at one place the longest one is taken.
`Pattern.ends` has the ends in the order in which a greedy reader comes upon them; this decides what
the groups of the piece hold if there are several ways to read it.

A repetition goes on only as long as it consumes something, so that the number of its rounds is
bounded by what is left of the text.
-/

namespace Automaton.Filter

/-- **A condition on a place** in a text, given by the characters around it. -/
inductive Place where
  /-- The beginning of the text, or of any line if lines count. -/
  | lineStart
  /-- The end of the text, or of any line if lines count. -/
  | lineEnd
  /-- The beginning of the text. -/
  | textStart
  /-- The end of the text. -/
  | textEnd
  /-- The beginning of a word. -/
  | wordStart
  /-- The end of a word. -/
  | wordEnd
  /-- Either end of a word. -/
  | wordEdge
  /-- Neither end of a word. -/
  | noWordEdge
  deriving DecidableEq, Repr

/-- **A pattern.** -/
inductive Pattern where
  /-- Nothing at all. -/
  | empty
  /-- One character of some ranges or, if `negated`, of none of them. -/
  | one (ranges : List (Char × Char)) (negated : Bool)
  /-- A place. -/
  | place (p : Place)
  /-- One piece behind the other. -/
  | seq (first second : Pattern)
  /-- One piece or the other. -/
  | either (first second : Pattern)
  /-- Several pieces in a row. -/
  | repeated (p : Pattern) (least : Nat) (most : Option Nat)
  /-- A piece to come back to. -/
  | group (number : Nat) (p : Pattern)
  /-- What a group has held. -/
  | again (number : Nat)
  deriving Repr, Inhabited

namespace Pattern

/-- How texts are read. -/
structure Options where
  /-- Small and capital letters are the same. -/
  ignoreCase : Bool
  /-- Lines within the text have ends of their own. -/
  byLine : Bool
  /-- What ends a line. -/
  lineEnd : Char
  deriving DecidableEq, Repr

/-- **A place in a text**, together with what the groups have held so far. -/
structure Spot where
  /-- How many characters lie before. -/
  position : Nat
  /-- The last character before, if there is one. -/
  before : Option Char
  /-- The characters behind. -/
  rest : Chars
  /-- What the groups have held, each group once. -/
  groups : List (Nat × Chars)
  deriving Repr

/-- Within one text, a spot is known by its position and its groups. -/
instance : BEq Spot where
  beq s t := s.position == t.position && s.groups == t.groups

namespace Spot

/-- The beginning of a text. -/
def start (text : Chars) : Spot :=
  ⟨0, none, text, []⟩

/-- What a group has held. -/
def held (s : Spot) (number : Nat) : Option Chars :=
  s.groups.lookup number

/-- One character further on. -/
def next (s : Spot) : Option (Char × Spot) :=
  match s.rest with
  | [] => none
  | c :: cs => some (c, { s with position := s.position + 1, before := some c, rest := cs })

/-- The text from one spot to a later one. -/
def upTo (s t : Spot) : Chars :=
  s.rest.take (t.position - s.position)

/-- Whether a condition holds. -/
def meets (o : Options) (s : Spot) (p : Place) : Bool :=
  let inWord (c : Option Char) : Bool := c.any isWordPart
  let after := s.rest.head?
  match p with
  | .lineStart => s.before.isNone || (o.byLine && s.before == some o.lineEnd)
  | .lineEnd => after.isNone || (o.byLine && after == some o.lineEnd)
  | .textStart => s.before.isNone
  | .textEnd => after.isNone
  | .wordStart => !inWord s.before && inWord after
  | .wordEnd => inWord s.before && !inWord after
  | .wordEdge => inWord s.before != inWord after
  | .noWordEdge => inWord s.before == inWord after

end Spot

/-- Whether a character lies in some ranges. -/
def inRanges (ranges : List (Char × Char)) (c : Char) : Bool :=
  ranges.any fun r => r.1 ≤ c && c ≤ r.2

/-- Whether a character is one of a set or, with `negated`, one of all others; the end of a line
within the text is none of these. -/
def accepts (o : Options) (ranges : List (Char × Char)) (negated : Bool) (c : Char) : Bool :=
  let hit :=
    if o.ignoreCase then inRanges ranges c || inRanges ranges c.toLower || inRanges ranges c.toUpper
    else inRanges ranges c
  hit != negated && !(o.byLine && negated && c == '\n')

/-- Two characters that count as the same. -/
def same (o : Options) (a b : Char) : Bool :=
  if o.ignoreCase then a.toLower == b.toLower else a == b

/-- Behind a text that has to come next. -/
def behind (o : Options) : Chars → Spot → Option Spot
  | [], s => some s
  | c :: cs, s => match s.next with
    | some (d, t) => if same o c d then behind o cs t else none
    | none => none

/-- Several lists of spots as one, each spot once. -/
def merge : List (List Spot) → List Spot
  | [] => []
  | [spots] => spots
  | lists => lists.flatten.eraseDups

/-- **A walk through the rounds** of a repetition: the spots it has been to, with the number of
rounds that were allowed there, and the spots it has left, the latest first. -/
structure Walk where
  /-- Where the walk has been. -/
  seen : List (Spot × Option Nat)
  /-- Where it need not go on. -/
  left : List Spot

/-- Walks through further rounds, as far as they consume something.  A spot is left only after all
spots behind it, so that longer ways come first; none is entered twice. -/
def walk (step : Spot → List Spot) : Nat → Option Nat → Spot → Walk → Walk
  | 0, _, s, w => { w with left := s :: w.left }
  | fuel + 1, most, s, w =>
    if w.seen.contains (s, most) then w
    else
      -- marked on entry, so that no other way leads here again
      let w := { w with seen := (s, most) :: w.seen }
      let w :=
        if most = some 0 then w
        else ((step s).filter fun t => s.position < t.position).foldl
          (fun w t => walk step fuel (most.map (· - 1)) t w) w
      { w with left := s :: w.left }

/-- The spots after any number of further rounds, those with more rounds first. -/
def rounds (step : Spot → List Spot) (most : Option Nat) (s : Spot) : List Spot :=
  (walk step s.rest.length most s ⟨[], []⟩).left.reverse

/-- The spots after exactly so many rounds. -/
def exactly (step : Spot → List Spot) : Nat → Spot → List Spot
  | 0, s => [s]
  | n + 1, s => merge ((step s).map (exactly step n))

/-- **Where a piece may end** that begins at a spot. -/
def ends (o : Options) : Pattern → Spot → List Spot
  | empty, s => [s]
  | one ranges negated, s => match s.next with
    | some (c, t) => if accepts o ranges negated c then [t] else []
    | none => []
  | place p, s => if s.meets o p then [s] else []
  | seq p q, s => merge ((ends o p s).map (ends o q))
  | either p q, s => merge [ends o p s, ends o q s]
  | repeated p least most, s =>
    merge ((exactly (ends o p) least s).map fun t =>
      rounds (ends o p) (most.map (· - least)) t)
  | group n p, s => (ends o p s).map fun t =>
    { t with groups := (n, s.upTo t) :: t.groups.filter (·.1 ≠ n) }
  | again n, s => match s.held n with
    | some cs => (behind o cs s).toList
    | none => []

/-- The first of the spots that lie furthest on. -/
def furthest : List Spot → Option Spot
  | [] => none
  | s :: spots => match furthest spots with
    | some t => some (if s.position < t.position then t else s)
    | none => some s

/-- **The first piece of a text** from a place on: where it begins and where it ends. -/
def find (o : Options) (p : Pattern) : Chars → Nat → Option Char → Option (Spot × Spot)
  | rest, position, before =>
    let s : Spot := ⟨position, before, rest, []⟩
    -- an earlier piece wins, however short it is
    match furthest (p.ends o s) with
    | some t => some (s, t)
    | none => match rest with
      | [] => none
      | c :: cs => find o p cs (position + 1) (some c)

end Pattern

end Automaton.Filter
