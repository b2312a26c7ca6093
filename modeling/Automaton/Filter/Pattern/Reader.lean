import Automaton.Filter.Pattern.Basic

/-!
# The two notations of patterns

Patterns are written in one of two notations.  In the *basic* one, the signs of grouping, choice and
counting have a backslash in front; in the *extended* one they have none, and a backslash takes
their meaning away.

Reading happens in two steps.  `Pattern.signs` recognises the signs of a notation, and with them
what depends on the neighbours: a star at the beginning of a basic pattern stands for itself, as
does a caret or a dollar sign within one.  `Pattern.ofSigns` then builds the pattern.
-/

namespace Automaton.Filter.Pattern

/-- **A sign** of a notation. -/
inductive Sign where
  /-- Something that is a pattern by itself. -/
  | atom (p : Pattern)
  /-- How often what comes before is repeated. -/
  | count (least : Nat) (most : Option Nat)
  /-- The beginning of a group. -/
  | opening
  /-- The end of a group. -/
  | closing
  /-- A choice. -/
  | bar
  /-- Something that makes no sense; no more is read. -/
  | fault (message : String)
  deriving Repr, Inhabited

/-- The pattern of one character. -/
def char (c : Char) : Pattern :=
  .one [(c, c)] false

/-- The pattern of any character. -/
def anyChar : Pattern :=
  .one [] true

/-- The ranges of the characters of a kind. -/
def rangesOf (p : Char → Bool) : List (Char × Char) :=
  (allChars.filter p).map fun c => (c, c)

/-! ### Sets of characters -/

/-- What stands between a sign behind an opening bracket and the same sign before a closing one. -/
def bracketed (sign : Char) : Chars → Option (Chars × Chars)
  | a :: ']' :: cs =>
    if a = sign then some ([], cs)
    else (bracketed sign (']' :: cs)).map fun r => (a :: r.1, r.2)
  | a :: cs => (bracketed sign cs).map fun r => (a :: r.1, r.2)
  | [] => none

/-- A member of a set of characters: a class, or a character that may begin a range. -/
inductive Member where
  /-- All characters of some ranges. -/
  | many (ranges : List (Char × Char))
  /-- A single character. -/
  | single (c : Char)

/-- The next member of a set and what follows. -/
def member : Chars → Except String (Member × Chars)
  | '[' :: ':' :: cs => match bracketed ':' cs with
    | some (name, cs) => match classes.lookup (String.ofList name) with
      | some p => .ok (.many (rangesOf p), cs)
      | none => .error "Invalid character class name"
    | none => .error "Unmatched [, [^, [:, [., or [="
  | '[' :: '=' :: cs => match bracketed '=' cs with
    | some ([c], cs) => .ok (.many [(c, c)], cs)
    | some _ => .error "Invalid collation character"
    | none => .error "Unmatched [, [^, [:, [., or [="
  | '[' :: '.' :: cs => match bracketed '.' cs with
    | some ([c], cs) => .ok (.single c, cs)
    | some _ => .error "Invalid collation character"
    | none => .error "Unmatched [, [^, [:, [., or [="
  | '\\' :: 'n' :: cs => .ok (.single '\n', cs)
  | '\\' :: ']' :: cs => .ok (.single '\\', ']' :: cs)
  | '\\' :: c :: cs => match controlOf c with
    | some d => if c = 'b' then .ok (.single '\\', c :: cs) else .ok (.single d, cs)
    | none => .ok (.single '\\', c :: cs)
  | c :: cs => .ok (.single c, cs)
  | [] => .error "Unmatched [, [^, [:, [., or [="

/-- The members of a set up to its closing bracket, which does not count as such if it comes
`first`. -/
def members : Nat → Bool → Chars → Except String (List (Char × Char) × Chars)
  | 0, _, _ => .error "Unmatched [, [^, [:, [., or [="
  | steps + 1, first, cs =>
    if !first ∧ cs.head? = some ']' then .ok ([], cs.drop 1)
    else do
      let (m, cs) ← member cs
      match m, cs with
      -- a dash in front of the closing bracket stands for itself
      | .single a, '-' :: ']' :: cs =>
        pure ([(a, a), ('-', '-')], cs)
      | .single a, '-' :: cs => do
        let (m, cs) ← member cs
        match m with
        | .many _ => throw "Invalid range end"
        | .single b =>
          if b < a then throw "Invalid range end"
          let (rs, cs) ← members steps false cs
          if cs.head? = some '-' ∧ rs.isEmpty then throw "Invalid range end"
          pure ((a, b) :: rs, cs)
      | .single a, cs => do
        let (rs, cs) ← members steps false cs
        pure ((a, a) :: rs, cs)
      | .many _, '-' :: c :: _ =>
        if c ≠ ']' then throw "Invalid range end"
        let (rs, cs) ← members steps false cs
        match m with
        | .many more => pure (more ++ rs, cs)
        | .single _ => pure (rs, cs)
      | .many more, cs => do
        let (rs, cs) ← members steps false cs
        pure (more ++ rs, cs)

/-- A set of characters, from behind its opening bracket. -/
def set (cs : Chars) : Except String (Pattern × Chars) :=
  match cs with
  | '^' :: cs => do
    let (ranges, cs) ← members (cs.length + 1) true cs
    pure (.one ranges true, cs)
  | cs => do
    let (ranges, cs) ← members (cs.length + 1) true cs
    pure (.one ranges false, cs)

/-! ### Counts -/

/-- The greatest count that may be asked for. -/
def maxCount : Nat := 32767

/-- A count, from behind its opening brace.  `close?` takes the closing brace away. -/
def countUpTo (close? : Chars → Option Chars) (cs : Chars) : Except String (Sign × Chars) :=
  let (least?, cs) := match leadingNumber 10 cs.length Char.isDigit cs with
    | some (n, cs) => (some n, cs)
    | none => (none, cs)
  let (most?, exact, cs) := match cs with
    | ',' :: cs => match leadingNumber 10 cs.length Char.isDigit cs with
      | some (n, cs) => (some n, false, cs)
      | none => (none, false, cs)
    | cs => (least?, true, cs)
  if cs.isEmpty then .error "Unmatched \\\x7b"
  else match close? cs with
    | none => .error "Invalid content of \\\x7b\\\x7d"
    | some cs =>
      let least := least?.getD 0
      if exact ∧ least?.isNone then .error "Invalid content of \\\x7b\\\x7d"
      else if most?.any (· < least) then .error "Invalid content of \\\x7b\\\x7d"
      else if maxCount < max least (most?.getD 0) then .error "Regular expression too big"
      else .ok (.count least most?, cs)

/-! ### Signs -/

/-- What a backslash and a character stand for in both notations. -/
def escaped (c : Char) : Pattern :=
  match c with
  | 'w' => .one (rangesOf isWordPart) false
  | 'W' => .one (rangesOf isWordPart) true
  | 's' => .one (rangesOf isSpace) false
  | 'S' => .one (rangesOf isSpace) true
  | 'b' => .place .wordEdge
  | 'B' => .place .noWordEdge
  | '<' => .place .wordStart
  | '>' => .place .wordEnd
  | '\x60' => .place .textStart
  | '\x27' => .place .textEnd
  | c => if '1' ≤ c ∧ c ≤ '9' then .again (c.toNat - '0'.toNat) else char ((controlOf c).getD c)

/-- Whether a basic pattern, or a part of it, ends here. -/
def endsBasic : Chars → Bool
  | [] => true
  | '\\' :: ')' :: _ => true
  | '\\' :: '|' :: _ => true
  | _ => false

/-- The complaint about a count without anything to be counted. -/
def nothingCounted : String :=
  "Invalid preceding regular expression"

/-- What comes before a sign. -/
inductive Behind where
  /-- Nothing: a pattern or a part of it begins here. -/
  | nothing
  /-- A mark of a place, which cannot be counted. -/
  | place
  /-- A count. -/
  | count
  /-- Anything else. -/
  | other
  deriving DecidableEq

/-- What comes before the sign behind an atom. -/
def Behind.of : Pattern → Behind
  | .place _ => .place
  | _ => .other

/-- **The signs of the basic notation.** -/
def basicSigns : Nat → Behind → Chars → List Sign
  | 0, _, _ => []
  | steps + 1, previous, cs =>
    let atStart := previous = .nothing ∨ previous = .place
    let go (s : Sign) (b : Behind) (cs : Chars) : List Sign := s :: basicSigns steps b cs
    match cs with
    | [] => []
    | '\\' :: '(' :: cs => go .opening .nothing cs
    | '\\' :: ')' :: cs => go .closing .other cs
    | '\\' :: '|' :: cs => go .bar .nothing cs
    | '\\' :: '\x7b' :: cs =>
      if atStart ∨ previous = .count then [.fault nothingCounted]
      else match countUpTo (fun
          | '\\' :: '\x7d' :: cs => some cs
          | _ => none) cs with
        | .ok (s, cs) => go s .count cs
        | .error message => [.fault message]
    | '\\' :: '+' :: cs =>
      if atStart then go (.atom (char '+')) .other cs else go (.count 1 none) .count cs
    | '\\' :: '?' :: cs =>
      if atStart then go (.atom (char '?')) .other cs else go (.count 0 (some 1)) .count cs
    -- a star with nothing before it stands for itself
    | '*' :: cs =>
      if atStart then go (.atom (char '*')) .other cs
      else if previous = .count then [.fault nothingCounted]
      else go (.count 0 none) .count cs
    | '^' :: cs =>
      if previous = .nothing then go (.atom (.place .lineStart)) .place cs
      else go (.atom (char '^')) .other cs
    | '$' :: cs =>
      if endsBasic cs then go (.atom (.place .lineEnd)) .place cs
      else go (.atom (char '$')) .other cs
    | '.' :: cs => go (.atom anyChar) .other cs
    | '[' :: cs => match set cs with
      | .ok (p, cs) => go (.atom p) .other cs
      | .error message => [.fault message]
    | ['\\'] => [.fault "Trailing backslash"]
    | '\\' :: c :: cs => go (.atom (escaped c)) (.of (escaped c)) cs
    | c :: cs => go (.atom (char c)) .other cs

/-- **The signs of the extended notation.** -/
def extendedSigns : Nat → Behind → Chars → List Sign
  | 0, _, _ => []
  | steps + 1, previous, cs =>
    let atStart := previous = .nothing ∨ previous = .place
    let go (s : Sign) (b : Behind) (cs : Chars) : List Sign := s :: extendedSigns steps b cs
    let counted (s : Sign) (cs : Chars) : List Sign :=
      if atStart then [.fault nothingCounted] else go s .count cs
    match cs with
    | [] => []
    | '(' :: cs => go .opening .nothing cs
    | ')' :: cs => go .closing .other cs
    | '|' :: cs => go .bar .nothing cs
    | '*' :: cs => counted (.count 0 none) cs
    | '+' :: cs => counted (.count 1 none) cs
    | '?' :: cs => counted (.count 0 (some 1)) cs
    | '\x7b' :: cs =>
      if atStart then [.fault nothingCounted]
      else match countUpTo (fun
          | '\x7d' :: cs => some cs
          | _ => none) cs with
        | .ok (s, cs) => go s .count cs
        | .error message => [.fault message]
    | '^' :: cs => go (.atom (.place .lineStart)) .place cs
    | '$' :: cs => go (.atom (.place .lineEnd)) .place cs
    | '.' :: cs => go (.atom anyChar) .other cs
    | '[' :: cs => match set cs with
      | .ok (p, cs) => go (.atom p) .other cs
      | .error message => [.fault message]
    | ['\\'] => [.fault "Trailing backslash"]
    | '\\' :: c :: cs => go (.atom (escaped c)) (.of (escaped c)) cs
    | c :: cs => go (.atom (char c)) .other cs

/-! ### Patterns -/

/-- A pattern under construction, one layer for each open group: the number of the group, the
finished choices and the sequence that grows. -/
structure Layer where
  number : Nat
  choices : Option Pattern
  pieces : List Pattern
  /-- The groups that were complete where the layer began. -/
  before : List Nat
  /-- The groups that the finished choices have completed. -/
  completed : List Nat

/-- The sequence of a layer, as one pattern; its pieces are in reverse order. -/
def Layer.sequence (l : Layer) : Pattern :=
  l.pieces.foldl (fun q p => match q with
    | .empty => p
    | q => .seq p q) .empty

/-- The pattern of a layer. -/
def Layer.pattern (l : Layer) : Pattern :=
  match l.choices with
  | none => l.sequence
  | some p => .either p l.sequence

/-- **The pattern of some signs.**  `layers` are the open groups, the innermost first, `groups`
counts all groups so far, and `complete` are those that may be referred to: a group of one choice is
no group of another one. -/
def ofSigns : List Sign → List Layer → Nat → List Nat → Except String (Pattern × Nat)
  | [], [l], groups, _ => .ok (l.pattern, groups)
  | [], _, _, _ => .error "Unmatched ( or \\("
  | .opening :: signs, layers, groups, complete =>
    ofSigns signs (⟨groups + 1, none, [], complete, []⟩ :: layers) (groups + 1) complete
  | .closing :: signs, l :: outer :: layers, groups, complete =>
    ofSigns signs ({ outer with pieces := .group l.number l.pattern :: outer.pieces } :: layers)
      groups (l.number :: l.completed ++ complete)
  | .closing :: _, _, _, _ => .error "Unmatched ) or \\)"
  | .bar :: signs, l :: layers, groups, complete =>
    let completed := complete ++ l.completed
    ofSigns signs ({ l with choices := some l.pattern, pieces := [], completed } :: layers)
      groups l.before
  | .count least most :: signs, l :: layers, groups, complete => match l.pieces with
    | p :: pieces =>
      let pieces := .repeated p least most :: pieces
      ofSigns signs ({ l with pieces } :: layers) groups complete
    | [] => .error nothingCounted
  | .atom p :: signs, l :: layers, groups, complete =>
    let isStray := match p with
      | .again n => !complete.contains n
      | _ => false
    if isStray then .error "Invalid back reference"
    else ofSigns signs ({ l with pieces := p :: l.pieces } :: layers) groups complete
  | .fault message :: _, _, _, _ => .error message
  | _ :: _, [], _, _ => .error nothingCounted

/-- **Reading a pattern** in one of the two notations, and counting its groups. -/
def read (extended : Bool) (cs : Chars) : Except String (Pattern × Nat) :=
  let signs :=
    if extended then extendedSigns (cs.length + 1) .nothing cs
    else basicSigns (cs.length + 1) .nothing cs
  ofSigns signs [⟨0, none, [], [], []⟩] 0 []

end Automaton.Filter.Pattern
