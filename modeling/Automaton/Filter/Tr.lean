import Automaton.Filter.Options

/-!
# Exchanging characters

`tr` exchanges the characters of one set for those of another, deletes characters, or leaves one of
several equal ones in a row.

A *set* is written as a list of elements (`Tr.Element`): characters, ranges, classes and
repetitions.  Its characters stand in order, because the first character of one set is exchanged for
the first of the other, and so on.  Where both sets have a class of letters at the same place, the
letters change their case.
-/

namespace Automaton.Filter

namespace Tr

/-- The options of the program. -/
def layout : Layout :=
  { flags := ['A', 'c', 'C', 'd', 's', 't'],
    valued := [],
    words := [("complement", 'c'), ("delete", 'd'), ("squeeze-repeats", 's'),
      ("truncate-set1", 't')],
    operandsEnd := true }

/-! ### Sets -/

/-- **A character of a written set**; behind a backslash it has no other meaning than itself. -/
structure Mark where
  char : Char
  plain : Bool
  deriving DecidableEq, Repr

/-- Whether a mark has the meaning that a character has by itself. -/
def Mark.means (m : Mark) (c : Char) : Bool :=
  m.plain && m.char == c

/-- The number behind a backslash: up to three digits, as long as it stays a byte. -/
def octal (cs : Chars) : Option (Char × Chars) :=
  match leadingNumber 8 3 isOctal cs with
  | none => none
  | some (n, rest) =>
    if n < 256 then some (Char.ofNat n, rest)
    -- three digits are one too many
    else (leadingNumber 8 2 isOctal cs).map fun (n, rest) => (Char.ofNat n, rest)

/-- What is said about a number that is too great for a byte, and about a backslash that stands
last, in a written set. -/
def warnings (name : String) : Nat → Chars → String
  | 0, _ => ""
  | fuel + 1, cs => match cs with
    | [] => ""
    | ['\\'] => s!"{name}: warning: an unescaped backslash at end of string is not portable\n"
    | '\\' :: cs => match leadingNumber 8 3 isOctal cs, cs with
      | some (n, rest), a :: b :: c :: _ =>
        if n < 256 then warnings name fuel rest
        else
          s!"{name}: warning: the ambiguous octal escape \\{a}{b}{c} is being\n" ++
            s!"\tinterpreted as the 2-byte sequence \\0{a}{b}, {c}\n" ++
            warnings name fuel (c :: rest)
      | some (_, rest), _ => warnings name fuel rest
      | none, cs => warnings name fuel (cs.drop 1)
    | _ :: cs => warnings name fuel cs

/-- The marks of a written set. -/
def marks : Nat → Chars → List Mark
  | 0, _ => []
  | fuel + 1, cs => match cs with
    | [] => []
    | ['\\'] => [⟨'\\', true⟩]
    | '\\' :: c :: cs => match octal (c :: cs) with
      | some (d, rest) => ⟨d, false⟩ :: marks fuel rest
      | none => ⟨(controlOf c).getD c, false⟩ :: marks fuel cs
    | c :: cs => ⟨c, true⟩ :: marks fuel cs

/-- **An element of a set.** -/
inductive Element where
  /-- A character. -/
  | char (c : Char)
  /-- The characters from one to another. -/
  | range (first last : Char)
  /-- The characters of a class. -/
  | members (name : String) (isMember : Char → Bool)
  /-- The characters that count as equal to one; in bytes that is the one. -/
  | alike (c : Char)
  /-- A character so many times; zero stands for as often as it takes. -/
  | repeated (c : Char) (count : Nat)

namespace Element

/-- The characters of an element. -/
def chars : Element → Chars
  | char c | alike c => [c]
  | range first last => charRange first last
  | members _ isMember => allChars.filter isMember
  | repeated c count => List.replicate count c

/-- It is a repetition without a count. -/
def isEndless : Element → Bool
  | repeated _ 0 => true
  | _ => false

/-- It is a class. -/
def isClass : Element → Bool
  | members _ _ => true
  | _ => false

/-- It is a class whose letters have a case. -/
def isCased : Element → Bool
  | members name _ => name == "upper" || name == "lower"
  | _ => false

end Element

/-- The operand of a bracketed name, up to its closing sign and bracket, and what follows. -/
def closing (sign : Char) : List Mark → Option (List Mark × List Mark)
  | a :: b :: ms =>
    if a.means sign ∧ b.means ']' then some ([], ms)
    else (closing sign (b :: ms)).map fun (operand, rest) => (a :: operand, rest)
  | _ => none

/-- The characters of marks. -/
def textOf (ms : List Mark) : Chars :=
  ms.map (·.char)

/-- A text as complaints about sets show it. -/
def shown (cs : Chars) : String :=
  String.ofList (cs.flatMap escaped)

/-- Whether a star, digits and a bracket come next. -/
def isCount : List Mark → Bool
  | star :: ms =>
    star.means '*' &&
      match ms.dropWhile (·.char.isDigit) with
      | bracket :: _ => bracket.means ']'
      | [] => false
  | [] => false

/-- A repetition, from behind its bracket. -/
def repetition (ms : List Mark) : Except String (Option (Element × List Mark)) :=
  match ms with
  | c :: star :: ms =>
    if !star.means '*' then .ok none
    else
      let count := ms.takeWhile fun m => m.plain && m.char != ']'
      match ms.drop count.length with
      | bracket :: rest =>
        let digits := textOf count
        let base := if digits.head? = some '0' then 8 else 10
        let isDigit := if base = 8 then isOctal else Char.isDigit
        let n := numeral base digits
        if !bracket.plain then .ok none
        else if digits.all isDigit ∧ n < Nat.pow 2 64 - 2 then .ok (some (.repeated c.char n, rest))
        else .error s!"invalid repeat count {quoted digits} in [c*n] construct"
      | [] => .ok none
  | _ => .ok none

/-- An element in brackets, from behind its bracket. -/
def bracketed (ms : List Mark) : Except String (Option (Element × List Mark)) :=
  match ms with
  | sign :: inner =>
    if sign.means ':' then
      match closing ':' inner with
      | none => repetition ms
      | some (operand, rest) =>
        let name := textOf operand
        if name.isEmpty then .error "missing character class name '[::]'"
        else match classes.find? (·.1.toList == name) with
          | some (name, isMember) => .ok (some (.members name isMember, rest))
          | none =>
            if isCount inner then repetition ms
            else .error s!"invalid character class {quoted name}"
    else if sign.means '=' then
      match closing '=' inner with
      | none => repetition ms
      | some (operand, rest) => match textOf operand with
        | [] => .error "missing equivalence class character '[==]'"
        | [c] => .ok (some (.alike c, rest))
        | text =>
          if isCount inner then repetition ms
          else .error s!"{shown text}: equivalence class operand must be a single character"
    else repetition ms
  | [] => .ok none

/-- **The elements of a written set.** -/
def elements : Nat → List Mark → Except String (List Element)
  | 0, _ => .ok []
  | fuel + 1, ms => match ms with
    | a :: b :: c :: rest => do
      match ← if a.means '[' then bracketed (b :: c :: rest) else pure none with
      | some (e, rest) => return e :: (← elements fuel rest)
      | none =>
        if !b.means '-' then return .char a.char :: (← elements fuel (b :: c :: rest))
        else if a.char ≤ c.char then return .range a.char c.char :: (← elements fuel rest)
        else
          let shown (c : Char) : String :=
            String.ofList (if isPrintable c then escaped c else inOctal c)
          let ends := s!"{shown a.char}-{shown c.char}"
          throw s!"range-endpoints of '{ends}' are in reverse collating sequence order"
    | ms => pure (ms.map fun m => .char m.char)

/-- The elements of a written set. -/
def readSet (cs : Chars) : Except String (List Element) :=
  let ms := marks cs.length cs
  elements ms.length ms

/-! ### Places -/

/-- **A place of a set**: a character, and which element it comes from. -/
structure Place where
  char : Char
  /-- It is the first one of its element. -/
  starts : Bool
  /-- The class it comes from, if its letters have a case. -/
  casing : Option String
  deriving DecidableEq, Repr

/-- The places of an element. -/
def Element.places (e : Element) : List Place :=
  let casing := match e with
    | members name _ => if e.isCased then some name else none
    | _ => none
  e.chars.zipIdx.map fun (c, i) => ⟨c, i == 0, casing⟩

/-- The places behind an element, from within it. -/
def skip (ps : List Place) : List Place :=
  ps.dropWhile (!·.starts)

theorem length_skip (ps : List Place) : (skip ps).length ≤ ps.length :=
  (List.dropWhile_suffix _).length_le

/-- Whether each class of letters in the second set stands at the place of one in the first. -/
def aligned (ps qs : List Place) : Bool :=
  match ps, qs with
  | [], q :: _ => q.casing.isNone
  | _, [] => true
  | p :: ps, q :: qs =>
    if q.casing.isNone then aligned ps qs
    else p.starts && p.casing.isSome && aligned (skip ps) (skip qs)
termination_by ps.length
decreasing_by all_goals grind [length_skip]

/-- **Which characters are exchanged for which.** -/
def exchanges (ps qs : List Place) : List (Char × Char) :=
  match ps, qs with
  | p :: ps, q :: qs => match p.casing, q.casing with
    | _, none => (p.char, q.char) :: exchanges ps qs
    -- two classes of letters are exchanged at once, whatever their order
    | some "lower", some "upper" =>
      (charRange 'a' 'z').map (fun c => (c, c.toUpper)) ++ exchanges (skip ps) (skip qs)
    | some "upper", some "lower" =>
      (charRange 'A' 'Z').map (fun c => (c, c.toLower)) ++ exchanges (skip ps) (skip qs)
    | _, some _ => exchanges (skip ps) (skip qs)
  | _, _ => []
termination_by ps.length
decreasing_by all_goals grind [length_skip]

/-! ### Exchanging, deleting, squeezing -/

/-- The characters of a set. -/
def charsOf (es : List Element) : Chars :=
  es.flatMap Element.chars

/-- The characters of a set, or all others. -/
def chosen (complement : Bool) (es : List Element) : Chars :=
  let cs := charsOf es
  allChars.filter fun c => cs.contains c != complement

/-- A set with its endless repetition grown to a count. -/
def fillUp (count : Nat) (es : List Element) : List Element :=
  es.map fun e => match e with
    | .repeated c 0 => .repeated c count
    | e => e

/-- The character that a short set goes on with, if it may. -/
def lastChar (es : List Element) : Option Char :=
  match es.getLast? with
  | some (.char c) | some (.range _ c) | some (.repeated c _) | some (.alike c) => some c
  | _ => none

/-- How much is written for one of several equal characters in a row. -/
def squeeze (members : Chars) : Option Char → Chars → Chars
  | _, [] => []
  | last, c :: cs =>
    if last = some c ∧ members.contains c then squeeze members last cs
    else c :: squeeze members (some c) cs

/-- **What is done.** -/
structure Order where
  complement : Bool
  delete : Bool
  squeeze : Bool
  truncate : Bool

/-- The length of a set, without its endless repetition. -/
def lengthOf : List Element → Nat
  | [] => 0
  | .repeated _ count :: es => count + lengthOf es
  | e :: es => e.chars.length + lengthOf es

/-- A set with none of its repetitions longer than a count. -/
def cut (count : Nat) (es : List Element) : List Element :=
  es.map fun e => match e with
    | .repeated c n => .repeated c (min n count)
    | e => e

/-- The second set, as long as the first one if need be, or why the two do not go together. -/
def matched (o : Order) (first second : List Element) : Except String (List Element) := do
  let wanted := if o.complement then (chosen true first).length else lengthOf first
  -- one place too many is enough to show that a repetition is too long
  let second := cut (wanted + 1) second
  let second := fillUp (wanted - lengthOf second) second
  if second.any fun e => match e with | .alike _ => true | _ => false then
    throw "[=c=] expressions may not appear in string2 when translating"
  if second.any fun e => e.isClass && !e.isCased then
    throw ("when translating, the only character classes that may appear in\n" ++
      "string2 are 'upper' and 'lower'")
  if !o.complement ∧ second.any Element.isClass ∧
      !aligned (first.flatMap Element.places) (second.flatMap Element.places) then
    throw "misaligned [:upper:] and/or [:lower:] construct"
  let has := lengthOf second
  let second ← if has < wanted ∧ !o.truncate then
      if has = 0 then throw "when not truncating set1, string2 must be non-empty"
      match lastChar second with
      | some c => pure (second ++ [.repeated c (wanted - has)])
      | none =>
        throw ("when translating with string1 longer than string2,\n" ++
          "the latter string must not end with a character class")
    else pure second
  let cs := charsOf second
  if o.complement ∧ first.any Element.isClass ∧
      !(cs.length == wanted && cs.all (some · == cs.head?)) then
    throw ("when translating with complemented character classes,\n" ++
      "string2 must map all characters in the domain to one")
  pure second

/-- The exchanged characters, given which are exchanged for which; the last word counts. -/
def exchange (pairs : List (Char × Char)) (cs : Chars) : Chars :=
  let table := (allChars.map fun c => (pairs.reverse.lookup c).getD c).toArray
  cs.map fun c => table[c.toNat]?.getD c

/-- **Carries out an order**, with one set or two. -/
def run (o : Order) (first : List Element) (second? : Option (List Element)) :
    Except String (Chars → Chars) := do
  if first.any Element.isEndless then
    throw "the [c*] repeat construct may not appear in string1"
  let isFirst (c : Char) : Bool := (charsOf first).contains c != o.complement
  match second? with
  | none =>
    if o.delete then return fun cs => cs.filter (!isFirst ·)
    return squeeze (chosen o.complement first) none
  | some second =>
    if 1 < (second.filter Element.isEndless).length then
      throw "only one [c*] repeat construct may appear in string2"
    if o.delete then
      if second.any Element.isEndless then
        throw "the [c*] construct may appear in string2 only when translating"
      return fun cs => squeeze (chosen false (cut 1 second)) none (cs.filter (!isFirst ·))
    let second ← matched o first second
    let pairs :=
      if o.complement then (chosen true first).zip (charsOf second)
      else exchanges (first.flatMap Element.places) (second.flatMap Element.places)
    let exchanged := exchange pairs
    if o.squeeze then return fun cs => squeeze (chosen false second) none (exchanged cs)
    return exchanged

/-- What is wrong with the number of operands. -/
def countFault (o : Order) (operands : List Chars) : Option String :=
  let least := if o.delete = o.squeeze then 2 else 1
  let most := if o.delete ∧ !o.squeeze then 1 else 2
  if operands.length < least then
    match operands.getLast? with
    | none => some "missing operand"
    | some operand =>
      some (s!"missing operand after {quoted operand}\n" ++
        if o.squeeze then
          "Two strings must be given when both deleting and squeezing repeats."
        else "Two strings must be given when translating.")
  else match operands[most]? with
    | none => none
    | some operand =>
      some (s!"extra operand {quoted operand}" ++
        if operands.length = 2 then
          "\nOnly one string may be given when deleting without squeezing repeats."
        else "")

end Tr

/-- **Exchanging characters.** -/
def tr : Program := fun name arguments input =>
  match Tr.layout.read arguments with
  | .error fault => .refused 1 s!"{name}: {fault.message}\n{helpHint name}" input
  | .ok given =>
    let o : Tr.Order :=
      ⟨given.has 'c' || given.has 'C', given.has 'd', given.has 's', given.has 't'⟩
    match Tr.countFault o given.operands with
    | some fault => .refused 1 s!"{name}: {fault}\n{helpHint name}" input
    | none =>
      let warnings := String.join (given.operands.map fun cs => Tr.warnings name cs.length cs)
      let order : Except String (Chars → Chars) := do
        let sets ← given.operands.mapM Tr.readSet
        Tr.run o (sets.headD []) sets[1]?
      match order with
      | .error fault => .refused 1 s!"{warnings}{name}: {fault}" input
      | .ok f => { Result.done (f input) with complaints := warnings.toList }

end Automaton.Filter
