import Automaton.Document.Basic

/-!
# Reading JSON

A strict reader: no comments, no commas at the end of a list, no byte order mark, and nothing but
blanks after the value.  Blanks are the space, the tabulator and the two line end characters.

## Strings

A string is first read into *units* (`Json.units`): the numbers of its characters, where an escape
`\uXXXX` may contribute half of a surrogate pair.  `Json.assemble` puts the halves together.  A
string whose halves do not pair up is well formed but denotes no text; it becomes an unreadable
value that may be passed over, and so does a record with such a name in it.

## Values

`Json.value` and its companions `Json.items` and `Json.members` call each other on what is left of
the text.  They take a number of steps as an argument; two steps per character are enough, and
`Json.read` provides them.
-/

namespace Automaton.Document.Json

/-- The blanks of the format. -/
def isBlank (c : Char) : Bool :=
  c == ' ' || c == '\t' || c == '\n' || c == '\r'

/-- What is left after leading blanks. -/
def skipBlanks (cs : List Char) : List Char :=
  cs.dropWhile isBlank

/-- The value of a hexadecimal digit. -/
def hexValue (c : Char) : Option Nat :=
  if c.isDigit then some (c.toNat - '0'.toNat)
  else if 'a' ≤ c ∧ c ≤ 'f' then some (c.toNat - 'a'.toNat + 10)
  else if 'A' ≤ c ∧ c ≤ 'F' then some (c.toNat - 'A'.toNat + 10)
  else none

/-- The number that hexadecimal digits denote. -/
def hexNumber (cs : List Char) : Option Nat :=
  cs.foldlM (fun n c => (hexValue c).map (16 * n + ·)) 0

/-- The character that a one letter escape stands for. -/
def simpleEscape (c : Char) : Option Char :=
  match c with
  | '"' => some '"'
  | '\\' => some '\\'
  | '/' => some '/'
  | 'b' => some '\x08'
  | 'f' => some '\x0c'
  | 'n' => some '\n'
  | 'r' => some '\r'
  | 't' => some '\t'
  | _ => none

/-- **The units of a string**, from behind its opening quote, and what follows the closing one. -/
def units : List Char → Option (List Nat × List Char)
  | [] => none
  | '"' :: cs => some ([], cs)
  | '\\' :: 'u' :: a :: b :: c :: d :: cs => do
    let u ← hexNumber [a, b, c, d]
    let (us, rest) ← units cs
    pure (u :: us, rest)
  | '\\' :: c :: cs => do
    let e ← simpleEscape c
    let (us, rest) ← units cs
    pure (e.toNat :: us, rest)
  | c :: cs =>
    if c.toNat < 0x20 ∨ c = '\\' then none
    else do
      let (us, rest) ← units cs
      pure (c.toNat :: us, rest)

/-- The first half of a surrogate pair. -/
def isHighHalf (u : Nat) : Bool :=
  0xD800 ≤ u && u ≤ 0xDBFF

/-- The second half of a surrogate pair. -/
def isLowHalf (u : Nat) : Bool :=
  0xDC00 ≤ u && u ≤ 0xDFFF

/-- **The text that units denote.**  Halves of surrogate pairs must come in pairs. -/
def assemble : List Nat → Option (List Char)
  | [] => some []
  | [u] => if isHighHalf u || isLowHalf u then none else some [Char.ofNat u]
  | u :: v :: us =>
    if isHighHalf u then
      if isLowHalf v then
        (assemble us).map (Char.ofNat (0x10000 + (u - 0xD800) * 0x400 + (v - 0xDC00)) :: ·)
      else none
    else if isLowHalf u then none
    else (assemble (v :: us)).map (Char.ofNat u :: ·)

/-- A string from behind its opening quote: the text, if it denotes one, and what follows. -/
def string (cs : List Char) : Option (Option String × List Char) := do
  let (us, rest) ← units cs
  pure ((assemble us).map String.ofList, rest)

/-- One digit or more. -/
def digits (cs : List Char) : Option (List Char × List Char) :=
  match cs.takeWhile Char.isDigit with
  | [] => none
  | ds => some (ds, cs.dropWhile Char.isDigit)

/-- Digits without a superfluous zero in front. -/
def wholePart : List Char → Option (List Char × List Char)
  | '0' :: c :: cs => if c.isDigit then none else some (['0'], c :: cs)
  | cs => digits cs

/-- The part of a number from the point on, if there is one. -/
def fractionPart : List Char → Option (List Char × List Char)
  | '.' :: cs => do
    let (ds, rest) ← digits cs
    pure ('.' :: ds, rest)
  | cs => some ([], cs)

/-- The exponent of a number, if there is one. -/
def exponentPart : List Char → Option (List Char × List Char)
  | e :: cs =>
    if e = 'e' ∨ e = 'E' then
      match cs with
      | '+' :: cs => do
        let (ds, rest) ← digits cs
        pure (e :: '+' :: ds, rest)
      | '-' :: cs => do
        let (ds, rest) ← digits cs
        pure (e :: '-' :: ds, rest)
      | cs => do
        let (ds, rest) ← digits cs
        pure (e :: ds, rest)
    else some ([], e :: cs)
  | [] => some ([], [])

/-- A number after its sign. -/
def unsigned (cs : List Char) : Option (List Char × List Char) := do
  let (whole, cs) ← wholePart cs
  let (fraction, cs) ← fractionPart cs
  let (exponent, cs) ← exponentPart cs
  pure (whole ++ fraction ++ exponent, cs)

/-- **A number**, by its spelling. -/
def number : List Char → Option (List Char × List Char)
  | '-' :: cs => do
    let (ds, rest) ← unsigned cs
    pure ('-' :: ds, rest)
  | cs => unsigned cs

/-- Text that has to be there literally. -/
def literal : List Char → List Char → Option (List Char)
  | [], cs => some cs
  | _ :: _, [] => none
  | a :: as, c :: cs => if a = c then literal as cs else none

/-- A value that is not a list or a record. -/
def scalar : List Char → Option (Document × List Char)
  | '"' :: cs => do
    let (s, rest) ← string cs
    pure (match s with
      | some s => (.text s, rest)
      | none => (.unreadable true, rest))
  | 't' :: cs => (literal ['r', 'u', 'e'] cs).map (Document.boolean true, ·)
  | 'f' :: cs => (literal ['a', 'l', 's', 'e'] cs).map (Document.boolean false, ·)
  | 'n' :: cs => (literal ['u', 'l', 'l'] cs).map (Document.null, ·)
  | cs => (number cs).map fun r => (Document.number (String.ofList r.1), r.2)

/-- A record from its members; one unreadable name makes the whole record unreadable. -/
def recordOf (members : List (Option String × Document)) : Document :=
  match members.mapM (fun m => m.1.map (·, m.2)) with
  | some members => .record members
  | none => .unreadable true

mutual

/-- **A value**, after leading blanks. -/
def value : Nat → List Char → Option (Document × List Char)
  | 0, _ => none
  | steps + 1, cs => match skipBlanks cs with
    | '[' :: cs => match skipBlanks cs with
      | ']' :: cs => some (.list [], cs)
      | cs => (items steps cs).map fun r => (.list r.1, r.2)
    | '\x7b' :: cs => match skipBlanks cs with
      | '\x7d' :: cs => some (.record [], cs)
      | cs => (members steps cs).map fun r => (recordOf r.1, r.2)
    | cs => scalar cs

/-- The items of a list that is not empty, up to the closing bracket. -/
def items : Nat → List Char → Option (List Document × List Char)
  | 0, _ => none
  | steps + 1, cs => do
    let (d, cs) ← value steps cs
    match skipBlanks cs with
    | ',' :: cs => do
      let (ds, cs) ← items steps cs
      pure (d :: ds, cs)
    | ']' :: cs => pure ([d], cs)
    | _ => none

/-- The members of a record that is not empty, up to the closing brace. -/
def members : Nat → List Char → Option (List (Option String × Document) × List Char)
  | 0, _ => none
  | steps + 1, cs =>
    match skipBlanks cs with
    | '"' :: cs => do
      let (name, cs) ← string cs
      match skipBlanks cs with
      | ':' :: cs => do
        let (d, cs) ← value steps cs
        match skipBlanks cs with
        | ',' :: cs => do
          let (ms, cs) ← members steps cs
          pure ((name, d) :: ms, cs)
        | '\x7d' :: cs => pure ([(name, d)], cs)
        | _ => none
      | _ => none
    | _ => none

end

/-- **Reading JSON**: the document that the whole text denotes, or nothing if the text is not
JSON. -/
def read (text : String) : Option Document := do
  let cs := text.toList
  let (d, rest) ← value (2 * cs.length + 2) cs
  if skipBlanks rest = [] then some d else none

end Automaton.Document.Json
