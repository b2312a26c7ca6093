import Automaton.Document.Basic

/-!
# Unquoted TOML values

A value that does not begin with a quote, a bracket or a brace is one *word*: a truth value, a
number or a point in time.  `Toml.scalar` decides which, and whether the word is well formed.

## Shape and value

A number is judged twice.  Its *shape* decides whether the text is well formed at all:

* **Whole numbers** have no zero in front.  With `0x`, `0o` and `0b` in front they are read in
  another base and take no sign.
* **Broken numbers** have digits on both sides of the point.  `inf` and `nan` are numbers too.
* **Underscores** stand between digits (`Toml.wellSpaced`).

A shape need not denote anything: there may be no digits behind `0x`, a letter may follow the
underscore in `1_a`, and a number may be larger than any reader could hold.  Such a word is an
unreadable value that cannot be passed over.

**Points in time** are dates, times, or both; a moment may carry its distance from universal time.
All parts are checked against the calendar.  Seconds may be left out.  A point in time is a record
with a single member, which no decoder asks for.
-/

namespace Automaton.Document.Toml

/-- The characters of a word: all but blanks, line ends, comments and the signs that structure a
text. -/
def isWordChar (c : Char) : Bool :=
  !("=,[]\x7b\x7d \t#\r\n".toList.contains c)

/-- The value of a digit in a base up to sixteen. -/
def digitValue (c : Char) : Nat :=
  if c.isDigit then c.toNat - '0'.toNat
  else if 'a' ≤ c ∧ c ≤ 'f' then c.toNat - 'a'.toNat + 10
  else if 'A' ≤ c ∧ c ≤ 'F' then c.toNat - 'A'.toNat + 10
  else 16

/-- A digit of base sixteen. -/
def isHexDigit (c : Char) : Bool :=
  digitValue c < 16

/-- The number that digits denote in a base. -/
def numeral (base : Nat) (ds : List Char) : Nat :=
  ds.foldl (fun n c => base * n + digitValue c) 0

/-! ### Shapes -/

/-- Each underscore has a digit behind it, and one in front of it too.  The flag says whether an
underscore may come at once. -/
def underscoresFit (isDigit : Char → Bool) : Bool → List Char → Bool
  | _, [] => true
  | _, ['_'] => false
  | allowed, '_' :: c :: cs => allowed && isDigit c && underscoresFit isDigit true cs
  | _, c :: cs => underscoresFit isDigit (isDigit c) cs

/-- **Underscores stand between digits.**  Any other character may take the place of the digit if it
is the very first one. -/
def wellSpaced (isDigit : Char → Bool) : List Char → Bool
  | [] => true
  | c :: cs => c != '_' && underscoresFit isDigit true cs

/-- The characters of a number, without the underscores. -/
def unspaced (cs : List Char) : List Char :=
  cs.filter (· != '_')

/-- A run of digits and underscores, without the underscores, and what follows. -/
def digitRun (cs : List Char) : List Char × List Char :=
  let p (c : Char) : Bool := c.isDigit || c == '_'
  (unspaced (cs.takeWhile p), cs.dropWhile p)

/-- A sign, if there is one, and what follows; `true` stands for minus. -/
def signed : List Char → Bool × List Char
  | '+' :: cs => (false, cs)
  | '-' :: cs => (true, cs)
  | cs => (false, cs)

/-- A number, unless it denotes nothing. -/
def readable (denotes : Bool) (word : List Char) : Document :=
  if denotes then .number (String.ofList word) else .unreadable false

/-! ### Whole numbers -/

/-- Whole numbers have at most 128 bits, with or without a sign. -/
def wholeFits (negative : Bool) (n : Nat) : Bool :=
  if negative then n ≤ Nat.pow 2 127 else n < Nat.pow 2 128

/-- Digits that denote a whole number in a base. -/
def denotesWhole (base : Nat) (negative : Bool) (ds : List Char) : Bool :=
  !ds.isEmpty && ds.all (digitValue · < base) && wholeFits negative (numeral base ds)

/-- A whole number in base ten; `body` is what follows the sign. -/
def wholeNumber (word : List Char) (negative : Bool) (body : List Char) : Option Document :=
  if (body.head? = some '0' ∧ body ≠ ['0']) ∨ !wellSpaced isHexDigit word then none
  else some (readable (denotesWhole 10 negative (unspaced body)) word)

/-- A whole number in another base, from behind the letter of the base. -/
def basedNumber (base : Nat) (word digits : List Char) : Option Document :=
  if digits.all (fun c => digitValue c < base || c == '_') ∧ wellSpaced isHexDigit digits then
    some (readable (denotesWhole base false (unspaced digits)) word)
  else none

/-! ### Broken numbers -/

/-- Whether `digits * 10 ^ exponent` rounds to a finite number of 53 bits. -/
def floatFits (digits : List Char) (exponent : Int) : Bool :=
  let n := numeral 10 digits
  let size : Int := (Nat.toDigits 10 n).length + exponent
  let limit := Nat.pow 2 1024 - Nat.pow 2 970
  if n = 0 ∨ size < 300 then true
  else if 320 < size then false
  else n * Nat.pow 10 exponent.toNat < limit * Nat.pow 10 (-exponent).toNat

/-- The digits behind a point, if there is one, and what follows. -/
def fraction : List Char → Option (List Char × List Char)
  | '.' :: cs =>
    let (ds, cs) := digitRun cs
    if ds.isEmpty then none else some (ds, cs)
  | cs => some ([], cs)

/-- The exponent, if there is one, up to the end of the word. -/
def exponent : List Char → Option Int
  | [] => some 0
  | c :: cs => do
    if c ≠ 'e' ∧ c ≠ 'E' then none
    let (negative, cs) := signed cs
    let (ds, cs) := digitRun cs
    if ds.isEmpty ∨ cs ≠ [] then none
    let n : Int := numeral 10 ds
    pure (if negative then -n else n)

/-- A broken number; `body` is what follows the sign. -/
def floatNumber (word body : List Char) : Option Document := do
  let (ws, cs) := digitRun body
  if ws.isEmpty ∨ (body.head? = some '0' ∧ 1 < ws.length) ∨ !wellSpaced Char.isDigit word then none
  let (fs, cs) ← fraction cs
  let power ← exponent cs
  pure (readable (floatFits (ws ++ fs) (power - fs.length)) word)

/-! ### Points in time -/

/-- Exactly so many digits, as a number, and what follows. -/
def fixedDigits (n : Nat) (cs : List Char) : Option (Nat × List Char) :=
  let ds := cs.take n
  if ds.length = n ∧ ds.all Char.isDigit then some (numeral 10 ds, cs.drop n) else none

/-- A character that has to come next. -/
def expect (c : Char) : List Char → Option (List Char)
  | d :: cs => if c = d then some cs else none
  | [] => none

/-- How many days a month has. -/
def daysIn (year month : Nat) : Nat :=
  if month = 2 then
    if year % 4 = 0 ∧ (year % 100 ≠ 0 ∨ year % 400 = 0) then 29 else 28
  else if month = 4 ∨ month = 6 ∨ month = 9 ∨ month = 11 then 30
  else 31

/-- A date of the calendar, and what follows. -/
def date (cs : List Char) : Option (List Char) := do
  let (year, cs) ← fixedDigits 4 cs
  let (month, cs) ← fixedDigits 2 (← expect '-' cs)
  let (day, cs) ← fixedDigits 2 (← expect '-' cs)
  if 1 ≤ month ∧ month ≤ 12 ∧ 1 ≤ day ∧ day ≤ daysIn year month then some cs else none

/-- The seconds of a time with their fraction, if they are there, and what follows. -/
def seconds : List Char → Option (List Char)
  | ':' :: cs => do
    let (second, cs) ← fixedDigits 2 cs
    if 60 < second then none
    match cs with
    | '.' :: cs =>
      if (cs.takeWhile Char.isDigit).isEmpty then none else some (cs.dropWhile Char.isDigit)
    | cs => some cs
  | cs => some cs

/-- A time of the day, and what follows. -/
def time (cs : List Char) : Option (List Char) := do
  let (hour, cs) ← fixedDigits 2 cs
  let (minute, cs) ← fixedDigits 2 (← expect ':' cs)
  if 23 < hour ∨ 59 < minute then none
  seconds cs

/-- The distance from universal time, if it is given, up to the end of the word. -/
def offset : List Char → Option Unit
  | [] => some ()
  | [c] => if c = 'Z' ∨ c = 'z' then some () else none
  | c :: cs => do
    if c ≠ '+' ∧ c ≠ '-' then none
    let (hour, cs) ← fixedDigits 2 cs
    let (minute, cs) ← fixedDigits 2 (← expect ':' cs)
    if 23 < hour ∨ 59 < minute ∨ cs ≠ [] then none else some ()

/-- What follows the date within a word. -/
def afterDate : List Char → Option Unit
  | [] => some ()
  | c :: cs => do
    if c ≠ 'T' ∧ c ≠ 't' ∧ c ≠ ' ' then none
    offset (← time cs)

/-- A point in time. -/
def moment (word : List Char) : Option Document := do
  match date word with
  | some after => afterDate after
  | none => if (← time word) = [] then some () else none
  pure (.record [("moment", .text (String.ofList word))])

/-! ### Words -/

/-- A number or a point in time; `body` is what follows the sign.  The first character behind the
leading digits tells what the word is meant to be. -/
def numberOrMoment (word : List Char) (negative : Bool) (body : List Char) : Option Document :=
  match body.dropWhile Char.isDigit with
  | [] => wholeNumber word negative body
  | c :: cs =>
    if c = '-' ∨ c = ':' then moment word
    else if (c :: cs).any fun c => c == '.' || c == 'e' || c == 'E' then floatNumber word body
    else if c = '_' then wholeNumber word negative body
    else none

/-- A word that begins, behind its sign, with a digit or an underscore. -/
def numeric (word : List Char) : Option Document :=
  let (negative, body) := signed word
  match body with
  | ['i', 'n', 'f'] | ['n', 'a', 'n'] => some (.number (String.ofList word))
  | c :: _ => if c.isDigit ∨ c = '_' then numberOrMoment word negative body else none
  | [] => none

/-- **A word**: a truth value, a number or a point in time. -/
def scalar (word : List Char) : Option Document :=
  match word with
  | ['t', 'r', 'u', 'e'] => some (.boolean true)
  | ['f', 'a', 'l', 's', 'e'] => some (.boolean false)
  | '0' :: 'x' :: digits => basedNumber 16 word digits
  | '0' :: 'o' :: digits => basedNumber 8 word digits
  | '0' :: 'b' :: digits => basedNumber 2 word digits
  | word => numeric word

end Automaton.Document.Toml
