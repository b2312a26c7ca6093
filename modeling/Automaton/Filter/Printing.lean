import Automaton.Filter.Basic

/-!
# Printing

Two programs only write.  `echo` writes its arguments; in a shell, characters may be written behind
backslashes in them.  `printf` writes its arguments under a format: directives take one argument
each, and the format is used again until no arguments are left.
-/

namespace Automaton.Filter

namespace Printing

/-- The character behind a backslash, and what follows it.  A character that has no meaning there
leaves the backslash as it is. -/
def unescape (cs : Chars) : Char × Chars :=
  match leadingNumber 8 3 isOctal cs, cs with
  | some (n, rest), _ => (charOf n, rest)
  | none, '\\' :: rest => ('\\', rest)
  | none, 'e' :: rest => ('\x1b', rest)
  | none, c :: rest => match controlOf c with
    | some d => (d, rest)
    | none => ('\\', cs)
  | none, [] => ('\\', [])

/-- A text with the characters behind backslashes, and whether one of them ends all output.  Here a
number may have one more zero in front. -/
def unescapeAll : Nat → Chars → Chars × Bool
  | 0, _ => ([], false)
  | fuel + 1, cs => match cs with
    | [] => ([], false)
    | '\\' :: 'c' :: _ => ([], true)
    | '\\' :: cs =>
      let digits := match cs with
        | '0' :: d :: ds => if isOctal d then d :: ds else cs
        | cs => cs
      let (c, rest) := unescape digits
      let (text, stopped) := unescapeAll fuel rest
      (c :: text, stopped)
    | c :: cs =>
      let (text, stopped) := unescapeAll fuel cs
      (c :: text, stopped)

/-- What a shell writes for `echo`: arguments with blanks between them and a line end, unless the
first argument or a backslash says that there is none. -/
def echoed (arguments : List Chars) : Chars :=
  let (lineEnd, texts) := match arguments with
    | ['-', 'n'] :: texts => ([], texts)
    | texts => (['\n'], texts)
  let text := [' '].intercalate texts
  let (text, stopped) := unescapeAll (text.length + 1) text
  if stopped then text else text ++ lineEnd

/-- **A directive** of a format. -/
structure Directive where
  /-- Its signs. -/
  flags : Chars
  /-- How many characters are written at least. -/
  width : Nat
  /-- How many digits are written at least, or how many characters at most. -/
  precision : Option Nat
  /-- What is written. -/
  letter : Char

namespace Directive

/-- Whether a sign was given. -/
def has (d : Directive) (flag : Char) : Bool :=
  d.flags.contains flag

/-- A text as wide as it has to be. -/
def pad (d : Directive) (cs : Chars) : Chars :=
  let blanks := List.replicate (d.width - cs.length) ' '
  if d.has '-' then cs ++ blanks else blanks ++ cs

/-- A text. -/
def text (d : Directive) (cs : Chars) : Chars :=
  d.pad (match d.precision with
    | some n => cs.take n
    | none => cs)

/-- The digits of a number behind a sign. -/
def digits (d : Directive) (sign cs : Chars) : Chars :=
  let cs := match d.precision with
    | some n => List.replicate (n - cs.length) '0' ++ cs
    | none => cs
  if d.has '0' ∧ !d.has '-' ∧ d.precision.isNone then
    sign ++ List.replicate (d.width - sign.length - cs.length) '0' ++ cs
  else d.pad (sign ++ cs)

/-- A number. -/
def number (d : Directive) (n : Int) : Chars :=
  let inBase (base : Nat) : Chars := Nat.toDigits base (n % Nat.pow 2 64).toNat
  match d.letter with
  | 'x' => d.digits (if d.has '#' ∧ n ≠ 0 then ['0', 'x'] else []) (inBase 16)
  | 'X' => d.digits (if d.has '#' ∧ n ≠ 0 then ['0', 'X'] else []) ((inBase 16).map Char.toUpper)
  | 'o' => d.digits [] (if d.has '#' ∧ n ≠ 0 then '0' :: inBase 8 else inBase 8)
  | 'u' => d.digits [] (inBase 10)
  | _ =>
    let sign :=
      if n < 0 then ['-'] else if d.has '+' then ['+'] else if d.has ' ' then [' '] else []
    d.digits sign (toString n.natAbs).toList

end Directive

/-- **A run of a format.** -/
structure Run where
  /-- The arguments that are left. -/
  left : List Chars
  /-- An argument has been asked for. -/
  asked : Bool
  /-- What has been written, the latest first. -/
  written : List Chars
  /-- What has been complained, the latest first. -/
  complaints : List String
  /-- Nothing more is written. -/
  stopped : Bool
  status : Nat

namespace Run

/-- Writes a text. -/
def write (r : Run) (cs : Chars) : Run :=
  { r with written := cs :: r.written }

/-- Complains. -/
def complain (r : Run) (complaint : String) : Run :=
  { r with complaints := complaint :: r.complaints, status := 1 }

/-- Gives up. -/
def giveUp (r : Run) (complaint : String) : Run :=
  { r with complaints := complaint :: r.complaints, status := 2, stopped := true }

/-- The next argument, if there is one. -/
def argument (r : Run) : Option Chars × Run :=
  match r.left with
  | [] => (none, { r with asked := true })
  | cs :: left => (some cs, { r with left, asked := true })

/-- The number that an argument is; with `signed`, it may not leave the smaller range. -/
def numberOf (r : Run) (signed : Bool) (cs : Chars) : Int × Run :=
  match cs with
  | '\x27' :: quoted | '"' :: quoted => ((quoted.head?.getD '\x00').toNat, r)
  | _ =>
    let trimmed := cs.dropWhile isSpace
    let (negative, digits) := match trimmed with
      | '-' :: ds => (true, ds)
      | '+' :: ds => (false, ds)
      | ds => (false, ds)
    let read := match digits with
      | '0' :: 'x' :: ds =>
        (leadingNumber 16 ds.length isHex ds).orElse fun _ => some (0, 'x' :: ds)
      | '0' :: ds => (leadingNumber 8 ds.length isOctal ds).orElse fun _ => some (0, ds)
      | ds => leadingNumber 10 ds.length Char.isDigit ds
    match read with
    | none =>
      if cs.isEmpty then (0, r) else (0, r.complain s!"{String.ofList cs}: expected numeric value")
    | some (n, rest) =>
      let value : Int := if negative then -n else n
      let (low, high) : Int × Int :=
        if signed then (-Nat.pow 2 63, Nat.pow 2 63 - 1) else (1 - Nat.pow 2 64, Nat.pow 2 64 - 1)
      if !rest.isEmpty then
        (value, r.complain s!"{String.ofList cs}: not completely converted")
      else if value < low ∨ high < value then
        let nearest := if signed ∧ value < low then low else high
        (nearest, r.complain s!"{String.ofList cs}: Numerical result out of range")
      else (value, r)

/-- The next argument as a number. -/
def number (r : Run) (signed : Bool) : Int × Run :=
  match r.argument with
  | (none, r) => (0, r)
  | (some cs, r) => r.numberOf signed cs

/-- Carries out a directive. -/
def perform (r : Run) (d : Directive) (written : Chars) : Run :=
  match d.letter with
  | 's' =>
    let (cs, r) := r.argument
    r.write (d.text (cs.getD []))
  | 'b' =>
    let (cs, r) := r.argument
    let (text, stopped) := unescapeAll ((cs.getD []).length + 1) (cs.getD [])
    { r.write (d.text text) with stopped }
  | 'c' =>
    let (cs, r) := r.argument
    r.write (d.pad [(cs.bind List.head?).getD '\x00'])
  | 'd' | 'i' =>
    let (n, r) := r.number true
    r.write (d.number n)
  | 'o' | 'u' | 'x' | 'X' =>
    let (n, r) := r.number false
    r.write (d.number n)
  | _ => r.giveUp s!"{String.ofList written}: invalid directive"

/-- A width or a precision: digits, or a star for the next argument. -/
def measure (r : Run) (cs : Chars) : Option Int × Chars × Run :=
  match cs with
  | '*' :: cs =>
    let (n, r) := r.number true
    (some n, cs, r)
  | cs => match leadingNumber 10 cs.length Char.isDigit cs with
    | some (n, rest) => (some n, rest, r)
    | none => (none, cs, r)

/-- Goes through the format once. -/
def pass : Nat → Chars → Run → Run
  | 0, _, r => r
  | fuel + 1, format, r =>
    if r.stopped then r
    else match format with
    | [] => r
    | '\\' :: cs =>
      let (c, rest) := unescape cs
      pass fuel rest (r.write [c])
    | '%' :: '%' :: cs => pass fuel cs (r.write ['%'])
    | '%' :: cs =>
      let flags := cs.takeWhile fun c => "#-+ 0".toList.contains c
      let (width, rest, r) := r.measure (cs.drop flags.length)
      let (precision, rest, r) := match rest with
        | '.' :: rest =>
          let (n, rest, r) := r.measure rest
          (some (n.getD 0), rest, r)
        | rest => (none, rest, r)
      match rest with
      | [] => r.giveUp "missing format character"
      | letter :: after =>
        let flags := if width.any (· < 0) then '-' :: flags else flags
        let d : Directive :=
          ⟨flags, (width.getD 0).natAbs,
            precision.bind fun n => if n < 0 then none else some n.toNat, letter⟩
        pass fuel after (r.perform d ('%' :: cs.take (cs.length - after.length)))
    | c :: cs => pass fuel cs (r.write [c])

/-- Goes through the format until no arguments are left. -/
def passes : Nat → Chars → Run → Run
  | 0, _, r => r
  | fuel + 1, format, r =>
    let next := pass (format.length + 1) format { r with asked := false }
    -- a format that asks for nothing would never come to an end
    if next.stopped ∨ next.left.isEmpty ∨ !next.asked then next
    else passes fuel format next

/-- What has been written by the end. -/
def output (r : Run) : Chars :=
  r.written.reverse.flatten

end Run

/-- **Arguments under a format.** -/
def formatted (format : Chars) (arguments : List Chars) : Run :=
  Run.passes (arguments.length + 1) format ⟨arguments, false, [], [], false, 0⟩

end Printing

/-- **Writes its arguments** as they are. -/
def echo : Program := fun _ arguments input =>
  let (lineEnd, texts) := match arguments with
    | ['-', 'n'] :: texts => ([], texts)
    | texts => (['\n'], texts)
  ⟨0, [' '].intercalate texts ++ lineEnd, [], input⟩

/-- **Writes its arguments under a format.** -/
def printf : Program := fun name arguments input =>
  match match arguments with
    | ['-', '-'] :: arguments => arguments
    | arguments => arguments with
  | [] => .refused 1 s!"{name}: missing operand\n{helpHint name}" input
  | format :: arguments =>
    let r := Printing.formatted format arguments
    let complaints := r.complaints.reverse.map fun c => s!"{name}: {c}\n"
    ⟨min r.status 1, r.output, (String.join complaints).toList, input⟩

end Automaton.Filter
