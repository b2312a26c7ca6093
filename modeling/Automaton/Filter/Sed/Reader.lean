import Automaton.Filter.Sed.Script

/-!
# Reading editing scripts

A script is read character by character; a complaint about it names the place that reading has
reached (`Sed.Fault`).  `Sed.readScript` is the whole of it: steps one after the other, separated by
semicolons and line ends where they do not end by themselves, followed by the check that all blocks
are closed.
-/

namespace Automaton.Filter.Sed

/-- **What is wrong with a script**, and how much of it was left by then.  Without a place, the
fault shows only when the script is complete. -/
structure Fault where
  message : String
  left : Option Nat

/-- Reading a part of a script: from what is left, a value and what is left then. -/
abbrev Read := StateT Chars (Except Fault)

/-- A complaint at the place that has been reached. -/
def complain {α : Type} (message : String) : Read α := fun cs =>
  .error ⟨message, some cs.length⟩

/-- The next character, if there is one. -/
def next? : Read (Option Char) := fun
  | [] => .ok (none, [])
  | c :: cs => .ok (some c, cs)

/-- The next character, without taking it. -/
def peek? : Read (Option Char) := fun cs => .ok (cs.head?, cs)

/-- All characters of a kind that come next. -/
def takeWhile (p : Char → Bool) : Read Chars := fun cs => .ok (cs.takeWhile p, cs.dropWhile p)

/-- A blank within the line. -/
def isBlank (c : Char) : Bool :=
  isSpace c && c != '\n'

/-- Passes over blanks. -/
def skipBlanks : Read Unit := do
  let _ ← takeWhile isBlank

/-- The number that comes next. -/
def number : Read Nat := do
  pure (numeral 10 (← takeWhile Char.isDigit))

/-! ### Texts between slashes -/

/-- The characters of a set within a pattern, up to its closing bracket, and what follows. -/
def throughSet : Nat → Bool → Chars → Option (Chars × Chars)
  | 0, _, _ => none
  | steps + 1, first, cs => match cs with
    | [] => none
    | ']' :: cs =>
      if first then (throughSet steps false cs).map fun r => (']' :: r.1, r.2)
      else some ([']'], cs)
    | '[' :: sign :: cs =>
      if sign = ':' ∨ sign = '=' ∨ sign = '.' then match Pattern.bracketed sign cs with
        | some (name, cs) => (throughSet steps false cs).map fun r =>
          ('[' :: sign :: (name ++ sign :: ']' :: r.1), r.2)
        | none => none
      else (throughSet steps false (sign :: cs)).map fun r => ('[' :: r.1, r.2)
    | '\\' :: 'n' :: cs => (throughSet steps false cs).map fun r => ('\n' :: r.1, r.2)
    | c :: cs =>
      if c = '\n' then none else (throughSet steps false cs).map fun r => (c :: r.1, r.2)

/-- A text up to a sign; a backslash takes away the meaning of the sign.  In a pattern, the sign has
no meaning within a set of characters. -/
def upTo (sign : Char) (inPattern : Bool) : Nat → Chars → Except Nat (Chars × Chars)
  | 0, cs => .error cs.length
  | steps + 1, cs =>
    let cons (front : Chars) (cs : Chars) : Except Nat (Chars × Chars) := do
      let (text, cs) ← upTo sign inPattern steps cs
      pure (front ++ text, cs)
    match cs with
    | [] => .error 0
    | c :: rest =>
      if c = sign then .ok ([], rest)
      else match c, rest with
        | '\n', _ => if inPattern then .error cs.length else cons ['\n'] rest
        | '\\', [] => .error 0
        | '\\', d :: rest =>
          if d = sign ∧ (inPattern ∨ d ≠ '&') then cons [d] rest
          else if d = 'n' ∧ inPattern then cons ['\n'] rest
          else if d = '\n' ∧ inPattern then cons ['\n'] rest
          else cons ['\\', d] rest
        | '[', rest =>
          if inPattern then
            let (front, body) := match rest with
              | '^' :: body => (['[', '^'], body)
              | body => (['['], body)
            match throughSet (body.length + 1) true body with
            | some (set, rest) => cons (front ++ set) rest
            | none => .error 0
          else cons ['['] rest
        | c, rest => cons [c] rest

/-- Reads a text up to a sign, with the complaint for the case that the sign does not come. -/
def between (sign : Char) (inPattern : Bool) (complaint : String) : Read Chars := fun cs =>
  match upTo sign inPattern (cs.length + 1) cs with
  | .ok r => .ok r
  | .error left => .error ⟨complaint, some left⟩

/-- A character given by its number: two hexadecimal digits, or three digits of another base, or a
letter for a control character. -/
def numbered : Chars → Option (Char × Chars)
  | 'x' :: cs => (leadingNumber 16 2 isHex cs).map fun r => (charOf r.1, r.2)
  | 'o' :: cs => (leadingNumber 8 3 isOctal cs).map fun r => (charOf r.1, r.2)
  | 'd' :: cs => (leadingNumber 10 3 Char.isDigit cs).map fun r => (charOf r.1, r.2)
  | 'c' :: c :: cs => some (charOf (c.toUpper.toNat ^^^ 64), cs)
  | _ => none

/-- Puts characters in the place of their numbers. -/
def unnumber : Nat → Chars → Chars
  | 0, cs => cs
  | steps + 1, cs => match cs with
    | '\\' :: cs => match numbered cs with
      | some ('\\', cs) => '\\' :: '\\' :: unnumber steps cs
      | some (c, cs) => c :: unnumber steps cs
      | none => match cs with
        | [] => ['\\']
        | c :: cs => '\\' :: c :: unnumber steps cs
    | c :: cs => c :: unnumber steps cs
    | [] => []

/-- What is wanted by a pattern; the flags follow the pattern. -/
def wanted (extended : Bool) (text : Chars) (options : Pattern.Options) : Read (Wanted × Nat) :=
  if text.isEmpty then pure (none, 9)
  else match Pattern.read extended (unnumber text.length text) with
    | .ok (p, groups) => pure (some (p, options), groups)
    | .error message => complain message

/-! ### Addresses -/

/-- The flags behind the pattern of an address. -/
def addressFlags : Nat → Pattern.Options → Read Pattern.Options
  | 0, o => pure o
  | steps + 1, o => do
    skipBlanks
    match ← peek? with
    | some 'I' => let _ ← next?; addressFlags steps { o with ignoreCase := true }
    | some 'M' => let _ ← next?; addressFlags steps { o with byLine := true }
    | _ => pure o

/-- The pattern of an address, from behind its first sign. -/
def addressPattern (extended : Bool) (sign : Char) : Read Address := do
  let text ← between sign true "unterminated address regex"
  let options ← addressFlags 8 ⟨false, false, '\n'⟩
  let (w, _) ← wanted extended text options
  pure (.holding w)

/-- An address, if one comes next. -/
def address? (extended : Bool) : Read (Option Until) := do
  match ← peek? with
  | some '/' => let _ ← next?; pure (some (.address (← addressPattern extended '/')))
  | some '\\' =>
    let _ ← next?
    match ← next? with
    | some sign => pure (some (.address (← addressPattern extended sign)))
    | none => complain "unterminated address regex"
  | some '$' => let _ ← next?; pure (some (.address .last))
  | some '+' => let _ ← next?; pure (some (.more (← number)))
  | some '~' => let _ ← next?; pure (some (.multiple (← number)))
  | some c =>
    if !c.isDigit then pure none
    else do
      let n ← number
      skipBlanks
      if (← peek?) = some '~' then
        let _ ← next?
        skipBlanks
        let step ← number
        pure (some (.address (if step = 0 then .line n else .every n step)))
      else pure (some (.address (.line n)))
  | none => pure none

/-- The selector in front of a step. -/
def selector (extended : Bool) : Read Selector := do
  let (first, until?) ← match ← address? extended with
    | none => pure (none, none)
    | some (.address first) => do
      skipBlanks
      let until? ← if (← peek?) = some ',' then do
          let _ ← next?
          skipBlanks
          match ← address? extended with
          | some u => skipBlanks; pure (some u)
          | none => do
            let _ ← next?
            complain "unexpected \x60,'"
        else pure none
      match first, until? with
      | .line 0, some (.address (.holding _)) => pure (some first, until?)
      | .line 0, _ => do
        let _ ← next?
        complain "invalid usage of line address 0"
      | _, _ => pure (some first, until?)
    | some _ => complain "invalid usage of +N or ~N as first address"
  if (← peek?) = some '!' then
    let _ ← next?
    skipBlanks
    if (← peek?) = some '!' then
      let _ ← next?
      complain "multiple \x60!'s"
    pure ⟨first, until?, true⟩
  else pure ⟨first, until?, false⟩

/-! ### Arguments of steps -/

/-- The end of a step. -/
def endOfStep : Read Unit := do
  skipBlanks
  match ← peek? with
  | none | some '\x7d' | some '#' => pure ()
  | some c =>
    let _ ← next?
    if c ≠ '\n' ∧ c ≠ ';' then complain "extra characters after command"

/-- The text of a step, up to the end of a line that does not end in a backslash. -/
def textLines : Nat → Chars → Chars × Chars
  | 0, cs => ([], cs)
  | steps + 1, cs => match cs with
    | [] => (['\n'], [])
    | '\n' :: cs => (['\n'], cs)
    | ['\\'] => (['\n'], [])
    | '\\' :: cs => match numbered cs with
      | some (c, cs) => let r := textLines steps cs; (c :: r.1, r.2)
      | none => match cs with
        | [] => (['\n'], [])
        | c :: cs =>
          let r := textLines steps cs
          ((if c = 'b' then c else (controlOf c).getD c) :: r.1, r.2)
    | c :: cs => let r := textLines steps cs; (c :: r.1, r.2)

/-- The text of a step that begins here. -/
def textHere (front : Chars) : Read Chars := fun cs =>
  let r := textLines (cs.length + 1) cs
  .ok (front ++ r.1, r.2)

/-- **The text of a step**: on the same line, or behind a backslash. -/
def stepText : Read Chars := do
  skipBlanks
  match ← peek? with
  | none => complain "expected \\ after \x60a', \x60c' or \x60i'"
  | some '\\' =>
    let _ ← next?
    let blanks ← takeWhile isBlank
    match ← peek? with
    | none => pure []
    | some '\n' =>
      let _ ← next?
      textHere []
    | some _ => textHere blanks
  | some _ => textHere []

/-- The name of a label. -/
def labelName : Read Chars := do
  skipBlanks
  takeWhile fun c => !isSpace c && c != ';'

/-- The name of a label to jump to. -/
def targetName : Read Chars := do
  skipBlanks
  takeWhile fun c => !isSpace c && c != ';' && c != '\x7d'

/-- The name of a file, up to the end of the line. -/
def fileName : Read Chars := do
  skipBlanks
  let name ← takeWhile (· != '\n')
  if name.isEmpty then complain "missing filename in r/R/w/W commands"
  let _ ← next?
  pure name

/-- The sink with a name. -/
def sinkOf (name : Chars) : Sink :=
  match String.ofList name with
  | "/dev/stdout" => .output
  | "/dev/stderr" => .complaints
  | _ => .elsewhere

/-! ### Substitutions -/

/-- The parts of a replacement; neighbouring characters form one text. -/
def replacementParts : Nat → Chars → List Part
  | 0, _ => []
  | steps + 1, cs =>
    let text (c : Char) (cs : Chars) : List Part :=
      match replacementParts steps cs with
      | .text t :: parts => .text (c :: t) :: parts
      | parts => .text [c] :: parts
    match cs with
    | [] => []
    | '&' :: cs => .held 0 :: replacementParts steps cs
    | '\\' :: 'U' :: cs => .case .upper :: replacementParts steps cs
    | '\\' :: 'L' :: cs => .case .lower :: replacementParts steps cs
    | '\\' :: 'E' :: cs => .case .asIs :: replacementParts steps cs
    | '\\' :: 'u' :: cs => .case .upperNext :: replacementParts steps cs
    | '\\' :: 'l' :: cs => .case .lowerNext :: replacementParts steps cs
    | '\\' :: cs => match numbered cs with
      | some (c, cs) => text c cs
      | none => match cs with
        | [] => text '\\' []
        | c :: cs =>
          if c.isDigit then .held (c.toNat - '0'.toNat) :: replacementParts steps cs
          else text (if c = 'b' then c else (controlOf c).getD c) cs
    | c :: cs => text c cs

/-- The flags of a substitution. -/
structure Flags where
  nth : Option Nat
  everywhere : Bool
  print : Bool
  options : Pattern.Options
  sink : Option Sink

/-- The flags that follow a substitution, up to the end of the step. -/
def substitutionFlags : Nat → Flags → Read Flags
  | 0, f => pure f
  | steps + 1, f => do
    match ← peek? with
    | none | some '\x7d' | some '#' => pure f
    | some '\n' | some ';' => let _ ← next?; pure f
    | some c =>
      if c.isDigit then
        let n ← number
        if f.nth.isSome then complain "multiple number options to \x60s' command"
        if n = 0 then complain "number option to \x60s' command may not be zero"
        substitutionFlags steps { f with nth := some n }
      else
        let _ ← next?
        if isBlank c then substitutionFlags steps f
        else match c with
          | 'g' =>
            if f.everywhere then complain "multiple \x60g' options to \x60s' command"
            substitutionFlags steps { f with everywhere := true }
          | 'p' =>
            if f.print then complain "multiple \x60p' options to \x60s' command"
            substitutionFlags steps { f with print := true }
          | 'i' | 'I' =>
            substitutionFlags steps { f with options := { f.options with ignoreCase := true } }
          | 'm' | 'M' =>
            substitutionFlags steps { f with options := { f.options with byLine := true } }
          | 'w' => pure { f with sink := some (sinkOf (← fileName)) }
          | _ => complain "unknown option to \x60s'"

/-- The greatest number of a group that a replacement asks for. -/
def greatestHeld (parts : List Part) : Nat :=
  parts.foldl (fun n p => match p with
    | .held m => max n m
    | _ => n) 0

/-- A substitution, from behind its letter. -/
def substitution (extended : Bool) : Read Action := do
  let complaint := "unterminated \x60s' command"
  match ← next? with
  | none => complain complaint
  | some sign =>
    let text ← between sign true complaint
    let replacement ← between sign false complaint
    let noFlags : Flags := ⟨none, false, false, ⟨false, false, '\n'⟩, none⟩
    let flags ← substitutionFlags (replacement.length + 99) noFlags
    let (w, groups) ← wanted extended text flags.options
    let parts := replacementParts (replacement.length + 1) replacement
    if groups < greatestHeld parts then
      complain s!"invalid reference \\{greatestHeld parts} on \x60s' command's RHS"
    pure (.substitute
      ⟨w, parts, flags.nth.getD 1, flags.everywhere, flags.print, flags.sink⟩)

/-- The characters of one side of an exchange. -/
def exchangeSide : Nat → Chars → Chars
  | 0, _ => []
  | steps + 1, cs => match cs with
    | '\\' :: cs => match numbered cs with
      | some (c, cs) => c :: exchangeSide steps cs
      | none => match cs with
        | [] => ['\\']
        | c :: cs => match controlOf c with
          | some d => (if c = 'b' then c else d) :: exchangeSide steps cs
          | none => c :: exchangeSide steps cs
    | c :: cs => c :: exchangeSide steps cs
    | [] => []

/-- An exchange of characters, from behind its letter. -/
def exchange : Read Action := do
  let complaint := "unterminated \x60y' command"
  match ← next? with
  | none => complain complaint
  | some sign =>
    let source ← between sign false complaint
    let target ← between sign false complaint
    let source := exchangeSide source.length source
    let target := exchangeSide target.length target
    if source.length ≠ target.length then
      complain "strings for \x60y' command are different lengths"
    endOfStep
    pure (.exchange (source.zip target))

/-! ### Steps -/

/-- An action without arguments. -/
def plain (a : Action) : Read Action := do
  endOfStep
  pure a

/-- An action with an optional number. -/
def withNumber (f : Option Nat → Action) : Read Action := do
  skipBlanks
  let digits ← takeWhile Char.isDigit
  endOfStep
  pure (f (if digits.isEmpty then none else some (numeral 10 digits)))

/-- The action of a letter. -/
def action (extended : Bool) (s : Selector) : Read Action := do
  match ← next? with
  | none => complain "missing command"
  | some c => match c with
    | '\x7b' => pure .opening
    | '\x7d' =>
      if s.first.isSome then complain "\x60\x7d' doesn't want any addresses"
      plain .closing
    | ':' =>
      if s.first.isSome then complain ": doesn't want any addresses"
      let name ← labelName
      if name.isEmpty then complain "\":\" lacks a label"
      pure (.label name)
    | 'b' => pure (.jump .always (← targetName))
    | 't' => pure (.jump .changed (← targetName))
    | 'T' => pure (.jump .unchanged (← targetName))
    | 'a' => pure (.append (← stepText))
    | 'i' => pure (.insert (← stepText))
    | 'c' => pure (.change (← stepText))
    | 'd' => plain .delete
    | 'D' => plain .deleteFirst
    | 'p' => plain .print
    | 'P' => plain .printFirst
    | 'l' => withNumber .list
    | '=' => plain .number
    | 'F' => plain .name
    | 'n' => plain .next
    | 'N' => plain .join
    | 'h' => plain .hold
    | 'H' => plain .holdMore
    | 'g' => plain .get
    | 'G' => plain .getMore
    | 'x' => plain .swap
    | 'z' => plain .clear
    | 'q' => withNumber fun n => .quit (n.getD 0) true
    | 'Q' => withNumber fun n => .quit (n.getD 0) false
    | 'w' => pure (.write (sinkOf (← fileName)) false)
    | 'W' => pure (.write (sinkOf (← fileName)) true)
    | 'r' => let _ ← fileName; pure (.append [])
    | 'R' => let _ ← fileName; pure .nothing
    | 's' => substitution extended
    | 'y' => exchange
    | 'v' => let _ ← labelName; plain .nothing
    | c => complain s!"unknown command: \x60{c}'"

/-- What stands between steps. -/
def isBetween (c : Char) : Bool :=
  isSpace c || c == ';'

/-- The steps of a script; `depth` blocks are open. -/
def steps (extended : Bool) : Nat → Nat → Read (List Step)
  | 0, _ => pure []
  | fuel + 1, depth => do
    let _ ← takeWhile isBetween
    match ← peek? with
    | none =>
      if depth = 0 then pure [] else fun _ => .error ⟨"unmatched \x60\x7b'", none⟩
    | some '#' =>
      let _ ← takeWhile (· != '\n')
      steps extended fuel depth
    | some _ => do
      let s ← selector extended
      if (← peek?) = some '#' then
        let _ ← next?
        if s.first.isSome then complain "comments don't accept any addresses"
        let _ ← takeWhile (· != '\n')
        steps extended fuel depth
      else if (← peek?) = some '\x7d' ∧ depth = 0 then
        let _ ← next?
        complain "unexpected \x60\x7d'"
      else
        let a ← action extended s
        let depth := match a with
          | .opening => depth + 1
          | .closing => depth - 1
          | _ => depth
        pure (⟨s, a⟩ :: (← steps extended fuel depth))

/-- Where a fault lies, given the pieces that make up a script: the number of the piece and the
number of the character. -/
def locate : List Chars → Nat → Nat → Nat × Nat
  | [], number, char => (number, char)
  | [_], number, char => (number, char)
  | piece :: pieces, number, char =>
    if char ≤ piece.length then (number, char)
    else locate pieces (number + 1) (char - piece.length - 1)

/-- The wording of a fault in a script. -/
def Fault.describe (f : Fault) (pieces : List Chars) (total : Nat) : String :=
  match f.left with
  | none => s!"-e expression #{max pieces.length 1}, char 0: {f.message}"
  | some left =>
    let (number, char) := locate pieces 1 (total - left)
    s!"-e expression #{number}, char {char}: {f.message}"

/-- Jumps to labels that are not there. -/
def strayJump? (s : Script) : Option Chars :=
  s.steps.findSome? fun step => match step.action with
    | .jump _ name => if !name.isEmpty ∧ (s.find name).isNone then some name else none
    | _ => none

/-- **Reading a script** that is given in pieces.  A failure comes with the status that it leads
to. -/
def readScript (extended : Bool) (pieces : List Chars) : Except (Nat × String) Script :=
  let text := ['\n'].intercalate pieces
  match (steps extended (text.length + 1) 0).run text with
  | .error f => .error (1, f.describe pieces text.length)
  | .ok (found, _) =>
    let script : Script := ⟨found.toArray, text.take 2 == ['#', 'n']⟩
    match strayJump? script with
    | some name => .error (4, s!"can't find label for jump to \x60{String.ofList name}'")
    | none => .ok script

end Automaton.Filter.Sed
