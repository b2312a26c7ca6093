import Automaton.Filter.Shell.Script
import Automaton.Filter.Shell.Wildcard

/-!
# Sessions

A *session* (`Shell.Session`) is a shell at work: its bindings, what its channels lead to, and
whether it goes on.  Channel 0 is the input, channel 1 the output, channel 2 takes complaints.

Channels lead to *streams*, which keep what has been written until it is read.  Commands of a
pipeline can therefore be carried out one after the other.
-/

namespace Automaton.Filter.Shell

/-- **Where a channel leads.** -/
inductive Lead where
  /-- To the stream with a number. -/
  | stream (number : Nat)
  /-- Nowhere: nothing comes and nothing stays. -/
  | nowhere
  deriving DecidableEq, Repr

/-- **How things go on** in a session. -/
inductive Flow where
  /-- With the next command. -/
  | onward
  /-- Behind so many loops. -/
  | broken (loops : Nat)
  /-- With the next round of the last of so many loops. -/
  | continued (loops : Nat)
  /-- Behind the function. -/
  | returned
  /-- Not at all. -/
  | exited
  /-- Not at all, because of a fault. -/
  | failed
  /-- Not at all, because of a signal. -/
  | killed (signal : Nat)
  deriving DecidableEq, Repr

/-- **A session.** -/
structure Session where
  /-- The name that the shell is called by. -/
  name : String
  /-- The number that stands for the shell. -/
  process : Nat
  /-- The parameters with numbers. -/
  arguments : List Chars
  bindings : List (Chars × Chars)
  /-- The variables that other shells see. -/
  exported : List Chars
  /-- The variables that keep their values. -/
  constants : List Chars
  functions : List (Chars × Command)
  /-- What the variables of each function under way were before, the latest function first. -/
  locals : List (List (Chars × Option Chars))
  options : List Char
  /-- What is done at signals and at the end. -/
  traps : List (String × Chars)
  channels : List (Nat × Lead)
  /-- What is in the streams, the latest writing first. -/
  streams : Array (List Chars)
  /-- The streams of files. -/
  files : List (Chars × Nat)
  status : Nat
  /-- The status of the last command whose output was a piece of a word. -/
  substituted : Nat
  flow : Flow
  /-- How many loops are under way. -/
  loops : Nat
  line : Nat
  /-- What stands in front of complaints inside a text that is carried out as a script. -/
  place : String

namespace Session

/-! ### Channels -/

/-- Where a channel leads. -/
def lead (s : Session) (channel : Nat) : Lead :=
  (s.channels.lookup channel).getD .nowhere

/-- Lets a channel lead elsewhere. -/
def withLead (s : Session) (channel : Nat) (l : Lead) : Session :=
  { s with channels := (channel, l) :: s.channels.filter (·.1 != channel) }

/-- A new stream, and its number. -/
def newStream (s : Session) (text : Chars) : Nat × Session :=
  (s.streams.size, { s with streams := s.streams.push [text] })

/-- What is in a stream. -/
def textIn (s : Session) (stream : Nat) : Chars :=
  match s.streams[stream]? with
  | some [text] => text
  | some texts => texts.reverse.flatten
  | none => []

/-- Writes a text to a channel. -/
def write (s : Session) (channel : Nat) (text : Chars) : Session :=
  match s.lead channel with
  | .stream n => { s with streams := s.streams.modify n (text :: ·) }
  | .nowhere => s

/-- Takes all that comes from the input. -/
def takeInput (s : Session) : Chars × Session :=
  match s.lead 0 with
  | .stream n => (s.textIn n, { s with streams := s.streams.modify n fun _ => [] })
  | .nowhere => ([], s)

/-- Leaves something of the input. -/
def leave (s : Session) (text : Chars) : Session :=
  match s.lead 0 with
  | .stream n => { s with streams := s.streams.modify n fun _ => [text] }
  | .nowhere => s

/-! ### Complaints -/

/-- Complains. -/
def complain (s : Session) (message : String) : Session :=
  s.write 2 s!"{s.name}: {s.line}: {s.place}{message}\n".toList

/-- Complains on behalf of a command of the shell itself. -/
def complainFor (s : Session) (command message : String) : Session :=
  s.write 2 s!"{s.name}: {s.line}: {command}: {message}\n".toList

/-- Ends with a status. -/
def exit (s : Session) (status : Nat) : Session :=
  { s with status, flow := .exited }

/-- Complains and ends. -/
def abort (s : Session) (message : String) : Session :=
  { s.complain message with status := 2, flow := .failed }

/-- Whether a session has an option. -/
def has (s : Session) (option : Char) : Bool :=
  s.options.contains option

/-! ### Parameters -/

/-- The value of a parameter. -/
def value? (s : Session) (name : Chars) : Option Chars :=
  match name with
  | ['#'] => some (toString s.arguments.length).toList
  | ['?'] => some (toString s.status).toList
  | ['$'] => some (toString s.process).toList
  | ['-'] => some ("ubaCEVvxsnmiIfe".toList.filter s.has)
  | ['!'] => none
  | ['0'] => some s.name.toList
  | _ =>
    if name.all Char.isDigit then s.arguments[numeral 10 name - 1]?
    else s.bindings.lookup name

/-- Gives a value to a variable, which may be a constant. -/
def withVariable (s : Session) (name value : Chars) : Session :=
  let others := s.bindings.filter (·.1 != name)
  let exported := if s.has 'a' ∧ !s.exported.contains name then name :: s.exported else s.exported
  { s with bindings := (name, value) :: others, exported }

/-- Takes the value from a variable. -/
def withoutVariable (s : Session) (name : Chars) : Session :=
  { s with
    bindings := s.bindings.filter (·.1 != name),
    exported := s.exported.filter (· != name) }

/-- Gives a value to a variable, unless it is a constant. -/
def assign (s : Session) (name value : Chars) : Session :=
  if s.constants.contains name then s.abort s!"{String.ofList name}: is read only"
  else s.withVariable name value

/-- The characters that separate words. -/
def separators (s : Session) : Chars :=
  (s.value? "IFS".toList).getD [' ', '\t', '\n']

/-- What is passed on to other shells. -/
def environment (s : Session) : List (Chars × Chars) :=
  s.bindings.filter fun (name, _) => s.exported.contains name

end Session

/-! ### Expanded words -/

/-- **A part of an expanded word.** -/
inductive Bit where
  /-- A character that stays where it is. -/
  | kept (l : Letter)
  /-- A character that may separate words. -/
  | loose (c : Char)
  /-- There is a word here, even if it is empty. -/
  | presence
  /-- A value begins: one whose characters may separate words or, with `asList`, a list of words. -/
  | value (asList : Bool)
  /-- The next word of a list begins.  Some characters stand between two words where all have to be
  one. -/
  | boundary (between : Chars)
  deriving DecidableEq, Repr

/-- The bits of a value. -/
def bitsOf (quoted : Bool) (cs : Chars) : List Bit :=
  if quoted then .presence :: cs.map fun c => .kept ⟨c, true⟩
  else .value false :: cs.map .loose

/-- The letters of bits that make one word. -/
def lettersOf (bits : List Bit) : List Letter :=
  bits.flatMap fun
    | .kept l => [l]
    | .loose c => [⟨c, false⟩]
    | .boundary between => between.map fun c => ⟨c, false⟩
    | .presence | .value _ => []

/-- The text of bits that make one word. -/
def textOf (bits : List Bit) : Chars :=
  (lettersOf bits).map (·.char)

/-- **Words being separated.** -/
structure Splitting where
  /-- The words that are complete, the latest first. -/
  done : List Chars
  /-- The characters of the word under way, the latest first. -/
  current : Option Chars
  /-- The last word was ended by a blank of the same value. -/
  afterBlank : Bool
  /-- The last value is a list of words. -/
  inList : Bool
  /-- The last value stands right behind such a list; its blanks are separators like all others. -/
  afterList : Bool

namespace Splitting

/-- Nothing has been separated yet. -/
def start : Splitting :=
  ⟨[], none, false, false, false⟩

/-- Ends the word under way, which may be empty. -/
def close (t : Splitting) (afterBlank : Bool) : Splitting :=
  { t with done := (t.current.getD []).reverse :: t.done, current := none, afterBlank }

/-- Goes on with the word under way. -/
def extend (t : Splitting) (c : Char) : Splitting :=
  { t with current := some (c :: t.current.getD []), afterBlank := false }

/-- Takes a blank, which ends a word only if there is one. -/
def addBlank (t : Splitting) : Splitting :=
  if t.current.isSome then t.close true else t

/-- Takes a separator that ends a word even where there is none, unless it belongs to the blanks
before. -/
def addSeparator (t : Splitting) : Splitting :=
  if t.current.isNone ∧ t.afterBlank then { t with afterBlank := false } else t.close false

/-- Takes one more bit. -/
def add (separators : Chars) (t : Splitting) : Bit → Splitting
  | .kept l => t.extend l.char
  | .presence => { t with current := some (t.current.getD []), afterBlank := false }
  | .value asList => { t with afterBlank := false, inList := asList, afterList := t.inList }
  | .boundary _ => if t.inList ∨ t.afterList then t.addSeparator else t.addBlank
  | .loose c =>
    if !separators.contains c then t.extend c
    else if (c = ' ' ∨ c = '\t' ∨ c = '\n') ∧ !t.afterList then t.addBlank
    else t.addSeparator

end Splitting

/-- The words that bits make. -/
def wordsOf (separators : Chars) (bits : List Bit) : List Chars :=
  let t := bits.foldl (Splitting.add separators) .start
  -- the last word of a list counts even if it is empty
  (if t.current.isSome ∨ t.inList then t.close false else t).done.reverse

end Automaton.Filter.Shell
