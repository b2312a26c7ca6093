import Automaton.Filter.Condition
import Automaton.Filter.Printing
import Automaton.Filter.Shell.Session

/-!
# Commands of the shell itself

Some commands are no programs but act on the session (`Shell.builtin?`).  A few of them are
*special*: a fault in one of those ends the shell.
-/

namespace Automaton.Filter.Shell

/-- The special commands. -/
def specials : List String :=
  [".", ":", "break", "continue", "eval", "exec", "exit", "export", "local", "readonly", "return",
    "set", "shift", "times", "trap", "unset"]

/-- Whether a command is special. -/
def isSpecialCommand (name : Chars) : Bool :=
  specials.contains (String.ofList name)

/-- The session after a fault in a command. -/
def Session.fault (s : Session) (name message : String) : Session :=
  let s := { s.complainFor name message with status := 2 }
  if specials.contains name then { s with flow := .failed } else s

/-- Gives a value to a variable on behalf of a command. -/
def Session.assignFor (s : Session) (command : String) (name value : Chars) : Session :=
  if s.constants.contains name then s.fault command s!"{String.ofList name}: is read only"
  else s.withVariable name value

/-- The count that an argument is. -/
def count? (cs : Chars) : Option Nat :=
  let n := numeral 10 cs
  if !cs.isEmpty ∧ cs.all Char.isDigit ∧ n < Nat.pow 2 31 then some n else none

/-- A command with an optional count. -/
def Session.withCount (s : Session) (name : String) (arguments : List Chars) (usual : Nat)
    (f : Nat → Session) : Session :=
  match arguments with
  | [] => f usual
  | cs :: _ => match count? cs with
    | some n => f n
    | none => s.fault name s!"Illegal number: {String.ofList cs}"

/-- The parts of `name=value`. -/
def split? (cs : Chars) : Chars × Option Chars :=
  let name := cs.takeWhile (· != '=')
  match cs.drop name.length with
  | _ :: value => (name, some value)
  | [] => (name, none)

/-- Carries out something for each name, with its value if there is one. -/
def Session.forNames (s : Session) (command : String) (arguments : List Chars)
    (f : Session → Chars → Option Chars → Session) : Session :=
  arguments.foldl (fun s cs =>
    let (name, value) := split? cs
    if s.flow ≠ .onward then s
    else if !isName name then s.fault command s!"{String.ofList name}: bad variable name"
    else f s name value) { s with status := 0 }

/-- Arguments without the options in front of them. -/
def withoutOptions : List Chars → List Chars
  | ['-', '-'] :: arguments => arguments
  | ('-' :: _ :: _) :: arguments => withoutOptions arguments
  | arguments => arguments

/-! ### Options of the shell -/

/-- The options, by their words. -/
def optionWords : List (String × Char) :=
  [("errexit", 'e'), ("noglob", 'f'), ("ignoreeof", 'I'), ("interactive", 'i'), ("monitor", 'm'),
    ("noexec", 'n'), ("stdin", 's'), ("xtrace", 'x'), ("verbose", 'v'), ("vi", 'V'), ("emacs", 'E'),
    ("noclobber", 'C'), ("allexport", 'a'), ("notify", 'b'), ("nounset", 'u'), ("nolog", 'l'),
    ("debug", 'd')]

/-- Turns an option on or off. -/
def turn (on : Bool) (c : Char) (options : List Char) : List Char :=
  let others := options.filter (· != c)
  if on then others ++ [c] else others

/-- Turns the options of some letters on or off; `o` takes a word from the arguments. -/
def turnAll (on : Bool) : Chars → List Chars → List Char →
    Except String (List Char × List Chars)
  | [], arguments, options => .ok (options, arguments)
  | 'o' :: cs, arguments, options => match arguments with
    | [] => turnAll on cs [] options
    | word :: arguments => match optionWords.find? (·.1.toList == word) with
      | some (_, c) => turnAll on cs arguments (turn on c options)
      | none => .error s!"Illegal option -o {String.ofList word}"
  | c :: cs, arguments, options =>
    if "efIimnsxvVECabu".toList.contains c then turnAll on cs arguments (turn on c options)
    else .error s!"Illegal option -{c}"

/-- The command `set`. -/
def setOptions : Nat → List Chars → Session → Session
  | 0, _, s => s
  | fuel + 1, arguments, s => match arguments with
    | ['-', '-'] :: arguments => { s with arguments, status := 0 }
    | ['-'] :: arguments =>
      let options := turn false 'x' (turn false 'v' s.options)
      let arguments := if arguments.isEmpty then s.arguments else arguments
      { s with options, arguments, status := 0 }
    | (sign :: c :: cs) :: arguments =>
      if sign = '-' ∨ sign = '+' then
        match turnAll (sign == '-') (c :: cs) arguments s.options with
        | .ok (options, []) => { s with options, status := 0 }
        | .ok (options, arguments) => setOptions fuel arguments { s with options }
        | .error message => s.fault "set" message
      else { s with arguments := (sign :: c :: cs) :: arguments, status := 0 }
    | [] => { s with status := 0 }
    | arguments => { s with arguments, status := 0 }

/-! ### Reading -/

/-- A line, what is left behind it, and whether it has an end.  Unless it is taken as it is, a
backslash takes the meaning from the next character and continues the line at its end. -/
def takeLine (asIs : Bool) : Chars → List Letter × Chars × Bool
  | [] => ([], [], false)
  | '\n' :: cs => ([], cs, true)
  | '\\' :: c :: cs =>
    if asIs then
      let (line, rest) := takeLine asIs (c :: cs)
      (⟨'\\', false⟩ :: line, rest)
    else
      let (line, rest) := takeLine asIs cs
      (if c = '\n' then line else ⟨c, true⟩ :: line, rest)
  | ['\\'] => (if asIs then [⟨'\\', false⟩] else [], [], false)
  | c :: cs =>
    let (line, rest) := takeLine asIs cs
    (⟨c, false⟩ :: line, rest)

/-- Whether a letter separates words. -/
def separates (separators : Chars) (l : Letter) : Bool :=
  !l.literal && separators.contains l.char

/-- Whether a letter is a blank that separates words. -/
def isBlankBetween (separators : Chars) (l : Letter) : Bool :=
  separates separators l && isSpace l.char

/-- What follows a separator, if there is one: of blanks any number, and with them one of the other
separators. -/
def pastSeparator (separators : Chars) (ls : List Letter) : List Letter :=
  let rest := ls.dropWhile (isBlankBetween separators)
  match rest with
  | l :: more =>
    if separates separators l then more.dropWhile (isBlankBetween separators) else rest
  | [] => []

/-- Where the last variable's text ends: at the separator behind its only word, or else at the
blanks behind all words.  `count` letters have been read, `end?` is where the text ends if nothing
else follows, and `afterBlank` says that another separator may still belong to the blanks before.
Letters without a meaning are no reason to go on. -/
def textEnd? (separators : Chars) (count : Nat) (end? : Option Nat) (afterBlank : Bool) :
    List Letter → Option Nat
  | [] => end?
  | l :: ls =>
    if l.literal then textEnd? separators (count + 1) end? false ls
    else if isBlankBetween separators l then
      textEnd? separators (count + 1) (some (end?.getD count)) afterBlank ls
    else
      let end? := if separates separators l ∧ afterBlank then end? else none
      textEnd? separators (count + 1) end? false ls

/-- A line, given to variables word by word; the last one takes the rest. -/
def share (separators : Chars) : List Chars → List Letter → List (Chars × Chars)
  | [], _ => []
  | x :: xs, ls =>
    let ls := ls.dropWhile (isBlankBetween separators)
    let word := ls.takeWhile (!separates separators ·)
    let behind := ls.drop word.length
    let taken := match xs, behind with
      | [], l :: more =>
        let count := word.length
        let afterBlank := isBlankBetween separators l
        match textEnd? separators (count + 1) (some count) afterBlank more with
        | some n => ls.take n
        | none => ls
      | _, _ => word
    (x, taken.map (·.char)) :: share separators xs (pastSeparator separators behind)

/-- The command `read`. -/
def readLine (s : Session) (arguments : List Chars) : Session :=
  let asIs := arguments.any fun cs => cs == ['-', 'r']
  match withoutOptions arguments with
  | [] => s.fault "read" "arg count"
  | names =>
    let (input, s) := s.takeInput
    let (line, rest, complete) := takeLine asIs input
    let s := s.leave rest
    let values := share s.separators (names.map fun cs => (split? cs).1) line
    let given := values.takeWhile fun (x, _) => isName x && !s.constants.contains x
    let s := given.foldl (fun s (x, value) => s.withVariable x value) s
    match values.drop given.length with
    | [] => { s with status := if complete then 0 else 1 }
    | (x, value) :: _ =>
      if isName x then s.assignFor "read" x value
      else s.fault "read" s!"{String.ofList x}: bad variable name"

/-! ### Signals -/

/-- The signals, by number. -/
def signals : List (Nat × String) :=
  [(0, "EXIT"), (1, "HUP"), (2, "INT"), (3, "QUIT"), (4, "ILL"), (5, "TRAP"), (6, "ABRT"),
    (7, "BUS"), (8, "FPE"), (9, "KILL"), (10, "USR1"), (11, "SEGV"), (12, "USR2"), (13, "PIPE"),
    (14, "ALRM"), (15, "TERM"), (17, "CHLD"), (18, "CONT"), (19, "STOP"), (20, "TSTP"),
    (21, "TTIN"), (22, "TTOU"), (23, "URG"), (24, "XCPU"), (25, "XFSZ"), (26, "VTALRM"),
    (27, "PROF"), (28, "WINCH"), (29, "IO"), (30, "PWR"), (31, "SYS")]

/-- What a shell says when a signal has ended another one. -/
def signalText (signal : Nat) : String :=
  match signal with
  | 1 => "Hangup"
  | 3 => "Quit"
  | 4 => "Illegal instruction"
  | 6 => "Aborted"
  | 7 => "Bus error"
  | 8 => "Floating point exception"
  | 9 => "Killed"
  | 10 => "User defined signal 1"
  | 11 => "Segmentation fault"
  | 12 => "User defined signal 2"
  | 14 => "Alarm clock"
  | 15 => "Terminated"
  | _ => ""

/-- The signal that an argument names. -/
def signal? (cs : Chars) : Option (Nat × String) :=
  match count? cs with
  | some n => signals.find? (·.1 == n)
  | none => signals.find? (·.2.toList == cs.map Char.toUpper)

/-- The command `trap`. -/
def setTraps (s : Session) (arguments : List Chars) : Session :=
  let change (s : Session) (action : Option Chars) (names : List Chars) : Session :=
    names.foldl (fun s cs => match signal? cs with
      | none =>
        { s.write 2 s!"trap: {String.ofList cs}: bad trap\n".toList with status := 1 }
      | some (_, name) =>
        let others := s.traps.filter (·.1 != name)
        { s with traps := match action with
          | some a => (name, a) :: others
          | none => others }) { s with status := 0 }
  match withoutOptions arguments with
  | [] => { s with status := 0 }
  | [name] => change s none [name]
  | ['-'] :: names => change s none names
  | action :: names =>
    if (count? action).isSome then change s none (action :: names)
    else change s (some action) names

/-- Which signal `kill` sends where, or what is wrong with its arguments. -/
def killOrder (arguments : List Chars) : Except String (Nat × List Chars) :=
  let usage := "Usage: kill [-s sigspec | -signum | -sigspec] [pid | job]... or\n" ++
    "kill -l [exitstatus]"
  let order (signal : Nat) (targets : List Chars) : Except String (Nat × List Chars) :=
    let targets := match targets with
      | ['-', '-'] :: targets => targets
      | targets => targets
    if targets.isEmpty then .error usage else .ok (signal, targets)
  match arguments with
  | ['-', '-'] :: targets => order 15 targets
  | ['-', 's'] :: cs :: targets => match signal? cs with
    | some (n, _) => order n targets
    | none => .error s!"invalid signal number or name: {String.ofList cs}"
  | ('-' :: c :: cs) :: targets => match signal? (c :: cs) with
    | some (n, _) => order n targets
    | none => .error s!"Illegal option -{c}"
  | targets => order 15 targets

/-- The signals that end nothing. -/
def harmless : List Nat :=
  [0, 17, 18, 23, 28]

/-- The command `kill`, and the signal that the shell itself gets. -/
def kill (s : Session) (arguments : List Chars) : Session × Option Nat :=
  match arguments with
  | ['-', 'l'] :: _ => ({ s with status := 0 }, none)
  | _ => match killOrder arguments with
    | .error message => (s.fault "kill" message, none)
    | .ok (signal, targets) =>
      targets.foldl (fun (s, sent) cs => match count? cs with
        | none => (s.fault "kill" s!"Illegal number: {String.ofList cs}", sent)
        | some n =>
          if n = s.process then (s, if signal = 0 then sent else some signal)
          else ({ s.complainFor "kill" "No such process\n" with status := 1 }, sent))
        ({ s with status := 0 }, none)

/-! ### All of them -/

/-- The commands that succeed and do nothing that could be seen. -/
def idle : List String :=
  [":", "true", "hash", "jobs", "times", "umask", "ulimit", "alias", "unalias", "wait"]

/-- The command `printf`. -/
def Session.printed (s : Session) (format : Chars) (arguments : List Chars) : Session :=
  let r := Printing.formatted format arguments
  let s := r.complaints.reverse.foldl (fun s c => s.complainFor "printf" c) s
  { s.write 1 r.output with status := r.status }

/-- **A command of the shell itself**; nothing if it is none. -/
def builtin? (s : Session) (name : Chars) (arguments : List Chars) : Option Session :=
  let command := String.ofList name
  let success : Session := { s with status := 0 }
  match command with
  | "false" => some { s with status := 1 }
  | "echo" => some (success.write 1 (Printing.echoed arguments))
  | "printf" => some <|
    let operands := match arguments with
      | ['-', '-'] :: operands => operands
      | operands => operands
    match arguments, operands with
    | _, [] => s.fault command "usage: printf format [arg ...]"
    | ('-' :: c :: _) :: _, format :: operands =>
      if c = '-' then s.printed format operands else s.fault command s!"Illegal option -{c}"
    | _, format :: operands => s.printed format operands
  | "test" | "[" => some <|
    match Condition.verdict command arguments with
    | .ok holds => { s with status := if holds then 0 else 1 }
    | .error message => s.fault command message
  | "exit" => some (s.withCount command arguments s.status fun n => s.exit (n % 256))
  | "return" => some (s.withCount command arguments s.status fun n =>
      { s with status := n % 256, flow := if s.locals.isEmpty then .exited else .returned })
  | "break" | "continue" => some (s.withCount command arguments 1 fun n =>
      if n = 0 then s.fault command "Illegal number: 0"
      else if s.loops = 0 then success
      else
        let n := min n s.loops
        { success with flow := if command = "break" then .broken n else .continued n })
  | "shift" => some (s.withCount command arguments 1 fun n =>
      if s.arguments.length < n then s.fault command "can't shift that many"
      else { success with arguments := s.arguments.drop n })
  | "set" => some (setOptions (arguments.length + 1) arguments s)
  | "export" => some (s.forNames command (withoutOptions arguments) fun s name value =>
      let s := match value with
        | some value => s.assignFor command name value
        | none => s
      { s with exported := name :: s.exported.filter (· != name) })
  | "readonly" => some (s.forNames command (withoutOptions arguments) fun s name value =>
      let s := match value with
        | some value => s.assignFor command name value
        | none => s
      { s with constants := name :: s.constants })
  | "local" => some <|
    match s.locals with
    | [] => s.fault command "not in a function"
    | scope :: scopes =>
      let names := arguments.map fun cs => (split? cs).1
      let saved := names.map fun name => (name, s.bindings.lookup name)
      { s with locals := (scope ++ saved) :: scopes }.forNames command arguments
        fun s name value => match value with
          | some value => s.assignFor command name value
          | none => s
  | "unset" => some <|
    let forgetsFunctions := arguments.contains ['-', 'f']
    s.forNames command (withoutOptions arguments) fun s name _ =>
      if forgetsFunctions then { s with functions := s.functions.filter (·.1 != name) }
      else if s.constants.contains name then
        s.fault command s!"{String.ofList name}: is read only"
      else s.withoutVariable name
  | "read" => some (readLine s arguments)
  | "trap" => some (setTraps s arguments)
  | "cd" | "chdir" => some <|
    match withoutOptions arguments with
    | [] => success
    | directory :: _ =>
      if Source.ofName directory = .directory then success
      else s.fault command s!"can't cd to {String.ofList directory}"
  | "pwd" => some (success.write 1 ['/', '\n'])
  | _ => if idle.contains command then some success else none

/-- Whether a name is that of a command of the shell itself. -/
def isBuiltin (name : Chars) : Bool :=
  let command := String.ofList name
  specials.contains command || idle.contains command ||
    ["false", "echo", "printf", "test", "[", "local", "read", "cd", "chdir", "pwd", "kill",
      "command", "type", "getopts"].contains command

end Automaton.Filter.Shell
