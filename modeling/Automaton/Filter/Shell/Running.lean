import Automaton.Filter.Programs
import Automaton.Filter.Shell.Arithmetic
import Automaton.Filter.Shell.Invocation
import Automaton.Filter.Shell.Reader

/-!
# Running shell scripts

Words are expanded and commands are carried out by turns: a word may hold the output of a command.
Every function gets a count that bounds how deep it may go and how often a loop is repeated
(`Shell.patience`), so scripts that never end are given up at last.

A shell within the shell — a part of a pipeline, a command in parentheses or in the background —
works on a copy of the session, of which only the streams and the status are kept
(`Session.resume`).
-/

namespace Automaton.Filter

namespace Shell

/-! ### Sessions within sessions -/

/-- How often a loop is repeated at most. -/
def patience : Nat := 1000000

/-- How many functions can be under way. -/
def deepest : Nat := 1000

/-- The session after a shell within it has ended. -/
def Session.resume (s inner : Session) : Session :=
  { s with
    streams := inner.streams,
    files := inner.files,
    status := inner.status,
    flow := match inner.flow with
      | .killed n => .killed n
      | _ => s.flow }

/-- The session that a shell within it begins with. -/
def Session.within (s : Session) : Session :=
  { s with traps := [] }

/-- What the name of a program leads to. -/
def Session.programOf (s : Session) (name : Chars) : Source :=
  .ofProgram ((s.bindings.lookup "PATH".toList).getD []) name

/-- A signal that nothing has been said about ends the shell. -/
def Session.killedBy (s : Session) (signal : Nat) : Session :=
  { s with status := 128 + signal, flow := .killed signal }

/-- Ends the shell after a failure, if it has been told so. -/
def Session.checked (s : Session) (tested : Bool) : Session :=
  if s.status ≠ 0 ∧ s.has 'e' ∧ !tested ∧ s.flow = .onward then { s with flow := .exited } else s

/-- What a loop does after a round. -/
def Session.afterRound (s : Session) : Bool × Session :=
  match s.flow with
  | .onward => (true, s)
  | .broken n => (false, { s with flow := if n ≤ 1 then .onward else .broken (n - 1) })
  | .continued n =>
    if n ≤ 1 then (true, { s with flow := .onward })
    else (false, { s with flow := .continued (n - 1) })
  | _ => (false, s)

/-! ### Words -/

/-- A text without the line ends at its end. -/
def withoutLineEnds (cs : Chars) : Chars :=
  (cs.reverse.dropWhile (· == '\n')).reverse

/-- What stands between the parameters with numbers where they are one text. -/
def Session.between (s : Session) : Chars :=
  match s.value? "IFS".toList with
  | none => [' ']
  | some cs => cs.take 1

/-- The parameters with numbers, as one text. -/
def Session.joined (s : Session) : Chars :=
  s.between.intercalate s.arguments

/-- The parameters with numbers, as bits. -/
def argumentBits (s : Session) (joined quoted : Bool) : List Bit :=
  if joined ∧ quoted then bitsOf true s.joined
  else if s.arguments.isEmpty then []
  else
    let bit (c : Char) : Bit := if quoted then .kept ⟨c, true⟩ else .loose c
    .value quoted :: [.boundary s.between].intercalate (s.arguments.map fun cs => cs.map bit)

/-- Makes the characters of bits loose that are not in quotes; `within` says that such a one stands
before. -/
def loosen (within : Bool) : List Bit → List Bit
  | [] => []
  | .kept ⟨c, false⟩ :: bits =>
    if within then .loose c :: loosen true bits
    else .value false :: .loose c :: loosen true bits
  | b :: bits => b :: loosen false bits

/-! ### Commands -/

/-- **An assignment that has been carried out.** -/
structure Assigned where
  name : Chars
  value : Chars
  /-- The value that the variable had before. -/
  before : Option Chars

/-- Gives variables the values that they had before. -/
def Session.undo (s : Session) (given : List Assigned) : Session :=
  given.foldr (fun a s => match a.before with
    | some value => s.withVariable a.name value
    | none => s.withoutVariable a.name) s

/-- What a shell shows of a command before it carries it out, behind a mark. -/
def shownCommand (mark : Chars) (given : List Assigned) (words : List Chars) : Chars :=
  let texts := given.map (fun a => a.name ++ '=' :: a.value) ++ words
  mark ++ [' '].intercalate texts ++ ['\n']

/-- What a word would call, and in which words that is told. -/
def Session.callee? (s : Session) (word : Chars) : Option (Chars × String) :=
  if keywords.contains (String.ofList word) then some (word, "a shell keyword")
  else if (s.functions.lookup word).isSome then some (word, "a shell function")
  else if isSpecialCommand word then some (word, "a special shell builtin")
  else if isBuiltin word then some (word, "a shell builtin")
  else match s.programOf word with
    | .program _ =>
      let path := if word.contains '/' then word else "/usr/bin/".toList ++ word
      some (path, String.ofList path)
    | _ => none

/-- Writes what a word would call. -/
def Session.describe (s : Session) (word : Chars) : Session :=
  match s.callee? word with
  | some (path, _) => { s.write 1 (path ++ ['\n']) with status := 0 }
  | none => { s with status := 127 }

/-- Tells what words would call. -/
def Session.tell (s : Session) (words : List Chars) : Session :=
  words.foldl (fun s word =>
    let shown := String.ofList word
    match s.callee? word with
    | some (_, told) => s.write 1 s!"{shown} is {told}\n".toList
    | none => { s.write 2 s!"{shown}: not found\n".toList with status := 127 })
    { s with status := 0 }

/-! ### Running -/

mutual

/-- The bits of a piece. -/
def expandPiece : Nat → Session → Piece → List Bit × Session
  | 0, s, _ => ([], s)
  | fuel + 1, s, p => match p with
    | .text cs quoted =>
      (if quoted then bitsOf true cs else cs.map fun c => .kept ⟨c, false⟩, s)
    | .output body quoted =>
      let (text, s) := capture fuel s body
      -- a word cannot hold the character zero
      (bitsOf quoted (withoutLineEnds (text.filter (· != '\x00'))), s)
    | .sum expression quoted =>
      let (bits, s) := expand fuel s expression
      if s.flow ≠ .onward then ([], s)
      else match Arithmetic.evaluate (textOf bits) s.constants s.bindings with
      | .error message => ([], s.abort message)
      | .ok (n, bindings) => (bitsOf quoted (Arithmetic.textOf n), { s with bindings })
    | .value name use quoted => expandValue fuel s name use quoted

/-- The bits of a value. -/
def expandValue : Nat → Session → Chars → Use → Bool → List Bit × Session
  | 0, s, _, _, _ => ([], s)
  | fuel + 1, s, name, use, quoted =>
    let isList := name == ['@'] || name == ['*']
    let value? := if isList then some s.joined else s.value? name
    let bits : List Bit :=
      if isList then argumentBits s (name == ['*']) quoted else bitsOf quoted (value?.getD [])
    let unset (s : Session) (text : Chars) : List Bit × Session :=
      ([], s.abort s!"{String.ofList name}: {String.ofList text}")
    let wanting : Bool := match use with
      | .all | .length | .trimmed .. => value?.isNone && s.has 'u'
      | .instead .. | .senseless => false
    if wanting then unset s "parameter not set".toList
    else match use with
    | .all => (bits, s)
    | .length => (bitsOf quoted (toString (value?.getD []).length).toList, s)
    | .senseless => ([], s.abort "Bad substitution")
    | .trimmed atEnd longest pattern =>
      let (letters, s) := expand fuel s pattern
      let wildcards := Wildcard.ofLetters (lettersOf letters)
      (bitsOf quoted (Wildcard.trim atEnd longest wildcards (value?.getD [])), s)
    | .instead fallback orEmpty word =>
      let isThere := match value? with
        | none => false
        | some cs => !(orEmpty && cs.isEmpty)
      let replacement : List Bit × Session :=
        let (bits, s) := expand fuel s word
        (if quoted then .presence :: bits else loosen false bits, s)
      match fallback with
      | .use => if isThere then (bits, s) else replacement
      | .replace =>
        if isThere then replacement else (if quoted then [.presence] else [], s)
      | .assign =>
        if isThere then (bits, s)
        else
          let (bits, s) := expand fuel s word
          if !isName name then ([], s.abort s!"{String.ofList name}: bad variable name")
          else (bitsOf quoted (textOf bits), s.assign name (textOf bits))
      | .complain =>
        if isThere then (bits, s)
        else if word.isEmpty then
          unset s (if orEmpty then "parameter not set or null" else "parameter not set").toList
        else
          let (bits, s) := expand fuel s word
          unset s (textOf bits)

/-- The bits of a word. -/
def expand : Nat → Session → Word → List Bit × Session
  | 0, s, _ => ([], s)
  | fuel + 1, s, w =>
    w.foldl (fun (bits, s) p =>
      if s.flow ≠ .onward then (bits, s)
      else
        let (more, s) := expandPiece fuel s p
        (bits ++ more, s)) ([], s)

/-- The words that words stand for. -/
def expandAll : Nat → Session → List Word → List Chars × Session
  | 0, s, _ => ([], s)
  | fuel + 1, s, ws =>
    ws.foldl (fun (texts, s) w =>
      if s.flow ≠ .onward then (texts, s)
      else
        let (bits, s) := expand fuel s w
        (texts ++ wordsOf s.separators bits, s)) ([], s)

/-- What a command writes in a shell of its own. -/
def capture : Nat → Session → Command → Chars × Session
  | 0, s, _ => ([], s)
  | fuel + 1, s, c =>
    let (stream, opened) := s.newStream []
    let inner := (opened.withLead 1 (.stream stream)).within
    let inner := finish fuel (match c with
      | .sequence [] => { inner with status := 0 }
      | c => run fuel false inner c)
    -- the status belongs to the word, not yet to the command around it
    let after := s.resume inner
    (after.textIn stream, { after with status := s.status, substituted := inner.status })

/-- Follows redirections; the flag says whether all of them lead somewhere. -/
def redirect : Nat → Session → List Redirection → Bool × Session
  | 0, s, _ => (true, s)
  | _ + 1, s, [] => (true, s)
  | fuel + 1, s, .mk channel direction word :: rs =>
    let (bits, s) := expand fuel s word
    let name := textOf bits
    let text := String.ofList name
    let go (s : Session) (l : Lead) : Bool × Session := redirect fuel (s.withLead channel l) rs
    -- a text that cannot be made up leads nowhere, as a missing file does
    if s.flow = .failed ∧ direction = .document then (false, { s with flow := .onward })
    else if s.flow ≠ .onward then (false, s)
    else match direction with
    | .document =>
      let (stream, s) := s.newStream name
      go s (.stream stream)
    | .copy =>
      if name = ['-'] then go s .nowhere
      else match name with
        | [d] =>
          if d.isDigit then match s.channels.lookup (digitOf d) with
            | some l => go s l
            | none => (false, s.complain s!"{text}: Bad file descriptor")
          else (false, s.abort "Syntax error: Bad fd number")
        | _ => (false, s.abort "Syntax error: Bad fd number")
    | .source => match text with
      | "/dev/null" => go s .nowhere
      | "/dev/stdin" => go s (s.lead 0)
      | _ => match s.files.lookup name with
        | some stream =>
          -- reading takes nothing out of a file
          let (copy, s) := s.newStream (s.textIn stream)
          go s (.stream copy)
        | none =>
          if Source.ofName name = .missing then
            (false, s.complain s!"cannot open {text}: No such file")
          else go s .nowhere
    | .target | .targetEnd => match text with
      | "/dev/null" => go s .nowhere
      | "/dev/stdout" => go s (s.lead 1)
      | "/dev/stderr" => go s (s.lead 2)
      | _ =>
        if name.isEmpty ∨ !Source.hasPlace name then
          (false, s.complain s!"cannot create {text}: Directory nonexistent")
        else if Source.ofName name = .directory ∨ name.getLast? = some '/' then
          (false, s.complain s!"cannot create {text}: Is a directory")
        else match s.files.lookup name with
          | some stream =>
            let s := if direction = .targetEnd then s
              else { s with streams := s.streams.modify stream fun _ => [] }
            go s (.stream stream)
          | none =>
            let (stream, s) := s.newStream []
            go { s with files := (name, stream) :: s.files } (.stream stream)

/-- Carries out a command.  A command is `tested` if its failure is no reason to end. -/
def run : Nat → Bool → Session → Command → Session
  | 0, _, s, _ => s.exit 2
  | fuel + 1, tested, s, c =>
    -- the option `n` is for scripts that are only to be read
    if s.flow ≠ .onward ∨ s.has 'n' then s
    else match c with
    | .simple line assignments words rs =>
      (runSimple fuel tested { s with line, substituted := 0 } assignments words rs).checked tested
    | .redirected line body rs =>
      let (opened, inner) := redirect fuel { s with line } rs
      let inner := if opened then run fuel tested inner body
        else if inner.flow = .onward then { inner with status := 2 }.checked tested else inner
      { inner with channels := s.channels }
    | .sequence cs => cs.foldl (fun s c => run fuel tested s c) s
    | .both a b =>
      let s := run fuel true s a
      if s.status = 0 then run fuel tested s b else s
    | .either a b =>
      let s := run fuel true s a
      if s.status = 0 then s else run fuel tested s b
    | .negated body =>
      let s := run fuel true s body
      if s.flow = .onward then { s with status := if s.status = 0 then 1 else 0 } else s
    | .pipeline cs => (runPipeline fuel s (s.lead 0) cs).checked tested
    | .background body =>
      let inner := finish fuel (run fuel false (s.within.withLead 0 .nowhere) body)
      { s.resume inner with status := 0 }
    | .apart body =>
      (s.resume (finish fuel (run fuel false s.within body))).checked tested
    | .choice condition yes no =>
      let s := run fuel true s condition
      if s.flow ≠ .onward then s
      else if s.status = 0 then run fuel tested s yes
      else match no with
        | .sequence [] => { s with status := 0 }
        | no => run fuel tested s no
    | .loop untilThen condition body =>
      let inner := runLoop fuel tested { s with loops := s.loops + 1 } untilThen condition body 0
      { inner with loops := s.loops }
    | .each line name words body =>
      let (texts, inner) := expandAll fuel { s with line } words
      if inner.flow ≠ .onward then inner
      else
        let inner := { inner with
          loops := s.loops + 1,
          status := if texts.isEmpty then 0 else inner.status }
        { runEach fuel tested inner name texts body with loops := s.loops }
    | .select line word branches =>
      let (bits, s) := expand fuel { s with line } word
      if s.flow ≠ .onward then s
      else runSelect fuel tested s (textOf bits) branches
    | .define name body =>
      { s with functions := (name, body) :: s.functions.filter (·.1 != name), status := 0 }

/-- Carries out the commands of a pipeline; the first one reads from `source`. -/
def runPipeline : Nat → Session → Lead → List Command → Session
  | 0, s, _, _ => s
  | _ + 1, s, _, [] => s
  | fuel + 1, s, source, [c] =>
    s.resume (finish fuel (run fuel false (s.within.withLead 0 source) c))
  | fuel + 1, s, source, c :: cs =>
    let (stream, opened) := s.newStream []
    let inner := (opened.within.withLead 0 source).withLead 1 (.stream stream)
    let after := s.resume (finish fuel (run fuel false inner c))
    if after.flow ≠ .onward then after
    else runPipeline fuel { after with status := s.status } (.stream stream) cs

/-- Carries out a loop from its next condition on; `last` is the status of the round before. -/
def runLoop : Nat → Bool → Session → Bool → Command → Command → Nat → Session
  | 0, _, s, _, _, _, _ => s.exit 2
  | fuel + 1, tested, s, untilThen, condition, body, last =>
    let s := run fuel true s condition
    if s.flow = .onward ∧ (s.status == 0) = untilThen then { s with status := last }
    else
      let (goesOn, s) := (run fuel tested s body).afterRound
      if goesOn then runLoop fuel tested s untilThen condition body s.status else s

/-- Carries out a command once for each text. -/
def runEach : Nat → Bool → Session → Chars → List Chars → Command → Session
  | 0, _, s, _, _, _ => s
  | _ + 1, _, s, _, [], _ => s
  | fuel + 1, tested, s, name, text :: texts, body =>
    let (goesOn, s) := (run fuel tested (s.assign name text) body).afterRound
    if goesOn then runEach fuel tested s name texts body else s

/-- Carries out the first branch with a pattern that a text matches. -/
def runSelect : Nat → Bool → Session → Chars → List (List Word × Command) → Session
  | 0, _, s, _, _ => s
  | _ + 1, _, s, _, [] => { s with status := 0 }
  | fuel + 1, tested, s, text, (ws, body) :: branches =>
    let (fits, s) := ws.foldl (fun (fits, s) w =>
      if fits then (true, s)
      else
        let (bits, s) := expand fuel s w
        (Wildcard.accepts (Wildcard.ofLetters (lettersOf bits)) text, s)) (false, s)
    if s.flow ≠ .onward then s
    else if fits then
      match body with
      | .sequence [] => { s with status := 0 }
      | body => run fuel tested s body
    else runSelect fuel tested s text branches

/-- Carries out assignments, and tells for each of them which value the variable had before. -/
def assignAll : Nat → Session → List (Chars × Word) → List Assigned × Session
  | 0, s, _ => ([], s)
  | fuel + 1, s, assignments =>
    assignments.foldl (fun (given, s) (name, w) =>
      if s.flow ≠ .onward then (given, s)
      else
        let (bits, s) := expand fuel s w
        let a : Assigned := ⟨name, textOf bits, s.bindings.lookup name⟩
        (given ++ [a], s.assign name a.value)) ([], s)

/-- Carries out a simple command. -/
def runSimple : Nat → Bool → Session → List (Chars × Word) → List Word → List Redirection →
    Session
  | 0, _, s, _, _, _ => s
  | fuel + 1, tested, s, assignments, words, rs =>
    let (texts, s) := expandAll fuel s words
    if s.flow ≠ .onward then s
    else
      let (opened, inner) := redirect fuel s rs
      let isSpecial := texts.head?.any isSpecialCommand
      if !opened then
        let inner := { inner with channels := s.channels, status := 2 }
        if isSpecial then { inner with flow := .failed } else inner
      else
        let (given, inner') := assignAll fuel inner assignments
        let isShown := inner'.has 'x' && inner'.flow == .onward && !(given.isEmpty && texts.isEmpty)
        let inner' := if isShown then
            let outer := { inner' with channels := s.channels }
            let mark := (s.value? "PS4".toList).getD []
            { inner' with streams := (outer.write 2 (shownCommand mark given texts)).streams }
          else inner'
        if inner'.flow ≠ .onward then { inner' with channels := s.channels }
        else match texts with
        | [] => { inner' with channels := s.channels, status := inner'.substituted }
        | name :: arguments =>
          -- what stands before a special command stays assigned
          if isSpecial then
            let done := call fuel tested true inner' name arguments
            if name = "exec".toList ∧ arguments.isEmpty then done
            else { done with channels := s.channels }
          else
            -- before any other command, assignments last as long as it does
            let named := given.map (·.name)
            let inner' := { inner' with exported := named ++ inner'.exported }
            let done := (call fuel tested true inner' name arguments).undo given
            { done with
              channels := s.channels,
              exported := if named.isEmpty then done.exported else inner.exported }

/-- Calls a function, a command of the shell or a program. -/
def call : Nat → Bool → Bool → Session → Chars → List Chars → Session
  | 0, _, _, s, _, _ => s
  | fuel + 1, tested, withFunctions, s, name, arguments =>
    match String.ofList name, (if withFunctions then s.functions.lookup name else none) with
    | _, some body =>
      if deepest ≤ s.locals.length then
        s.abort s!"Maximum function recursion depth ({deepest}) reached"
      else
        let inner := run fuel tested
          { s with arguments, locals := [] :: s.locals, loops := 0 } body
        -- local variables get back what they held before the function
        let restored := (inner.locals.headD []).foldl (fun t (x, old) => match old with
          | some value => t.withVariable x value
          | none => t.withoutVariable x) inner
        { restored with
          arguments := s.arguments,
          locals := s.locals,
          loops := s.loops,
          flow := if inner.flow = .returned then .onward else inner.flow }
    | "eval", none =>
      let inner := runText fuel tested { s with place := "eval: " } ([' '].intercalate arguments)
      { inner with place := s.place }
    | ".", none => match arguments with
      | [] => s
      | file :: _ => match Source.ofName file with
        | .input =>
          let (text, s) := s.takeInput
          let inner := runText fuel tested { s with place := String.ofList file ++ ": " } text
          { inner with place := s.place }
        | .missing =>
          let shown := String.ofList file
          s.fault "." (if file.contains '/' then s!"cannot open {shown}: No such file"
            else s!"{shown}: not found")
        | _ => { s with status := 0 }
    | "exec", none => match arguments with
      | [] => { s with status := 0 }
      | program :: arguments => match s.programOf program with
        | .missing => (s.complainFor "exec" s!"{String.ofList program}: not found").exit 127
        | .program _ =>
          let s := { runProgram fuel s program arguments with traps := [] }
          if s.flow = .onward then s.exit s.status else s
        | _ => (s.complainFor "exec" s!"{String.ofList program}: Permission denied").exit 126
    | "command", none => match arguments with
      | ['-', 'v'] :: word :: _ => s.describe word
      | ['-', 'V'] :: words => s.tell words
      | arguments => match withoutOptions arguments with
        | [] => { s with status := 0 }
        | name :: arguments =>
          let s := call fuel tested false s name arguments
          if s.flow = .failed then { s with flow := .onward } else s
    | "type", none => s.tell arguments
    | "kill", none =>
      let (s, signal?) := kill s arguments
      match signal? with
      | none => s
      | some signal =>
        let action? := (signals.lookup signal).bind fun name => s.traps.lookup name
        -- the ninth signal cannot be met
        match if signal = 9 then none else action? with
        | some action =>
          let status := s.status
          let s := runText fuel false s action
          if s.flow = .onward then { s with status } else s
        | none => if harmless.contains signal then s else s.killedBy signal
    | _, none => match builtin? s name arguments with
      | some s => s
      | none => runProgram fuel s name arguments

/-- Runs a program. -/
def runProgram : Nat → Session → Chars → List Chars → Session
  | 0, s, _, _ => s
  | fuel + 1, s, name, arguments =>
    let shown := String.ofList name
    if name.isEmpty then { s.complain ": Permission denied" with status := 127 }
    else match s.programOf name with
    | .missing => { s.complain s!"{shown}: not found" with status := 127 }
    | .program known =>
      let (input, s) := s.takeInput
      let (r, signal?) := runKnown fuel known shown arguments (s.process + 1) s.environment input
      let s := ((s.leave r.rest).write 2 r.complaints).write 1 r.output
      let s := match signal? with
        | some signal => s.write 2 (signalText signal ++ "\n").toList
        | none => s
      { s with status := r.status }
    | _ => { s.complain s!"{shown}: Permission denied" with status := 126 }

/-- What a program that is there does, and the signal that has ended it. -/
def runKnown : Nat → String → String → List Chars → Nat → List (Chars × Chars) → Chars →
    Result × Option Nat
  | 0, _, _, _, _, _, input => (⟨2, [], [], input⟩, none)
  | fuel + 1, known, name, arguments, process, environment, input =>
    if known = "sh" ∨ known = "dash" then
      match Invocation.ofArguments arguments with
      | .error message => (.refused 2 s!"{name}: 0: {message}" input, none)
      | .ok i =>
        let text := i.script.getD input
        let s := Session.start name process i environment (if i.script.isSome then input else [])
        let s := finish fuel (runText fuel false s text)
        match s.flow with
        | .killed signal => (s.result, some signal)
        | _ => (s.result, none)
    else if known = "env" then
      let settings := arguments.takeWhile fun cs => cs.contains '='
      match arguments.drop settings.length with
      | [] =>
        let lines := environment.map fun (x, value) => x ++ '=' :: value ++ ['\n']
        (⟨0, lines.flatten ++ settings.flatMap (· ++ ['\n']), [], input⟩, none)
      | program :: arguments =>
        let given := settings.map fun cs => ((split? cs).1, (split? cs).2.getD [])
        let environment := given ++ environment.filter fun (x, _) => !given.any (·.1 == x)
        match Source.ofProgram ((environment.lookup "PATH".toList).getD []) program with
        | .program known =>
          runKnown fuel known (String.ofList program) arguments process environment input
        | .missing => (.refused 127 s!"{name}: {quoted program}: {missingText}" input, none)
        | _ => (.refused 126 s!"{name}: {quoted program}: Permission denied" input, none)
    else match programs.lookup known with
      | some program => (program name arguments input, none)
      | none => (⟨127, [], [], input⟩, none)

/-- Carries out a script. -/
def runText : Nat → Bool → Session → Chars → Session
  | 0, _, s, _ => s
  | fuel + 1, tested, s, text =>
    let (cs, fault?) := readLines text
    let s := if cs.isEmpty then { s with status := 0 } else s
    let s := cs.foldl (fun s c => run fuel tested s c) s
    match fault? with
    | some fault =>
      if s.flow = .onward then { s with line := fault.line }.abort fault.message else s
    | none => s

/-- What is done at the end of a shell. -/
def finish : Nat → Session → Session
  | 0, s => s
  | fuel + 1, s => match s.flow, s.traps.lookup "EXIT" with
    | .killed _, _ => s
    | _, none => s
    | _, some action =>
      -- the action is forgotten first, so that it cannot call itself
      let traps := s.traps.filter (·.1 != "EXIT")
      let after := runText fuel false { s with traps, flow := .onward } action
      if after.flow = .onward then { after with status := s.status } else after

end

end Shell

/-- What a program does under a name, with its arguments and its input, if there is one. -/
def runNamed (name : Chars) (arguments : List Chars) (input : Chars) : Option Result :=
  match Source.ofProgram usualPath name with
  | .program known =>
    let environment := [("PATH".toList, usualPath)]
    some (Shell.runKnown Shell.patience known (String.ofList name) arguments 4242 environment
      input).1
  | _ => none

end Automaton.Filter
