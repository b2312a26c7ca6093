import Automaton.Filter.Sed.Reader

/-!
# Editing

An *editor* goes through its input line by line and carries out a script on each of them.  Its state
(`Sed.Editor`) holds the line at hand, a line put aside, what has been written, and which ranges of
lines are open.

`Editor.perform` carries out a single action and says how things go on (`Sed.Turn`); `Sed.run`
follows the steps of a script through all cycles.  Scripts may jump, so the number of steps is
bounded by a count that is generous for scripts that come to an end.
-/

namespace Automaton.Filter.Sed

/-- How a script is carried out. -/
structure Options where
  /-- The name that the editor is called by. -/
  name : String
  /-- Lines are printed only on demand. -/
  quiet : Bool
  /-- Patterns are in the extended notation. -/
  extended : Bool
  /-- What ends a line. -/
  lineEnd : Char
  /-- How long the lines of listings are. -/
  width : Nat

/-- **The state of an editor.** -/
structure Editor where
  /-- The lines to come. -/
  left : List Line
  /-- The number of the line at hand. -/
  number : Nat
  /-- The line at hand. -/
  line : Line
  /-- The line put aside. -/
  held : Line
  /-- What has been written, the latest first. -/
  written : List Chars
  /-- What has been written among the complaints, the latest first. -/
  complained : List Chars
  /-- Where the last line that was written still lacks its end.  Nothing stands for the output that
  all steps but writing ones use. -/
  owing : List (Option Sink)
  /-- Texts to be written after the line, the latest first. -/
  later : List Chars
  /-- The open ranges, by step, with their last lines if these are known. -/
  ranges : List (Nat × Option Nat)
  /-- What was looked for last. -/
  wanted : Wanted
  /-- A piece has been replaced since the line was read. -/
  changed : Bool

/-- **How things go on** after an action. -/
inductive Turn where
  /-- With the next step. -/
  | on (e : Editor)
  /-- At a label or, without a name, at the end. -/
  | at (name : Chars) (e : Editor)
  /-- With the next line. -/
  | ended (print : Bool) (e : Editor)
  /-- From the start, with the line as it is. -/
  | again (e : Editor)
  /-- Not at all. -/
  | stop (status : Nat) (e : Editor)

namespace Editor

/-- Writes a text to a sink or, without one, to the output. -/
def write (o : Options) (sink : Option Sink) (text : Chars) (e : Editor) : Editor :=
  let text := if e.owing.contains sink then o.lineEnd :: text else text
  let e := { e with owing := e.owing.filter (· ≠ sink) }
  match sink with
  | none | some .output => { e with written := text :: e.written }
  | some .complaints => { e with complained := text :: e.complained }
  | some .elsewhere => e

/-- Writes a line to a sink or, without one, to the output. -/
def writeLine (o : Options) (sink : Option Sink) (l : Line) (e : Editor) : Editor :=
  let e := e.write o sink (if l.complete then l.text ++ [o.lineEnd] else l.text)
  if l.complete then e else { e with owing := sink :: e.owing }

/-- Writes a text that ends a line. -/
def writeText (o : Options) (text : Chars) (e : Editor) : Editor :=
  e.write o none (if text.isEmpty then [] else text.dropLast ++ [o.lineEnd])

/-- Writes the texts that were to come after the line. -/
def flush (o : Options) (e : Editor) : Editor :=
  let e := e.later.reverse.foldl (fun e text => e.write o none text) e
  { e with later := [] }

/-- Ends work on the line. -/
def conclude (o : Options) (print : Bool) (e : Editor) : Editor :=
  (if print ∧ !o.quiet then e.writeLine o none e.line else e).flush o

/-- Takes the next line, if there is one. -/
def advance (e : Editor) : Option Editor :=
  match e.left with
  | [] => none
  | l :: left => some { e with left, line := l, number := e.number + 1, changed := false }

/-- The first line of the line at hand. -/
def firstLine (o : Options) (e : Editor) : Line :=
  let text := e.line.text.takeWhile (· != o.lineEnd)
  ⟨text, e.line.complete || text.length < e.line.text.length⟩

/-- What is to be looked for, which is remembered. -/
def resolve (o : Options) (w : Wanted) (e : Editor) :
    Option ((Pattern × Pattern.Options) × Editor) :=
  match w with
  | some (p, reading) =>
    let p := (p, { reading with lineEnd := o.lineEnd })
    some (p, { e with wanted := some p })
  | none => e.wanted.map (·, e)

/-! ### Selecting -/

/-- Whether the line at hand has an address. -/
def hasAddress (o : Options) (a : Address) (e : Editor) : Option (Bool × Editor) :=
  match a with
  | .line n => some (e.number == n, e)
  | .every first step => some (first ≤ e.number && (e.number - first) % step == 0, e)
  | .last => some (e.left.isEmpty, e)
  | .holding w => (e.resolve o w).map fun ((p, reading), e) =>
    ((p.find reading e.line.text 0 none).isSome, e)

/-- Opens a range of lines, or leaves it at the one line. -/
def openRange (step : Nat) (u : Until) (e : Editor) : Editor :=
  let upTo (last : Nat) : Editor :=
    if last ≤ e.number then e else { e with ranges := (step, some last) :: e.ranges }
  match u with
  | .address (.line n) => upTo n
  | .address _ => { e with ranges := (step, none) :: e.ranges }
  | .more n => upTo (e.number + n)
  | .multiple n => upTo (if n = 0 then 0 else (e.number / n + 1) * n)

/-- Closes a range of lines. -/
def closeRange (step : Nat) (e : Editor) : Editor :=
  { e with ranges := e.ranges.filter (·.1 ≠ step) }

/-- Whether the line at hand lies between two addresses. -/
def inRange (o : Options) (step : Nat) (first : Address) (u : Until) (e : Editor) :
    Option (Bool × Editor) :=
  match e.ranges.lookup step with
  | some (some last) =>
    some (e.number ≤ last, if last ≤ e.number then e.closeRange step else e)
  | some none => match u with
    | .address a => (e.hasAddress o a).map fun (hit, e) =>
      (true, if hit then e.closeRange step else e)
    | _ => some (true, e)
  | none => (e.hasAddress o first).map fun (hit, e) => (hit, if hit then e.openRange step u else e)

/-- **Whether a step applies** to the line at hand; nothing if that hangs on what was looked for
last, and nothing was. -/
def selects (o : Options) (step : Nat) (s : Selector) (e : Editor) : Option (Bool × Editor) := do
  let (hit, e) ← match s.first, s.until? with
    | none, _ => some (true, e)
    | some a, none => e.hasAddress o a
    | some a, some u => e.inRange o step a u
  pure (hit != s.negated, e)

end Editor

/-! ### Replacing -/

/-- What a change of case does to letters. -/
def CaseChange.apply : CaseChange → Char → Char
  | .upper, c | .upperNext, c => c.toUpper
  | .lower, c | .lowerNext, c => c.toLower
  | .asIs, c => c

/-- The case of letters to come: of the next one, if it differs, and of all others. -/
structure Casing where
  next : Option CaseChange
  all : CaseChange

/-- A text in the case that is due, and what is due then. -/
def Casing.apply (k : Casing) : Chars → Chars × Casing
  | [] => ([], k)
  | c :: cs => ((k.next.getD k.all).apply c :: cs.map k.all.apply, ⟨none, k.all⟩)

/-- The casing after a change. -/
def Casing.turn (k : Casing) : CaseChange → Casing
  | .upperNext => ⟨some .upperNext, k.all⟩
  | .lowerNext => ⟨some .lowerNext, k.all⟩
  | change => ⟨none, change⟩

/-- **A replacement**, given the piece that it replaces. -/
def fill (start stop : Pattern.Spot) : List Part → Casing → Chars
  | [], _ => []
  | .text cs :: parts, k => (k.apply cs).1 ++ fill start stop parts (k.apply cs).2
  | .held n :: parts, k =>
    let cs := if n = 0 then start.upTo stop else (stop.held n).getD []
    (k.apply cs).1 ++ fill start stop parts (k.apply cs).2
  | .case change :: parts, k => fill start stop parts (k.turn change)

/-- **Replacing pieces of a text** from a place on.  `count` pieces have been found before, the last
of which has ended at `last`; an empty piece right behind another one does not count. -/
def replaceFrom (s : Substitution) (p : Pattern) (o : Pattern.Options) :
    Nat → Nat → Option Nat → Chars → Nat → Option Char → Chars × Bool
  | 0, _, _, rest, _, _ => (rest, false)
  | fuel + 1, count, last, rest, position, before =>
    match p.find o rest position before with
    | none => (rest, false)
    | some (a, b) =>
      let front := rest.take (a.position - position)
      let isEmpty := a.position == b.position
      -- an empty piece consumes nothing, so the character behind it is kept and passed over
      let stepOver (count : Nat) (copied : Chars) : Chars × Bool :=
        match b.rest with
        | [] => (front ++ copied, false)
        | c :: cs =>
          let (text, done) := replaceFrom s p o fuel count none cs (b.position + 1) (some c)
          (front ++ copied ++ c :: text, done)
      let goOn (count : Nat) (copied : Chars) : Chars × Bool :=
        if isEmpty then stepOver count copied
        else
          let (text, done) :=
            replaceFrom s p o fuel count (some b.position) b.rest b.position b.before
          (front ++ copied ++ text, done)
      -- right behind another piece, an empty one is none
      if isEmpty ∧ last = some a.position then stepOver count []
      else if count + 1 < s.nth then goOn (count + 1) (a.upTo b)
      else
        let copied := fill a b s.parts ⟨none, .asIs⟩
        if s.everywhere then ((goOn (count + 1) copied).1, true)
        else (front ++ copied ++ b.rest, true)

/-! ### Listing -/

/-- A text made visible, in lines of at most so many characters if `width` is not zero. -/
def listing (lineEnd : Char) (width : Nat) : Nat → Chars → Chars
  | _, [] => ['$']
  | used, c :: cs =>
    let shown := escaped c
    if 0 < width ∧ width < used + shown.length + 1 then
      '\\' :: lineEnd :: (shown ++ listing lineEnd width shown.length cs)
    else shown ++ listing lineEnd width (used + shown.length) cs

/-! ### Actions -/

namespace Editor

/-- The complaint about a step that looks for nothing in particular when nothing was looked for. -/
def nothingWanted (o : Options) (e : Editor) : Turn :=
  let complaint := s!"{o.name}: -e expression #1, char 0: no previous regular expression\n"
  .stop 1 { e with complained := complaint.toList :: e.complained }

/-- A substitution. -/
def substitute (o : Options) (s : Substitution) (e : Editor) : Turn :=
  match e.resolve o s.wanted with
  | none => e.nothingWanted o
  | some ((p, reading), e) =>
    let text := e.line.text
    match replaceFrom s p reading (text.length + 2) 0 none text 0 none with
    | (_, false) => .on e
    | (text, true) =>
      let e := { e with line := { e.line with text }, changed := true }
      let e := if s.print then e.writeLine o none e.line else e
      .on (match s.sink with
        | some sink => e.writeLine o sink e.line
        | none => e)

/-- **Carries out an action.**  `ranging` says that more lines of the step's range will follow. -/
def perform (o : Options) (ranging : Bool) (a : Action) (e : Editor) : Turn :=
  match a with
  | .opening | .closing | .label _ | .nothing => .on e
  | .jump .always name => .at name e
  | .jump .changed name => if e.changed then .at name { e with changed := false } else .on e
  | .jump .unchanged name => if e.changed then .on { e with changed := false } else .at name e
  | .append text => .on { e with later := text :: e.later }
  | .insert text => .on (e.writeText o text)
  | .change text => .ended false (if ranging then e else e.writeText o text)
  | .delete => .ended false e
  | .deleteFirst =>
    match e.line.text.dropWhile (· != o.lineEnd) with
    | [] => .ended false e
    | _ :: text => .again { e with line := { e.line with text } }
  | .print => .on (e.writeLine o none e.line)
  | .printFirst => .on (e.writeLine o none (e.firstLine o))
  | .list width =>
    .on (e.writeLine o none ⟨listing o.lineEnd (width.getD o.width) 0 e.line.text, true⟩)
  | .number => .on (e.writeLine o none ⟨(toString e.number).toList, true⟩)
  | .name => .on (e.writeLine o none ⟨['-'], true⟩)
  | .next =>
    if e.left.isEmpty then .ended true e
    else
      let e := e.conclude o true
      .on (e.advance.getD e)
  | .join =>
    if e.left.isEmpty then .ended true e
    else
      let text := e.line.text
      let e := e.flush o
      let e := e.advance.getD e
      .on { e with line := { e.line with text := text ++ o.lineEnd :: e.line.text } }
  | .hold => .on { e with held := e.line }
  | .holdMore =>
    .on { e with held := { e.line with text := e.held.text ++ o.lineEnd :: e.line.text } }
  | .get => .on { e with line := e.held }
  | .getMore =>
    .on { e with line := { e.held with text := e.line.text ++ o.lineEnd :: e.held.text } }
  | .swap => .on { e with line := e.held, held := e.line }
  | .clear => .on { e with line := { e.line with text := [] } }
  | .quit status print =>
    .stop status (if print then (e.conclude o true).write o none [] else e)
  | .write sink firstOnly => .on (e.writeLine o sink (if firstOnly then e.firstLine o else e.line))
  | .substitute s => e.substitute o s
  | .exchange pairs =>
    let text := e.line.text.map fun c => (pairs.lookup c).getD c
    .on { e with line := { e.line with text } }

/-- What the editor has done by its end. -/
def result (status : Nat) (e : Editor) : Result :=
  ⟨status, e.written.reverse.flatten, e.complained.reverse.flatten, []⟩

end Editor

/-! ### Scripts -/

/-- **Carries out a script** from a step on. -/
def run (o : Options) (s : Script) : Nat → Nat → Editor → Result
  | 0, _, e => e.result 0
  | fuel + 1, i, e =>
    let close (print : Bool) (e : Editor) : Result :=
      let e := e.conclude o print
      match e.advance with
      | some e => run o s fuel 0 e
      | none => e.result 0
    match s.steps[i]? with
    | none => close true e
    | some step => match e.selects o i step.selector with
      | none => match e.nothingWanted o with
        | .stop status e => e.result status
        | _ => e.result 1
      -- a block that does not apply is left out as a whole
      | some (false, e) => match step.action with
        | .opening => run o s fuel (s.past s.steps.size (i + 1) 0) e
        | _ => run o s fuel (i + 1) e
      | some (true, e) => match e.perform o (e.ranges.lookup i).isSome step.action with
        | .on e => run o s fuel (i + 1) e
        | .at name e => run o s fuel (if name.isEmpty then s.steps.size else (s.find name).getD 0) e
        | .ended print e => close print e
        | .again e => run o s fuel 0 (e.flush o)
        | .stop status e => e.result status

/-- The ranges that are open from the start: those from line zero on. -/
def openFromStart (s : Script) : List (Nat × Option Nat) :=
  s.steps.toList.zipIdx.filterMap fun (step, i) => match step.selector.first with
    | some (.line 0) => some (i, none)
    | _ => none

/-- **Carries out a script** on an input. -/
def edit (o : Options) (s : Script) (input : Chars) : Result :=
  let e : Editor :=
    { left := linesOf o.lineEnd input,
      number := 0,
      line := ⟨[], true⟩,
      held := ⟨[], true⟩,
      written := [],
      complained := [],
      owing := [],
      later := [],
      ranges := openFromStart s,
      wanted := none,
      changed := false }
  match e.advance with
  | some e => run o s ((s.steps.size + 2) * (input.length + 2) * 100) 0 e
  | none => e.result 0

end Automaton.Filter.Sed
