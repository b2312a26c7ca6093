import Automaton.Blueprint.Basic
import Automaton.Target.Basic
import Automaton.Text.Blank
import Automaton.Text.Column
import Automaton.Text.Quoted

/-!
# Rust sources

A blueprint as a Rust source, line by line.  The source declares, in this order:

1. the module as a comment, and what it imports (`RustSource.header`);
2. one numbered constant for each state (`RustSource.constants`);
3. a function that makes a machine, the type of the machine, and the type of rejections;
4. an array of state names (`RustSource.lookup`);
5. for each event a constant with its ordinal and a method (`RustSource.transition`).

A method compares the current state with the pattern of its guard and returns a rejection if it does
not match.

## Names

All constants share the scope of the module.  A parameter may not be named like a constant, which
would be taken for a pattern, nor like the field that carries the start state in log entries.
-/

namespace Automaton.RustSource

/-- The keywords of the language, reserved ones included. -/
def keywords : List String :=
  [ "as", "async", "await", "break", "const", "continue", "crate", "dyn", "else", "enum", "extern",
    "false", "fn", "for", "gen", "if", "impl", "in", "let", "loop", "match", "mod", "move", "mut",
    "pub", "ref", "return", "self", "Self", "static", "struct", "super", "trait", "true", "try",
    "type", "unsafe", "use", "where", "while", "abstract", "become", "box", "do", "final", "macro",
    "override", "priv", "typeof", "unsized", "virtual", "yield" ]

/-- The field of a log entry that carries the state a transition started from. -/
def startField : String := "start_state"

/-- The type of words of a width. -/
def typeOf (w : Width) : String := "u" ++ toString w.bits

/-- Words of a name in upper case, with underscores where a capital follows a small letter or a
digit.  The flag says whether the character before was one of these. -/
def screamingFrom (afterSmall : Bool) : List Char → List Char
  | [] => []
  | c :: cs =>
    (if c.isUpper && afterSmall then ['_'] else []) ++
      c.toUpper :: screamingFrom (c.isLower || c.isDigit) cs

/-- **Words of a name in upper case**: `TrafficLight` becomes `TRAFFIC_LIGHT`. -/
def screaming (name : String) : String :=
  String.ofList (screamingFrom false name.toList)

/-- The array of state names. -/
def namesTable (machine : String) : String := screaming machine ++ "_STATE_NAMES"

/-- The type of rejections. -/
def rejection (machine : String) : String := machine ++ "TransitionError"

/-! ### Names -/

/-- The constants of a source, with the names they were made of. -/
def declarations (b : Blueprint) : List (String × String) :=
  (namesTable b.machine.name, b.machine.name) :: b.symbols

/-- The names that no parameter may have. -/
def referred (b : Blueprint) : List String :=
  (declarations b).map (·.1) ++ [startField]

/-- The names that the method of an event uses. -/
def transitionUses (b : Blueprint) (t : Transition) : List Target.Use :=
  ⟨"event", t.event, keywords⟩ :: ⟨"event", t.event, ["new"]⟩ ::
  t.params.flatMap fun p =>
    [⟨"parameter", p.name, keywords⟩, ⟨"parameter", p.name, referred b⟩]

/-- The names that a source uses as they are, in order. -/
def uses (b : Blueprint) : List Target.Use :=
  ⟨"machine name", b.machine.name, keywords⟩ :: b.transitions.flatMap (transitionUses b)

/-! ### Lines -/

/-- Removes the word `use` from the beginning, as often as it is there. -/
def dropUse : List Char → List Char
  | 'u' :: 's' :: 'e' :: ' ' :: cs => dropUse cs
  | cs => cs

/-- Removes semicolons from the end. -/
def dropSemicolons (cs : List Char) : List Char :=
  (cs.reverse.dropWhile (· == ';')).reverse

/-- The path that an author means, who may have written a whole import statement. -/
def importPath : Import → String
  | .logging => "tracing::info"
  | .reference path =>
    String.ofList (Text.strip Text.isBlank (dropSemicolons (dropUse path.toList)))

/-- The paths that a source imports, each once. -/
def importPaths (imports : List Import) : List String :=
  (imports.map importPath).foldl (fun ps p => if ps.contains p then ps else ps ++ [p]) []

/-- The module and its imports. -/
def header (h : Blueprint.Header) : List String :=
  [Target.banner] ++
  (match h.digest with
    | some digest => ["// Source: " ++ digest]
    | none => []) ++
  ["//", "// Module: " ++ h.package] ++
  (match importPaths h.imports with
    | [] => []
    | paths => "" :: paths.map fun p => "use " ++ p ++ ";")

/-- The constants of the states. -/
def constants (c : Blueprint.Constants) : List String :=
  "" :: c.constants.map fun k =>
    "pub const " ++ k.symbol ++ ": " ++ typeOf c.width ++ " = " ++ toString k.ordinal ++ ";"

/-- The type of a hook. -/
def hookType (w : Width) : String :=
  "Option<fn(" ++ typeOf w ++ ")>"

/-- The function that makes a machine. -/
def constructor (c : Blueprint.Constructor) : List String :=
  [ "",
    "impl " ++ c.machine ++ " \x7b",
    "    /// Returns a machine in its initial state. `hook`, when set, receives the",
    "    /// ordinal of every event that completes a transition.",
    "    pub fn new(hook: " ++ hookType c.eventWidth ++ ") -> Self \x7b",
    "        Self \x7b",
    "            state: " ++ c.initialSymbol ++ ",",
    "            hook,",
    "        \x7d",
    "    \x7d",
    "\x7d" ]

/-- The type of the machine. -/
def machineType (m : Blueprint.MachineType) : List String :=
  [ "",
    "/// Generated state machine.",
    "#[derive(Debug, Clone, Copy)]",
    "pub struct " ++ m.name ++ " \x7b",
    "    pub state: " ++ typeOf m.stateWidth ++ ",",
    "    hook: " ++ hookType m.eventWidth ++ ",",
    "\x7d" ]

/-- The type of rejections, and how a rejection is shown. -/
def rejectionType (m : Blueprint.MachineType) : List String :=
  let error := rejection m.name
  [ "",
    "/// A rejected transition: the event is not valid from the current state.",
    "#[derive(Debug, Clone, Copy, PartialEq, Eq)]",
    "pub struct " ++ error ++ " \x7b",
    "    pub event: &'static str,",
    "    pub state: " ++ typeOf m.stateWidth ++ ",",
    "\x7d",
    "",
    "impl std::fmt::Display for " ++ error ++ " \x7b",
    "    fn fmt(&self, f: &mut std::fmt::Formatter<'_>) -> std::fmt::Result \x7b",
    "        write!(",
    "            f,",
    "            \"\x7b\x7d: transition not valid from current state \x7b\x7d\",",
    "            self.event, " ++ namesTable m.name ++ "[self.state as usize]",
    "        )",
    "    \x7d",
    "\x7d",
    "",
    "impl std::error::Error for " ++ error ++ " \x7b\x7d" ]

/-- The array of state names. -/
def lookup (l : Blueprint.Lookup) : List String :=
  [ "",
    "/// State ordinal to declared name.",
    "pub const " ++ namesTable l.machine ++ ": [&str; " ++ toString l.entries.length ++ "] = [" ] ++
  (l.entries.map fun (ordinal, name) =>
    "    " ++ Text.quote name ++ ", // " ++ toString ordinal) ++
  ["];"]

/-- Whether a name has a capital. -/
def hasCapital (name : String) : Bool :=
  name.toList.any Char.isUpper

/-- What the compiler would complain about in a method. -/
def lints (t : Transition) : List String :=
  (if hasCapital t.event || t.params.any (hasCapital ·.name) then ["non_snake_case"] else []) ++
  (if t.log.isNone && !t.params.isEmpty then ["unused_variables"] else [])

/-- The parameters of a method, after its machine. -/
def signature (params : List Param) : String :=
  String.join (params.map fun p => ", " ++ p.name ++ ": " ++ p.type)

/-- The line that logs a transition: the state it started from and all fields. -/
def logLine (machine : String) (l : LogEntry) : String :=
  let start := startField ++ " = " ++ namesTable machine ++ "[self.state as usize]"
  let fields := l.fields.map fun f => f ++ " = ?" ++ f
  "        info!(" ++ Text.joined ", " (start :: fields ++ [Text.quote l.message]) ++ ");"

/-- The constant and the method of an event. -/
def transition (t : Transition) : List String :=
  [ "",
    "pub const " ++ t.eventSymbol ++ ": " ++ typeOf t.eventWidth ++ " = " ++ toString t.ordinal ++
      ";",
    "",
    "impl " ++ t.machine ++ " \x7b",
    "    /// Moves the machine to `" ++ t.destination ++ "`. Fails without changing state when the",
    "    /// current state is not one the event is declared from." ] ++
  (match lints t with
    | [] => []
    | ls => ["    #[allow(" ++ Text.joined ", " ls ++ ")]"]) ++
  [ "    pub fn " ++ t.event ++ "(&mut self" ++ signature t.params ++ ") -> Result<(), " ++
      rejection t.machine ++ "> \x7b",
    "        if !matches!(self.state, " ++ Text.joined " | " t.guard ++ ") \x7b",
    "            return Err(" ++ rejection t.machine ++ " \x7b",
    "                event: " ++ Text.quote t.event ++ ",",
    "                state: self.state,",
    "            \x7d);",
    "        \x7d" ] ++
  (match t.log with
    | some l => [logLine t.machine l]
    | none => []) ++
  [ "        self.state = " ++ t.destinationSymbol ++ ";",
    "        if let Some(hook) = self.hook \x7b",
    "            hook(" ++ t.eventSymbol ++ ");",
    "        \x7d",
    "        Ok(())",
    "    \x7d",
    "\x7d" ]

/-- **The lines of a source.** -/
def lines (b : Blueprint) : List String :=
  header b.header ++ constants b.states ++ constructor b.constructor ++ machineType b.machine ++
    rejectionType b.machine ++ lookup b.lookup ++ b.transitions.flatMap transition

/-- **Rendering** a blueprint, if its names allow it. -/
def render (b : Blueprint) : Except Target.NameFault String := do
  Target.checkNames .rust (declarations b) (uses b)
  pure (Text.lines (lines b))

end Automaton.RustSource
