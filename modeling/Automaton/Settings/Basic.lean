import Automaton.Document.Decoding
import Automaton.Formatter.Basic
import Automaton.Target.Basic

/-!
# Settings

Settings say what to generate, where to put it and how to format it, for everything that a command
line leaves open.  They are written in TOML in three parts, and every part, like nearly every field,
may be left out.

* `Settings.ofText` decodes settings.
* `Settings.destination` is the file that a source goes to.
* `Settings.formatter` is the formatter of a language: none if formatting is turned off, otherwise
  the command that is set for the language or else its standard one.
-/

namespace Automaton

open Decoding

/-- **What to generate.** -/
structure Settings.Generation where
  /-- The destination language. -/
  target : Target
  /-- The file with the table. -/
  table : String
  /-- The file for the source. -/
  destination : Option String
  /-- Whether the source names the text of the table. -/
  digest : Bool
  deriving DecidableEq, Repr

/-- **How to format it.** -/
structure Settings.Formatting where
  /-- Whether sources are formatted. -/
  enabled : Bool
  /-- The command for Go. -/
  go : Option (List String)
  /-- The command for Rust. -/
  rust : Option (List String)
  deriving DecidableEq, Repr

/-- **What to log.** -/
structure Settings.Logging where
  /-- The least important messages that are logged. -/
  level : String
  deriving DecidableEq, Repr

/-- **Settings.** -/
structure Settings where
  /-- What to generate. -/
  generation : Settings.Generation
  /-- How to format it. -/
  formatting : Settings.Formatting
  /-- What to log. -/
  logging : Settings.Logging
  deriving DecidableEq, Repr

namespace Settings

/-- What is generated by default. -/
def Generation.standard : Generation := ⟨.go, "fsm.toml", none, true⟩

/-- How it is formatted by default. -/
def Formatting.standard : Formatting := ⟨true, none, none⟩

/-- What is logged by default. -/
def Logging.standard : Logging := ⟨"info"⟩

/-- **The default settings.** -/
def standard : Settings := ⟨.standard, .standard, .standard⟩

/-! ### Decoding -/

/-- A language, by its name alone or as the only member of a record that says no more about it. -/
def targetOf : Document → Except Fault Target
  | .text name | .record [(name, .record [])] | .record [(name, .list [])] =>
    match Target.ofName? name with
    | some t => .ok t
    | none => .error (.mistyped "a language")
  | _ => .error (.mistyped "a language")

/-- The fields of the first part. -/
def Generation.layout : Layout := ⟨["target", "target_file", "dest_file", "digest"], [], 3⟩

/-- The first part. -/
def Generation.ofDocument (d : Document) : Except Fault Generation := do
  let ms ← fields .toml layout d
  let target ← optional ["target"] standard.target targetOf ms
  let table ← optional ["target_file"] standard.table text ms
  let destination ← optional ["dest_file"] none (fun d => some <$> text d) ms
  let digest ← optional ["digest"] standard.digest boolean ms
  pure { target, table, destination, digest }

/-- The fields of the second part. -/
def Formatting.layout : Layout := ⟨["enabled", "go", "rust"], [], 3⟩

/-- The second part. -/
def Formatting.ofDocument (d : Document) : Except Fault Formatting := do
  let ms ← fields .toml layout d
  let enabled ← optional ["enabled"] standard.enabled boolean ms
  let go ← optional ["go"] none (fun d => some <$> list text d) ms
  let rust ← optional ["rust"] none (fun d => some <$> list text d) ms
  pure { enabled, go, rust }

/-- The fields of the third part. -/
def Logging.layout : Layout := ⟨["level"], [], 0⟩

/-- The third part. -/
def Logging.ofDocument (d : Document) : Except Fault Logging := do
  let ms ← fields .toml layout d
  let level ← optional ["level"] standard.level text ms
  pure { level }

/-- The parts. -/
def layout : Layout := ⟨["generate", "format", "logging"], [], 0⟩

/-- **Decoding settings.** -/
def ofDocument (d : Document) : Except Fault Settings := do
  let ms ← fields .toml layout d
  let generation ← optional ["generate"] .standard Generation.ofDocument ms
  let formatting ← optional ["format"] .standard Formatting.ofDocument ms
  let logging ← optional ["logging"] .standard Logging.ofDocument ms
  pure { generation, formatting, logging }

/-- **Decoding settings from a text.** -/
def ofText (text : String) : Except Fault Settings := do
  ofDocument (← parse .toml text)

/-! ### What settings say -/

/-- The file that a source goes to. -/
def destination (s : Settings) (t : Target) : String :=
  s.generation.destination.getD t.standardFile

/-- The words of the command that is set for a language. -/
def Formatting.words? (f : Formatting) : Target → Option (List String)
  | .go => f.go
  | .rust => f.rust

/-- **The formatter** of a language. -/
def formatter (s : Settings) (t : Target) : Except Error Formatter :=
  if s.formatting.enabled then
    match s.formatting.words? t with
    | some words => (Command.ofWords words).map .command
    | none => .ok (.command (Command.standard t))
  else .ok .none

end Settings

end Automaton
