import Automaton.Graph.OfTable
import Automaton.Table.Validation
import Automaton.Text.Column
import Automaton.Width

/-!
# Findings about a table

The report of a check: what the table declares, then either its first violation, or the states and
events in order and a warning for each state that can never be entered again.
-/

namespace Automaton.Report

/-- What the table declares as a whole. -/
def declarationLines (file digest : String) (t : Table) : List String :=
  [ "📋 Definition Validation Report",
    Text.rule '━' 43,
    "File: " ++ Text.displayed file,
    "Digest: " ++ digest,
    "",
    "Machine:",
    "  Name: " ++ t.name,
    "  Package: " ++ t.packageName,
    "  Logging: " ++ (if t.logging then "yes" else "no"),
    "  Imports: " ++ toString t.imports.length ] ++
  (t.imports.map ("    - " ++ ·)) ++ [""]

/-- The first violation. -/
def violationLines (e : Error) : List String :=
  ["❌ Errors:", "   " ++ e.message, ""]

/-- The head of a list of numbered things. -/
def countLine (what : String) (n : Nat) : String :=
  s!"{what}: {n} ({(Width.forCount n).name})"

/-- The states by ordinal. -/
def stateLines (s : States) : List String :=
  countLine "States" s.size ::
    (s.numbered.map fun (ordinal, name) =>
      "    " ++ Text.padLeft 3 (toString ordinal) ++ " " ++ name) ++ [""]

/-- The events by ordinal. -/
def eventLines (t : Table) : List String :=
  countLine "Events" t.events.size ::
    (t.numberedEvents.map fun (ordinal, name, e) =>
      "    " ++ Text.padLeft 3 (toString ordinal) ++ " " ++ name ++ " [" ++
        Text.joined ", " e.sources ++ "] -> " ++ e.destination) ++ [""]

/-- **The states worth a warning**: never entered, and not where machines start. -/
def unreachable (g : Graph) : List Node :=
  g.entryOnly.filter (·.ordinal != 0)

/-- The warnings. -/
def warningLines (g : Graph) : List String :=
  match unreachable g with
  | [] => []
  | ns =>
    "⚠️  Warnings:" ::
      (ns.map fun n => s!"   State '{n.name}' is never a destination") ++ [""]

/-- **What a check finds**: what it prints, and whether it is content. -/
def findings (file digest : String) (t : Table) : String × Except Error Unit :=
  let declared := declarationLines file digest t
  match t.validate with
  | .error v =>
    (Text.lines (declared ++ violationLines v.error),
      .error (.custom ("Definition validation failed: " ++ v.error.message)))
  | .ok () => match t.states with
    | .error e => (Text.lines declared, .error e)
    | .ok s =>
      let listed := declared ++ stateLines s ++ eventLines t
      match Graph.ofTable t with
      | .error e => (Text.lines listed, .error e)
      | .ok g =>
        (Text.lines (listed ++ warningLines g ++ ["✅ Definition is valid!"]), .ok ())

end Automaton.Report
