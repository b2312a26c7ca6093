import Automaton.Document.Decoding
import Automaton.Table.Basic

/-!
# Tables as documents

The written form of a table.  A table has the fields `Name`, `Imports`, `PackageName`, `UseSLog` and
`Events`; an event has `Source`, `Destination` and `Params`; a parameter has `Name` and `Type`.
Names, the package, destinations and types have to be given; everything else has a default.  The
logging flag may also be called `useLogging`.

* `Table.ofDocument` decodes a table, and `Table.ofText` does so from a text.
* `Table.toDocument` writes every field of a table.
-/

namespace Automaton

open Decoding

/-! ### Decoding -/

/-- The fields of a parameter. -/
def Param.layout : Layout := ⟨["Name", "Type"], [], 2⟩

/-- A parameter. -/
def Param.ofDocument (format : Format) (d : Document) : Except Fault Param := do
  let ms ← fields format layout d
  let name ← required "Name" text ms
  let type ← required "Type" text ms
  pure { name, type }

/-- The fields of an event. -/
def Event.layout : Layout := ⟨["Source", "Destination", "Params"], [], 2⟩

/-- An event. -/
def Event.ofDocument (format : Format) (d : Document) : Except Fault Event := do
  let ms ← fields format layout d
  let sources ← optional ["Source"] [] (list text) ms
  let destination ← required "Destination" text ms
  let params ← optional ["Params"] [] (list (Param.ofDocument format)) ms
  pure { sources, destination, params }

namespace Table

/-- The fields of a table. -/
def layout : Layout :=
  ⟨["Name", "Imports", "PackageName", "UseSLog", "Events"], ["useLogging"], 3⟩

/-- **Decoding a table.** -/
def ofDocument (format : Format) (d : Document) : Except Fault Table := do
  let ms ← fields format layout d
  let name ← required "Name" text ms
  let imports ← optional ["Imports"] [] (list text) ms
  let packageName ← required "PackageName" text ms
  let logging ← optional ["UseSLog", "useLogging"] false boolean ms
  let events ← optional ["Events"] Catalog.empty (catalog (Event.ofDocument format)) ms
  pure { name, packageName, imports, logging, events }

/-- **Decoding a table from a text.** -/
def ofText (format : Format) (text : String) : Except Fault Table := do
  ofDocument format (← parse format text)

end Table

/-! ### Writing -/

/-- A parameter with all its fields. -/
def Param.toDocument (p : Param) : Document :=
  .record [("Name", .text p.name), ("Type", .text p.type)]

/-- An event with all its fields. -/
def Event.toDocument (e : Event) : Document :=
  .record
    [ ("Source", .texts e.sources),
      ("Destination", .text e.destination),
      ("Params", .list (e.params.map Param.toDocument)) ]

/-- **A table with all its fields.** -/
def Table.toDocument (t : Table) : Document :=
  .record
    [ ("Name", .text t.name),
      ("Imports", .texts t.imports),
      ("PackageName", .text t.packageName),
      ("UseSLog", .boolean t.logging),
      ("Events", .record (t.events.entries.map fun (name, e) => (name, e.toDocument))) ]

end Automaton
