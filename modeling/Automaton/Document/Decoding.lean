import Automaton.Catalog
import Automaton.Document.Basic
import Automaton.Document.Json.Reader
import Automaton.Document.Toml.Reader

/-!
# Decoding documents

A *decoder* turns a document into a value of the library, or says why it cannot.  Decoders are
strict about kinds: a text is never read as a number, and the absent value stands for nothing but
itself.

## Fields

A value with fields may be written as a record or, with its fields in a fixed order, as a list.
`Decoding.fields` reads both into named documents, after which `Decoding.required` and
`Decoding.optional` pick single fields:

* a field may have several names, but may be given only once;
* fields that nobody asks for are passed over;
* a list may end early if the fields that are left have defaults, and in one of the formats it may
  also go on after the last field.
-/

namespace Automaton

/-- **The two data formats.** -/
inductive Format where
  /-- JSON. -/
  | json
  /-- TOML. -/
  | toml
  deriving DecidableEq, Repr

namespace Format

/-- The document that a text denotes in a format. -/
def read : Format → String → Option Document
  | json => Document.Json.read
  | toml => Document.Toml.read

/-- Whether a list of fields may go on after the last field. -/
def allowsSurplus : Format → Bool
  | json => false
  | toml => true

end Format

namespace Decoding

/-- **Why a document cannot be decoded.** -/
inductive Fault where
  /-- The text is not well formed in its format. -/
  | malformed
  /-- A field is missing. -/
  | missing (field : String)
  /-- A field is given twice. -/
  | repeated (field : String)
  /-- Something else was expected. -/
  | mistyped (expected : String)
  /-- A list has more entries than there are fields. -/
  | surplus
  /-- A value that nobody asks for cannot be passed over. -/
  | unskippable
  deriving DecidableEq, Repr

/-- The wording of a fault. -/
def Fault.message : Fault → String
  | malformed => "malformed text"
  | missing field => s!"missing field {field}"
  | repeated field => s!"repeated field {field}"
  | mistyped expected => s!"expected {expected}"
  | surplus => "too many entries"
  | unskippable => "number out of range"

/-- The document of a text, or the complaint that it is malformed. -/
def parse (format : Format) (text : String) : Except Fault Document :=
  match format.read text with
  | some d => .ok d
  | none => .error .malformed

/-! ### Values -/

/-- A text. -/
def text : Document → Except Fault String
  | .text s => .ok s
  | _ => .error (.mistyped "a text")

/-- A truth value. -/
def boolean : Document → Except Fault Bool
  | .boolean b => .ok b
  | _ => .error (.mistyped "a truth value")

/-- A list of values of one kind. -/
def list {α : Type} (item : Document → Except Fault α) : Document → Except Fault (List α)
  | .list ds => ds.mapM item
  | _ => .error (.mistyped "a list")

/-- A catalog of values of one kind; of two with one name, the later one stays. -/
def catalog {α : Type} (item : Document → Except Fault α) : Document → Except Fault (Catalog α)
  | .record ms => do
    let es ← ms.mapM fun (name, d) => do pure (name, ← item d)
    pure (Catalog.ofList es)
  | _ => .error (.mistyped "a record")

/-! ### Fields -/

/-- The fields of a kind of value. -/
structure Layout where
  /-- The names of the fields, in the order in which a list gives them. -/
  names : List String
  /-- Further names that a record may use. -/
  aliases : List String
  /-- How many fields a list must give at least. -/
  least : Nat

/-- **The fields of a value**, by name. -/
def fields (format : Format) (layout : Layout) :
    Document → Except Fault (List (String × Document))
  | .record ms =>
    let known := layout.names ++ layout.aliases
    if Document.membersSkippable (ms.filter fun m => !known.contains m.1) then .ok ms
    else .error .unskippable
  | .list ds =>
    if !format.allowsSurplus ∧ layout.names.length < ds.length then .error .surplus
    else if ds.length < layout.least then .error (.missing "in a list")
    else .ok (layout.names.zip ds)
  | _ => .error (.mistyped "a record")

/-- The document that is given for a field with any of its names, if there is one. -/
def field? (names : List String) (ms : List (String × Document)) :
    Except Fault (Option Document) :=
  match ms.filter fun m => names.contains m.1 with
  | [] => .ok none
  | [m] => .ok (some m.2)
  | m :: _ => .error (.repeated m.1)

/-- **A field that has to be there.** -/
def required {α : Type} (name : String) (decode : Document → Except Fault α)
    (ms : List (String × Document)) : Except Fault α := do
  match ← field? [name] ms with
  | some d => decode d
  | none => .error (.missing name)

/-- **A field that may be left out.** -/
def optional {α : Type} (names : List String) (default : α) (decode : Document → Except Fault α)
    (ms : List (String × Document)) : Except Fault α := do
  match ← field? names ms with
  | some d => decode d
  | none => .ok default

end Decoding

end Automaton
