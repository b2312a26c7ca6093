import Automaton.Document.Basic

/-!
# Growing a TOML document

The lines of a TOML text speak about one tree of tables, from different places: a header `[a.b]`
opens a table, a header `[[a.b]]` opens the next table of a list, and an assignment `x.y = v` places
a value below the table that is open.  What may be said twice is a matter of *how* a table came
about, its `Toml.Origin`:

* a table opened by its own header may not be opened again, and assignments from outside may not
  reach into it;
* a table implied by a longer header may still be opened, once; assignments from outside may pass
  through it, but not end in it;
* a table grown by dotted assignments may grow by further ones, but may not be opened;
* in a list of tables every path goes on in the last table, and for assignments that table is like
  an implied one;
* values, inline tables and written lists are closed.

`Toml.Tree.open`, `Toml.Tree.openNext` and `Toml.Tree.assign` are the three ways to grow.
-/

namespace Automaton.Document.Toml

/-- **How a table came about.** -/
inductive Origin where
  /-- By its own header. -/
  | header
  /-- As part of the path of a longer header. -/
  | implied
  /-- As part of the path of an assignment. -/
  | dotted
  deriving DecidableEq, Repr

/-- **A place in a growing document.** -/
inductive Tree where
  /-- A closed value. -/
  | value (d : Document)
  /-- A table, with its members so far. -/
  | table (origin : Origin) (members : List (String × Tree))
  /-- A list of tables grown by headers: the finished ones, and the one that still grows. -/
  | tables (finished : List (List (String × Tree))) (current : List (String × Tree))

/-- The members of a table that may still grow. -/
abbrev Members := List (String × Tree)

/-- Changes the member of a name, or adds it; `f` may refuse. -/
def Members.alter (name : String) (f : Option Tree → Option Tree) : Members → Option Members
  | [] => (f none).map fun t => [(name, t)]
  | (n, t) :: ms =>
    if n = name then (f (some t)).map fun t => (n, t) :: ms
    else (Members.alter name f ms).map ((n, t) :: ·)

/-- **Following a header**: changes the table at the end of a path.  Missing tables on the way are
implied; in a list of tables the way goes on in the last one. -/
def Members.follow (f : Members → Option Members) : List String → Members → Option Members
  | [], ms => f ms
  | name :: path, ms => Members.alter name (fun
      | none => (Members.follow f path []).map (.table .implied)
      | some (.table origin inner) => (Members.follow f path inner).map (.table origin)
      | some (.tables finished current) => (Members.follow f path current).map (.tables finished)
      | some (.value _) => none) ms

/-- **Opening a table** below its parent. -/
def Members.open (name : String) : Members → Option Members :=
  Members.alter name fun
    | none => some (.table .header [])
    | some (.table .implied members) => some (.table .header members)
    | _ => none

/-- **Opening the next table of a list** below its parent. -/
def Members.openNext (name : String) : Members → Option Members :=
  Members.alter name fun
    | none => some (.tables [] [])
    | some (.tables finished current) => some (.tables (finished ++ [current]) [])
    | _ => none

/-- **Assigning** a value at the end of a dotted path.  Missing tables on the way are grown. -/
def Members.assign (name : String) (d : Document) : List String → Members → Option Members
  | [] => Members.alter name fun
      | none => some (.value d)
      | some _ => none
  | step :: path => Members.alter step fun
      | none => (Members.assign name d path []).map (.table .dotted)
      | some (.table .dotted inner) => (Members.assign name d path inner).map (.table .dotted)
      | some (.table .implied inner) =>
        if path = [] then none else (Members.assign name d path inner).map (.table .implied)
      | some (.tables finished current) =>
        if path = [] then none else (Members.assign name d path current).map (.tables finished)
      | _ => none

mutual

/-- The document that a place holds in the end. -/
def Tree.toDocument : Tree → Document
  | .value d => d
  | .table _ ms => .record (membersToDocuments ms)
  | .tables finished current =>
    .list (finishedToDocuments finished ++ [.record (membersToDocuments current)])

/-- The documents that members hold in the end. -/
def membersToDocuments : List (String × Tree) → List (String × Document)
  | [] => []
  | (n, t) :: ms => (n, t.toDocument) :: membersToDocuments ms

/-- The finished tables of a list, as records. -/
def finishedToDocuments : List (List (String × Tree)) → List Document
  | [] => []
  | ms :: rest => .record (membersToDocuments ms) :: finishedToDocuments rest

end

end Automaton.Document.Toml
