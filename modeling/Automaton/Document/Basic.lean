/-!
# Documents

A *document* is what a text in one of the data formats denotes: texts, truth values and numbers,
lists of documents, and records of named documents.  Both formats that transition tables are written
in are read into this one type, so that a table is decoded in one place only.

## What a document keeps

* **Numbers keep their spelling.**  No table field is a number, and reports write numbers whose
  spelling has been chosen already.
* **Records keep the order and the repetitions of the text.**  Whether a name may occur twice is a
  question for the decoder, not for the reader.
* **Unreadable values are kept as such.**  A text can be well formed and still hold a value that
  denotes nothing, such as half of a surrogate pair.  It does no harm where nobody looks, and
  `Document.unreadable` says whether it may be passed over.
-/

namespace Automaton

/-- **What a data text denotes.** -/
inductive Document where
  /-- The absent value. -/
  | null
  /-- A truth value. -/
  | boolean (value : Bool)
  /-- A number, by its spelling. -/
  | number (literal : String)
  /-- A text. -/
  | text (value : String)
  /-- A list. -/
  | list (items : List Document)
  /-- Named documents, in the order of the text. -/
  | record (members : List (String × Document))
  /-- A well formed value that denotes nothing; `skippable` if it may be passed over. -/
  | unreadable (skippable : Bool)
  deriving Inhabited, Repr

namespace Document

/-- A natural number in decimal digits. -/
def ofNat (n : Nat) : Document :=
  .number (toString n)

/-- A list of texts. -/
def texts (ss : List String) : Document :=
  .list (ss.map .text)

/-- A document or, in its place, the absent value. -/
def ofOption : Option Document → Document
  | some d => d
  | none => .null

mutual

/-- **Passing over** a document that nobody asked for: every unreadable value in it must allow
it. -/
def skippable : Document → Bool
  | .unreadable s => s
  | .list items => allSkippable items
  | .record members => membersSkippable members
  | _ => true

/-- Passing over all items of a list. -/
def allSkippable : List Document → Bool
  | [] => true
  | d :: ds => d.skippable && allSkippable ds

/-- Passing over all members of a record. -/
def membersSkippable : List (String × Document) → Bool
  | [] => true
  | (_, d) :: ds => d.skippable && membersSkippable ds

end

theorem allSkippable_iff {ds : List Document} :
    allSkippable ds = true ↔ ∀ d ∈ ds, d.skippable = true := by
  induction ds with
  | nil => simp [allSkippable]
  | cons d ds ih => simp [allSkippable, ih]

theorem membersSkippable_iff {ms : List (String × Document)} :
    membersSkippable ms = true ↔ ∀ m ∈ ms, m.2.skippable = true := by
  induction ms with
  | nil => simp [membersSkippable]
  | cons m ms ih => obtain ⟨n, d⟩ := m; simp [membersSkippable, ih]

end Document

end Automaton
