import Automaton.Document.Json.Reader

/-!
# The grammar of JSON

Which texts are JSON and what they denote, said by rules of spelling and not by a reader.  The rules
are those of the format: what a construct denotes stands in front, how it is spelled behind.

* **Blanks** may stand around every value and every name, and nowhere else.
* **Strings** spell units (`UnitSpelling`), and a text may be cut into units in several ways
  (`UnitsOf`): a character with a number of more than sixteen bits is one unit, if it stands for
  itself, or a pair of halves.  So one text has many spellings, and some strings spell no text.
* **Phrases** are what the rules for values are about (`Phrase`).  A value denotes a document; an
  *entry* is a value with blanks around it, and so is a whole text (`Writes`).  A string without a
  text and a record with such a name are well formed, but denote nothing that can be read.
-/

namespace Automaton.Document.Json

/-- **Blanks**, any number of them. -/
def Blanks (cs : List Char) : Prop :=
  ∀ c ∈ cs, isBlank c = true

/-! ### Strings -/

/-- **How a unit is spelled.** -/
inductive UnitSpelling : Nat → List Char → Prop where
  /-- Most characters stand for themselves. -/
  | plain {c : Char} (hcontrol : 0x20 ≤ c.toNat) (hquote : c ≠ '"') (hescape : c ≠ '\\') :
    UnitSpelling c.toNat [c]
  /-- Some are written as a sign behind a backslash. -/
  | sign {c e : Char} (h : simpleEscape c = some e) : UnitSpelling e.toNat ['\\', c]
  /-- All units of sixteen bits can be written in hexadecimal digits. -/
  | digits {a b c d : Char} {u : Nat} (h : hexNumber [a, b, c, d] = some u) :
    UnitSpelling u ['\\', 'u', a, b, c, d]

/-- Units in a row. -/
inductive UnitsSpelling : List Nat → List Char → Prop where
  | nil : UnitsSpelling [] []
  | cons {u : Nat} {us : List Nat} {cs rest : List Char} (h : UnitSpelling u cs)
    (hrest : UnitsSpelling us rest) : UnitsSpelling (u :: us) (cs ++ rest)

/-- The first half of a character of more than sixteen bits. -/
def highHalf (c : Char) : Nat :=
  0xD800 + (c.toNat - 0x10000) / 0x400

/-- The second half. -/
def lowHalf (c : Char) : Nat :=
  0xDC00 + (c.toNat - 0x10000) % 0x400

/-- **The units of a text.** -/
inductive UnitsOf : List Char → List Nat → Prop where
  | nil : UnitsOf [] []
  /-- A character may be one unit. -/
  | whole (c : Char) {cs : List Char} {us : List Nat} (h : UnitsOf cs us) :
    UnitsOf (c :: cs) (c.toNat :: us)
  /-- If it has more than sixteen bits, it may also be two. -/
  | halves {c : Char} {cs : List Char} {us : List Nat} (hc : 0x10000 ≤ c.toNat) (h : UnitsOf cs us) :
    UnitsOf (c :: cs) (highHalf c :: lowHalf c :: us)

/-- **A string**, and the text that it denotes if it denotes one. -/
inductive Literal : Option String → List Char → Prop where
  /-- The units are those of a text. -/
  | text {s : String} {us : List Nat} {body : List Char} (hbody : UnitsSpelling us body)
    (hs : UnitsOf s.toList us) : Literal (some s) ('"' :: (body ++ ['"']))
  /-- They are those of none. -/
  | garbled {us : List Nat} {body : List Char} (hbody : UnitsSpelling us body)
    (hnone : ∀ s, ¬ UnitsOf s us) : Literal none ('"' :: (body ++ ['"']))

/-! ### Numbers -/

/-- **Digits**, at least one. -/
structure Digits (cs : List Char) : Prop where
  /-- There is one. -/
  ne_nil : cs ≠ []
  /-- All are digits. -/
  isDigit : ∀ c ∈ cs, c.isDigit = true

/-- The whole part of a number: a zero, or digits that do not begin with one. -/
inductive WholePart : List Char → Prop where
  | zero : WholePart ['0']
  | digits {cs : List Char} (h : Digits cs) (hzero : cs.head? ≠ some '0') : WholePart cs

/-- Its fraction, if there is one. -/
inductive FractionPart : List Char → Prop where
  | none : FractionPart []
  | digits {cs : List Char} (h : Digits cs) : FractionPart ('.' :: cs)

/-- Its exponent, if there is one. -/
inductive ExponentPart : List Char → Prop where
  | none : ExponentPart []
  | digits {e : Char} {sign cs : List Char} (he : e = 'e' ∨ e = 'E')
    (hsign : sign = [] ∨ sign = ['+'] ∨ sign = ['-']) (h : Digits cs) :
    ExponentPart (e :: (sign ++ cs))

/-- **A number.** -/
inductive Numeral : List Char → Prop where
  | parts {sign whole fraction exponent : List Char} (hsign : sign = [] ∨ sign = ['-'])
    (hwhole : WholePart whole) (hfraction : FractionPart fraction)
    (hexponent : ExponentPart exponent) : Numeral (sign ++ (whole ++ (fraction ++ exponent)))

/-! ### Values -/

/-- **Phrases**, and what they denote. -/
inductive Phrase where
  /-- A value. -/
  | value (d : Document)
  /-- A value with blanks around it. -/
  | entry (d : Document)
  /-- Entries with commas between them. -/
  | items (ds : List Document)
  /-- An entry with its name. -/
  | member (name : Option String) (d : Document)
  /-- Named entries with commas between them. -/
  | members (ms : List (Option String × Document))

/-- **How phrases are spelled.** -/
inductive Spelling : Phrase → List Char → Prop where
  | nullWord : Spelling (.value .null) ['n', 'u', 'l', 'l']
  | trueWord : Spelling (.value (.boolean true)) ['t', 'r', 'u', 'e']
  | falseWord : Spelling (.value (.boolean false)) ['f', 'a', 'l', 's', 'e']
  | number {cs : List Char} (h : Numeral cs) : Spelling (.value (.number (String.ofList cs))) cs
  | text {s : String} {cs : List Char} (h : Literal (some s) cs) : Spelling (.value (.text s)) cs
  | garbled {cs : List Char} (h : Literal none cs) : Spelling (.value (.unreadable true)) cs
  | emptyList {blanks : List Char} (h : Blanks blanks) :
    Spelling (.value (.list [])) ('[' :: (blanks ++ [']']))
  | list {ds : List Document} {cs : List Char} (h : Spelling (.items ds) cs) :
    Spelling (.value (.list ds)) ('[' :: (cs ++ [']']))
  | emptyRecord {blanks : List Char} (h : Blanks blanks) :
    Spelling (.value (.record [])) ('\x7b' :: (blanks ++ ['\x7d']))
  | record {ms : List (String × Document)} {cs : List Char}
    (h : Spelling (.members (ms.map fun m => (some m.1, m.2))) cs) :
    Spelling (.value (.record ms)) ('\x7b' :: (cs ++ ['\x7d']))
  /-- A record with a name that is no text cannot be read. -/
  | garbledRecord {ms : List (Option String × Document)} {cs : List Char}
    (h : Spelling (.members ms) cs) (hnone : ∃ m ∈ ms, m.1 = none) :
    Spelling (.value (.unreadable true)) ('\x7b' :: (cs ++ ['\x7d']))
  | entry {d : Document} {before cs after : List Char} (hbefore : Blanks before)
    (h : Spelling (.value d) cs) (hafter : Blanks after) :
    Spelling (.entry d) (before ++ (cs ++ after))
  | item {d : Document} {cs : List Char} (h : Spelling (.entry d) cs) : Spelling (.items [d]) cs
  | items {d : Document} {ds : List Document} {cs rest : List Char} (h : Spelling (.entry d) cs)
    (hrest : Spelling (.items ds) rest) : Spelling (.items (d :: ds)) (cs ++ ',' :: rest)
  | named {name : Option String} {d : Document} {before literal after cs : List Char}
    (hbefore : Blanks before) (hname : Literal name literal) (hafter : Blanks after)
    (h : Spelling (.entry d) cs) :
    Spelling (.member name d) (before ++ (literal ++ (after ++ ':' :: cs)))
  | member {name : Option String} {d : Document} {cs : List Char}
    (h : Spelling (.member name d) cs) : Spelling (.members [(name, d)]) cs
  | members {name : Option String} {d : Document} {ms : List (Option String × Document)}
    {cs rest : List Char} (h : Spelling (.member name d) cs)
    (hrest : Spelling (.members ms) rest) :
    Spelling (.members ((name, d) :: ms)) (cs ++ ',' :: rest)

/-- **A text writes a document**: it is a value, with blanks around it. -/
def Writes (d : Document) (text : String) : Prop :=
  Spelling (.entry d) text.toList

/-! ### Passing over -/

/-- A phrase that denotes what may be passed over. -/
def Phrase.Skippable : Phrase → Prop
  | .value d => d.skippable = true
  | .entry d => d.skippable = true
  | .items ds => ∀ d ∈ ds, d.skippable = true
  | .member _ d => d.skippable = true
  | .members ms => ∀ m ∈ ms, m.2.skippable = true

/-- **Everything may be passed over** in a text of the format. -/
theorem Spelling.skippable {p : Phrase} {cs : List Char} (h : Spelling p cs) : p.Skippable := by
  induction h with
  | nullWord | trueWord | falseWord | number | text => rfl
  | garbled | emptyList | emptyRecord | garbledRecord => rfl
  | list h ih => exact allSkippable_iff.mpr ih
  | record h ih =>
    -- members with names are members all the same
    refine membersSkippable_iff.mpr fun m hm => ?_
    exact ih (some m.1, m.2) (List.mem_map_of_mem hm)
  | entry hbefore h hafter ih => exact ih
  | item h ih => exact fun d hd => List.mem_singleton.mp hd ▸ ih
  | items h hrest ih ihrest => exact List.forall_mem_cons.mpr ⟨ih, ihrest⟩
  | named hbefore hname hafter h ih => exact ih
  | member h ih => exact fun m hm => List.mem_singleton.mp hm ▸ ih
  | members h hrest ih ihrest => exact List.forall_mem_cons.mpr ⟨ih, ihrest⟩

end Automaton.Document.Json
