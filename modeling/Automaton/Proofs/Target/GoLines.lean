import Automaton.Proofs.Name
import Automaton.Proofs.Text.Delimited
import Automaton.Target.Go

/-!
# The lines of a Go source

The text of a Go source falls into lines, but not into those that it was written in: an import may
contain anything, line feeds included.  What comes behind the imports is another matter.  A
blueprint is *legible* if its names and symbols are words and its types are on one line, and of a
legible blueprint these lines can be told from the text.

## Finding the body

The *body* of a source is what follows the line that opens the constants.  An import may look like
that line, but nothing in the body does (`GoSource.isInner_body`).  So it is the *last* one of its
kind, whatever the imports are, and a body is found from its end (`GoSource.body_eq_of_text_eq`).

The package stands above the imports, and is found from the beginning of the text
(`GoSource.package_eq_of_text_eq`).
-/

namespace Automaton

open Identifier (IsWord)

/-! ### What can be read -/

/-- **A parameter can be read** if it has a name and its type contains neither commas nor line
feeds. -/
structure Param.Legible (p : Param) : Prop where
  /-- The name is a word. -/
  name_isWord : IsWord p.name
  /-- It is not empty. -/
  name_ne_empty : p.name ≠ ""
  /-- The type contains no commas. -/
  type_comma : ',' ∉ p.type.toList
  /-- It contains no line feeds. -/
  type_feed : '\n' ∉ p.type.toList

/-- **A transition can be read** if its names and symbols are words. -/
structure Transition.Legible (tr : Transition) : Prop where
  /-- The name of the machine is a word. -/
  machine : IsWord tr.machine
  /-- So is the event. -/
  event : IsWord tr.event
  /-- So is its symbol. -/
  eventSymbol : IsWord tr.eventSymbol
  /-- The parameters can be read. -/
  params : ∀ p ∈ tr.params, p.Legible
  /-- The symbols of the guard are words, none of them empty. -/
  guard : ∀ symbol ∈ tr.guard, IsWord symbol ∧ symbol ≠ ""
  /-- The symbol of the destination is a word. -/
  destinationSymbol : IsWord tr.destinationSymbol
  /-- So is the destination. -/
  destination : IsWord tr.destination
  /-- What is logged is on one line. -/
  log : ∀ l, tr.log = some l → (∀ f ∈ l.fields, IsWord f) ∧ '\n' ∉ l.message.toList

/-- **A blueprint can be read** if its names and symbols are words. -/
structure Blueprint.Legible (b : Blueprint) : Prop where
  /-- The package is a word. -/
  package : IsWord b.header.package
  /-- So are the symbols of the constants. -/
  constants : ∀ c ∈ b.states.constants, IsWord c.symbol
  /-- The constructor makes something that is a word. -/
  constructor_machine : IsWord b.constructor.machine
  /-- It starts under a symbol that is a word. -/
  initialSymbol : IsWord b.constructor.initialSymbol
  /-- The name of the machine is a word. -/
  machine : IsWord b.machine.name
  /-- So is the machine of the lookup table. -/
  lookup_machine : IsWord b.lookup.machine
  /-- So are the names of the states. -/
  entries : ∀ x ∈ b.lookup.entries, IsWord x.2
  /-- The transitions can be read. -/
  transitions : ∀ tr ∈ b.transitions, tr.Legible

namespace GoSource

/-! ### The body -/

/-- The lines that declare states. -/
def stateLines (c : Blueprint.Constants) : List String :=
  match c.constants with
  | [] => []
  | first :: rest =>
    ("\t" ++ first.symbol ++ " " ++ typeOf c.width ++ " = iota") ::
      rest.map fun k => "\t" ++ k.symbol

/-- **The body of a source**: all lines behind the one that opens the constants. -/
def body (b : Blueprint) : List String :=
  stateLines b.states ++ ")" :: (constructor b.constructor ++ (machineType b.machine ++
    (lookup b.lookup ++ b.transitions.flatMap transition)))

/-- A source is its head, the line that opens the constants, and its body. -/
theorem lines_eq (b : Blueprint) : lines b = header b.header ++ "" :: "const (" :: body b := by
  have hconstants : constants b.states = "" :: "const (" :: (stateLines b.states ++ [")"]) := rfl
  rw [lines, hconstants, body]
  simp only [List.append_assoc, List.cons_append, List.nil_append]

/-- **A line of a body**: it is one line, and it does not open the constants. -/
structure IsInner (line : String) : Prop where
  /-- It contains no line feeds. -/
  oneLine : '\n' ∉ line.toList
  /-- It is another line. -/
  ne_opening : line ≠ "const ("

/-- A line that begins with another character does not open the constants. -/
theorem isInner_of_head {l : String} (hfeed : '\n' ∉ l.toList) (hhead : l.toList.head? ≠ some 'c') :
    IsInner l := by
  refine ⟨hfeed, ?_⟩
  rintro rfl
  exact hhead (by decide)

/-- A line without opening brackets does not open the constants. -/
theorem isInner_of_notMem {l : String} (hfeed : '\n' ∉ l.toList) (hbracket : '(' ∉ l.toList) :
    IsInner l := by
  refine ⟨hfeed, ?_⟩
  rintro rfl
  exact hbracket (by decide)

theorem feed_notMem_typeOf (w : Width) : '\n' ∉ (typeOf w).toList := by
  cases w <;> decide

theorem bracket_notMem_typeOf (w : Width) : '(' ∉ (typeOf w).toList := by
  cases w <;> decide

theorem isInner_stateLines {c : Blueprint.Constants} (h : ∀ k ∈ c.constants, IsWord k.symbol)
    {l : String} (hl : l ∈ stateLines c) : IsInner l := by
  have hfeed : ∀ k ∈ c.constants, '\n' ∉ k.symbol.toList := fun k hk => (h k hk).notMem (by decide)
  rw [stateLines] at hl
  cases hc : c.constants with
  | nil =>
    rw [hc] at hl
    exact absurd hl List.not_mem_nil
  | cons first rest =>
    rw [hc] at hl hfeed
    rcases List.mem_cons.mp hl with rfl | hl
    · -- only the first line has the type
      have hfirst := hfeed first List.mem_cons_self
      exact isInner_of_head (by simp [hfirst, feed_notMem_typeOf]) (by simp)
    · obtain ⟨k, hk, rfl⟩ := List.mem_map.mp hl
      have hsymbol := hfeed k (List.mem_cons_of_mem _ hk)
      exact isInner_of_head (by simp [hsymbol]) (by simp)

theorem isInner_constructor {c : Blueprint.Constructor} (hmachine : IsWord c.machine)
    (hinitial : IsWord c.initialSymbol) {l : String} (hl : l ∈ constructor c) : IsInner l := by
  have hm : '\n' ∉ c.machine.toList := hmachine.notMem (by decide)
  have hi : '\n' ∉ c.initialSymbol.toList := hinitial.notMem (by decide)
  simp only [constructor, List.mem_cons, List.not_mem_nil, or_false] at hl
  rcases hl with hl | hl | hl | hl | hl | hl
  all_goals
    subst hl
    exact isInner_of_head (by simp [maker, hookType, hm, hi, feed_notMem_typeOf]) (by simp)

theorem isInner_machineType {m : Blueprint.MachineType} (hmachine : IsWord m.name)
    {l : String} (hl : l ∈ machineType m) : IsInner l := by
  have hm : '\n' ∉ m.name.toList := hmachine.notMem (by decide)
  simp only [machineType, List.mem_cons, List.not_mem_nil, or_false] at hl
  rcases hl with hl | hl | hl | hl | hl | hl
  all_goals
    subst hl
    exact isInner_of_head (by simp [hookType, hm, feed_notMem_typeOf]) (by simp)

theorem isInner_lookup {l : Blueprint.Lookup} (hmachine : IsWord l.machine)
    (hentries : ∀ x ∈ l.entries, IsWord x.2) {line : String} (hline : line ∈ lookup l) :
    IsInner line := by
  have hm : '\n' ∉ l.machine.toList := hmachine.notMem (by decide)
  simp only [lookup, List.mem_append, List.mem_cons, List.mem_map, List.not_mem_nil,
    or_false] at hline
  rcases hline with ((hline | hline | hline) | ⟨⟨i, n⟩, hx, hline⟩) | hline
  case inl.inr =>
    subst hline
    -- the line of an entry: its name is quoted, and its number is digits
    have hname : '\n' ∉ (Text.quote n).toList :=
      Text.notMem_quote (by decide) (by decide) ((hentries _ hx).notMem (by decide))
    have hnumber : '\n' ∉ (toString i).toList := Text.notMem_toString (by decide) i
    refine isInner_of_head ?_ (by simp)
    simp only [String.toList_append, List.mem_append, hname, hnumber]
    decide
  all_goals
    subst hline
    exact isInner_of_head (by simp [namesTable, hm, feed_notMem_typeOf]) (by simp)

/-- The parameters of a method are on one line. -/
theorem feed_notMem_signature {params : List Param} (h : ∀ p ∈ params, p.Legible) :
    '\n' ∉ (signature params).toList := by
  refine Text.notMem_joined (by decide) fun x hx => ?_
  obtain ⟨p, hp, rfl⟩ := List.mem_map.mp hx
  have hname : '\n' ∉ p.name.toList := (h p hp).name_isWord.notMem (by decide)
  simp [hname, (h p hp).type_feed]

/-- So are the states of a guard. -/
theorem feed_notMem_guard {guard : List String}
    (h : ∀ symbol ∈ guard, IsWord symbol ∧ symbol ≠ "") :
    '\n' ∉ (Text.joined ", " guard).toList :=
  Text.notMem_joined (by decide) fun x hx => (h x hx).1.notMem (by decide)

/-- So is what a method logs. -/
theorem isInner_logLine {machine : String} (hmachine : IsWord machine) {l : LogEntry}
    (hl : (∀ f ∈ l.fields, IsWord f) ∧ '\n' ∉ l.message.toList) :
    IsInner (logLine machine l) := by
  have hm : '\n' ∉ machine.toList := hmachine.notMem (by decide)
  have hmessage : '\n' ∉ (Text.quote l.message).toList :=
    Text.notMem_quote (by decide) (by decide) hl.2
  -- nothing that is logged breaks the line: texts are quoted, and names are words
  have hfields : '\n' ∉ (Text.joined ", " (Text.quote "Start State" :: currentName machine ::
      l.fields.flatMap fun f => [Text.quote f, f])).toList := by
    refine Text.notMem_joined (by decide) fun x hx => ?_
    rcases List.mem_cons.mp hx with rfl | hx
    · decide
    · rcases List.mem_cons.mp hx with rfl | hx
      · simp [currentName, namesTable, receiver, hm]
      · obtain ⟨f, hf, hx⟩ := List.mem_flatMap.mp hx
        have hfield : '\n' ∉ f.toList := (hl.1 f hf).notMem (by decide)
        rcases List.mem_pair.mp hx with rfl | rfl
        · exact Text.notMem_quote (by decide) (by decide) hfield
        · exact hfield
  refine isInner_of_head ?_ (by simp [logLine])
  simp only [logLine, String.toList_append, List.mem_append, hfields, hmessage]
  decide

theorem isInner_transition {tr : Transition} (h : tr.Legible) {l : String}
    (hl : l ∈ transition tr) : IsInner l := by
  have hm : '\n' ∉ tr.machine.toList := h.machine.notMem (by decide)
  have he : '\n' ∉ tr.event.toList := h.event.notMem (by decide)
  have hsymbol : '\n' ∉ tr.eventSymbol.toList := h.eventSymbol.notMem (by decide)
  have hbracket : '(' ∉ tr.eventSymbol.toList := h.eventSymbol.notMem (by decide)
  have hd : '\n' ∉ tr.destination.toList := h.destination.notMem (by decide)
  have hdsymbol : '\n' ∉ tr.destinationSymbol.toList := h.destinationSymbol.notMem (by decide)
  have hsignature := feed_notMem_signature h.params
  have hguard := feed_notMem_guard h.guard
  have hquote : '\n' ∉
      (Text.quote (tr.event ++ ": transition not valid from current state %s")).toList :=
    Text.notMem_quote (by decide) (by decide) (by simp [he])
  have hnumber : '\n' ∉ (toString tr.ordinal).toList := Text.notMem_toString (by decide) _
  have hbracket' : '(' ∉ (toString tr.ordinal).toList := Text.notMem_toString (by decide) _
  simp only [transition, List.mem_append] at hl
  -- the lines before the log, the log, and the lines behind it
  rcases hl with (hl | hl) | hl
  · simp only [List.mem_cons, List.not_mem_nil, or_false] at hl
    rcases hl with hl | hl | hl | hl | hl | hl | hl | hl | hl | hl | hl
    case inr.inl =>
      -- the constant of the event begins like the line that opens the constants
      subst hl
      refine isInner_of_notMem ?_ ?_
      · simp only [String.toList_append, List.mem_append, hsymbol, hnumber,
          feed_notMem_typeOf]
        decide
      · simp only [String.toList_append, List.mem_append, hbracket, hbracket',
          bracket_notMem_typeOf]
        decide
    all_goals
      subst hl
      exact isInner_of_head (by simp [-Text.toList_quote, receiver, currentName, namesTable, hm, he,
        hd, hsignature, hguard, hquote]) (by simp)
  · cases hlog : tr.log with
    | none =>
      rw [hlog] at hl
      exact absurd hl List.not_mem_nil
    | some entry =>
      rw [hlog] at hl
      rw [List.mem_singleton.mp hl]
      exact isInner_logLine h.machine (h.log entry hlog)
  · simp only [List.mem_cons, List.not_mem_nil, or_false] at hl
    rcases hl with hl | hl | hl | hl | hl | hl
    all_goals
      subst hl
      exact isInner_of_head (by simp [receiver, hsymbol, hdsymbol]) (by simp)

/-- **The lines of a body** are lines that do not open the constants. -/
theorem isInner_body {b : Blueprint} (h : b.Legible) {l : String} (hl : l ∈ body b) :
    IsInner l := by
  -- part by part, in the order in which the source has them
  simp only [body, List.mem_append, List.mem_cons, List.mem_flatMap] at hl
  rcases hl with hl | rfl | hl | hl | hl | ⟨tr, htr, hl⟩
  · exact isInner_stateLines h.constants hl
  · exact isInner_of_head (by decide) (by decide)
  · exact isInner_constructor h.constructor_machine h.initialSymbol hl
  · exact isInner_machineType h.machine hl
  · exact isInner_lookup h.lookup_machine h.entries hl
  · exact isInner_transition (h.transitions tr htr) hl

/-! ### Finding the body -/

/-- **The lines of a text**: whatever its head looks like, they end with the line that opens the
constants, the body, and nothing behind the last line feed. -/
theorem exists_split_eq {b : Blueprint} (h : b.Legible) :
    ∃ front, Text.split (Text.lines (lines b)) = front ++ "const (" :: (body b ++ [""]) := by
  -- the head ends with a bracket on a line of its own
  obtain ⟨opening, hheader⟩ : ∃ opening, header b.header = opening ++ [")"] := ⟨_, rfl⟩
  have htext : Text.lines (lines b) =
      Text.lines opening ++ ")" ++ "\n" ++ Text.lines ("" :: "const (" :: body b) := by
    rw [lines_eq, hheader, Text.lines_append, Text.lines_append, Text.lines_cons ")",
      Text.lines_nil, String.append_empty, ← String.append_assoc]
  have hbody : Text.split (Text.lines ("" :: "const (" :: body b)) =
      "" :: "const (" :: (body b ++ [""]) := by
    have hfeed : ∀ l ∈ "" :: "const (" :: body b, '\n' ∉ l.toList := by
      intro l hl
      rcases List.mem_cons.mp hl with rfl | hl
      · decide
      · rcases List.mem_cons.mp hl with rfl | hl
        · decide
        · exact (isInner_body h hl).oneLine
    have hsplit := Text.split_lines_append hfeed ""
    rwa [String.append_empty, Text.split_empty] at hsplit
  refine ⟨Text.split (Text.lines opening ++ ")") ++ [""], ?_⟩
  rw [htext, Text.split_append, hbody, List.append_assoc, List.singleton_append]

/-- **Sources with one text** have one body, whatever they import. -/
theorem body_eq_of_text_eq {b c : Blueprint} (hb : b.Legible) (hc : c.Legible)
    (h : Text.lines (lines b) = Text.lines (lines c)) : body b = body c := by
  obtain ⟨front, hfront⟩ := exists_split_eq hb
  obtain ⟨front', hfront'⟩ := exists_split_eq hc
  have hlast : ∀ {d : Blueprint}, d.Legible → "const (" ∉ body d ++ [""] := by
    intro d hd hmem
    rcases List.mem_append.mp hmem with hmem | hmem
    · exact (isInner_body hd hmem).ne_opening rfl
    · exact absurd (List.mem_singleton.mp hmem) (by decide)
  rw [h, hfront'] at hfront
  -- the line that opens the constants is the last of its kind in both, and the bodies follow it
  obtain ⟨-, hbody⟩ := append_cons_inj_last (hlast hc) (hlast hb) hfront
  exact (List.append_cancel_right hbody).symm

/-- The lines above the package: the banner, the origin of the source, and an empty one. -/
def preamble (digest : Option String) : List String :=
  [Target.banner] ++
  (match digest with
    | some digest => ["// Source: " ++ digest]
    | none => []) ++
  [""]

/-- The text of a source, with its package laid bare. -/
theorem exists_text_eq (b : Blueprint) : ∃ r, Text.lines (lines b) =
    Text.lines (preamble b.header.digest) ++ ("package " ++ (b.header.package ++ ("\n" ++ r))) := by
  obtain ⟨rest, hrest⟩ : ∃ rest, lines b =
      preamble b.header.digest ++ ("package " ++ b.header.package) :: rest := by
    refine ⟨"" :: "import (" :: ((importLines b.header.imports).map ("\t" ++ ·) ++
      ")" :: "" :: "const (" :: body b), ?_⟩
    rw [lines_eq, header, preamble.eq_def]
    cases b.header.digest <;>
      simp only [List.append_assoc, List.cons_append, List.nil_append]
  refine ⟨Text.lines rest, ?_⟩
  rw [hrest, Text.lines_append, Text.lines_cons, String.append_assoc, String.append_assoc]

/-- **Sources with one text** have one package, if they name one text as their origin. -/
theorem package_eq_of_text_eq {b c : Blueprint} (hb : b.Legible) (hc : c.Legible)
    (hdigest : b.header.digest = c.header.digest)
    (h : Text.lines (lines b) = Text.lines (lines c)) : b.header.package = c.header.package := by
  obtain ⟨r, hr⟩ := exists_text_eq b
  obtain ⟨r', hr'⟩ := exists_text_eq c
  rw [hr, hr', hdigest, String.append_right_inj, String.append_right_inj] at h
  have hfeed : ∀ {package : String}, IsWord package → '\n' ∉ package.toList := fun hword =>
    hword.notMem (by decide)
  exact (Text.append_inj_of_notMem (hfeed hb.package) (hfeed hc.package) (by simp) (by simp) h).1

end GoSource

end Automaton
