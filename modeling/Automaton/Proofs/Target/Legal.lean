import Automaton.Proofs.Target.RustScope

/-!
# Names that are declared as they are

A source declares its machine and its methods under the names that the author gave them, letter by
letter, and in Go the package, too.  So these must be names in the language as well.  Validation
makes sure that they are identifiers, and rendering that they are no keywords.

There is a gap between the two.  An underscore alone is an identifier and no keyword, and yet it
names nothing: what is declared under it cannot be referred to, and it cannot be read as a value,
which is what a log entry does with parameters.  Such names pass (`Target.blank_passes`).

It is the only gap.  Names that a source declares, and parameters that it reads back, are legal
unless they are a blank (`Target.legal_up_to_blank`).
-/

namespace Automaton

open GoSource (Closed Ends Shut identifiers reads_identifier)

/-- **The blank**: an identifier that names nothing. -/
def Identifier.blank : String := "_"

namespace Target

/-- **A legal name** in a language, under which something can be declared and referred to. -/
structure Legal (target : Target) (name : String) : Prop where
  /-- It is an identifier. -/
  isIdentifier : Identifier.Matches name
  /-- It is no keyword. -/
  notMem_keywords : name ∉ target.keywords
  /-- It names something. -/
  ne_blank : name ≠ Identifier.blank

/-- **What a source is called**, as a whole or its machine, each name with the line that declares
it. -/
def heads : Target → Blueprint → List (String × String)
  | go, b =>
    [(b.header.package, "package " ++ b.header.package),
      (b.machine.name, "type " ++ b.machine.name ++ " struct \x7b")]
  | rust, b => [(b.machine.name, "pub struct " ++ b.machine.name ++ " \x7b")]

/-- The line that a method begins with. -/
def methodHead : Target → Transition → String
  | go => GoSource.methodHead
  | rust => RustSource.methodHead

/-- The lines of an event: those of its constant and of its method. -/
def transition : Target → Transition → List String
  | go => GoSource.transition
  | rust => RustSource.transition

/-- The line of a method that logs. -/
def logLine : Target → String → LogEntry → String
  | go => GoSource.logLine
  | rust => RustSource.logLine

/-- **What a source declares under names of the author's**, each name with the line that declares
it. -/
def declared (target : Target) (b : Blueprint) : List (String × String) :=
  target.heads b ++ b.transitions.map fun tr => (tr.event, target.methodHead tr)

/-- **Names are legal up to the blank** in the source of a table. -/
structure LegalUpToBlank (target : Target) (t : Table) (b : Blueprint) : Prop where
  /-- What is declared has the names that the table gives to the source and to its events. -/
  names_eq : (target.declared b).map Prod.fst = (target.rules t).heads ++ t.events.names
  /-- Each of these names stands in a line of the source. -/
  declares : ∀ x ∈ target.declared b, x.2 ∈ target.lines b ∧ x.1 ∈ identifiers x.2
  /-- It is legal unless it is the blank. -/
  legal_iff : ∀ x ∈ target.declared b, target.Legal x.1 ↔ x.1 ≠ Identifier.blank
  /-- If transitions are logged, then a line of the source reads back all parameters of an event,
  and their names are legal unless they are the blank. -/
  logged : t.logging = true → List.Forall₂ (fun entry tr =>
      ∃ l, tr.log = some l ∧ target.logLine tr.machine l ∈ target.lines b ∧
        ∀ p ∈ entry.2.params, p.name ∈ identifiers (target.logLine tr.machine l) ∧
          (target.Legal p.name ↔ p.name ≠ Identifier.blank))
    t.events.entries b.transitions

/-- **Identifiers that are no keywords** are legal unless they are the blank. -/
theorem legal_iff {target : Target} {name : String} (hvalid : Identifier.valid name = true)
    (hkeyword : name ∉ target.keywords) : target.Legal name ↔ name ≠ Identifier.blank := by
  constructor
  · intro hlegal
    exact hlegal.ne_blank
  · intro hblank
    exact
      { isIdentifier := Identifier.valid_iff_matches.mp hvalid
        notMem_keywords := hkeyword
        ne_blank := hblank }

/-! ### Names in lines -/

/-- **A name that is ended** is among those of its line. -/
theorem mem_identifiers_of_shut {a b name : String} {xs : List String} (ha : Shut a xs)
    (hname : Identifier.valid name = true) (hb : Ends b) : name ∈ identifiers (a ++ name ++ b) := by
  rw [ha.append_reads (reads_identifier hname) b hb]
  exact List.mem_append_left _ (List.mem_append_right _ (List.mem_singleton_self name))

section Lines

variable {target : Target} {tr : Transition}

/-- **The line that a method begins with** has the name of the event. -/
theorem mem_identifiers_methodHead (hmachine : Identifier.valid tr.machine = true)
    (hevent : Identifier.valid tr.event = true) :
    tr.event ∈ identifiers (target.methodHead tr) := by
  cases target with
  | go =>
    -- what is in front of the event is shut, and a parenthesis ends its name
    have hopen : Closed ("func (" ++ GoSource.receiver ++ " *") ["func", GoSource.receiver] := by
      decide
    have hmethod := hopen.shut.slot (reads_identifier hmachine) (show Closed ") " [] by decide)
      (by decide) (by decide)
    have hparams : Ends ("(" ++ (GoSource.signature tr.params ++ ") error \x7b")) :=
      Ends.append_of_ne_empty (by decide) (by decide) _
    unfold methodHead GoSource.methodHead
    simpa only [String.append_assoc] using mem_identifiers_of_shut hmethod hevent hparams
  | rust =>
    have hopen : Closed "    pub fn " ["pub", "fn"] := by decide
    have hparams : Ends ("(&mut self" ++ (RustSource.signature tr.params ++ (") -> Result<(), " ++
        (RustSource.rejection tr.machine ++ "> \x7b")))) :=
      Ends.append_of_ne_empty (by decide) (by decide) _
    unfold methodHead RustSource.methodHead
    simpa only [String.append_assoc] using mem_identifiers_of_shut hopen.shut hevent hparams

/-- **The line that logs** has the names of all fields. -/
theorem mem_identifiers_logLine {machine : String} (hmachine : Identifier.valid machine = true)
    {l : LogEntry} (hfields : ∀ f ∈ l.fields, Identifier.valid f = true) {f : String}
    (hf : f ∈ l.fields) : f ∈ identifiers (target.logLine machine l) := by
  -- in both languages a field is logged under its name
  cases target with
  | go =>
    show f ∈ identifiers (GoSource.logLine machine l)
    rw [GoSource.identifiers_logLine hmachine hfields]
    exact List.mem_cons_of_mem _ (List.mem_cons_of_mem _ (List.mem_cons_of_mem _ hf))
  | rust =>
    show f ∈ identifiers (RustSource.logLine machine l)
    rw [RustSource.identifiers_logLine hmachine hfields]
    exact List.mem_append_right _ (List.mem_flatMap.mpr ⟨f, hf, List.mem_cons_self⟩)

variable {b : Blueprint}

/-- **The lines of an event** are lines of the source. -/
theorem mem_lines_of_mem_transition (htr : tr ∈ b.transitions) {line : String}
    (hline : line ∈ target.transition tr) : line ∈ target.lines b := by
  cases target with
  | go => exact List.mem_append_right _ (List.mem_flatMap.mpr ⟨tr, htr, hline⟩)
  | rust => exact List.mem_append_right _ (List.mem_flatMap.mpr ⟨tr, htr, hline⟩)

/-- The line that its method begins with is one of them. -/
theorem methodHead_mem_transition : target.methodHead tr ∈ target.transition tr := by
  have hmem : ∀ {all above body : List String} {head : String}, all = above ++ head :: body →
      head ∈ all := by
    rintro all above body head rfl
    exact List.mem_append_right _ List.mem_cons_self
  cases target with
  | go => exact hmem (GoSource.exists_transition_eq tr).choose_spec
  | rust => exact hmem (RustSource.exists_transition_eq tr).choose_spec

/-- The line that logs is another one. -/
theorem logLine_mem_transition {l : LogEntry} (hl : tr.log = some l) :
    target.logLine tr.machine l ∈ target.transition tr := by
  cases target with
  | go =>
    rw [transition, GoSource.transition, hl]
    exact List.mem_append_left _ (List.mem_append_right _ (List.mem_singleton_self _))
  | rust =>
    rw [transition, RustSource.transition, hl]
    exact List.mem_append_left _ (List.mem_append_right _ (List.mem_singleton_self _))

/-- **What a source is called** stands in lines of the source. -/
theorem heads_declares (hpackage : Identifier.valid b.header.package = true)
    (hmachine : Identifier.valid b.machine.name = true) {x : String × String}
    (hx : x ∈ target.heads b) : x.2 ∈ target.lines b ∧ x.1 ∈ identifiers x.2 := by
  cases target with
  | go =>
    obtain rfl | rfl := List.mem_pair.mp hx
    · have hopen : Closed "package " ["package"] := by decide
      refine ⟨?_, ?_⟩
      · simp [lines, GoSource.lines, GoSource.header]
      · rw [(hopen.append_reads (reads_identifier hpackage)).identifiers_eq]
        exact List.mem_cons_of_mem _ (List.mem_singleton_self _)
    · have hopen : Closed "type " ["type"] := by decide
      refine ⟨?_, mem_identifiers_of_shut hopen.shut hmachine (by decide)⟩
      simp [lines, GoSource.lines, GoSource.machineType]
  | rust =>
    obtain rfl := List.mem_singleton.mp hx
    have hopen : Closed "pub struct " ["pub", "struct"] := by decide
    refine ⟨?_, mem_identifiers_of_shut hopen.shut hmachine (by decide)⟩
    simp [lines, RustSource.lines, RustSource.machineType]

end Lines

/-! ### Names of tables -/

section Tables

variable {target : Target} {t : Table} {s : States} (h : t.WellFormed)
  (hs : States.ofTable t = some s)

theorem keywords_rules (target : Target) (t : Table) :
    (target.rules t).keywords = target.keywords := by
  cases target <;> rfl

/-- What is declared has the names that the table gives. -/
theorem names_declared :
    (target.declared (Blueprint.direct t s)).map Prod.fst =
      (target.rules t).heads ++ t.events.names := by
  unfold declared
  rw [List.map_append, List.map_map, ← Blueprint.events_transitions (s := s)]
  cases target <;> rfl

include h

/-- **What is declared** is named by identifiers, and if the table keeps the rules, these are no
keywords. -/
theorem valid_of_mem_declared (hkeeps : target.Keeps t) {x : String × String}
    (hx : x ∈ target.declared (Blueprint.direct t s)) :
    Identifier.valid x.1 = true ∧ x.1 ∉ target.keywords := by
  -- its name comes from the table, which has the source and its machine first
  have hname : x.1 ∈ (target.rules t).heads ++ t.events.names := by
    rw [← names_declared (s := s)]
    exact List.mem_map.mpr ⟨x, hx, rfl⟩
  obtain hhead | hevent := List.mem_append.mp hname
  · refine ⟨?_, keywords_rules target t ▸ hkeeps.heads _ hhead⟩
    cases target with
    | go =>
      obtain hpackage | hmachine := List.mem_pair.mp hhead
      · exact hpackage ▸ h.packageName_valid
      · exact hmachine ▸ h.name_valid
    | rust => exact List.mem_singleton.mp hhead ▸ h.name_valid
  · obtain ⟨entry, hentry, heq⟩ := List.mem_map.mp hevent
    rw [← heq]
    refine ⟨(h.events_wellFormed _ hentry).name_valid, ?_⟩
    exact keywords_rules target t ▸ (hkeeps.events _ hentry).1

include hs

/-- **Names are legal up to the blank** if the table keeps the rules. -/
theorem legalUpToBlank_direct (hkeeps : target.Keeps t) :
    target.LegalUpToBlank t (Blueprint.direct t s) where
  names_eq := names_declared
  declares := by
    intro x hx
    obtain hhead | hmethod := List.mem_append.mp hx
    · exact heads_declares h.packageName_valid h.name_valid hhead
    · obtain ⟨tr, htr, rfl⟩ := List.mem_map.mp hmethod
      refine ⟨mem_lines_of_mem_transition htr methodHead_mem_transition, ?_⟩
      obtain ⟨i, name, e, hentry, rfl⟩ := Blueprint.mem_transitions.mp htr
      exact mem_identifiers_methodHead h.name_valid
        (h.events_wellFormed _ (List.mem_of_getElem? hentry)).name_valid
  legal_iff := by
    intro x hx
    obtain ⟨hvalid, hkeyword⟩ := valid_of_mem_declared h hkeeps hx
    exact legal_iff hvalid hkeyword
  logged := by
    intro hlogging
    refine Blueprint.forall₂_transitions fun i name e hentry => ?_
    have hmem : (name, e) ∈ t.events.entries := List.mem_of_getElem? hentry
    have htr := (Blueprint.mem_transitions (s := s)).mpr ⟨i, name, e, hentry, rfl⟩
    have hnamed := GoSource.named_direct h hs hentry
    have hlog : (Transition.direct (Blueprint.settingOf t s) i name e).log =
        some (Transition.logOf e) := if_pos hlogging
    refine ⟨_, hlog, mem_lines_of_mem_transition htr (logLine_mem_transition hlog),
      fun p hp => ⟨?_, ?_⟩⟩
    · -- the log has a field for each parameter
      exact mem_identifiers_logLine hnamed.machine (hnamed.fields _ hlog)
        (List.mem_map.mpr ⟨p, hp, rfl⟩)
    · have hkeyword := (hkeeps.params _ hmem p hp).1
      rw [keywords_rules] at hkeyword
      exact legal_iff ((h.events_wellFormed _ hmem).params_valid p hp) hkeyword

end Tables

/-- **Names are legal up to the blank.**  If there is a source for the blueprint of a table, then
what it declares under names of the author's, and what it logs, has legal names, unless the author
left them blank. -/
theorem legal_up_to_blank (target : Target) (t : Table) (b : Blueprint) (text : String)
    (hb : Blueprint.ofTable t = .ok b) (htext : target.render b = .ok text) :
    text = Text.lines (target.lines b) ∧ target.LegalUpToBlank t b := by
  obtain ⟨hwf, s, hs, rfl⟩ := Table.eq_direct_of_blueprint hb
  exact ⟨eq_lines_of_render htext, legalUpToBlank_direct hwf hs (keeps_of_render hwf hs htext)⟩

/-- Among the names of the jobs there is no blank, so all of them are legal. -/
theorem legal_up_to_blank_jobs : ∃ b, Blueprint.ofTable Table.jobs = .ok b ∧ ∀ target : Target,
    (∃ text, target.render b = .ok text ∧ text = Text.lines (target.lines b)) ∧
      target.LegalUpToBlank Table.jobs b ∧ ∀ x ∈ target.declared b, target.Legal x.1 := by
  have hwf := Table.validate_eq_ok_iff_wellFormed.mp (show Table.jobs.validate = .ok () by decide)
  have hs : States.ofTable Table.jobs = some Table.jobStates := by decide
  have hb := Blueprint.ofTable_eq_ok hwf hs
  refine ⟨_, hb, fun target => ?_⟩
  obtain ⟨text, htext⟩ := exists_render hwf hs target (by cases target <;> decide)
    (by cases target <;> decide)
  obtain ⟨hlines, hlegal⟩ := legal_up_to_blank target Table.jobs _ text hb htext
  refine ⟨⟨text, htext, hlines⟩, hlegal, fun x hx => (hlegal.legal_iff x hx).mpr ?_⟩
  -- the names are those of the table, and none of them is a blank
  have hnames : Identifier.blank ∉ (target.rules Table.jobs).heads ++ Table.jobs.events.names := by
    cases target <;> decide
  intro hblank
  rw [← hlegal.names_eq, ← hblank] at hnames
  exact hnames (List.mem_map.mpr ⟨x, hx, rfl⟩)

end Target

/-- A table whose author left all names blank, except those of states. -/
def Table.nameless : Table where
  name := "_"
  packageName := "_"
  imports := []
  logging := true
  events := Catalog.ofList [("_", ⟨["on"], "off", [⟨"_", "u8"⟩]⟩)]

/-- The states of a switch. -/
def Table.switchStates : States :=
  ⟨["off", "on"], by decide, by decide⟩

/-- **Blanks pass**: in both languages there is a source of a table without names, it declares
nothing but blanks, and it reads one back. -/
theorem Target.blank_passes : Table.nameless.validate = .ok () ∧
    ∃ b, Blueprint.ofTable Table.nameless = .ok b ∧ ∀ target : Target,
      (∃ text, target.render b = .ok text) ∧ target.declared b ≠ [] ∧
        (∀ x ∈ target.declared b, x.1 = Identifier.blank ∧ ¬ target.Legal x.1) ∧
        ∃ tr ∈ b.transitions, ∃ l ∈ tr.log, Identifier.blank ∈ l.fields ∧
          Identifier.blank ∈ identifiers (target.logLine tr.machine l) := by
  have hvalid : Table.nameless.validate = .ok () := by decide
  have hwf := Table.validate_eq_ok_iff_wellFormed.mp hvalid
  have hs : States.ofTable Table.nameless = some Table.switchStates := by decide
  refine ⟨hvalid, _, Blueprint.ofTable_eq_ok hwf hs, fun target => ?_⟩
  -- what a source declares under names of the author is called a blank here
  have hblank : ∀ x ∈ target.declared (Blueprint.direct Table.nameless Table.switchStates),
      x.1 = Identifier.blank := by
    cases target <;> decide
  refine ⟨?_, ?_, fun x hx => ⟨hblank x hx, fun hlegal => hlegal.ne_blank (hblank x hx)⟩, ?_⟩
  · exact exists_render hwf hs target (by cases target <;> decide) (by cases target <;> decide)
  · cases target <;> exact List.cons_ne_nil _ _
  · cases target <;> decide +kernel

end Automaton
