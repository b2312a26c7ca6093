import Automaton.Proofs.Target.Verdict

/-!
# Parameters that hide something

In Rust, as in Go, a method takes the parameters of its event under the names that the author gave
them, and within its body such a name stands for the parameter.  `RustSource.render` refuses
parameters that are called like a constant.

That does not cover everything that a method refers to.  It also applies three constructors, `Err`,
`Ok` and `Some`, and a parameter may be called like one of them (`RustSource.hides_ok`).  There is
nothing else that parameters can hide, which is the main statement:

  `p.name ∈ scope tr ↔ p.name ∈ constructors`

for each parameter of each method of a source (`RustSource.hides_constructors_only`).

## What a method refers to

As in Go, that is read off the text, and words and literals are read as they are there.  The names
in the body of a method are known one by one (`RustSource.identifiers_methodBody`).  Among them are
names of macros, types and fields, which no parameter hides, and the name that the method itself
gives to the hook (`RustSource.elsewhere`).  `RustSource.scope` has those that remain: what is
looked up among values outside of the method.
-/

namespace Automaton

open GoSource (Closed Ends Named Reads Shut closed_quote ends_quote identifiers reads_identifier
  reads_joined reads_joined_identifiers)

/-! ### Words in upper case -/

/-- Upper case keeps what identifiers begin with. -/
theorem Identifier.isStart_toUpper {c : Char} (h : isStart c = true) :
    isStart c.toUpper = true := by
  have hpart : isPart c = true := by
    simp only [isStart, isPart, Char.isAlphanum, Bool.or_eq_true] at h ⊢
    exact h.imp_left .inl
  exact forall_isPart (p := fun c => isStart c = true → isStart c.toUpper = true) (by decide)
    hpart h

namespace RustSource

/-- Words in upper case are words. -/
theorem isPart_of_mem_screamingFrom {cs : List Char} (h : ∀ c ∈ cs, Identifier.isPart c = true)
    (afterSmall : Bool) : ∀ c ∈ screamingFrom afterSmall cs, Identifier.isPart c = true := by
  induction cs generalizing afterSmall with
  | nil => exact fun c hc => absurd hc List.not_mem_nil
  | cons d cs ih =>
    obtain ⟨hd, hcs⟩ := List.forall_mem_cons.mp h
    intro c hc
    rw [screamingFrom, List.mem_append, List.mem_cons] at hc
    obtain hc | rfl | hc := hc
    · -- an underscore may come in between
      split at hc
      · rw [List.mem_singleton.mp hc]
        decide
      · exact absurd hc List.not_mem_nil
    · exact Identifier.isPart_toUpper hd
    · exact ih hcs _ c hc

/-- **The array of state names** is named by an identifier. -/
theorem valid_namesTable {machine : String} (h : Identifier.valid machine = true) :
    Identifier.valid (namesTable machine) = true := by
  refine Identifier.valid_append ?_ (by decide)
  have hparts := isPart_of_mem_screamingFrom (Identifier.isPart_of_valid h)
  unfold Identifier.valid at h ⊢
  rw [screaming, String.toList_ofList]
  cases hchars : machine.toList with
  | nil =>
    rw [hchars] at h
    exact absurd h Bool.false_ne_true
  | cons c cs =>
    rw [hchars, Identifier.validList, Bool.and_eq_true] at h
    have htail : ∀ d ∈ screamingFrom (c.isLower || c.isDigit) cs, Identifier.isPart d = true := by
      intro d hd
      apply hparts false
      rw [hchars, screamingFrom]
      exact List.mem_append_right _ (List.mem_cons_of_mem _ hd)
    -- nothing comes in front of the first character
    rw [screamingFrom, Bool.and_false, if_neg Bool.false_ne_true, List.nil_append,
      Identifier.validList, Bool.and_eq_true, List.all_eq_true]
    exact ⟨Identifier.isStart_toUpper h.1, htail⟩

/-- The type of rejections is, too. -/
theorem valid_rejection {machine : String} (h : Identifier.valid machine = true) :
    Identifier.valid (rejection machine) = true :=
  Identifier.valid_append h (by decide)

/-! ### Methods -/

/-- The line that a method begins with. -/
def methodHead (tr : Transition) : String :=
  "    pub fn " ++ tr.event ++ "(&mut self" ++ signature tr.params ++ ") -> Result<(), " ++
    rejection tr.machine ++ "> \x7b"

/-- **The body of a method**: the lines behind the one that it begins with, which comes later if
the compiler is told to be quiet. -/
def methodBody (tr : Transition) : List String :=
  (transition tr).drop (if lints tr = [] then 7 else 8)

/-- A method begins behind the constant of its event, a comment, and what the compiler is told. -/
theorem exists_transition_eq (tr : Transition) :
    ∃ above, transition tr = above ++ methodHead tr :: methodBody tr := by
  refine ⟨(transition tr).take (if lints tr = [] then 6 else 7), ?_⟩
  unfold methodBody transition
  cases hlints : lints tr <;> cases tr.log <;> rfl

/-- **The constructors** that methods apply: of results, and of a hook that is there. -/
def constructors : List String := ["Err", "Ok", "Some"]

/-- **What a method refers to** among values outside of it: constructors, the array of state names,
and the constants of its guard, its destination and its event. -/
def scope (tr : Transition) : List String :=
  constructors ++ namesTable tr.machine :: tr.guard ++ [tr.destinationSymbol, tr.eventSymbol]

/-- **What is no value outside** of a method: macros, types, fields, and the hook, which the method
names itself. -/
def elsewhere (tr : Transition) : List String :=
  ["matches", "info", "usize", rejection tr.machine, "event", "state", startField, "hook"]

section Lines

/-- **The line of the guard** refers to its constants. -/
theorem identifiers_guardLine {guard : List String}
    (h : ∀ symbol ∈ guard, Identifier.valid symbol = true) :
    identifiers ("        if !matches!(self.state, " ++ Text.joined " | " guard ++ ") \x7b") =
      ["if", "matches", "self"] ++ guard := by
  have hopen : Closed "        if !matches!(self.state, " ["if", "matches", "self"] := by decide
  have hclose : Closed ") \x7b" [] := by decide
  -- symbols are joined by bars, so each is read on its own
  have hjoined := hopen.append_reads
    (reads_joined_identifiers (show Closed " | " [] by decide) (by decide) (by decide) h)
  calc identifiers ("        if !matches!(self.state, " ++ Text.joined " | " guard ++ ") \x7b")
      = ["if", "matches", "self"] ++ guard ++ [] :=
        (hjoined.append hclose.reads (by decide)).identifiers_eq
    _ = ["if", "matches", "self"] ++ guard := List.append_nil _

variable {machine : String} (hmachine : Identifier.valid machine = true)
include hmachine

/-- **The line that fails** makes a rejection. -/
theorem identifiers_rejectLine :
    identifiers ("            return Err(" ++ rejection machine ++ " \x7b") =
      ["return", "Err", rejection machine] := by
  have hopen : Closed "            return Err(" ["return", "Err"] := by decide
  have hclose : Closed " \x7b" [] := by decide
  have hrejection := hopen.append_reads (reads_identifier (valid_rejection hmachine))
  exact (hrejection.append hclose.reads (by decide)).identifiers_eq

/-- **The line that logs** has each field twice, as the name of a field and as a value. -/
theorem identifiers_logLine {l : LogEntry} (hfields : ∀ f ∈ l.fields, Identifier.valid f = true) :
    identifiers (logLine machine l) =
      ["info", startField, namesTable machine, "self", "as", "usize"] ++
        l.fields.flatMap fun f => [f, f] := by
  -- the first part says where the machine was, the last one is the message, quoted
  have hstart : Reads (startField ++ " = " ++ namesTable machine ++ "[self.state as usize]")
      [startField, namesTable machine, "self", "as", "usize"] := by
    have hequals : Closed (startField ++ " = ") [startField] := by decide
    have hplace : Closed "[self.state as usize]" ["self", "as", "usize"] := by decide
    exact (hequals.append_reads (reads_identifier (valid_namesTable hmachine))).append
      hplace.reads (by decide)
  -- each part in between has the name of a parameter twice
  have hfield : ∀ f ∈ l.fields, Reads (f ++ " = ?" ++ f) [f, f] := by
    intro f hf
    have hequals : Closed " = ?" [] := by decide
    have hname := reads_identifier (hfields f hf)
    exact (hname.append_closed hequals (by decide) (by decide)).append_reads hname
  have hpieces : ∀ p ∈ (startField ++ " = " ++ namesTable machine ++ "[self.state as usize]") ::
      l.fields.map (fun f => f ++ " = ?" ++ f) ++ [Text.quote l.message],
      ∃ names, Reads p names := by
    intro p hp
    rw [List.mem_append, List.mem_cons, List.mem_map, List.mem_singleton] at hp
    obtain (rfl | ⟨f, hf, rfl⟩) | rfl := hp
    · exact ⟨_, hstart⟩
    · exact ⟨_, hfield f hf⟩
    · exact ⟨_, (closed_quote _).reads⟩
  have hnames : ((startField ++ " = " ++ namesTable machine ++ "[self.state as usize]") ::
      l.fields.map (fun f => f ++ " = ?" ++ f) ++ [Text.quote l.message]).flatMap identifiers =
        [startField, namesTable machine, "self", "as", "usize"] ++
          l.fields.flatMap fun f => [f, f] := by
    rw [List.flatMap_append, List.flatMap_cons, List.flatMap_map, List.flatMap_singleton,
      hstart.identifiers_eq, (closed_quote l.message).reads.identifiers_eq, List.append_nil,
      List.flatMap_congr fun f hf => (hfield f hf).identifiers_eq]
  have hopen : Closed "        info!(" ["info"] := by decide
  have hclose : Closed ");" [] := by decide
  -- the parts are joined by commas, so their names do not run together
  have hjoined := hopen.append_reads
    (hnames ▸ reads_joined (show Closed ", " [] by decide) (by decide) (by decide) hpieces)
  calc identifiers (logLine machine l)
      = ["info"] ++ ([startField, namesTable machine, "self", "as", "usize"] ++
          l.fields.flatMap fun f => [f, f]) ++ [] :=
        (hjoined.append hclose.reads (by decide)).identifiers_eq
    _ = ["info", startField, namesTable machine, "self", "as", "usize"] ++
          l.fields.flatMap fun f => [f, f] := by
        rw [List.append_nil, ← List.append_assoc]
        rfl

end Lines

/-- **The names in the body of a method**, one by one. -/
theorem identifiers_methodBody {tr : Transition} (h : Named tr) :
    (methodBody tr).flatMap identifiers =
      ["if", "matches", "self"] ++ tr.guard ++
      ["return", "Err", rejection tr.machine, "event", "state", "self"] ++
      (match tr.log with
        | some l => ["info", startField, namesTable tr.machine, "self", "as", "usize"] ++
            l.fields.flatMap fun f => [f, f]
        | none => []) ++
      ["self", tr.destinationSymbol, "if", "let", "Some", "hook", "self", "hook", tr.eventSymbol,
        "Ok"] := by
  -- these lines are the same in all methods
  have hfixed : identifiers "                state: self.state," = ["state", "self"] ∧
      identifiers "            \x7d);" = [] ∧ identifiers "        \x7d" = [] ∧
      identifiers "        if let Some(hook) = self.hook \x7b" =
        ["if", "let", "Some", "hook", "self"] ∧
      identifiers "        Ok(())" = ["Ok"] ∧ identifiers "    \x7d" = [] ∧
      identifiers "\x7d" = [] := by
    decide
  obtain ⟨hstate, hreject', hinner, hif, hok, houter, hbrace⟩ := hfixed
  have hguard := identifiers_guardLine h.guard
  have hreject := identifiers_rejectLine h.machine
  have hevent : identifiers ("                event: " ++ Text.quote tr.event ++ ",") =
      ["event"] := by
    have hopen : Closed "                event: " ["event"] := by decide
    have hclose : Closed "," [] := by decide
    exact ((hopen.append (closed_quote tr.event)).append hclose).reads.identifiers_eq
  have hmove : identifiers ("        self.state = " ++ tr.destinationSymbol ++ ";") =
      ["self", tr.destinationSymbol] := by
    have hopen : Closed "        self.state = " ["self"] := by decide
    have hclose : Closed ";" [] := by decide
    exact ((hopen.append_reads (reads_identifier h.destinationSymbol)).append hclose.reads
      (by decide)).identifiers_eq
  have hhook : identifiers ("            hook(" ++ tr.eventSymbol ++ ");") =
      ["hook", tr.eventSymbol] := by
    have hopen : Closed "            hook(" ["hook"] := by decide
    have hclose : Closed ");" [] := by decide
    exact ((hopen.append_reads (reads_identifier h.eventSymbol)).append hclose.reads
      (by decide)).identifiers_eq
  -- what the compiler is told stands above the body, and only the line that logs may be missing
  unfold methodBody transition
  cases hlog : tr.log with
  | none =>
    cases lints tr <;>
      simp only [if_true, reduceCtorEq, if_false, List.drop_succ_cons, List.drop_zero,
        List.cons_append, List.nil_append, List.flatMap_cons, List.flatMap_nil, hguard, hreject,
        hevent, hstate, hreject', hinner, hmove, hif, hhook, hok, houter, hbrace, List.append_nil,
        List.append_assoc]
  | some l =>
    have hlogLine := identifiers_logLine h.machine (h.fields l hlog)
    cases lints tr <;>
      simp only [if_true, reduceCtorEq, if_false, List.drop_succ_cons, List.drop_zero,
        List.cons_append, List.nil_append, List.flatMap_cons, List.flatMap_nil, hguard, hreject,
        hevent, hstate, hreject', hinner, hlogLine, hmove, hif, hhook, hok, houter, hbrace,
        List.append_nil, List.append_assoc]

/-- **Whatever a method refers to** is a keyword, is in its scope, is logged, or is nothing that a
parameter could hide. -/
theorem mem_scope_of_mem_identifiers {tr : Transition} (h : Named tr) {parameters : List String}
    (hlog : ∀ l, tr.log = some l → l.fields = parameters) {name : String}
    (hname : name ∈ (methodBody tr).flatMap identifiers) :
    name ∈ Target.keywords .rust ∨ name ∈ scope tr ∨ name ∈ elsewhere tr ∨ name ∈ parameters := by
  have hlisted : name ∈ ["if", "self", "return", "as", "let"] ∨ name ∈ scope tr ∨
      name ∈ elsewhere tr ∨ name ∈ parameters := by
    rw [identifiers_methodBody h] at hname
    unfold scope elsewhere constructors
    cases hl : tr.log with
    | none =>
      simp only [hl, List.mem_append, List.mem_cons, List.not_mem_nil, or_false] at hname ⊢
      grind
    | some l =>
      -- a field is logged under its own name, so it is there twice
      simp only [hl, hlog l hl, List.mem_append, List.mem_cons, List.mem_flatMap,
        List.not_mem_nil, or_false, or_self, exists_eq_right'] at hname ⊢
      grind
  have hkeywords : ["if", "self", "return", "as", "let"] ⊆ Target.keywords .rust := by decide
  exact hlisted.imp_left fun hkeyword => hkeywords hkeyword

/-- **Every method applies the constructors.** -/
theorem constructors_subset_identifiers {tr : Transition} (h : Named tr) :
    constructors ⊆ (methodBody tr).flatMap identifiers := by
  intro name hname
  rw [identifiers_methodBody h]
  unfold constructors at hname
  simp only [List.mem_append, List.mem_cons, List.not_mem_nil, or_false] at hname ⊢
  grind

/-! ### Parameters -/

/-- **A method hides constructors only**: of all that it refers to, its parameters can hide nothing
else. -/
structure HidesConstructorsOnly (tr : Transition) : Prop where
  /-- The body of the method stands behind the line that declares the parameters. -/
  body : ∃ above, transition tr = above ++ methodHead tr :: methodBody tr
  /-- The parameters have different names. -/
  names_nodup : (tr.params.map Param.name).Nodup
  /-- These are no keywords. -/
  notMem_keywords : ∀ p ∈ tr.params, p.name ∉ Target.keywords .rust
  /-- They stand for something that the method refers to outside of it only if they are called like
  a constructor. -/
  mem_scope_iff : ∀ p ∈ tr.params, p.name ∈ scope tr ↔ p.name ∈ constructors
  /-- The method does refer to all constructors. -/
  applied : constructors ⊆ (methodBody tr).flatMap identifiers
  /-- There is nothing that it refers to but its scope, its parameters, and what these cannot
  hide. -/
  resolved : ∀ name ∈ (methodBody tr).flatMap identifiers,
    name ∈ Target.keywords .rust ∨ name ∈ scope tr ∨ name ∈ elsewhere tr ∨
      name ∈ tr.params.map Param.name

end RustSource

/-! ### Methods of tables -/

section Tables

variable {t : Table} {s : States} (h : t.WellFormed) (hs : States.ofTable t = some s) {i : Nat}
  {name : String} {e : Event} (hentry : t.events.entries[i]? = some (name, e))
include hs hentry

/-- **What a method refers to** is a constructor, the array of state names, or a symbol of the
table. -/
theorem RustSource.mem_scope_direct {symbol : String}
    (hsymbol : symbol ∈ scope (Transition.direct (Blueprint.settingOf t s) i name e)) :
    symbol ∈ constructors ∨ symbol = namesTable t.name ∨ t.HasSymbol symbol := by
  obtain ⟨hguard, hdestination, hevent⟩ := Transition.hasSymbol_direct hs hentry
  unfold scope at hsymbol
  rw [List.mem_append, List.mem_append, List.mem_cons, List.mem_pair] at hsymbol
  obtain (hconstructor | rfl | hmem) | rfl | rfl := hsymbol
  · exact .inl hconstructor
  · exact .inr (.inl rfl)
  · exact .inr (.inr (hguard symbol hmem))
  · exact .inr (.inr hdestination)
  · exact .inr (.inr hevent)

include h

/-- **The method of an event** hides constructors only if the table keeps the rules. -/
theorem RustSource.hidesConstructorsOnly_direct (hkeeps : Target.Keeps .rust t) :
    HidesConstructorsOnly (Transition.direct (Blueprint.settingOf t s) i name e) := by
  have hmem : (name, e) ∈ t.events.entries := List.mem_of_getElem? hentry
  have hnamed := GoSource.named_direct h hs hentry
  exact
    { body := exists_transition_eq _
      names_nodup := (h.events_wellFormed _ hmem).params_nodup
      notMem_keywords := fun p hp => (hkeeps.params _ hmem p hp).1
      mem_scope_iff := by
        intro p hp
        obtain ⟨-, hscope, hsymbol⟩ := hkeeps.params _ hmem p hp
        refine ⟨fun hhidden => ?_, fun hconstructor =>
          List.mem_append_left _ (List.mem_append_left _ hconstructor)⟩
        obtain hconstructor | htable | hconstant := mem_scope_direct hs hentry hhidden
        · exact hconstructor
        · -- the array is among the names that no parameter may have
          refine absurd ?_ hscope
          rw [htable]
          exact List.mem_cons_of_mem _ List.mem_cons_self
        · exact absurd hconstant hsymbol
      applied := constructors_subset_identifiers hnamed
      resolved := by
        intro symbol hsymbol
        have hfields : ∀ l, (Transition.direct (Blueprint.settingOf t s) i name e).log = some l →
            l.fields = e.params.map Param.name := by
          intro l hl
          rw [Transition.eq_logOf_of_log_direct hl, Transition.logOf]
        exact mem_scope_of_mem_identifiers hnamed hfields hsymbol }

end Tables

/-- **Parameters hide constructors at most.**  If there is a source in Rust for the blueprint of a
table, it ends with a method for each event, in order, which takes the parameters of the event and
hides constructors only. -/
theorem RustSource.hides_constructors_only (t : Table) (b : Blueprint) (text : String)
    (hb : Blueprint.ofTable t = .ok b) (htext : render b = .ok text) :
    ∃ before, text = Text.lines (before ++ b.transitions.flatMap transition) ∧
      List.Forall₂
        (fun entry tr => tr.event = entry.1 ∧ tr.params = entry.2.params ∧ HidesConstructorsOnly tr)
        t.events.entries b.transitions := by
  obtain ⟨hwf, s, hs, rfl⟩ := Table.eq_direct_of_blueprint hb
  have hrender : Target.render .rust (Blueprint.direct t s) = .ok text := htext
  have hkeeps := Target.keeps_of_render hwf hs hrender
  refine ⟨_, Target.eq_lines_of_render hrender,
    Blueprint.forall₂_transitions fun i name e hentry => ?_⟩
  exact ⟨rfl, rfl, hidesConstructorsOnly_direct hwf hs hentry hkeeps⟩

/-- The methods of the jobs hide nothing else, and in fact nothing at all. -/
theorem RustSource.hides_constructors_only_jobs : ∃ b text, Blueprint.ofTable Table.jobs = .ok b ∧
    render b = .ok text ∧
    ∃ before, text = Text.lines (before ++ b.transitions.flatMap transition) ∧
      List.Forall₂
        (fun entry tr => tr.event = entry.1 ∧ tr.params = entry.2.params ∧ HidesConstructorsOnly tr)
        Table.jobs.events.entries b.transitions := by
  have hwf := Table.validate_eq_ok_iff_wellFormed.mp (show Table.jobs.validate = .ok () by decide)
  have hs : States.ofTable Table.jobs = some Table.jobStates := by decide
  obtain ⟨text, htext⟩ := Target.exists_render hwf hs .rust (by decide) (by decide)
  have hb := Blueprint.ofTable_eq_ok hwf hs
  exact ⟨_, text, hb, htext, hides_constructors_only Table.jobs _ text hb htext⟩

/-- A gate whose event takes a parameter called like a constructor. -/
def Table.gate : Table where
  name := "Gate"
  packageName := "gates"
  imports := []
  logging := false
  events := Catalog.ofList [("open", ⟨["shut"], "free", [⟨"Ok", "u8"⟩]⟩)]

/-- The states of the gate. -/
def Table.gateStates : States :=
  ⟨["free", "shut"], by decide, by decide⟩

/-- **Constructors can be hidden**: the gate has a source, and in the method for its event the
parameter hides what the last line applies. -/
theorem RustSource.hides_ok : Table.gate.validate = .ok () ∧ ∃ b text,
    Blueprint.ofTable Table.gate = .ok b ∧ render b = .ok text ∧
    ∃ tr ∈ b.transitions, ∃ p ∈ tr.params, p.name ∈ scope tr ∧
      p.name ∈ (methodBody tr).flatMap identifiers ∧ "        Ok(())" ∈ methodBody tr ∧
      p.name = "Ok" := by
  have hvalid : Table.gate.validate = .ok () := by decide
  have hwf := Table.validate_eq_ok_iff_wellFormed.mp hvalid
  have hs : States.ofTable Table.gate = some Table.gateStates := by decide
  obtain ⟨text, htext⟩ := Target.exists_render hwf hs .rust (by decide) (by decide)
  refine ⟨hvalid, _, text, Blueprint.ofTable_eq_ok hwf hs, htext, ?_⟩
  -- the method of the only event has the parameter
  decide +kernel

end Automaton
