import Automaton.Proofs.Target.Legal

/-!
# Names that a source mentions

Behind its head, a source is written by the generator alone, except for what the author wrote: names
and types of parameters, and texts.  This module reads all of it, line by line, and finds the names
that it mentions.

* Texts are in literals or in comments.  A line that is a comment, or that tells the compiler
  something, mentions nothing (`Target.mentions`).
* Types of parameters are the author's, whatever they refer to.  So a source is read without them
  (`Blueprint.untyped`), which changes the lines that methods begin with and no others
  (`Target.code_untyped`).

What remains are fixed words and names that have been filled in.  `Target.Begins` is about the
beginning of a line of code, and it grows with the line: it may be continued with a piece that is
shut, or with one that is filled in and ended.  In this way each part of a source is read
(`GoSource.mentions_transition`, `RustSource.mentions_rejectionType`, and so on).
-/

namespace Automaton

open GoSource (Closed Cursor Ends Named Reads Shut closed_quote identifiers reads_identifier
  reads_joined reads_word)

/-! ### Types -/

/-- A transition without the types of its parameters. -/
def Transition.untyped (tr : Transition) : Transition :=
  { tr with params := tr.params.map fun p => { p with type := "" } }

/-- **A blueprint without types**: what the author wrote as the type of a parameter is left out. -/
def Blueprint.untyped (b : Blueprint) : Blueprint :=
  { b with transitions := b.transitions.map Transition.untyped }

/-! ### Numbers -/

theorem Identifier.isStart_eq_false_of_isDigit {c : Char} (h : c.isDigit = true) :
    isStart c = false := by
  by_contra hstart
  rw [Bool.not_eq_false] at hstart
  rw [isDigit_iff] at h
  rw [isStart_iff] at hstart
  -- digits come before capitals, small letters and the underscore
  change 48 ≤ c.toNat ∧ c.toNat ≤ 57 at h
  change ((65 ≤ c.toNat ∧ c.toNat ≤ 90) ∨ (97 ≤ c.toNat ∧ c.toNat ≤ 122)) ∨ c = '_' at hstart
  rcases hstart with hstart | rfl
  · omega
  · exact absurd h (by decide)

namespace Target

/-- **A number** is a word and no name. -/
theorem reads_number (n : Nat) : Reads (toString n) [] := by
  have hdigits : ∀ c ∈ (toString n).toList, c.isDigit = true := by
    intro c hc
    rw [show (toString n).toList = Nat.toDigits 10 n by simp] at hc
    exact Nat.isDigit_of_mem_toDigits (by decide) (by decide) hc
  have hparts : ∀ c ∈ (toString n).toList, Identifier.isPart c = true := by
    intro c hc
    rw [Identifier.isPart, Char.isAlphanum, hdigits c hc, Bool.or_true, Bool.true_or]
  have hne : toString n ≠ "" := by
    intro hempty
    have hlist := congrArg String.toList hempty
    exact absurd hlist (by simp)
  have hname : Cursor.name false (toString n).toList = [] := by
    obtain ⟨c, cs, hchars⟩ := List.exists_cons_of_ne_nil (mt String.toList_eq_nil_iff.mp hne)
    have hc : c.isDigit = true := hdigits c (by rw [hchars]; exact List.mem_cons_self)
    rw [Cursor.name, hchars, Identifier.validList, Identifier.isStart_eq_false_of_isDigit hc]
    rfl
  -- as a word it is read to its end, and then it turns out to name nothing
  rw [← hname]
  exact reads_word hparts hne

/-! ### Lines of code -/

/-- **A line of code** begins, behind blanks, neither like a comment nor like something for the
compiler only. -/
def isCode (line : String) : Bool :=
  (line.toList.find? (· != ' ')).any fun c => c != '/' && c != '#'

/-- Any other line that is not empty. -/
def isAside (line : String) : Bool :=
  (line.toList.find? (· != ' ')).any fun c => c == '/' || c == '#'

/-- **What a line mentions**: the names in it, if it is a line of code. -/
def mentions (line : String) : List String :=
  if isCode line then identifiers line else []

/-- **The beginning of a line of code** with the names that are in it. -/
structure Begins (piece : String) (names : List String) : Prop where
  /-- The rest of the line may be read apart. -/
  shut : Shut piece names
  /-- It is code. -/
  code : isCode piece = true

/-- **A piece that ends what is in front of it**, with the names that are in it. -/
structure Stops (piece : String) (names : List String) : Prop where
  /-- It ends words. -/
  ends : Ends piece
  /-- It is not empty. -/
  ne_empty : piece ≠ ""
  /-- The rest of the line may be read apart. -/
  closed : Closed piece names

instance (piece : String) (names : List String) : Decidable (Stops piece names) :=
  decidable_of_iff (Ends piece ∧ piece ≠ "" ∧ Closed piece names)
    ⟨fun ⟨hends, hne, hclosed⟩ => ⟨hends, hne, hclosed⟩, fun h => ⟨h.ends, h.ne_empty, h.closed⟩⟩

section Lines

variable {a b c : String} {xs ys zs : List String}

theorem isCode_append (h : isCode a = true) (rest : String) : isCode (a ++ rest) = true := by
  unfold isCode at h ⊢
  -- the first character that counts is in the piece, whatever follows
  obtain ⟨first, hfirst, hcode⟩ := Option.any_eq_true _ _ |>.mp h
  rw [String.toList_append, List.find?_append, hfirst]
  exact hcode

/-- A comment mentions nothing. -/
theorem mentions_aside (h : isAside a = true) (rest : String) : mentions (a ++ rest) = [] := by
  unfold isAside at h
  obtain ⟨first, hfirst, haside⟩ := Option.any_eq_true _ _ |>.mp h
  have hcode : isCode (a ++ rest) = false := by
    unfold isCode
    rw [String.toList_append, List.find?_append, hfirst]
    simp only [Option.some_or, Option.any_some, Bool.or_eq_true, beq_iff_eq] at haside ⊢
    rcases haside with rfl | rfl <;> rfl
  rw [mentions, hcode]
  rfl

theorem begins_of_closed (h : Closed a xs ∧ isCode a = true) : Begins a xs where
  shut := h.1.shut
  code := h.2

/-- **A line goes on** with a piece that is shut. -/
theorem Begins.append (ha : Begins a xs) (hb : Shut b ys) : Begins (a ++ b) (xs ++ ys) where
  shut := by
    intro rest
    rw [String.append_assoc, ha.shut, hb, List.append_assoc]
  code := isCode_append ha.code b

/-- **A piece is filled in** and ended by another one. -/
theorem Begins.slot (ha : Begins a xs) (hb : Reads b ys) (hc : Stops c zs) :
    Begins (a ++ b ++ c) (xs ++ ys ++ zs) where
  shut := ha.shut.slot hb hc.closed hc.ends hc.ne_empty
  code := isCode_append (isCode_append ha.code b) c

theorem Begins.mentions_eq (ha : Begins a xs) : mentions a = xs := by
  rw [mentions, if_pos ha.code]
  exact ha.shut.reads.identifiers_eq

/-- **The last piece** of a line may be a word. -/
theorem Begins.mentions_append (ha : Begins a xs) (hb : Reads b ys) :
    mentions (a ++ b) = xs ++ ys := by
  rw [mentions, if_pos (isCode_append ha.code b)]
  exact (ha.shut.append_reads hb).identifiers_eq

/-- Pieces that are shut may stand one behind the other. -/
theorem shut_join {pieces : List String} (h : ∀ p ∈ pieces, Shut p (identifiers p)) :
    Shut (String.join pieces) (pieces.flatMap identifiers) := by
  induction pieces with
  | nil =>
    rw [String.join_nil]
    exact (show Closed "" [] by decide).shut
  | cons p pieces ih =>
    obtain ⟨hp, hpieces⟩ := List.forall_mem_cons.mp h
    intro rest
    rw [String.join_cons, List.flatMap_cons, String.append_assoc, hp, ih hpieces, List.append_assoc]

end Lines

end Target

/-! ### What a Go source mentions -/

namespace GoSource

open Target (Begins Stops begins_of_closed mentions mentions_aside reads_number shut_join)

theorem valid_typeOf (w : Width) : Identifier.valid (typeOf w) = true := by
  cases w <;> decide

theorem shut_hookType (w : Width) : Shut (hookType w) ["func", "event", typeOf w] := by
  have hopen : Closed "func(event " ["func", "event"] := by decide
  exact hopen.shut.slot (reads_identifier (valid_typeOf w)) (show Closed ")" [] by decide)
    (by decide) (by decide)

/-- **The constants of the states**: the first one also says what type they have and where they
start. -/
theorem mentions_constants {c : Blueprint.Constants}
    (h : ∀ k ∈ c.constants, Identifier.valid k.symbol = true) :
    (constants c).flatMap mentions = "const" :: match c.constants with
      | [] => []
      | first :: rest => first.symbol :: typeOf c.width :: "iota" :: rest.map Constant.symbol := by
  have htab : Begins "\t" [] := begins_of_closed (by decide)
  have hfixed : mentions "" = [] ∧ mentions "const (" = ["const"] ∧ mentions ")" = [] := by decide
  obtain ⟨hempty, hopen, hclose⟩ := hfixed
  unfold constants
  cases hconstants : c.constants with
  | nil =>
    simp only [List.cons_append, List.nil_append, List.flatMap_cons, List.flatMap_nil, hempty,
      hopen, hclose]
  | cons first rest =>
    rw [hconstants] at h
    obtain ⟨hfirst, hrest⟩ := List.forall_mem_cons.mp h
    have hstart : mentions ("\t" ++ first.symbol ++ " " ++ typeOf c.width ++ " = iota") =
        [first.symbol, typeOf c.width, "iota"] := by
      have hsymbol := htab.slot (reads_identifier hfirst) (show Stops " " [] by decide)
      have htype := hsymbol.slot (reads_identifier (valid_typeOf c.width))
        (show Stops " = " [] by decide)
      have hiota : Identifier.valid "iota" = true := by decide
      -- the line ends with a word, so the last piece has to be cut in front of it
      rw [show " = iota" = " = " ++ "iota" from rfl, ← String.append_assoc]
      exact htype.mentions_append (reads_identifier hiota)
    have hlines : (rest.map fun k => "\t" ++ k.symbol).flatMap mentions =
        rest.map Constant.symbol := by
      rw [List.flatMap_map, List.map_eq_flatMap]
      exact List.flatMap_congr fun k hk =>
        htab.mentions_append (reads_identifier (hrest k hk))
    simp only [List.cons_append, List.nil_append, List.flatMap_cons, List.flatMap_append,
      List.flatMap_nil, hempty, hopen, hclose, hstart, hlines, List.append_nil]

/-- **The function that makes a machine.** -/
theorem mentions_constructor {c : Blueprint.Constructor}
    (hmachine : Identifier.valid c.machine = true)
    (hsymbol : Identifier.valid c.initialSymbol = true) :
    (constructor c).flatMap mentions =
      ["func", maker c.machine, "hook", "func", "event", typeOf c.eventWidth, c.machine, "return",
        c.machine, "State", c.initialSymbol, "hook", "hook"] := by
  have hmaker : Identifier.valid (maker c.machine) = true :=
    Identifier.valid_append (by decide) (Identifier.isWord_of_valid hmachine)
  have hcomment : mentions ("// " ++ maker c.machine ++ " returns a " ++ c.machine ++
      " in its initial state. hook, when non-nil,") = [] := by
    simpa only [String.append_assoc] using mentions_aside (a := "// ") (by decide) _
  have hhead : mentions ("func " ++ maker c.machine ++ "(hook " ++ hookType c.eventWidth ++ ") *" ++
      c.machine ++ " \x7b") =
      ["func", maker c.machine, "hook", "func", "event", typeOf c.eventWidth, c.machine] := by
    have hfunc : Begins "func " ["func"] := begins_of_closed (by decide)
    have hname := hfunc.slot (reads_identifier hmaker) (show Stops "(hook " ["hook"] by decide)
    have hhook := (hname.append (shut_hookType c.eventWidth)).append
      (show Closed ") *" [] by decide).shut
    exact (hhook.slot (reads_identifier hmachine) (show Stops " \x7b" [] by decide)).mentions_eq
  have hreturn : mentions ("\treturn &" ++ c.machine ++ "\x7bState: " ++ c.initialSymbol ++
      ", hook: hook\x7d") = ["return", c.machine, "State", c.initialSymbol, "hook", "hook"] := by
    have hopen : Begins "\treturn &" ["return"] := begins_of_closed (by decide)
    have hname := hopen.slot (reads_identifier hmachine)
      (show Stops "\x7bState: " ["State"] by decide)
    exact (hname.slot (reads_identifier hsymbol)
      (show Stops ", hook: hook\x7d" ["hook", "hook"] by decide)).mentions_eq
  have hfixed : mentions "" = [] ∧ mentions "\x7d" = [] ∧
      mentions "// receives the ordinal of every event that completes a transition." = [] := by
    decide +kernel
  obtain ⟨hempty, hbrace, hcomment'⟩ := hfixed
  simp only [constructor, List.flatMap_cons, List.flatMap_nil, hempty, hcomment, hcomment', hhead,
    hreturn, hbrace, List.cons_append, List.nil_append, List.append_nil]

/-- **The type of the machine.** -/
theorem mentions_machineType {m : Blueprint.MachineType} (h : Identifier.valid m.name = true) :
    (machineType m).flatMap mentions =
      ["type", m.name, "struct", "State", typeOf m.stateWidth, "hook", "func", "event",
        typeOf m.eventWidth] := by
  have hcomment : mentions ("// " ++ m.name ++ " is a generated state machine.") = [] := by
    simpa only [String.append_assoc] using mentions_aside (a := "// ") (by decide) _
  have htype : mentions ("type " ++ m.name ++ " struct \x7b") = ["type", m.name, "struct"] := by
    have hopen : Begins "type " ["type"] := begins_of_closed (by decide)
    exact (hopen.slot (reads_identifier h)
      (show Stops " struct \x7b" ["struct"] by decide)).mentions_eq
  have hstate : mentions ("\tState " ++ typeOf m.stateWidth) = ["State", typeOf m.stateWidth] := by
    have hopen : Begins "\tState " ["State"] := begins_of_closed (by decide)
    exact hopen.mentions_append (reads_identifier (valid_typeOf m.stateWidth))
  have hhook : mentions ("\thook  " ++ hookType m.eventWidth) =
      ["hook", "func", "event", typeOf m.eventWidth] := by
    have hopen : Begins "\thook  " ["hook"] := begins_of_closed (by decide)
    exact (hopen.append (shut_hookType m.eventWidth)).mentions_eq
  have hfixed : mentions "" = [] ∧ mentions "\x7d" = [] := by decide
  simp only [machineType, List.flatMap_cons, List.flatMap_nil, hfixed.1, hfixed.2, hcomment, htype,
    hstate, hhook, List.cons_append, List.nil_append, List.append_nil]

/-- **The table of state names**, which are in literals. -/
theorem mentions_lookup {l : Blueprint.Lookup} (h : Identifier.valid l.machine = true) :
    (lookup l).flatMap mentions =
      ["var", namesTable l.machine, "map", typeOf l.keyWidth, "string"] := by
  have htable : Identifier.valid (namesTable l.machine) = true :=
    Identifier.valid_append h (by decide)
  have hcomment : mentions ("// " ++ namesTable l.machine ++
      " maps state ordinals to their declared names.") = [] := by
    simpa only [String.append_assoc] using mentions_aside (a := "// ") (by decide) _
  have hvar : mentions ("var " ++ namesTable l.machine ++ " = map[" ++ typeOf l.keyWidth ++
      "]string\x7b") = ["var", namesTable l.machine, "map", typeOf l.keyWidth, "string"] := by
    have hopen : Begins "var " ["var"] := begins_of_closed (by decide)
    have hname := hopen.slot (reads_identifier htable) (show Stops " = map[" ["map"] by decide)
    exact (hname.slot (reads_identifier (valid_typeOf l.keyWidth))
      (show Stops "]string\x7b" ["string"] by decide)).mentions_eq
  -- an entry has a number and a literal, neither of which names anything
  have hentry : ∀ x : Nat × String,
      mentions ("\t" ++ toString x.1 ++ ": " ++ Text.quote x.2 ++ ",") = [] := by
    intro x
    have htab : Begins "\t" [] := begins_of_closed (by decide)
    have hnumber := htab.slot (reads_number x.1) (show Stops ": " [] by decide)
    exact ((hnumber.append (closed_quote x.2).shut).append
      (show Closed "," [] by decide).shut).mentions_eq
  have hentries : (l.entries.map fun x =>
      "\t" ++ toString x.1 ++ ": " ++ Text.quote x.2 ++ ",").flatMap mentions = [] := by
    rw [List.flatMap_map, List.flatMap_eq_nil_iff]
    exact fun x _ => hentry x
  have hfixed : mentions "" = [] ∧ mentions "\x7d" = [] := by decide
  simp only [lookup, List.flatMap_append, List.flatMap_cons, List.flatMap_nil, hfixed.1, hfixed.2,
    hcomment, hvar, hentries, List.cons_append, List.nil_append, List.append_nil]

theorem mentions_methodBody (tr : Transition) :
    (methodBody tr).flatMap mentions = (methodBody tr).flatMap identifiers := by
  have hcode : ∀ line ∈ methodBody tr, Target.isCode line = true := by
    -- all of them begin with a tab, and the last one with a brace
    unfold methodBody transition
    cases tr.log <;> simp [Target.isCode, logLine]
  exact List.flatMap_congr fun line hline => if_pos (hcode line hline)

theorem methodBody_untyped (tr : Transition) : methodBody tr.untyped = methodBody tr := by
  unfold methodBody transition Transition.untyped
  cases tr.log <;> rfl

/-- The names in the constant and the method of an event. -/
def namesOf (tr : Transition) : List String :=
  ["const", tr.eventSymbol, typeOf tr.eventWidth, "func", receiver, tr.machine, tr.event] ++
    tr.params.map Param.name ++ ["error"] ++ (methodBody tr).flatMap identifiers

section Untyped

variable {tr : Transition} (hparams : ∀ p ∈ tr.params, Identifier.valid p.name = true)
include hparams

/-- **Parameters without types** are a name and a blank each. -/
theorem reads_signature_untyped :
    Reads (signature tr.untyped.params) (tr.params.map Param.name) := by
  have hparam : ∀ p ∈ tr.params, Reads (p.name ++ " " ++ "") [p.name] := by
    intro p hp
    have hblank : Reads (" " ++ "") [] := (show Closed (" " ++ "") [] by decide).reads
    rw [String.append_assoc]
    exact (reads_identifier (hparams p hp)).append hblank (by decide)
  -- a comma stands between two parameters, so each is read on its own
  have hpieces : ∀ piece ∈ tr.params.map fun p => p.name ++ " " ++ "",
      ∃ names, Reads piece names := by
    intro piece hpiece
    obtain ⟨p, hp, rfl⟩ := List.mem_map.mp hpiece
    exact ⟨_, hparam p hp⟩
  have hnames : (tr.params.map fun p => p.name ++ " " ++ "").flatMap identifiers =
      tr.params.map Param.name := by
    rw [List.flatMap_map, List.map_eq_flatMap]
    exact List.flatMap_congr fun p hp => (hparam p hp).identifiers_eq
  unfold signature Transition.untyped
  rw [List.map_map, ← hnames]
  exact reads_joined (show Closed ", " [] by decide) (by decide) (by decide) hpieces

variable (h : Named tr) (hevent : Identifier.valid tr.event = true)
include h hevent

theorem mentions_methodHead : mentions (methodHead tr.untyped) =
    ["func", receiver, tr.machine, tr.event] ++ tr.params.map Param.name ++ ["error"] := by
  have hopen : Begins ("func (" ++ receiver ++ " *") ["func", receiver] :=
    begins_of_closed (by decide)
  have hmachine := hopen.slot (reads_identifier h.machine) (show Stops ") " [] by decide)
  have hname := hmachine.slot (reads_identifier hevent) (show Stops "(" [] by decide)
  exact (hname.slot (reads_signature_untyped hparams)
    (show Stops ") error \x7b" ["error"] by decide)).mentions_eq

/-- **The constant and the method of an event**, without types. -/
theorem mentions_transition : (transition tr.untyped).flatMap mentions = namesOf tr := by
  have hconst : mentions ("const " ++ tr.eventSymbol ++ " " ++ typeOf tr.eventWidth ++ " = " ++
      toString tr.ordinal) = ["const", tr.eventSymbol, typeOf tr.eventWidth] := by
    have hopen : Begins "const " ["const"] := begins_of_closed (by decide)
    have hname := hopen.slot (reads_identifier h.eventSymbol) (show Stops " " [] by decide)
    exact (hname.slot (reads_identifier (valid_typeOf tr.eventWidth))
      (show Stops " = " [] by decide)).mentions_append (reads_number tr.ordinal)
  have hcomment : mentions ("// " ++ tr.event ++ " moves the machine to " ++ tr.destination ++
      ". It fails without changing state when the") = [] := by
    simpa only [String.append_assoc] using mentions_aside (a := "// ") (by decide) _
  have hfixed : mentions "" = [] ∧
      mentions "// current state is not one the event is declared from." = [] := by
    decide +kernel
  obtain ⟨hempty, hcomment'⟩ := hfixed
  -- above the body there are the constant, a comment and the line that the method begins with
  have hlines : transition tr.untyped =
      ["", "const " ++ tr.eventSymbol ++ " " ++ typeOf tr.eventWidth ++ " = " ++
          toString tr.ordinal, "", "// " ++ tr.event ++ " moves the machine to " ++
          tr.destination ++ ". It fails without changing state when the",
        "// current state is not one the event is declared from.", methodHead tr.untyped] ++
        methodBody tr := by
    rw [← methodBody_untyped]
    unfold methodBody transition
    cases tr.untyped.log <;> rfl
  unfold namesOf
  rw [hlines, List.flatMap_append, mentions_methodBody]
  simp only [List.flatMap_cons, List.flatMap_nil, hempty, hconst, hcomment, hcomment',
    mentions_methodHead hparams h hevent, List.cons_append, List.nil_append, List.append_nil,
    List.append_assoc]

end Untyped

end GoSource

/-! ### What a Rust source mentions -/

namespace RustSource

open Target (Begins Stops begins_of_closed mentions mentions_aside reads_number shut_join)

theorem valid_typeOf (w : Width) : Identifier.valid (typeOf w) = true := by
  cases w <;> decide

theorem shut_hookType (w : Width) : Shut (hookType w) ["Option", "fn", typeOf w] := by
  have hopen : Closed "Option<fn(" ["Option", "fn"] := by decide
  exact hopen.shut.slot (reads_identifier (valid_typeOf w)) (show Closed ")>" [] by decide)
    (by decide) (by decide)

/-- **A numbered constant.** -/
theorem mentions_constant {symbol : String} (h : Identifier.valid symbol = true) (w : Width)
    (ordinal : Nat) :
    mentions ("pub const " ++ symbol ++ ": " ++ typeOf w ++ " = " ++ toString ordinal ++ ";") =
      ["pub", "const", symbol, typeOf w] := by
  have hopen : Begins "pub const " ["pub", "const"] := begins_of_closed (by decide)
  have hname := hopen.slot (reads_identifier h) (show Stops ": " [] by decide)
  have htype := hname.slot (reads_identifier (valid_typeOf w)) (show Stops " = " [] by decide)
  exact (htype.slot (reads_number ordinal) (show Stops ";" [] by decide)).mentions_eq

/-- **The constants of the states.** -/
theorem mentions_constants {c : Blueprint.Constants}
    (h : ∀ k ∈ c.constants, Identifier.valid k.symbol = true) :
    (constants c).flatMap mentions =
      c.constants.flatMap fun k => ["pub", "const", k.symbol, typeOf c.width] := by
  unfold constants
  rw [List.flatMap_cons, show mentions "" = [] by decide, List.nil_append, List.flatMap_map]
  exact List.flatMap_congr fun k hk => mentions_constant (h k hk) c.width k.ordinal

/-- **The function that makes a machine.** -/
theorem mentions_constructor {c : Blueprint.Constructor}
    (hmachine : Identifier.valid c.machine = true)
    (hsymbol : Identifier.valid c.initialSymbol = true) :
    (constructor c).flatMap mentions =
      ["impl", c.machine, "pub", "fn", "new", "hook", "Option", "fn", typeOf c.eventWidth, "Self",
        "Self", "state", c.initialSymbol, "hook"] := by
  have himpl : mentions ("impl " ++ c.machine ++ " \x7b") = ["impl", c.machine] := by
    have hopen : Begins "impl " ["impl"] := begins_of_closed (by decide)
    exact (hopen.slot (reads_identifier hmachine) (show Stops " \x7b" [] by decide)).mentions_eq
  have hhead : mentions ("    pub fn new(hook: " ++ hookType c.eventWidth ++ ") -> Self \x7b") =
      ["pub", "fn", "new", "hook", "Option", "fn", typeOf c.eventWidth, "Self"] := by
    have hopen : Begins "    pub fn new(hook: " ["pub", "fn", "new", "hook"] :=
      begins_of_closed (by decide)
    exact ((hopen.append (shut_hookType c.eventWidth)).append
      (show Closed ") -> Self \x7b" ["Self"] by decide).shut).mentions_eq
  have hstate : mentions ("            state: " ++ c.initialSymbol ++ ",") =
      ["state", c.initialSymbol] := by
    have hopen : Begins "            state: " ["state"] := begins_of_closed (by decide)
    exact (hopen.slot (reads_identifier hsymbol) (show Stops "," [] by decide)).mentions_eq
  have hfixed : mentions "" = [] ∧
      mentions "    /// Returns a machine in its initial state. `hook`, when set, receives the" =
        [] ∧
      mentions "    /// ordinal of every event that completes a transition." = [] ∧
      mentions "        Self \x7b" = ["Self"] ∧ mentions "            hook," = ["hook"] ∧
      mentions "        \x7d" = [] ∧ mentions "    \x7d" = [] ∧ mentions "\x7d" = [] := by
    decide +kernel
  obtain ⟨hempty, hcomment, hcomment', hself, hhook, hinner, houter, hbrace⟩ := hfixed
  simp only [constructor, List.flatMap_cons, List.flatMap_nil, hempty, hcomment, hcomment', himpl,
    hhead, hself, hstate, hhook, hinner, houter, hbrace, List.cons_append, List.nil_append,
    List.append_nil]

/-- **The type of the machine.** -/
theorem mentions_machineType {m : Blueprint.MachineType} (h : Identifier.valid m.name = true) :
    (machineType m).flatMap mentions =
      ["pub", "struct", m.name, "pub", "state", typeOf m.stateWidth, "hook", "Option", "fn",
        typeOf m.eventWidth] := by
  have htype : mentions ("pub struct " ++ m.name ++ " \x7b") = ["pub", "struct", m.name] := by
    have hopen : Begins "pub struct " ["pub", "struct"] := begins_of_closed (by decide)
    exact (hopen.slot (reads_identifier h) (show Stops " \x7b" [] by decide)).mentions_eq
  have hstate : mentions ("    pub state: " ++ typeOf m.stateWidth ++ ",") =
      ["pub", "state", typeOf m.stateWidth] := by
    have hopen : Begins "    pub state: " ["pub", "state"] := begins_of_closed (by decide)
    exact (hopen.slot (reads_identifier (valid_typeOf m.stateWidth))
      (show Stops "," [] by decide)).mentions_eq
  have hhook : mentions ("    hook: " ++ hookType m.eventWidth ++ ",") =
      ["hook", "Option", "fn", typeOf m.eventWidth] := by
    have hopen : Begins "    hook: " ["hook"] := begins_of_closed (by decide)
    exact ((hopen.append (shut_hookType m.eventWidth)).append
      (show Closed "," [] by decide).shut).mentions_eq
  have hfixed : mentions "" = [] ∧ mentions "/// Generated state machine." = [] ∧
      mentions "#[derive(Debug, Clone, Copy)]" = [] ∧ mentions "\x7d" = [] := by
    decide +kernel
  obtain ⟨hempty, hcomment, hderive, hbrace⟩ := hfixed
  simp only [machineType, List.flatMap_cons, List.flatMap_nil, hempty, hcomment, hderive, hbrace,
    htype, hstate, hhook, List.cons_append, List.nil_append, List.append_nil]

/-- **The type of rejections**, which is where most of what is mentioned comes from elsewhere. -/
theorem mentions_rejectionType {m : Blueprint.MachineType} (h : Identifier.valid m.name = true) :
    (rejectionType m).flatMap mentions =
      ["pub", "struct", rejection m.name, "pub", "event", "static", "str", "pub", "state",
        typeOf m.stateWidth, "impl", "std", "fmt", "Display", "for", rejection m.name, "fn", "fmt",
        "self", "f", "mut", "std", "fmt", "Formatter", "_", "std", "fmt", "Result", "write", "f",
        "self", namesTable m.name, "self", "as", "usize", "impl", "std", "error", "Error", "for",
        rejection m.name] := by
  have hrejection := valid_rejection h
  have htype : mentions ("pub struct " ++ rejection m.name ++ " \x7b") =
      ["pub", "struct", rejection m.name] := by
    have hopen : Begins "pub struct " ["pub", "struct"] := begins_of_closed (by decide)
    exact (hopen.slot (reads_identifier hrejection) (show Stops " \x7b" [] by decide)).mentions_eq
  have hstate : mentions ("    pub state: " ++ typeOf m.stateWidth ++ ",") =
      ["pub", "state", typeOf m.stateWidth] := by
    have hopen : Begins "    pub state: " ["pub", "state"] := begins_of_closed (by decide)
    exact (hopen.slot (reads_identifier (valid_typeOf m.stateWidth))
      (show Stops "," [] by decide)).mentions_eq
  have hdisplay : mentions ("impl std::fmt::Display for " ++ rejection m.name ++ " \x7b") =
      ["impl", "std", "fmt", "Display", "for", rejection m.name] := by
    have hopen : Begins "impl std::fmt::Display for " ["impl", "std", "fmt", "Display", "for"] :=
      begins_of_closed (by decide)
    exact (hopen.slot (reads_identifier hrejection) (show Stops " \x7b" [] by decide)).mentions_eq
  have hname : mentions ("            self.event, " ++ namesTable m.name ++
      "[self.state as usize]") = ["self", namesTable m.name, "self", "as", "usize"] := by
    have hopen : Begins "            self.event, " ["self"] := begins_of_closed (by decide)
    exact (hopen.slot (reads_identifier (valid_namesTable h))
      (show Stops "[self.state as usize]" ["self", "as", "usize"] by decide)).mentions_eq
  have herror : mentions ("impl std::error::Error for " ++ rejection m.name ++ " \x7b\x7d") =
      ["impl", "std", "error", "Error", "for", rejection m.name] := by
    have hopen : Begins "impl std::error::Error for " ["impl", "std", "error", "Error", "for"] :=
      begins_of_closed (by decide)
    exact (hopen.slot (reads_identifier hrejection)
      (show Stops " \x7b\x7d" [] by decide)).mentions_eq
  -- all other lines are the same for every machine
  have hfixed : mentions "" = [] ∧
      mentions "/// A rejected transition: the event is not valid from the current state." = [] ∧
      mentions "#[derive(Debug, Clone, Copy, PartialEq, Eq)]" = [] ∧
      mentions "    pub event: &'static str," = ["pub", "event", "static", "str"] ∧
      mentions "    fn fmt(&self, f: &mut std::fmt::Formatter<'_>) -> std::fmt::Result \x7b" =
        ["fn", "fmt", "self", "f", "mut", "std", "fmt", "Formatter", "_", "std", "fmt",
          "Result"] ∧
      mentions "        write!(" = ["write"] ∧ mentions "            f," = ["f"] ∧
      mentions "            \"\x7b\x7d: transition not valid from current state \x7b\x7d\"," =
        [] ∧
      mentions "        )" = [] ∧ mentions "    \x7d" = [] ∧ mentions "\x7d" = [] := by
    decide +kernel
  obtain ⟨hempty, hcomment, hderive, hevent, hfmt, hwrite, hf, hmessage, hparen, hinner, hbrace⟩ :=
    hfixed
  simp only [rejectionType, List.flatMap_cons, List.flatMap_nil, hempty, hcomment, hderive, htype,
    hevent, hstate, hdisplay, hfmt, hwrite, hf, hmessage, hname, hparen, hinner, hbrace, herror,
    List.cons_append, List.nil_append, List.append_nil]

/-- **The array of state names**, which are in literals. -/
theorem mentions_lookup {l : Blueprint.Lookup} (h : Identifier.valid l.machine = true) :
    (lookup l).flatMap mentions = ["pub", "const", namesTable l.machine, "str"] := by
  have harray : mentions ("pub const " ++ namesTable l.machine ++ ": [&str; " ++
      toString l.entries.length ++ "] = [") = ["pub", "const", namesTable l.machine, "str"] := by
    have hopen : Begins "pub const " ["pub", "const"] := begins_of_closed (by decide)
    have hname := hopen.slot (reads_identifier (valid_namesTable h))
      (show Stops ": [&str; " ["str"] by decide)
    exact (hname.slot (reads_number l.entries.length)
      (show Stops "] = [" [] by decide)).mentions_eq
  have hentry : ∀ x : Nat × String,
      mentions ("    " ++ Text.quote x.2 ++ ", // " ++ toString x.1) = [] := by
    intro x
    -- the quote of the literal is the first character that is not blank
    have hname : Begins ("    " ++ Text.quote x.2) [] := by
      refine begins_of_closed
        ⟨(show Closed "    " [] by decide).append (closed_quote x.2), ?_⟩
      simp [Target.isCode]
    exact (hname.append (show Closed ", // " [] by decide).shut).mentions_append
      (reads_number x.1)
  have hentries : (l.entries.map fun x =>
      "    " ++ Text.quote x.2 ++ ", // " ++ toString x.1).flatMap mentions = [] := by
    rw [List.flatMap_map, List.flatMap_eq_nil_iff]
    exact fun x _ => hentry x
  have hfixed : mentions "" = [] ∧ mentions "/// State ordinal to declared name." = [] ∧
      mentions "];" = [] := by
    decide +kernel
  obtain ⟨hempty, hcomment, hclose⟩ := hfixed
  simp only [lookup, List.flatMap_append, List.flatMap_cons, List.flatMap_nil, hempty, hcomment,
    harray, hentries, hclose, List.cons_append, List.nil_append, List.append_nil]

theorem mentions_methodBody (tr : Transition) :
    (methodBody tr).flatMap mentions = (methodBody tr).flatMap identifiers := by
  have hcode : ∀ line ∈ methodBody tr, Target.isCode line = true := by
    -- how many lines stand above the body depends on what the compiler is told
    unfold methodBody transition
    cases tr.log <;> cases lints tr <;> simp [Target.isCode, logLine]
  exact List.flatMap_congr fun line hline => if_pos (hcode line hline)

theorem lints_untyped (tr : Transition) : lints tr.untyped = lints tr := by
  unfold lints Transition.untyped
  simp only [List.any_map, List.isEmpty_map, Function.comp_def]

theorem methodBody_untyped (tr : Transition) : methodBody tr.untyped = methodBody tr := by
  unfold methodBody transition
  rw [lints_untyped]
  unfold Transition.untyped
  cases lints tr <;> cases tr.log <;> rfl

/-- If there are parameters, they come behind a comma. -/
theorem ends_signature (params : List Param) : Ends (signature params) := by
  unfold signature
  cases params with
  | nil =>
    rw [List.map_nil, String.join_nil]
    decide
  | cons p ps =>
    rw [List.map_cons, String.join_cons]
    simp only [String.append_assoc]
    exact Ends.append_of_ne_empty (a := ", ") (by decide) (by decide) _

/-- The names in the constant and the method of an event. -/
def namesOf (tr : Transition) : List String :=
  ["pub", "const", tr.eventSymbol, typeOf tr.eventWidth, "impl", tr.machine, "pub", "fn",
      tr.event, "mut", "self"] ++
    tr.params.map Param.name ++ ["Result", rejection tr.machine] ++
      (methodBody tr).flatMap identifiers

section Untyped

variable {tr : Transition} (hparams : ∀ p ∈ tr.params, Identifier.valid p.name = true)
include hparams

/-- **Parameters without types** bring their commas along, so they are shut at both ends. -/
theorem shut_signature_untyped :
    Shut (signature tr.untyped.params) (tr.params.map Param.name) := by
  have hparam : ∀ p ∈ tr.params, Shut (", " ++ p.name ++ ": " ++ "") [p.name] := by
    intro p hp
    have hopen : Closed ", " [] := by decide
    rw [String.append_assoc]
    exact hopen.shut.slot (reads_identifier (hparams p hp)) (show Closed (": " ++ "") [] by decide)
      (by decide) (by decide)
  -- each parameter brings its own comma, so nothing runs into what is in front
  have hpieces : ∀ piece ∈ tr.params.map fun p => ", " ++ p.name ++ ": " ++ "",
      Shut piece (identifiers piece) := by
    intro piece hpiece
    obtain ⟨p, hp, rfl⟩ := List.mem_map.mp hpiece
    rw [(hparam p hp).reads.identifiers_eq]
    exact hparam p hp
  have hnames : (tr.params.map fun p => ", " ++ p.name ++ ": " ++ "").flatMap identifiers =
      tr.params.map Param.name := by
    rw [List.flatMap_map, List.map_eq_flatMap]
    exact List.flatMap_congr fun p hp => (hparam p hp).reads.identifiers_eq
  unfold signature Transition.untyped
  rw [List.map_map, ← hnames]
  exact shut_join hpieces

variable (h : Named tr) (hevent : Identifier.valid tr.event = true)
include h hevent

theorem mentions_methodHead : mentions (methodHead tr.untyped) =
    ["pub", "fn", tr.event, "mut", "self"] ++ tr.params.map Param.name ++
      ["Result", rejection tr.machine] := by
  have hself : Identifier.valid "self" = true := by decide
  have hreceiver := (reads_identifier hself).append (shut_signature_untyped hparams).reads
    (ends_signature _)
  have hopen : Begins "    pub fn " ["pub", "fn"] := begins_of_closed (by decide)
  have hname := hopen.slot (reads_identifier hevent) (show Stops "(&mut " ["mut"] by decide)
  have hsignature := hname.slot hreceiver (show Stops ") -> Result<(), " ["Result"] by decide)
  have hline := (hsignature.slot (reads_identifier (valid_rejection h.machine))
    (show Stops "> \x7b" [] by decide)).mentions_eq
  -- the receiver and the parameters are read as one piece
  have hsplit : methodHead tr.untyped =
      "    pub fn " ++ tr.event ++ "(&mut " ++ ("self" ++ signature tr.untyped.params) ++
        ") -> Result<(), " ++ rejection tr.machine ++ "> \x7b" := by
    unfold methodHead
    rw [show "(&mut self" = "(&mut " ++ "self" from rfl]
    simp only [String.append_assoc]
    rfl
  rw [hsplit, hline]
  simp only [List.cons_append, List.nil_append, List.append_nil, List.append_assoc]

/-- **The constant and the method of an event**, without types. -/
theorem mentions_transition : (transition tr.untyped).flatMap mentions = namesOf tr := by
  have hconst := mentions_constant h.eventSymbol tr.eventWidth tr.ordinal
  have himpl : mentions ("impl " ++ tr.machine ++ " \x7b") = ["impl", tr.machine] := by
    have hopen : Begins "impl " ["impl"] := begins_of_closed (by decide)
    exact (hopen.slot (reads_identifier h.machine) (show Stops " \x7b" [] by decide)).mentions_eq
  have hcomment : mentions ("    /// Moves the machine to `" ++ tr.destination ++
      "`. Fails without changing state when the") = [] := by
    simpa only [String.append_assoc] using
      mentions_aside (a := "    /// Moves the machine to `") (by decide) _
  have hlint : ∀ names, mentions ("    #[allow(" ++ names ++ ")]") = [] := fun names => by
    simpa only [String.append_assoc] using mentions_aside (a := "    #[allow(") (by decide) _
  -- above the line that the method begins with, the compiler may have been told something
  have hlines : ∃ above, transition tr.untyped =
      ["", "pub const " ++ tr.eventSymbol ++ ": " ++ typeOf tr.eventWidth ++ " = " ++
          toString tr.ordinal ++ ";", "", "impl " ++ tr.machine ++ " \x7b",
        "    /// Moves the machine to `" ++ tr.destination ++
          "`. Fails without changing state when the",
        "    /// current state is not one the event is declared from."] ++ above ++
        methodHead tr.untyped :: methodBody tr ∧ above.flatMap mentions = [] := by
    rw [← methodBody_untyped]
    unfold methodBody transition
    cases lints tr.untyped with
    | nil => exact ⟨[], by cases tr.untyped.log <;> rfl, rfl⟩
    | cons lint ls =>
      refine ⟨["    #[allow(" ++ Text.joined ", " (lint :: ls) ++ ")]"], ?_, ?_⟩
      · cases tr.untyped.log <;> rfl
      · rw [List.flatMap_singleton, hlint]
  obtain ⟨above, hlines, habove⟩ := hlines
  have hfixed : mentions "" = [] ∧
      mentions "    /// current state is not one the event is declared from." = [] := by
    decide +kernel
  obtain ⟨hempty, hcomment'⟩ := hfixed
  unfold namesOf
  rw [hlines]
  simp only [List.flatMap_append, List.flatMap_cons, mentions_methodBody, habove, hempty, hconst,
    himpl, hcomment, hcomment', mentions_methodHead hparams h hevent, List.cons_append,
    List.nil_append, List.append_assoc]

end Untyped

end RustSource

/-! ### Behind the head -/

namespace Target

/-- The head of a source: what it is and what it imports. -/
def header : Target → Blueprint.Header → List String
  | go => GoSource.header
  | rust => RustSource.header

/-- **The lines of a source behind its head.** -/
def code : Target → Blueprint → List String
  | go, b =>
    GoSource.constants b.states ++ GoSource.constructor b.constructor ++
      GoSource.machineType b.machine ++ GoSource.lookup b.lookup ++
      b.transitions.flatMap GoSource.transition
  | rust, b =>
    RustSource.constants b.states ++ RustSource.constructor b.constructor ++
      RustSource.machineType b.machine ++ RustSource.rejectionType b.machine ++
      RustSource.lookup b.lookup ++ b.transitions.flatMap RustSource.transition

/-- They are all there is. -/
theorem lines_eq_header_append (target : Target) (b : Blueprint) :
    target.lines b = target.header b.header ++ target.code b := by
  cases target with
  | go =>
    unfold lines GoSource.lines header code
    simp only [List.append_assoc]
  | rust =>
    unfold lines RustSource.lines header code
    simp only [List.append_assoc]

/-- **The lines of an event** are the same without types, except for the one that its method begins
with. -/
theorem exists_transition_untyped_eq (target : Target) (tr : Transition) : ∃ above below,
    target.transition tr = above ++ target.methodHead tr :: below ∧
      target.transition tr.untyped = above ++ target.methodHead tr.untyped :: below := by
  cases target with
  | go =>
    -- five lines stand above the head, and none of them has the type of a parameter
    refine ⟨(GoSource.transition tr).take 5, GoSource.methodBody tr, ?_, ?_⟩
    · show GoSource.transition tr = _
      unfold GoSource.methodBody GoSource.transition
      cases tr.log <;> rfl
    · show GoSource.transition tr.untyped = _
      unfold GoSource.methodBody GoSource.transition Transition.untyped
      cases tr.log <;> rfl
  | rust =>
    -- here there are six of them, and one more if the compiler is told something
    refine ⟨(RustSource.transition tr).take (if RustSource.lints tr = [] then 6 else 7),
      RustSource.methodBody tr, ?_, ?_⟩
    · show RustSource.transition tr = _
      unfold RustSource.methodBody RustSource.transition
      cases RustSource.lints tr <;> cases tr.log <;> rfl
    · show RustSource.transition tr.untyped = _
      unfold RustSource.methodBody RustSource.transition
      -- types have no say in what the compiler is told
      rw [RustSource.lints_untyped]
      unfold Transition.untyped
      cases RustSource.lints tr <;> cases tr.log <;> rfl

/-- **A line without types** is the same line, or else one that a method begins with. -/
def LosesTypes (target : Target) (b : Blueprint) (line untyped : String) : Prop :=
  line = untyped ∨
    ∃ tr ∈ b.transitions, line = target.methodHead tr ∧ untyped = target.methodHead tr.untyped

/-- **A source without types** has the same lines behind its head, except for those that methods
begin with. -/
theorem code_untyped (target : Target) (b : Blueprint) :
    List.Forall₂ (target.LosesTypes b) (target.code b) (target.code b.untyped) := by
  have hsame : ∀ ls, List.Forall₂ (target.LosesTypes b) ls ls := fun ls =>
    List.forall₂_same.mpr fun _ _ => .inl rfl
  -- only events have types, and of their lines only one
  have hevents : List.Forall₂ (target.LosesTypes b) (b.transitions.flatMap target.transition)
      ((b.transitions.map Transition.untyped).flatMap target.transition) := by
    have hitself : List.Forall₂ (fun x y => x = y ∧ x ∈ b.transitions) b.transitions
        b.transitions := List.forall₂_same.mpr fun tr htr => ⟨rfl, htr⟩
    rw [List.flatMap_map]
    refine List.rel_flatMap hitself ?_
    rintro tr _ ⟨rfl, htr⟩
    show List.Forall₂ _ (target.transition tr) (target.transition tr.untyped)
    obtain ⟨above, below, hlines, huntyped⟩ := exists_transition_untyped_eq target tr
    rw [hlines, huntyped]
    exact List.rel_append (hsame above) (.cons (.inr ⟨tr, htr, rfl, rfl⟩) (hsame below))
  cases target with
  | go => exact List.rel_append (hsame _) hevents
  | rust => exact List.rel_append (hsame _) hevents

end Target

end Automaton
