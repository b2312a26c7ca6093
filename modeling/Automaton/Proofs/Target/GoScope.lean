import Automaton.Proofs.Blueprint.Coherence
import Automaton.Proofs.Target.GoReading
import Automaton.Proofs.Target.Keywords

/-!
# Parameters hide nothing

A method takes the parameters of its event under the names that the author gave them.  Within the
body of the method such a name stands for the parameter, whatever else it stands for outside.  If a
parameter were called like a state's constant, the method would compile and do something else.

`GoSource.render` refuses names of parameters that are among `GoSource.referred`, a list made for
the whole source.  What matters is what a single method refers to.  `KeepsScope` says that no
parameter has such a name, and `GoSource.keepsScope_of_render` says so of every method of a source.

## What a method refers to

That is read off the text.  `GoSource.identifiers` finds the names in a line: words that are outside
of literals and select no member of something else.  The names in the body of a method are known one
by one (`GoSource.identifiers_methodBody`): next to keywords, these are the ones that
`GoSource.scope` lists, and the parameters where they are logged.

A line is put together from pieces, and pieces can be read separately as long as no word and no
literal runs across the seam.  `GoSource.Closed` and `GoSource.Shut` are about pieces that can stand
in front of anything, and `GoSource.Reads` about pieces that are followed by something that ends a
word.

## What is refused

The list that names are compared with is made of constants and of names of states side by side, so
it would be too short if there were fewer names than constants.  There are as many
(`Blueprint.stateSymbols_direct`), and the symbols of a guard and of a destination are among them
(`GoSource.scope_subset_referred`).
-/

namespace Automaton

namespace GoSource

/-! ### Names in a line -/

/-- **Where the reader of a line is.** -/
inductive Cursor where
  /-- Between words, right behind a period or not. -/
  | between (period : Bool)
  /-- In a word that began behind a period or not, with what has been read of it. -/
  | inside (period : Bool) (word : List Char)
  /-- In a literal. -/
  | literal
  /-- In a literal, behind a backslash. -/
  | escaped
  deriving DecidableEq

namespace Cursor

/-- Going on between words: a character may begin a word or a literal. -/
def start (c : Char) (period : Bool) : Cursor :=
  if Identifier.isPart c then .inside period [c]
  else if c = '"' then .literal
  else .between (c == '.')

/-- The name that a word is.  Numbers are no names, and behind a period a word selects a member of
something else. -/
def name (period : Bool) (word : List Char) : List String :=
  if !period && Identifier.validList word then [String.ofList word] else []

/-- Going on by a character: the name that ends there, and where the reader is. -/
def step : Cursor → Char → List String × Cursor
  | between period, c => ([], start c period)
  | inside period word, c =>
    if Identifier.isPart c then ([], inside period (word ++ [c]))
    else (name period word, start c false)
  | literal, c =>
    ([], if c = '\\' then escaped else if c = '"' then between false else literal)
  | escaped, _ => ([], literal)

/-- Going on by a text: all names that end there, and where the reader is. -/
def read (k : Cursor) : List Char → List String × Cursor
  | [] => ([], k)
  | c :: cs =>
    let rest := read (k.step c).2 cs
    ((k.step c).1 ++ rest.1, rest.2)

/-- The name that ends with the line. -/
def last : Cursor → List String
  | inside period word => name period word
  | _ => []

/-- The names from a place to the end of the line. -/
def names (k : Cursor) (cs : List Char) : List String :=
  (k.read cs).1 ++ (k.read cs).2.last

/-- Reading goes on where it stopped. -/
theorem read_append (k : Cursor) (as bs : List Char) : k.read (as ++ bs) =
    ((k.read as).1 ++ ((k.read as).2.read bs).1, ((k.read as).2.read bs).2) := by
  induction as generalizing k with
  | nil => rfl
  | cons a as ih => simp only [List.cons_append, read, ih, List.append_assoc]

theorem names_append (k : Cursor) (as bs : List Char) :
    k.names (as ++ bs) = (k.read as).1 ++ (k.read as).2.names bs := by
  simp only [names, read_append, List.append_assoc]

/-- **A word** is kept as a whole. -/
theorem read_inside {period : Bool} {word cs : List Char}
    (h : ∀ c ∈ cs, Identifier.isPart c = true) :
    (inside period word).read cs = ([], inside period (word ++ cs)) := by
  induction cs generalizing word with
  | nil => simp only [read, List.append_nil]
  | cons c cs ih =>
    obtain ⟨hc, hcs⟩ := List.forall_mem_cons.mp h
    simp only [read, step, if_pos hc, ih hcs, List.append_assoc, List.singleton_append,
      List.nil_append]

/-- **A literal** is passed over, whatever it contains. -/
theorem read_escape (cs : List Char) :
    literal.read (Text.escape cs ++ ['"']) = ([], between false) := by
  induction cs with
  | nil => rfl
  | cons c cs ih =>
    -- a quote or a backslash has another backslash in front of it, which hides it
    by_cases hbackslash : c = '\\'
    · subst hbackslash
      rw [Text.escape_backslash, List.cons_append, List.cons_append]
      simpa only [read, step, if_pos, List.nil_append] using ih
    · by_cases hquote : c = '"'
      · subst hquote
        rw [Text.escape_quote, List.cons_append, List.cons_append]
        simpa only [read, step, if_pos, List.nil_append] using ih
      · rw [Text.escape_cons hbackslash hquote, List.cons_append]
        simpa only [read, step, if_neg hbackslash, if_neg hquote, List.nil_append] using ih

end Cursor

/-- **The names in a line**: what it refers to, and keywords.  There are neither comments nor
literals of other kinds in the body of a method, so the reader knows nothing of them. -/
def identifiers (line : String) : List String :=
  (Cursor.between false).names line.toList

example : identifiers "\treturn fmt.Errorf(\"no \\\"way\\\"\", at[fsm.State], 2)" =
    ["return", "fmt", "at", "fsm"] := by
  decide

/-! ### Lines in pieces -/

/-- **A closed piece** of a line has these names, and leaves the reader between words. -/
def Closed (piece : String) (names : List String) : Prop :=
  (Cursor.between false).read piece.toList = (names, .between false)

instance (piece : String) (names : List String) : Decidable (Closed piece names) :=
  inferInstanceAs (Decidable (_ = _))

/-- **The rest of a line ends a word** in front of it. -/
def Ends (rest : String) : Prop :=
  ∀ c ∈ rest.toList.head?, Identifier.isPart c = false

instance (rest : String) : Decidable (Ends rest) :=
  decidable_of_iff (rest.toList.head?.all (!Identifier.isPart ·) = true) <| by
    simp only [Option.all_eq_true, Bool.not_eq_true', Ends, Option.mem_def]

/-- **A piece reads as names** in front of anything that ends a word. -/
def Reads (piece : String) (names : List String) : Prop :=
  ∀ rest, Ends rest → identifiers (piece ++ rest) = names ++ identifiers rest

/-- **A piece is shut** with its names in front of anything at all. -/
def Shut (piece : String) (names : List String) : Prop :=
  ∀ rest, identifiers (piece ++ rest) = names ++ identifiers rest

section Pieces

variable {a b : String} {xs ys : List String}

/-- A closed piece can be read apart from the rest of the line. -/
theorem Closed.shut (h : Closed a xs) : Shut a xs := by
  intro rest
  unfold identifiers
  rw [String.toList_append, Cursor.names_append, h]

/-- A piece that is shut reads as its names. -/
theorem Shut.reads (h : Shut a xs) : Reads a xs :=
  fun rest _ => h rest

/-- So does a closed one. -/
theorem Closed.reads (h : Closed a xs) : Reads a xs :=
  h.shut.reads

/-- Closed pieces put together are closed. -/
theorem Closed.append (ha : Closed a xs) (hb : Closed b ys) : Closed (a ++ b) (xs ++ ys) := by
  unfold Closed at ha hb ⊢
  rw [String.toList_append, Cursor.read_append, ha, hb]

/-- Anything may follow a piece that is shut. -/
theorem Shut.append_reads (ha : Shut a xs) (hb : Reads b ys) : Reads (a ++ b) (xs ++ ys) := by
  intro rest hrest
  rw [String.append_assoc, ha, hb rest hrest, List.append_assoc]

/-- Anything may follow a closed piece. -/
theorem Closed.append_reads (ha : Closed a xs) (hb : Reads b ys) : Reads (a ++ b) (xs ++ ys) :=
  ha.shut.append_reads hb

/-- What ends a word ends it, whatever follows. -/
theorem Ends.append_of_ne_empty (h : Ends a) (hne : a ≠ "") (rest : String) :
    Ends (a ++ rest) := by
  intro c hc
  rw [String.toList_append, List.head?_append_of_ne_nil _ (mt String.toList_eq_nil_iff.mp hne)]
    at hc
  exact h c hc

/-- A piece that ends a word may follow any other. -/
theorem Reads.append (ha : Reads a xs) (hb : Reads b ys) (hends : Ends b) :
    Reads (a ++ b) (xs ++ ys) := by
  intro rest hrest
  have hends' : Ends (b ++ rest) := by
    by_cases hempty : b = ""
    · rwa [hempty, String.empty_append]
    · exact hends.append_of_ne_empty hempty rest
  rw [String.append_assoc, ha _ hends', hb rest hrest, List.append_assoc]

/-- **A piece is shut** by one that ends a word and is closed itself. -/
theorem Reads.append_closed (ha : Reads a xs) (hb : Closed b ys) (hends : Ends b) (hne : b ≠ "") :
    Shut (a ++ b) (xs ++ ys) := by
  intro rest
  rw [String.append_assoc, ha _ (hends.append_of_ne_empty hne rest), hb.shut, List.append_assoc]

/-- **A piece is filled in** between two others, if the second one ends it. -/
theorem Shut.slot {c : String} {zs : List String} (ha : Shut a xs) (hb : Reads b ys)
    (hc : Closed c zs) (hends : Ends c) (hne : c ≠ "") : Shut (a ++ b ++ c) (xs ++ ys ++ zs) := by
  intro rest
  have hslot := hb.append_closed hc hends hne
  rw [String.append_assoc, String.append_assoc, ha, ← String.append_assoc, hslot,
    List.append_assoc, List.append_assoc, List.append_assoc]

/-- A line that is one piece has the names of the piece. -/
theorem Reads.identifiers_eq (h : Reads a xs) : identifiers a = xs := by
  have hempty := h "" (by decide)
  rwa [String.append_empty, show identifiers "" = [] from rfl, List.append_nil] at hempty

/-- **Literals** are closed, and there are no names in them. -/
theorem closed_quote (text : String) : Closed (Text.quote text) [] := by
  unfold Closed
  rw [Text.toList_quote, Cursor.read]
  exact congrArg (fun r => ([] ++ r.1, r.2)) (Cursor.read_escape text.toList)

/-- They end a word, as they begin with a quote. -/
theorem ends_quote (text : String) : Ends (Text.quote text) := by
  intro c hc
  rw [Text.toList_quote, List.head?_cons, Option.mem_some_iff] at hc
  subst hc
  rfl

/-- **A word** reads as the name that it is, if it is one. -/
theorem reads_word (h : ∀ c ∈ a.toList, Identifier.isPart c = true) (hne : a ≠ "") :
    Reads a (Cursor.name false a.toList) := by
  intro rest hrest
  have hread : (Cursor.between false).read a.toList = ([], .inside false a.toList) := by
    obtain ⟨c, cs, hchars⟩ := List.exists_cons_of_ne_nil (mt String.toList_eq_nil_iff.mp hne)
    rw [hchars] at h ⊢
    obtain ⟨hc, hcs⟩ := List.forall_mem_cons.mp h
    simp only [Cursor.read, Cursor.step, Cursor.start, if_pos hc, Cursor.read_inside hcs,
      List.nil_append, List.singleton_append]
  unfold identifiers
  rw [String.toList_append, Cursor.names_append, hread, List.nil_append]
  -- what follows ends the word, and reading goes on as it would without it
  cases hchars : rest.toList with
  | nil =>
    rw [Cursor.names, Cursor.read, Cursor.last]
    exact (List.append_nil _).symm
  | cons c cs =>
    have hc : Identifier.isPart c = false := hrest c (by rw [hchars]; rfl)
    have hstep : (Cursor.inside false a.toList).step c =
        (Cursor.name false a.toList, Cursor.start c false) := by
      rw [Cursor.step, hc]
      rfl
    unfold Cursor.names
    rw [Cursor.read, Cursor.read, hstep]
    simp only [Cursor.step, List.append_assoc, List.nil_append]

/-- **An identifier** reads as itself. -/
theorem reads_identifier (h : Identifier.valid a = true) : Reads a [a] := by
  have hname : Cursor.name false a.toList = [a] := by
    have hlist : Identifier.validList a.toList = true := h
    rw [Cursor.name, hlist, String.ofList_toList]
    rfl
  have hne : a ≠ "" := by
    rintro rfl
    exact absurd h (by simp)
  rw [← hname]
  exact reads_word (Identifier.isPart_of_valid h) hne

/-- **Pieces with separators between them** read as the names of all of them, if a separator has no
names and ends a word. -/
theorem reads_joined {separator : String} (hclosed : Closed separator []) (hends : Ends separator)
    (hne : separator ≠ "") {pieces : List String} (h : ∀ p ∈ pieces, ∃ names, Reads p names) :
    Reads (Text.joined separator pieces) (pieces.flatMap identifiers) := by
  have hnames : ∀ p ∈ pieces, Reads p (identifiers p) := by
    intro p hp
    obtain ⟨names, hreads⟩ := h p hp
    rwa [hreads.identifiers_eq]
  match pieces with
  | [] => exact Closed.reads (show Closed "" [] by decide)
  | [p] =>
    rw [Text.joined_singleton, List.flatMap_singleton]
    exact hnames p List.mem_cons_self
  | p :: q :: pieces =>
    have hrest := reads_joined hclosed hends hne fun x hx => h x (List.mem_cons_of_mem p hx)
    -- the separator ends the first piece, and it can stand in front of the second one
    rw [Text.joined_cons_cons, List.flatMap_cons]
    exact (hnames p List.mem_cons_self).append (hclosed.append_reads hrest)
      (hends.append_of_ne_empty hne _)

/-- Identifiers with separators between them read as they are. -/
theorem reads_joined_identifiers {separator : String} (hclosed : Closed separator [])
    (hends : Ends separator) (hne : separator ≠ "") {names : List String}
    (h : ∀ n ∈ names, Identifier.valid n = true) : Reads (Text.joined separator names) names := by
  have hnames : names.flatMap identifiers = names := by
    rw [List.flatMap_congr fun n hn => (reads_identifier (h n hn)).identifiers_eq,
      List.flatMap_singleton']
  have hjoined := reads_joined hclosed hends hne fun n hn => ⟨_, reads_identifier (h n hn)⟩
  rwa [hnames] at hjoined

end Pieces

/-! ### Methods -/

/-- The line that a method begins with. -/
def methodHead (tr : Transition) : String :=
  "func (" ++ receiver ++ " *" ++ tr.machine ++ ") " ++ tr.event ++ "(" ++ signature tr.params ++
    ") error \x7b"

/-- **The body of a method**: the lines behind the one that it begins with. -/
def methodBody (tr : Transition) : List String :=
  (transition tr).drop 6

/-- A method begins behind the constant of its event and two lines of comment. -/
theorem exists_transition_eq (tr : Transition) :
    ∃ above, transition tr = above ++ methodHead tr :: methodBody tr := by
  refine ⟨(transition tr).take 5, ?_⟩
  unfold methodBody transition
  cases tr.log <;> rfl

/-- **What a method refers to** by names that stand for something outside of it: its machine, two
packages, nothing at all, the table of state names, and the constants of its guard, its destination
and its event. -/
def scope (tr : Transition) : List String :=
  [receiver, "fmt", "slog", "nil", namesTable tr.machine] ++ tr.guard ++
    [tr.destinationSymbol, tr.eventSymbol]

/-- **A transition is named** by identifiers wherever its method refers to something. -/
structure Named (tr : Transition) : Prop where
  /-- The machine is. -/
  machine : Identifier.valid tr.machine = true
  /-- So are the cases. -/
  guard : ∀ symbol ∈ tr.guard, Identifier.valid symbol = true
  /-- So is the destination. -/
  destinationSymbol : Identifier.valid tr.destinationSymbol = true
  /-- So is the constant of the event. -/
  eventSymbol : Identifier.valid tr.eventSymbol = true
  /-- So are the fields of the log. -/
  fields : ∀ l, tr.log = some l → ∀ f ∈ l.fields, Identifier.valid f = true

section Lines

/-- **The case of a method** refers to the constants of its guard. -/
theorem identifiers_caseLine {guard : List String}
    (h : ∀ symbol ∈ guard, Identifier.valid symbol = true) :
    identifiers ("\tcase " ++ Text.joined ", " guard ++ ":") = "case" :: guard := by
  have hcase : Closed "\tcase " ["case"] := by decide
  have hcolon : Closed ":" [] := by decide
  have hjoined := hcase.append_reads
    (reads_joined_identifiers (show Closed ", " [] by decide) (by decide) (by decide) h)
  calc identifiers ("\tcase " ++ Text.joined ", " guard ++ ":")
      = ["case"] ++ guard ++ [] := (hjoined.append hcolon.reads (by decide)).identifiers_eq
    _ = "case" :: guard := List.append_nil _

variable {machine : String} (hmachine : Identifier.valid machine = true)
include hmachine

/-- The name of the current state is looked up in a table of the package. -/
theorem reads_currentName :
    Reads (currentName machine) [namesTable machine, receiver] := by
  have htable : Identifier.valid (namesTable machine) = true :=
    Identifier.valid_append hmachine (by decide)
  have hselect : Closed ("[" ++ (receiver ++ ".State]")) [receiver] := by decide
  unfold currentName
  rw [String.append_assoc, String.append_assoc]
  exact (reads_identifier htable).append hselect.reads (by decide)

/-- **The line that fails** refers to the package that makes errors and to the current state.  What
it says about the event is in a literal. -/
theorem identifiers_failLine (message : String) :
    identifiers ("\t\treturn fmt.Errorf(" ++ Text.quote message ++ ", " ++ currentName machine ++
      ")") = ["return", "fmt", namesTable machine, receiver] := by
  have hopen : Closed "\t\treturn fmt.Errorf(" ["return", "fmt"] := by decide
  have hcomma : Closed ", " [] := by decide
  have hclose : Closed ")" [] := by decide
  have hmessage := (hopen.append (closed_quote message)).append hcomma
  have hcurrent := hmessage.append_reads (reads_currentName hmachine)
  exact (hcurrent.append hclose.reads (by decide)).identifiers_eq

/-- **The line that logs** refers to the package that logs, to the current state, and to each field
once. -/
theorem identifiers_logLine {l : LogEntry} (hfields : ∀ f ∈ l.fields, Identifier.valid f = true) :
    identifiers (logLine machine l) = "slog" :: namesTable machine :: receiver :: l.fields := by
  have hcurrent := reads_currentName hmachine
  have hpieces : ∀ p ∈ Text.quote "Start State" :: currentName machine ::
      l.fields.flatMap (fun f => [Text.quote f, f]), ∃ names, Reads p names := by
    intro p hp
    rw [List.mem_cons, List.mem_cons, List.mem_flatMap] at hp
    obtain rfl | rfl | ⟨f, hf, hp⟩ := hp
    · exact ⟨_, (closed_quote _).reads⟩
    · exact ⟨_, hcurrent⟩
    · -- a field is there as a literal and as a name
      rw [List.mem_pair] at hp
      obtain rfl | rfl := hp
      · exact ⟨_, (closed_quote f).reads⟩
      · exact ⟨_, reads_identifier (hfields p hf)⟩
  have hfield : ∀ f ∈ l.fields, [Text.quote f, f].flatMap identifiers = [f] := by
    intro f hf
    rw [List.flatMap_cons, List.flatMap_singleton, (closed_quote f).reads.identifiers_eq,
      (reads_identifier (hfields f hf)).identifiers_eq, List.nil_append]
  have hnames : (Text.quote "Start State" :: currentName machine ::
      l.fields.flatMap (fun f => [Text.quote f, f])).flatMap identifiers =
        namesTable machine :: receiver :: l.fields := by
    rw [List.flatMap_cons, List.flatMap_cons, (closed_quote _).reads.identifiers_eq,
      hcurrent.identifiers_eq, List.flatMap_assoc, List.flatMap_congr hfield,
      List.flatMap_singleton']
    rfl
  have hopen : Closed "\tslog.With(" ["slog"] := by decide
  have hinfo : Closed ").Info(" [] := by decide
  have hclose : Closed ")" [] := by decide
  have hjoined := hopen.append_reads
    (hnames ▸ reads_joined (show Closed ", " [] by decide) (by decide) (by decide) hpieces)
  have hmessage := (hjoined.append hinfo.reads (by decide)).append
    (closed_quote l.message).reads (ends_quote l.message)
  calc identifiers (logLine machine l)
      = ["slog"] ++ (namesTable machine :: receiver :: l.fields) ++ [] ++ [] ++ [] :=
        (hmessage.append hclose.reads (by decide)).identifiers_eq
    _ = "slog" :: namesTable machine :: receiver :: l.fields := by
        simp only [List.append_nil, List.singleton_append]

end Lines

/-- **The names in the body of a method**, one by one. -/
theorem identifiers_methodBody {tr : Transition} (h : Named tr) :
    (methodBody tr).flatMap identifiers =
      ["switch", receiver, "case"] ++ tr.guard ++
      ["default", "return", "fmt", namesTable tr.machine, receiver] ++
      (match tr.log with
        | some l => "slog" :: namesTable tr.machine :: receiver :: l.fields
        | none => []) ++
      [receiver, tr.destinationSymbol, "if", receiver, "nil", receiver, tr.eventSymbol, "return",
        "nil"] := by
  -- these lines are the same in all methods
  have hfixed : identifiers ("\tswitch " ++ receiver ++ ".State \x7b") = ["switch", receiver] ∧
      identifiers "\tdefault:" = ["default"] ∧
      identifiers ("\tif " ++ receiver ++ ".hook != nil \x7b") = ["if", receiver, "nil"] ∧
      identifiers "\treturn nil" = ["return", "nil"] ∧ identifiers "\t\x7d" = [] ∧
      identifiers "\x7d" = [] := by
    decide
  obtain ⟨hswitch, hdefault, hif, hreturn, hinner, hbrace⟩ := hfixed
  have hcase := identifiers_caseLine h.guard
  have hfail := identifiers_failLine h.machine
    (tr.event ++ ": transition not valid from current state %s")
  have hmove : identifiers ("\t" ++ receiver ++ ".State = " ++ tr.destinationSymbol) =
      [receiver, tr.destinationSymbol] := by
    have hstate : Closed ("\t" ++ receiver ++ ".State = ") [receiver] := by decide
    exact (hstate.append_reads (reads_identifier h.destinationSymbol)).identifiers_eq
  have hhook : identifiers ("\t\t" ++ receiver ++ ".hook(" ++ tr.eventSymbol ++ ")") =
      [receiver, tr.eventSymbol] := by
    have hopen : Closed ("\t\t" ++ receiver ++ ".hook(") [receiver] := by decide
    have hclose : Closed ")" [] := by decide
    exact ((hopen.append_reads (reads_identifier h.eventSymbol)).append hclose.reads
      (by decide)).identifiers_eq
  -- only the line that logs may be missing
  unfold methodBody transition
  cases hlog : tr.log with
  | none =>
    simp only [List.drop_succ_cons, List.drop_zero, List.cons_append, List.nil_append,
      List.flatMap_cons, List.flatMap_nil, hswitch, hcase, hdefault, hfail, hinner, hmove, hif,
      hhook, hreturn, hbrace, List.append_nil, List.append_assoc]
  | some l =>
    have hlogLine := identifiers_logLine h.machine (h.fields l hlog)
    simp only [List.drop_succ_cons, List.drop_zero, List.cons_append, List.nil_append,
      List.flatMap_cons, List.flatMap_nil, hswitch, hcase, hdefault, hfail, hinner, hlogLine,
      hmove, hif, hhook, hreturn, hbrace, List.append_nil, List.append_assoc]

/-- **Whatever a method refers to** is a keyword, is in its scope, or is logged. -/
theorem mem_scope_of_mem_identifiers {tr : Transition} (h : Named tr) {parameters : List String}
    (hlog : ∀ l, tr.log = some l → l.fields = parameters) {name : String}
    (hname : name ∈ (methodBody tr).flatMap identifiers) :
    name ∈ Target.keywords .go ∨ name ∈ scope tr ∨ name ∈ parameters := by
  have hlisted : name ∈ ["switch", "case", "default", "return", "if"] ∨ name ∈ scope tr ∨
      name ∈ parameters := by
    rw [identifiers_methodBody h] at hname
    -- what is logged are the parameters, and everything else is in the scope or a keyword
    unfold scope
    cases hl : tr.log with
    | none =>
      simp only [hl, List.mem_append, List.mem_cons, List.not_mem_nil, or_false] at hname ⊢
      grind
    | some l =>
      simp only [hl, hlog l hl, List.mem_append, List.mem_cons, List.not_mem_nil, or_false]
        at hname ⊢
      grind
  have hkeywords : ["switch", "case", "default", "return", "if"] ⊆ Target.keywords .go := by decide
  exact hlisted.imp_left fun hkeyword => hkeywords hkeyword

/-! ### Parameters -/

/-- **A method keeps its scope**: whatever it refers to, its parameters do not hide it. -/
structure KeepsScope (tr : Transition) : Prop where
  /-- The body of the method stands behind the line that declares the parameters. -/
  body : ∃ above, transition tr = above ++ methodHead tr :: methodBody tr
  /-- The parameters have different names. -/
  names_nodup : (tr.params.map Param.name).Nodup
  /-- These are no keywords. -/
  notMem_keywords : ∀ p ∈ tr.params, p.name ∉ Target.keywords .go
  /-- They stand for nothing that the method refers to outside of it. -/
  notMem_scope : ∀ p ∈ tr.params, p.name ∉ scope tr
  /-- There is nothing else that it refers to but the parameters. -/
  resolved : ∀ name ∈ (methodBody tr).flatMap identifiers,
    name ∈ Target.keywords .go ∨ name ∈ scope tr ∨ name ∈ tr.params.map Param.name

/-- **A parameter** of a source whose names are in order has a name that is no keyword and nothing
that methods refer to. -/
theorem name_notMem_of_checkNames {b : Blueprint}
    (hnames : Target.checkNames .go (declarations b) (uses b) = .ok ()) {tr : Transition}
    (htr : tr ∈ b.transitions) {p : Param} (hp : p ∈ tr.params) :
    p.name ∉ Target.keywords .go ∧ p.name ∉ referred b := by
  obtain ⟨-, huses⟩ := Target.checkNames_eq_ok_iff.mp hnames
  -- a parameter is used twice, behind the package, the machine and the event
  have hmem : ∀ u ∈ [(⟨"parameter", p.name, keywords⟩ : Target.Use),
      ⟨"parameter", p.name, referred b⟩], u ∈ uses b := by
    intro u hu
    refine List.mem_cons_of_mem _ (List.mem_cons_of_mem _ (List.mem_flatMap.mpr ⟨tr, htr, ?_⟩))
    refine List.mem_cons_of_mem _ (List.mem_cons_of_mem _ (List.mem_flatMap.mpr ⟨p, hp, ?_⟩))
    exact hu
  refine ⟨?_, ?_⟩
  · rw [← keywords_eq]
    exact huses _ (hmem _ List.mem_cons_self)
  · exact huses _ (hmem _ (List.mem_cons_of_mem _ List.mem_cons_self))

end GoSource

/-! ### Methods of tables -/

section Tables

variable {t : Table} {s : States}

/-- **The symbols of states** are those of all constants: there are as many names beside them. -/
theorem Blueprint.stateSymbols_direct : (direct t s).stateSymbols.map Prod.fst =
    (direct t s).states.constants.map Constant.symbol := by
  unfold stateSymbols direct
  rw [List.zipWith_map_left, List.zipWith_self, List.map_map, List.map_map]
  rfl

/-- What is declared may not be hidden. -/
theorem GoSource.mem_referred_of_declares {symbol : String}
    (h : (Blueprint.direct t s).Declares symbol) : symbol ∈ referred (Blueprint.direct t s) := by
  have hmem : symbol ∈ (Blueprint.direct t s).states.constants.map Constant.symbol := by
    apply List.count_pos_iff.mp
    rw [h]
    exact Nat.one_pos
  unfold referred Blueprint.symbols
  rw [List.map_append, Blueprint.stateSymbols_direct]
  exact List.mem_append_right _ (List.mem_append_left _ hmem)

variable (h : t.WellFormed) (hs : States.ofTable t = some s) {i : Nat} {name : String} {e : Event}
  (hentry : t.events.entries[i]? = some (name, e))
include h hs hentry

/-- **What a method refers to** may not be hidden. -/
theorem GoSource.scope_subset_referred :
    scope (Transition.direct (Blueprint.settingOf t s) i name e) ⊆
      referred (Blueprint.direct t s) := by
  have hclosed := Blueprint.closed_direct h hs hentry
  have htr := (Blueprint.mem_transitions (s := s)).mpr ⟨i, name, e, hentry, rfl⟩
  intro symbol hsymbol
  unfold scope at hsymbol
  rw [hclosed.machine_eq, List.append_assoc, List.mem_append, List.mem_append, List.mem_pair]
    at hsymbol
  obtain hglobal | hguard | rfl | rfl := hsymbol
  · exact List.mem_append_left _ hglobal
  · exact mem_referred_of_declares (hclosed.guard_declared symbol hguard)
  · exact mem_referred_of_declares hclosed.destination_declared
  · -- the symbol of the event stands behind those of the states
    unfold referred Blueprint.symbols Blueprint.eventSymbols
    rw [List.map_append, List.map_map]
    exact List.mem_append_right _ (List.mem_append_right _ (List.mem_map.mpr ⟨_, htr, rfl⟩))

/-- **The transition of an event** is named by identifiers. -/
theorem GoSource.named_direct : Named (Transition.direct (Blueprint.settingOf t s) i name e) := by
  have hmem : (name, e) ∈ t.events.entries := List.mem_of_getElem? hentry
  have he := h.events_wellFormed _ hmem
  have hbelongs := Blueprint.belongsTo_direct hs hentry
  have hstate : ∀ n, n ∈ e.sources ∨ n = e.destination →
      Identifier.valid (Symbol.ofState n) = true := fun n hn =>
    Symbol.valid_ofState <| h.valid_of_mem_references <|
      Table.mem_references.mpr ⟨name, e, hmem, hn⟩
  exact
    { machine := h.name_valid
      guard := by
        intro symbol hsymbol
        obtain ⟨n, hn, rfl⟩ := (hbelongs.mem_guard symbol).mp hsymbol
        exact hstate n (.inl hn)
      destinationSymbol := hstate _ (.inr rfl)
      eventSymbol := Symbol.valid_ofEvent he.name_valid
      fields := by
        intro l hl f hf
        obtain rfl := Transition.eq_logOf_of_log_direct hl
        obtain ⟨p, hp, rfl⟩ := List.mem_map.mp hf
        exact he.params_valid p hp }

/-- **The method of an event** keeps its scope if the names of the source are in order. -/
theorem GoSource.keepsScope_direct
    (hnames : Target.checkNames .go (declarations (Blueprint.direct t s))
      (uses (Blueprint.direct t s)) = .ok ()) :
    KeepsScope (Transition.direct (Blueprint.settingOf t s) i name e) := by
  have hmem : (name, e) ∈ t.events.entries := List.mem_of_getElem? hentry
  have htr := (Blueprint.mem_transitions (s := s)).mpr ⟨i, name, e, hentry, rfl⟩
  exact
    { body := exists_transition_eq _
      names_nodup := (h.events_wellFormed _ hmem).params_nodup
      notMem_keywords := fun p hp => (name_notMem_of_checkNames hnames htr hp).1
      -- what the body refers to is among what the emitter forbids to parameters
      notMem_scope := fun p hp hhidden =>
        (name_notMem_of_checkNames hnames htr hp).2 (scope_subset_referred h hs hentry hhidden)
      resolved := by
        intro symbol hsymbol
        have hfields : ∀ l, (Transition.direct (Blueprint.settingOf t s) i name e).log = some l →
            l.fields = e.params.map Param.name := by
          intro l hl
          rw [Transition.eq_logOf_of_log_direct hl, Transition.logOf]
        exact mem_scope_of_mem_identifiers (named_direct h hs hentry) hfields hsymbol }

end Tables

/-- **Parameters hide nothing.**  If there is a source in Go for the blueprint of a table, it ends
with a method for each event, in order, which takes the parameters of the event and keeps its
scope. -/
theorem GoSource.keepsScope_of_render (t : Table) (b : Blueprint) (text : String)
    (hb : Blueprint.ofTable t = .ok b) (htext : render b = .ok text) :
    ∃ before, text = Text.lines (before ++ b.transitions.flatMap transition) ∧
      List.Forall₂
        (fun entry tr => tr.event = entry.1 ∧ tr.params = entry.2.params ∧ KeepsScope tr)
        t.events.entries b.transitions := by
  obtain ⟨hwf, s, hs, rfl⟩ := Table.eq_direct_of_blueprint hb
  obtain ⟨hnames, rfl⟩ := render_eq_ok_iff.mp htext
  refine ⟨_, rfl, Blueprint.forall₂_transitions fun i name e hentry => ?_⟩
  exact ⟨rfl, rfl, keepsScope_direct hwf hs hentry hnames⟩

/-- The methods of the jobs keep their scope. -/
theorem GoSource.keepsScope_jobs : ∃ b text, Blueprint.ofTable Table.jobs = .ok b ∧
    render b = .ok text ∧
    ∃ before, text = Text.lines (before ++ b.transitions.flatMap transition) ∧
      List.Forall₂
        (fun entry tr => tr.event = entry.1 ∧ tr.params = entry.2.params ∧ KeepsScope tr)
        Table.jobs.events.entries b.transitions := by
  have hwf := Table.validate_eq_ok_iff_wellFormed.mp (show Table.jobs.validate = .ok () by decide)
  have hb := Blueprint.ofTable_eq_ok hwf (show _ = some Table.jobStates by decide)
  have htext := render_eq_ok_iff.mpr
    ⟨show Target.checkNames .go (declarations (Blueprint.direct Table.jobs Table.jobStates))
      (uses (Blueprint.direct Table.jobs Table.jobStates)) = .ok () by decide +kernel, rfl⟩
  exact ⟨_, _, hb, htext, keepsScope_of_render Table.jobs _ _ hb htext⟩

end Automaton
