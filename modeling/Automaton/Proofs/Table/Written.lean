import Automaton.Document.Equality
import Automaton.Proofs.Catalog
import Automaton.Proofs.Document.Decoding
import Automaton.Proofs.Document.Json.Printing
import Automaton.Proofs.Document.Json.Recognition

/-!
# Ways to write a table

A table can be written in many ways.  The members of a record stand in any order, and so do the
events; a field that has its default may be left out; members with other names may stand in between;
and the logging flag has two names.  `Table.Written` says which documents write a table.  It speaks
of each field by itself (`Field`), so it says nothing about what stands where.

Every such document is decoded to the table (`Table.ofDocument_of_written`), and among them is the
one that has all fields (`Table.written_toDocument`).  In JSON a document has many spellings on top of
that, and `Table.ofText_of_written` is about all of them.
-/

namespace Automaton

open Decoding

/-! ### Fields -/

/-- **How the members of a record write a field** with a value: one of them has a name of the field
and writes the value; or none has, and the value is the default of the field. -/
inductive Field {α : Type} (ms : List (String × Document)) (names : List String)
    (default? : Option α) (writes : α → Document → Prop) (a : α) : Prop where
  | given {before after : List (String × Document)} {n : String} {d : Document}
    (hms : ms = before ++ (n, d) :: after) (hn : n ∈ names)
    (hbefore : ∀ m ∈ before, m.1 ∉ names) (hafter : ∀ m ∈ after, m.1 ∉ names) (hd : writes a d)
  | omitted (hms : ∀ m ∈ ms, m.1 ∉ names) (ha : default? = some a)

section Fields

variable {α : Type} {ms : List (String × Document)} {names : List String}
  {writes : α → Document → Prop} {a : α}

/-- The one member that writes a field is the one that is found. -/
theorem field?_of_split {before after : List (String × Document)} {n : String} {d : Document}
    (hms : ms = before ++ (n, d) :: after) (hn : n ∈ names)
    (hbefore : ∀ m ∈ before, m.1 ∉ names) (hafter : ∀ m ∈ after, m.1 ∉ names) :
    field? names ms = .ok (some d) := by
  -- members with other names are passed over
  have hnone : ∀ {ms : List (String × Document)}, (∀ m ∈ ms, m.1 ∉ names) →
      (ms.filter fun m => names.contains m.1) = [] := by
    intro ms h
    simpa only [List.filter_eq_nil_iff, List.contains_iff_mem] using h
  have hhead : ((n, d) :: after).filter (fun m => names.contains m.1) =
      (n, d) :: after.filter fun m => names.contains m.1 :=
    List.filter_cons_of_pos (List.contains_iff_mem.mpr hn)
  refine field?_eq_ok_some_iff.mpr ⟨n, ?_⟩
  rw [hms, List.filter_append, hhead, hnone hbefore, hnone hafter, List.nil_append]

/-- **A field that has to be there** is decoded. -/
theorem Field.required_eq_ok {name : String} (h : Field ms [name] none writes a)
    {decode : Document → Except Fault α}
    (hdecode : ∀ m ∈ ms, writes a m.2 → decode m.2 = .ok a) :
    required name decode ms = .ok a := by
  cases h with
  | @given before after n d hms hn hbefore hafter hd =>
    have hmem : (n, d) ∈ ms := hms ▸ List.mem_append_right _ List.mem_cons_self
    exact required_eq_ok_iff.mpr ⟨d, field?_of_split hms hn hbefore hafter, hdecode _ hmem hd⟩
  | omitted hms ha => exact absurd ha nofun

/-- **A field that may be left out** is decoded. -/
theorem Field.optional_eq_ok {default : α} (h : Field ms names (some default) writes a)
    {decode : Document → Except Fault α}
    (hdecode : ∀ m ∈ ms, writes a m.2 → decode m.2 = .ok a) :
    optional names default decode ms = .ok a := by
  -- a field that is there is decoded, and one that is not has its default
  cases h with
  | @given before after n d hms hn hbefore hafter hd =>
    have hmem : (n, d) ∈ ms := hms ▸ List.mem_append_right _ List.mem_cons_self
    exact optional_eq_ok_iff.mpr
      (.inr ⟨d, field?_of_split hms hn hbefore hafter, hdecode _ hmem hd⟩)
  | omitted hms ha =>
    exact optional_eq_ok_iff.mpr (.inl ⟨field?_eq_ok_none_iff.mpr hms, Option.some.inj ha⟩)

/-- A record has its fields if everything in it can be passed over. -/
theorem fields_record (format : Format) (layout : Layout)
    (h : (Document.record ms).skippable = true) : fields format layout (.record ms) = .ok ms := by
  have hall : ∀ m ∈ ms, m.2.skippable = true := Document.membersSkippable_iff.mp h
  refine if_pos (Document.membersSkippable_iff.mpr fun m hm => hall m ?_)
  exact List.mem_of_mem_filter hm

end Fields

/-! ### Values -/

/-- A text is written as such. -/
def WritesText (s : String) (d : Document) : Prop :=
  d = .text s

/-- So is a truth value. -/
def WritesBoolean (b : Bool) (d : Document) : Prop :=
  d = .boolean b

/-- A list is written item by item. -/
def WritesList {α : Type} (writes : α → Document → Prop) (as : List α) (d : Document) : Prop :=
  ∃ ds, d = .list ds ∧ List.Forall₂ writes as ds

/-- A catalog is written entry by entry, in any order. -/
def WritesCatalog {α : Type} (writes : α → Document → Prop) (c : Catalog α) (d : Document) : Prop :=
  ∃ es ms, es.Perm c.entries ∧ d = .record ms ∧
    List.Forall₂ (fun e m => m.1 = e.1 ∧ writes e.2 m.2) es ms

section Values

variable {α : Type} {writes : α → Document → Prop} {item : Document → Except Fault α}
  {d : Document}

theorem text_of_writes {s : String} (h : WritesText s d) : text d = .ok s :=
  text_eq_ok_iff.mpr h

theorem boolean_of_writes {b : Bool} (h : WritesBoolean b d) : boolean d = .ok b :=
  boolean_eq_ok_iff.mpr h

/-- A list is decoded if its items are. -/
theorem list_of_writes {as : List α} (hd : d.skippable = true)
    (hitem : ∀ a d, d.skippable = true → writes a d → item d = .ok a)
    (h : WritesList writes as d) : list item d = .ok as := by
  obtain ⟨ds, rfl, has⟩ := h
  refine list_eq_ok_iff.mpr ⟨ds, rfl, ?_⟩
  have hskip := Document.allSkippable_iff.mp hd
  clear hd
  induction has with
  | nil => exact .nil
  | cons ha has ih =>
    obtain ⟨hhead, htail⟩ := List.forall_mem_cons.mp hskip
    exact .cons (hitem _ _ hhead ha) (ih htail)

/-- So is a catalog. -/
theorem catalog_of_writes {c : Catalog α} (hd : d.skippable = true)
    (hitem : ∀ a d, d.skippable = true → writes a d → item d = .ok a)
    (h : WritesCatalog writes c d) : catalog item d = .ok c := by
  obtain ⟨es, ms, hperm, rfl, hes⟩ := h
  -- the order of the members has no say in the catalog
  refine catalog_eq_ok_iff.mpr ⟨ms, es, rfl, ?_, Catalog.ofList_eq_of_perm hperm⟩
  have hskip := Document.membersSkippable_iff.mp hd
  clear hd hperm
  induction hes with
  | nil => exact .nil
  | cons he hes ih =>
    obtain ⟨hhead, htail⟩ := List.forall_mem_cons.mp hskip
    exact .cons ⟨he.1, hitem _ _ hhead he.2⟩ (ih htail)

end Values

/-! ### Tables -/

/-- **The documents that write a parameter.** -/
inductive Param.Written (p : Param) : Document → Prop where
  | record {ms : List (String × Document)} (name : Field ms ["Name"] none WritesText p.name)
    (type : Field ms ["Type"] none WritesText p.type) : Written p (.record ms)

/-- **The documents that write an event.** -/
inductive Event.Written (e : Event) : Document → Prop where
  | record {ms : List (String × Document)}
    (sources : Field ms ["Source"] (some []) (WritesList WritesText) e.sources)
    (destination : Field ms ["Destination"] none WritesText e.destination)
    (params : Field ms ["Params"] (some []) (WritesList Param.Written) e.params) :
    Written e (.record ms)

/-- **The documents that write a table.** -/
inductive Table.Written (t : Table) : Document → Prop where
  | record {ms : List (String × Document)} (name : Field ms ["Name"] none WritesText t.name)
    (imports : Field ms ["Imports"] (some []) (WritesList WritesText) t.imports)
    (packageName : Field ms ["PackageName"] none WritesText t.packageName)
    (logging : Field ms ["UseSLog", "useLogging"] (some false) WritesBoolean t.logging)
    (events : Field ms ["Events"] (some Catalog.empty) (WritesCatalog Event.Written) t.events) :
    Written t (.record ms)

section Tables

variable {format : Format} {d : Document}

theorem Param.ofDocument_of_written {p : Param} (h : p.Written d) (hd : d.skippable = true) :
    ofDocument format d = .ok p := by
  obtain ⟨hname, htype⟩ := h
  exact ofDocument_eq_ok_iff.mpr ⟨_, fields_record format layout hd,
    hname.required_eq_ok fun _ _ => text_of_writes,
    htype.required_eq_ok fun _ _ => text_of_writes⟩

theorem Event.ofDocument_of_written {e : Event} (h : e.Written d) (hd : d.skippable = true) :
    ofDocument format d = .ok e := by
  obtain ⟨hsources, hdestination, hparams⟩ := h
  have hskip := Document.membersSkippable_iff.mp hd
  exact ofDocument_eq_ok_iff.mpr ⟨_, fields_record format layout hd,
    hsources.optional_eq_ok fun m hm => list_of_writes (hskip m hm) fun _ _ _ => text_of_writes,
    hdestination.required_eq_ok fun _ _ => text_of_writes,
    hparams.optional_eq_ok fun m hm =>
      list_of_writes (hskip m hm) fun _ _ hd h => Param.ofDocument_of_written h hd⟩

/-- **Every document that writes a table** is decoded to it, if what stands in between can be passed
over. -/
theorem Table.ofDocument_of_written {t : Table} (h : t.Written d) (hd : d.skippable = true) :
    ofDocument format d = .ok t := by
  obtain ⟨hname, himports, hpackage, hlogging, hevents⟩ := h
  have hskip := Document.membersSkippable_iff.mp hd
  exact ofDocument_eq_ok_iff.mpr ⟨_, fields_record format layout hd,
    hname.required_eq_ok fun _ _ => text_of_writes,
    himports.optional_eq_ok fun m hm => list_of_writes (hskip m hm) fun _ _ _ => text_of_writes,
    hpackage.required_eq_ok fun _ _ => text_of_writes,
    hlogging.optional_eq_ok fun _ _ => boolean_of_writes,
    hevents.optional_eq_ok fun m hm =>
      catalog_of_writes (hskip m hm) fun _ _ hd h => Event.ofDocument_of_written h hd⟩

end Tables

/-! ### All fields -/

/-- A field that is given at a place. -/
theorem Field.at {α : Type} {names : List String} {default? : Option α}
    {writes : α → Document → Prop} {a : α} {n : String} {d : Document}
    (before after : List (String × Document)) (hn : n ∈ names)
    (hbefore : ∀ m ∈ before, m.1 ∉ names) (hafter : ∀ m ∈ after, m.1 ∉ names) (hd : writes a d) :
    Field (before ++ (n, d) :: after) names default? writes a :=
  .given rfl hn hbefore hafter hd

/-- A list of texts. -/
theorem writesList_texts (ss : List String) : WritesList WritesText ss (.texts ss) := by
  refine ⟨ss.map .text, rfl, List.forall₂_map_right_iff.mpr ?_⟩
  exact List.forall₂_same.mpr fun s _ => rfl

theorem Param.written_toDocument (p : Param) : p.Written p.toDocument :=
  .record (Field.at [] _ (by simp) (by simp) (by simp) rfl)
    (Field.at [_] [] (by simp) (by simp) (by simp) rfl)

theorem Event.written_toDocument (e : Event) : e.Written e.toDocument := by
  have hparams : WritesList Param.Written e.params (.list (e.params.map Param.toDocument)) :=
    ⟨_, rfl, List.forall₂_map_right_iff.mpr (List.forall₂_same.mpr fun p _ => p.written_toDocument)⟩
  exact .record (Field.at [] _ (by simp) (by simp) (by simp) (writesList_texts _))
    (Field.at [_] _ (by simp) (by simp) (by simp) rfl)
    (Field.at [_, _] [] (by simp) (by simp) (by simp) hparams)

/-- **The document with all fields** writes its table. -/
theorem Table.written_toDocument (t : Table) : t.Written t.toDocument := by
  have hevents : WritesCatalog Event.Written t.events
      (.record (t.events.entries.map fun e => (e.1, e.2.toDocument))) :=
    ⟨_, _, .refl _, rfl, List.forall₂_map_right_iff.mpr
      (List.forall₂_same.mpr fun e _ => ⟨rfl, e.2.written_toDocument⟩)⟩
  exact .record (Field.at [] _ (by simp) (by simp) (by simp) rfl)
    (Field.at [_] _ (by simp) (by simp) (by simp) (writesList_texts _))
    (Field.at [_, _] _ (by simp) (by simp) (by simp) rfl)
    (Field.at [_, _, _] _ (by simp) (by simp) (by simp) rfl)
    (Field.at [_, _, _, _] [] (by simp) (by simp) (by simp) hevents)

theorem Param.printable_toDocument (p : Param) : Document.Json.Printable p.toDocument := by
  refine .record ?_
  simp only [List.forall_mem_cons]
  exact ⟨.text _, .text _, nofun⟩

theorem Event.printable_toDocument (e : Event) : Document.Json.Printable e.toDocument := by
  refine .record ?_
  simp only [List.forall_mem_cons]
  exact ⟨.texts _, .text _,
    .list (List.forall_mem_map.mpr fun p _ => p.printable_toDocument), nofun⟩

/-- So can all fields of a table. -/
theorem Table.printable_toDocument (t : Table) : Document.Json.Printable t.toDocument := by
  refine .record ?_
  simp only [List.forall_mem_cons]
  exact ⟨.text _, .texts _, .text _, .boolean _,
    .record (List.forall_mem_map.mpr fun e _ => e.2.printable_toDocument), nofun⟩

/-! ### Texts -/

/-- **Every way of writing a table in JSON** is decoded to the table: whatever document writes it and
however the document is spelled.  So is what the printer makes of all fields, in both layouts. -/
theorem Table.ofText_of_written (t : Table) :
    (∀ d text, t.Written d → Document.Json.Writes d text → ofText .json text = .ok t) ∧
    ofText .json (Document.Json.compact t.toDocument) = .ok t ∧
    ofText .json (Document.Json.pretty t.toDocument) = .ok t := by
  have hall : ∀ d text, t.Written d → Document.Json.Writes d text → ofText .json text = .ok t := by
    intro d text hd htext
    -- a spelled text has nothing that could not be passed over
    have hskip : d.skippable = true := htext.skippable
    exact ofText_eq_ok_iff.mpr
      ⟨d, Document.Json.read_of_writes htext, ofDocument_of_written hd hskip⟩
  have hprintable := t.printable_toDocument
  exact ⟨hall, hall _ _ t.written_toDocument hprintable.spelling_compact.bare,
    hall _ _ t.written_toDocument (hprintable.spelling_pretty 0).bare⟩

/-! ### A door -/

/-- A door, with its name in signs that have to be escaped. -/
def Table.signedDoor : Table :=
  { name := "Door \"😀\"\n"
    packageName := "doors"
    imports := []
    logging := true
    events := Catalog.ofList
      [("close", ⟨["open"], "shut", []⟩), ("open", ⟨["shut"], "open", [⟨"by", "string"⟩]⟩)] }

/-- One of the documents that write it: its fields and events are in another order, defaults are left
out, and there are members that nobody asks for. -/
def Table.signedDocument : Document :=
  .record
    [ ("Events", .record
        [ ("open", .record
            [ ("Params", .list [.record [("Type", .text "string"), ("Name", .text "by")]]),
              ("Destination", .text "open"), ("Source", .texts ["shut"]) ]),
          ("close", .record [("Destination", .text "shut"), ("Source", .texts ["open"])]) ]),
      ("useLogging", .boolean true),
      ("Author", .list [.null, .number "-1.5e+2", .unreadable true]),
      ("PackageName", .text "doors"),
      ("Name", .text "Door \"😀\"\n") ]

/-- One of the texts that spell the document. -/
def Table.signedText : String :=
  "\x7b \"Events\":\x7b\"open\":\x7b" ++
    "\"Params\":[\x7b\"Type\":\"string\",\"Name\":\"by\"\x7d]," ++
    "\"Destination\":\"open\",\"Source\":[\"shut\"]\x7d," ++
    "\"close\":\x7b\"Destination\":\"shut\",\"Source\":[\"open\"]\x7d\x7d," ++
    "\"useLogging\":true,\n\"Author\":[null,-1.5e+2,\"\\ud800\"]," ++
    "\"PackageName\":\"\\u0064oors\",\"Name\" : \"Door \\\"\\uD83D\\ude00\\\"\\n\"\x7d"

theorem Table.written_signedDocument : signedDoor.Written signedDocument := by
  -- the fields stand in another order than that of the table, and imports are omitted
  refine .record (Field.at [_, _, _, _] [] (by simp) (by simp) (by simp) rfl)
    (.omitted (by simp) rfl) (Field.at [_, _, _] [_] (by simp) (by simp) (by simp) rfl)
    (Field.at [_] [_, _, _] (by simp) (by simp) (by simp) rfl)
    (Field.at [] [_, _, _, _] (by simp) (by simp) (by simp) ?_)
  refine ⟨[("open", ⟨["shut"], "open", [⟨"by", "string"⟩]⟩), ("close", ⟨["open"], "shut", []⟩)], _,
    .swap _ _ _, rfl, .cons ⟨rfl, ?_⟩ (.cons ⟨rfl, ?_⟩ .nil)⟩
  · refine .record (Field.at [_, _] [] (by simp) (by simp) (by simp) (writesList_texts _))
      (Field.at [_] [_] (by simp) (by simp) (by simp) rfl)
      (Field.at [] [_, _] (by simp) (by simp) (by simp) ⟨_, rfl, .cons ?_ .nil⟩)
    exact .record (Field.at [_] [] (by simp) (by simp) (by simp) rfl)
      (Field.at [] [_] (by simp) (by simp) (by simp) rfl)
  · exact .record (Field.at [_] [] (by simp) (by simp) (by simp) (writesList_texts _))
      (Field.at [] [_] (by simp) (by simp) (by simp) rfl) (.omitted (by simp) rfl)

/-- The text is decoded to the door. -/
theorem Table.ofText_of_written_signedDoor : ofText .json signedText = .ok signedDoor := by
  have hread : Document.Json.read signedText = some signedDocument := by decide +kernel
  exact (Table.ofText_of_written signedDoor).1 signedDocument signedText written_signedDocument
    (Document.Json.read_eq_some_iff.mp hread)

end Automaton
