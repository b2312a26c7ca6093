import Automaton.Proofs.Catalog
import Automaton.Proofs.Document.Decoding
import Automaton.Proofs.Document.Unambiguous

/-!
# Declarations of a table

A document *declares* events: each member of its `Events` field is one declaration.  Decoding enters
them into a catalog one by one, so every declaration is decoded, but of those with one name only the
last one is an event of the table (`Table.Keeps`).

Whether a declaration is lost is thus a question of names, and the two formats answer it
differently.  In TOML a name that is written again makes the text ill formed, so a table has as many
events as there are declarations.  In JSON the names may repeat, also in different spellings of one
name, and each repetition silently takes the place of what was declared before.

What is said of TOML here is said of the reader of this library, `Document.Toml.read`: that it
refuses repeated names is read off its insertions (`Document.Toml.unambiguous_of_read`), not off a
grammar of the language.  For any other reader it comes down to its documents being unambiguous
(`Table.nodup_declarations`).
-/

namespace Automaton

open Decoding

/-- The members of a field, if the field is there and holds a record. -/
def Document.membersOf : Option Document → List (String × Document)
  | some (.record ms) => ms
  | _ => []

/-- **What a document declares**: the members of its `Events` field, in the order of the text. -/
def Table.declarations : Document → List (String × Document)
  | .record ms => Document.membersOf (ms.lookup "Events")
  | .list ds => Document.membersOf ds[4]?
  | _ => []

/-- **What becomes of declarations** `ds` in a table. -/
structure Table.Keeps (format : Format) (ds : List (String × Document)) (t : Table) : Prop where
  /-- Each of them is a well formed event, also those that are not kept. -/
  decoded : ∀ d ∈ ds, ∃ e, Event.ofDocument format d.2 = .ok e
  /-- Every name that is declared is the name of an event, and no other. -/
  names : ∀ n, n ∈ t.events.names ↔ n ∈ ds.map Prod.fst
  /-- The event of a name is what was declared last under it. -/
  latest : ∀ n, t.events.get? n =
    (ds.reverse.lookup n).bind fun d => (Event.ofDocument format d).toOption
  /-- Each name counts once. -/
  size : t.events.size = (ds.map Prod.fst).dedup.length
  /-- There are as many events as declarations exactly if no name is declared twice. -/
  size_eq_length_iff : t.events.size = ds.length ↔ (ds.map Prod.fst).Nodup

section Members

variable {format : Format} {ds : List (String × Document)} {es : List (String × Event)}

/-- **The event of a declaration**, under its name. -/
def Decodes (format : Format) (d : String × Document) (e : String × Event) : Prop :=
  d.1 = e.1 ∧ Event.ofDocument format d.2 = .ok e.2

/-- Events have the names of their declarations. -/
theorem map_fst_of_decodes (h : List.Forall₂ (Decodes format) ds es) :
    ds.map Prod.fst = es.map Prod.fst := by
  induction h with
  | nil => rfl
  | cons hd _ ih => rw [List.map_cons, List.map_cons, hd.1, ih]

/-- Looking a name up among events is looking its declaration up and decoding it. -/
theorem lookup_of_decodes (h : List.Forall₂ (Decodes format) ds es) (n : String) :
    es.lookup n = (ds.lookup n).bind fun d => (Event.ofDocument format d).toOption := by
  induction h with
  | nil => rfl
  | @cons d e ds es hd _ ih =>
    rw [Catalog.lookup_cons_ite, Catalog.lookup_cons_ite, ← hd.1]
    split
    · rw [Option.bind_some, hd.2]
      rfl
    · exact ih

/-- **Decoded declarations** and what a table keeps of them. -/
theorem Table.keeps_of_decodes {t : Table} (h : List.Forall₂ (Decodes format) ds es)
    (ht : Catalog.ofList es = t.events) : t.Keeps format ds := by
  have hnames := map_fst_of_decodes h
  refine ⟨fun d hd => ?_, fun n => ?_, fun n => ?_, ?_, ?_⟩
  · obtain ⟨i, hi, rfl⟩ := List.getElem_of_mem hd
    exact ⟨_, (h.get hi (h.length_eq ▸ hi)).2⟩
  · rw [← ht, Catalog.mem_names_ofList, hnames]
  · rw [← ht, Catalog.get?_ofList, lookup_of_decodes (List.rel_reverse h)]
  · rw [← ht, Catalog.size_ofList, hnames]
  · rw [← ht, h.length_eq, Catalog.size_ofList_eq_length_iff, hnames]

end Members

/-! ### The `Events` field -/

/-- A field with a single name is what is looked up under the name. -/
theorem Decoding.lookup_of_field? {name : String} {ms : List (String × Document)}
    {d? : Option Document} (h : field? [name] ms = .ok d?) : ms.lookup name = d? := by
  cases d? with
  | none =>
    refine List.lookup_eq_none_iff.mpr fun m hm => ?_
    have hne : m.1 ∉ [name] := field?_eq_ok_none_iff.mp h m hm
    exact bne_iff_ne.mpr fun heq => hne (List.mem_singleton.mpr heq.symm)
  | some d =>
    -- the field occurs once, so what is filtered is also what is found first
    obtain ⟨n, hfilter⟩ := field?_eq_ok_some_iff.mp h
    clear h
    induction ms with
    | nil => exact absurd hfilter nofun
    | cons m ms ih =>
      rw [Catalog.lookup_cons_ite]
      split
      · next heq =>
        rw [List.filter_cons_of_pos (by simp [heq])] at hfilter
        rw [(List.cons.inj hfilter).1]
      · next hne =>
        rw [List.filter_cons_of_neg (by simpa [eq_comm] using hne)] at hfilter
        exact ih hfilter

/-- What a document declares is in the `Events` field of its fields. -/
theorem Table.declarations_of_fields {format : Format} {d : Document}
    {ms : List (String × Document)} (h : fields format layout d = .ok ms) :
    declarations d = Document.membersOf (ms.lookup "Events") := by
  cases d with
  | record ms' =>
    simp only [fields] at h
    split at h
    · rw [← Except.ok.inj h, declarations]
    · cases h
  | list ds =>
    simp only [fields] at h
    split at h
    · cases h
    · split at h
      · cases h
      · rw [← Except.ok.inj h, declarations]
        -- the fifth place of a list is that of the events
        rcases ds with _ | ⟨_, _ | ⟨_, _ | ⟨_, _ | ⟨_, _ | ⟨_, _⟩⟩⟩⟩⟩ <;> rfl
  | null | boolean | number | text | unreadable => cases h

/-- **A decoded table** keeps what its document declares. -/
theorem Table.keeps_of_ofDocument {format : Format} {d : Document} {t : Table}
    (h : ofDocument format d = .ok t) : t.Keeps format (declarations d) := by
  obtain ⟨ms, hms, -, -, -, -, hevents⟩ := ofDocument_eq_ok_iff.mp h
  rw [declarations_of_fields hms]
  rcases optional_eq_ok_iff.mp hevents with ⟨hnone, hempty⟩ | ⟨d', hd', hcatalog⟩
  · rw [lookup_of_field? hnone]
    exact keeps_of_decodes .nil hempty
  · rw [lookup_of_field? hd']
    obtain ⟨ds, es, rfl, hds, hes⟩ := catalog_eq_ok_iff.mp hcatalog
    exact keeps_of_decodes hds hes

/-- What is declared in an unambiguous document has distinct names. -/
theorem Table.nodup_declarations {d : Document} (h : d.Unambiguous) :
    ((declarations d).map Prod.fst).Nodup := by
  -- only a record declares anything
  have hmembers : ∀ d? : Option Document, (∀ d ∈ d?, d.Unambiguous) →
      ((Document.membersOf d?).map Prod.fst).Nodup := by
    intro d? hd
    unfold Document.membersOf
    split
    · exact (hd _ rfl).nodup
    · exact .nil
  cases d with
  | record ms =>
    refine hmembers _ fun d hd => ?_
    obtain ⟨before, after, hms, -⟩ := List.lookup_eq_some_iff.mp hd
    exact h.of_mem (m := ("Events", d)) (hms ▸ List.mem_append_right _ List.mem_cons_self)
  | list ds => exact hmembers _ fun d hd => h.of_mem_list (List.mem_of_getElem? hd)
  | null | boolean | number | text | unreadable => exact .nil

/-! ### Texts -/

/-- **Declarations are decoded, and the last of a name is kept.**  A table that comes of a text has
an event for each name that is declared, with what was declared last under it, so it has as many
events as there are declarations exactly if no name is declared twice.  If the text is TOML, none
is. -/
theorem Table.keeps_declarations {format : Format} {text : String} {t : Table}
    (h : ofText format text = .ok t) :
    ∃ d, format.read text = some d ∧ t.Keeps format (declarations d) ∧
      (format = .toml → t.events.size = (declarations d).length) := by
  obtain ⟨d, hd, ht⟩ := ofText_eq_ok_iff.mp h
  have hkeeps := keeps_of_ofDocument ht
  refine ⟨d, hd, hkeeps, fun hformat => hkeeps.size_eq_length_iff.mpr ?_⟩
  subst hformat
  exact nodup_declarations (Document.Toml.unambiguous_of_read hd)

/-! ### A switch that turns twice -/

/-- A switch whose event is declared twice. -/
def Table.turnsText : String :=
  "\x7b\"Name\":\"Switch\",\"PackageName\":\"machines\",\"Events\":\x7b" ++
    "\"turn\":\x7b\"Source\":[\"on\"],\"Destination\":\"off\"\x7d," ++
    "\"turn\":\x7b\"Source\":[\"off\"],\"Destination\":\"on\"\x7d\x7d\x7d"

/-- A switch whose events are declared once each, in the other format. -/
def Table.turnsLines : String :=
  "Name = \"Switch\"\nPackageName = \"machines\"\n" ++
    "[Events.on]\nSource = [\"off\"]\nDestination = \"on\"\n" ++
    "[Events.off]\nSource = [\"on\"]\nDestination = \"off\"\n"

/-- A switch with events. -/
def Table.turning (events : List (String × Event)) : Table :=
  { new "Switch" "machines" with events := Catalog.ofList events }

/-- Its text is decoded. -/
theorem Table.ofText_turnsText :
    ofText .json turnsText = .ok (turning [("turn", ⟨["off"], "on", []⟩)]) := by
  decide +kernel

/-- Of two declarations the last one is kept; in the other format both are events. -/
theorem Table.keeps_declarations_turns :
    (∃ d, Format.json.read turnsText = some d ∧
      (turning [("turn", ⟨["off"], "on", []⟩)]).Keeps .json (declarations d)) ∧
    ∃ d, Format.toml.read turnsLines = some d ∧
      (turning [("on", ⟨["off"], "on", []⟩), ("off", ⟨["on"], "off", []⟩)]).events.size =
        (declarations d).length := by
  have hlines : ofText .toml turnsLines =
      .ok (turning [("on", ⟨["off"], "on", []⟩), ("off", ⟨["on"], "off", []⟩)]) := by
    decide +kernel
  obtain ⟨d, hd, hkeeps, -⟩ := Table.keeps_declarations ofText_turnsText
  obtain ⟨d', hd', -, hsize⟩ := Table.keeps_declarations hlines
  exact ⟨⟨d, hd, hkeeps⟩, d', hd', hsize rfl⟩

/-- **A declaration that is lost**: the text is decoded, with one event for two declarations. -/
theorem Table.turn_overwritten :
    ∃ d t, Format.json.read turnsText = some d ∧ ofText .json turnsText = .ok t ∧
      (declarations d).map Prod.fst = ["turn", "turn"] ∧
      t.events.entries = [("turn", ⟨["off"], "on", []⟩)] := by
  have hnames : (Format.json.read turnsText).map (fun d => (declarations d).map Prod.fst) =
      some ["turn", "turn"] := by decide +kernel
  obtain ⟨d, hd, hdnames⟩ := Option.map_eq_some_iff.mp hnames
  exact ⟨d, _, hd, ofText_turnsText, hdnames, by decide⟩

end Automaton
