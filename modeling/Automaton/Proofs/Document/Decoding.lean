import Automaton.Table.Decoding
import Mathlib.Data.List.Forall2

/-!
# What decoders accept

For each decoder, the documents that it accepts and what it makes of them.  All of them are steps
that may fail, one after the other, so everything here comes of one law: a step and what follows it
succeed exactly if both do (`bind_eq_ok_iff`), and a step taken for each item of a list succeeds
exactly if it does for all of them (`mapM_eq_ok_iff`).

* Fields are found by their names and nothing else: `field?_eq_ok_none_iff` and
  `field?_eq_ok_some_iff` say when a record gives a field, and when it leaves the field out.
* `Param.ofDocument_eq_ok_iff`, `Event.ofDocument_eq_ok_iff` and `Table.ofDocument_eq_ok_iff` take
  the three decoders of a table apart into their fields.
-/

namespace Automaton

namespace Decoding

variable {ε α β : Type}

/-! ### Steps that may fail -/

/-- **A step and what follows it** succeed exactly if both do. -/
theorem bind_eq_ok_iff {x : Except ε α} {f : α → Except ε β} {b : β} :
    (x >>= f) = .ok b ↔ ∃ a, x = .ok a ∧ f a = .ok b := by
  cases x with
  | error e => exact iff_of_false nofun fun ⟨_, h, _⟩ => nomatch h
  | ok a => exact ⟨fun h => ⟨a, rfl, h⟩, fun ⟨_, h, hf⟩ => Except.ok.inj h ▸ hf⟩

/-- The end of a chain of steps. -/
theorem pure_eq_ok_iff {a b : α} : (pure a : Except ε α) = .ok b ↔ a = b :=
  ⟨Except.ok.inj, congrArg _⟩

/-- **A step for each item** succeeds exactly if it does for all of them. -/
theorem mapM_eq_ok_iff {f : α → Except ε β} {as : List α} {bs : List β} :
    as.mapM f = .ok bs ↔ List.Forall₂ (fun a b => f a = .ok b) as bs := by
  induction as generalizing bs with
  | nil =>
    rw [List.mapM_nil, pure_eq_ok_iff, List.forall₂_nil_left_iff, eq_comm]
  | cons a as ih =>
    rw [List.mapM_cons, List.forall₂_cons_left_iff]
    simp only [bind_eq_ok_iff, pure_eq_ok_iff, ih]
    constructor
    · rintro ⟨b, hb, bs, hbs, rfl⟩
      exact ⟨b, bs, hb, hbs, rfl⟩
    · rintro ⟨b, bs, hb, hbs, rfl⟩
      exact ⟨b, hb, bs, hbs, rfl⟩

/-! ### Values -/

theorem text_eq_ok_iff {d : Document} {s : String} : text d = .ok s ↔ d = .text s := by
  cases d <;> simp [text]

theorem boolean_eq_ok_iff {d : Document} {b : Bool} : boolean d = .ok b ↔ d = .boolean b := by
  cases d <;> simp [boolean]

theorem list_eq_ok_iff {item : Document → Except Fault α} {d : Document} {as : List α} :
    list item d = .ok as ↔
      ∃ ds, d = .list ds ∧ List.Forall₂ (fun d a => item d = .ok a) ds as := by
  cases d <;> simp [list, mapM_eq_ok_iff]

/-- **A catalog** comes of the things that the members of a record denote. -/
theorem catalog_eq_ok_iff {item : Document → Except Fault α} {d : Document} {c : Catalog α} :
    catalog item d = .ok c ↔
      ∃ ms es, d = .record ms ∧
        List.Forall₂ (fun m e => m.1 = e.1 ∧ item m.2 = .ok e.2) ms es ∧ Catalog.ofList es = c := by
  -- a member is decoded under its name, which is never changed
  have hitem : ∀ (m : String × Document) (e : String × α),
      (∃ a, item m.2 = .ok a ∧ (m.1, a) = e) ↔ m.1 = e.1 ∧ item m.2 = .ok e.2 := by
    rintro m ⟨n, a⟩
    simp only [Prod.mk.injEq]
    exact ⟨fun ⟨_, h, hn, ha⟩ => ⟨hn, ha ▸ h⟩, fun ⟨hn, h⟩ => ⟨a, h, hn, rfl⟩⟩
  cases d with
  | record ms =>
    simp only [catalog, bind_eq_ok_iff, pure_eq_ok_iff, mapM_eq_ok_iff, hitem,
      Document.record.injEq, exists_and_left, exists_eq_left']
  | _ => simp [catalog]

/-! ### Fields -/

variable {names : List String} {ms : List (String × Document)} {d : Document}

/-- **A field is left out** if no member has any of its names. -/
theorem field?_eq_ok_none_iff : field? names ms = .ok none ↔ ∀ m ∈ ms, m.1 ∉ names := by
  have hfilter : (ms.filter fun m => names.contains m.1) = [] ↔ ∀ m ∈ ms, m.1 ∉ names := by
    simp only [List.filter_eq_nil_iff, List.contains_iff_mem]
  rw [← hfilter, field?]
  cases ms.filter fun m => names.contains m.1 with
  | nil => exact iff_of_true rfl rfl
  | cons m rest => cases rest <;> exact iff_of_false nofun nofun

/-- **A field is given** if exactly one member has one of its names. -/
theorem field?_eq_ok_some_iff :
    field? names ms = .ok (some d) ↔
      ∃ n, (ms.filter fun m => names.contains m.1) = [(n, d)] := by
  rw [field?]
  cases ms.filter fun m => names.contains m.1 with
  | nil => simp
  | cons m rest =>
    cases rest with
    | nil => simp [Prod.ext_iff]
    | cons m' rest => simp

theorem required_eq_ok_iff {name : String} {decode : Document → Except Fault α} {a : α} :
    required name decode ms = .ok a ↔
      ∃ d, field? [name] ms = .ok (some d) ∧ decode d = .ok a := by
  rw [required, bind_eq_ok_iff]
  constructor
  · rintro ⟨d?, hd, ha⟩
    cases d? with
    -- a required field that is not there is a fault
    | none => exact absurd ha nofun
    | some d => exact ⟨d, hd, ha⟩
  · rintro ⟨d, hd, ha⟩
    exact ⟨some d, hd, ha⟩

theorem optional_eq_ok_iff {default : α} {decode : Document → Except Fault α} {a : α} :
    optional names default decode ms = .ok a ↔
      (field? names ms = .ok none ∧ default = a) ∨
        ∃ d, field? names ms = .ok (some d) ∧ decode d = .ok a := by
  rw [optional, bind_eq_ok_iff]
  constructor
  · rintro ⟨d?, hd, ha⟩
    cases d? with
    -- an optional field that is not there has its default
    | none => exact .inl ⟨hd, Except.ok.inj ha⟩
    | some d => exact .inr ⟨d, hd, ha⟩
  · rintro (⟨hd, rfl⟩ | ⟨d, hd, ha⟩)
    · exact ⟨none, hd, rfl⟩
    · exact ⟨some d, hd, ha⟩

end Decoding

open Decoding

/-! ### Tables -/

section Tables

variable {format : Format} {d : Document}

theorem Param.ofDocument_eq_ok_iff {p : Param} :
    ofDocument format d = .ok p ↔
      ∃ ms, fields format layout d = .ok ms ∧ required "Name" text ms = .ok p.name ∧
        required "Type" text ms = .ok p.type := by
  obtain ⟨name, type⟩ := p
  simp only [ofDocument, bind_eq_ok_iff, pure_eq_ok_iff, mk.injEq]
  exact ⟨fun ⟨ms, hms, _, hn, _, ht, rfl, rfl⟩ => ⟨ms, hms, hn, ht⟩,
    fun ⟨ms, hms, hn, ht⟩ => ⟨ms, hms, _, hn, _, ht, rfl, rfl⟩⟩

theorem Event.ofDocument_eq_ok_iff {e : Event} :
    ofDocument format d = .ok e ↔
      ∃ ms, fields format layout d = .ok ms ∧
        optional ["Source"] [] (list text) ms = .ok e.sources ∧
        required "Destination" text ms = .ok e.destination ∧
        optional ["Params"] [] (list (Param.ofDocument format)) ms = .ok e.params := by
  obtain ⟨sources, destination, params⟩ := e
  simp only [ofDocument, bind_eq_ok_iff, pure_eq_ok_iff, mk.injEq]
  exact ⟨fun ⟨ms, hms, _, hs, _, hd, _, hp, rfl, rfl, rfl⟩ => ⟨ms, hms, hs, hd, hp⟩,
    fun ⟨ms, hms, hs, hd, hp⟩ => ⟨ms, hms, _, hs, _, hd, _, hp, rfl, rfl, rfl⟩⟩

theorem Table.ofDocument_eq_ok_iff {t : Table} :
    ofDocument format d = .ok t ↔
      ∃ ms, fields format layout d = .ok ms ∧ required "Name" text ms = .ok t.name ∧
        optional ["Imports"] [] (list text) ms = .ok t.imports ∧
        required "PackageName" text ms = .ok t.packageName ∧
        optional ["UseSLog", "useLogging"] false boolean ms = .ok t.logging ∧
        optional ["Events"] Catalog.empty (catalog (Event.ofDocument format)) ms =
          .ok t.events := by
  obtain ⟨name, packageName, imports, logging, events⟩ := t
  simp only [ofDocument, bind_eq_ok_iff, pure_eq_ok_iff, mk.injEq]
  -- all fields are decoded, and the first fault would end the whole
  exact ⟨fun ⟨ms, hms, _, hn, _, hi, _, hp, _, hl, _, he, rfl, rfl, rfl, rfl, rfl⟩ =>
      ⟨ms, hms, hn, hi, hp, hl, he⟩,
    fun ⟨ms, hms, hn, hi, hp, hl, he⟩ =>
      ⟨ms, hms, _, hn, _, hi, _, hp, _, hl, _, he, rfl, rfl, rfl, rfl, rfl⟩⟩

/-- **Tables from texts**: the text is well formed, and what it denotes is decoded. -/
theorem Table.ofText_eq_ok_iff {text : String} {t : Table} :
    ofText format text = .ok t ↔
      ∃ d, format.read text = some d ∧ ofDocument format d = .ok t := by
  have hparse : ∀ d, parse format text = .ok d ↔ format.read text = some d := by
    intro d
    rw [parse]
    cases format.read text <;> simp
  simp only [ofText, bind_eq_ok_iff, hparse]

end Tables

end Automaton
