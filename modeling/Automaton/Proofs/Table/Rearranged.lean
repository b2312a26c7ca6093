import Automaton.Table.Basic
import Mathlib.Data.List.Forall2
import Mathlib.Data.List.Nodup
import Mathlib.Tactic.Tauto

/-!
# Tables that are written in another order

An author may declare events in any order, and may write the sources of an event in any order and as
often as she likes.  `Reordered` relates declarations that differ in nothing else, and
`Table.Rearranged` does the same for the tables that come of them.

Events are entered into a catalog, so the order of the declarations is gone as soon as the table is
there (`Catalog.ofList_perm`).  The sources of an event stay as they were written, and so two tables
of the same declarations agree entry by entry, up to sources (`Table.built_rearranged`).
-/

namespace Automaton

/-! ### Sources in another order -/

/-- **Events up to the order of sources**: they are entered and left at the same states, however
often and in whatever order their sources are written. -/
structure Event.Rearranged (e f : Event) : Prop where
  /-- The sources are the same. -/
  sources : ∀ s, s ∈ e.sources ↔ s ∈ f.sources
  /-- So is the destination. -/
  destination : e.destination = f.destination
  /-- So are the parameters, with their order. -/
  params : e.params = f.params

/-- Rearranged events refer to the same states. -/
theorem Event.Rearranged.mem_states_iff {e f : Event} (h : e.Rearranged f) (n : String) :
    n ∈ e.states ↔ n ∈ f.states := by
  rw [Event.states, Event.states, List.mem_append, List.mem_append, h.sources, h.destination]

/-- The same name for an event that is the same up to the order of its sources. -/
def Respelled (x y : String × Event) : Prop :=
  x.1 = y.1 ∧ x.2.Rearranged y.2

/-- **Tables up to the order of sources.** -/
structure Table.Rearranged (t u : Table) : Prop where
  /-- The machines have one name. -/
  name : t.name = u.name
  /-- They belong to one package. -/
  packageName : t.packageName = u.packageName
  /-- They import the same. -/
  imports : t.imports = u.imports
  /-- Both are logged, or none is. -/
  logging : t.logging = u.logging
  /-- Their events agree up to the order of sources. -/
  entries : List.Forall₂ Respelled t.events.entries u.events.entries

/-! ### Declarations in another order -/

/-- **Declarations that say the same**: in another order, and with rearranged sources. -/
def Reordered (ds es : List (String × Event)) : Prop :=
  ∃ cs, ds.Perm cs ∧ List.Forall₂ Respelled cs es

/-- Declarations to look at: a door that may be left ajar. -/
def doors : List (String × Event) :=
  [("open", ⟨["closed", "ajar"], "opened", []⟩),
    ("close", ⟨["opened", "ajar", "opened"], "closed", [⟨"slam", "bool"⟩]⟩)]

/-- The same declarations once more, in another order. -/
def doorsAgain : List (String × Event) :=
  [("close", ⟨["ajar", "opened"], "closed", [⟨"slam", "bool"⟩]⟩),
    ("open", ⟨["ajar", "closed", "ajar"], "opened", []⟩)]

/-- The two say the same. -/
theorem reordered_doors : Reordered doors doorsAgain := by
  refine ⟨doors.reverse, (List.reverse_perm doors).symm, ?_⟩
  refine .cons ⟨rfl, ⟨fun s => ?_, rfl, rfl⟩⟩ (.cons ⟨rfl, ⟨fun s => ?_, rfl, rfl⟩⟩ .nil)
  · simp only [List.mem_cons, List.not_mem_nil, or_false]
    tauto
  · simp only [List.mem_cons, List.not_mem_nil, or_false]
    tauto

/-- **The table of declarations**, made step by step. -/
def Table.built (name packageName : String) (logging : Bool) (imports : List String)
    (ds : List (String × Event)) : Table :=
  ds.foldl (fun t d => t.declare d.1 d.2)
    (imports.foldl addImport ((new name packageName).setLogging logging))

theorem Table.foldl_addImport (imports : List String) (t : Table) :
    imports.foldl addImport t = { t with imports := t.imports ++ imports } := by
  induction imports generalizing t with
  | nil => simp only [List.foldl_nil, List.append_nil]
  | cons path imports ih =>
    rw [List.foldl_cons, ih]
    simp only [addImport, List.append_assoc, List.singleton_append]

theorem Table.foldl_declare (ds : List (String × Event)) (t : Table) :
    ds.foldl (fun t d => t.declare d.1 d.2) t =
      { t with events := ds.foldl (fun c d => c.insert d.1 d.2) t.events } := by
  induction ds generalizing t with
  | nil => rfl
  | cons d ds ih =>
    rw [List.foldl_cons, ih]
    rfl

/-- **The table of declarations** has them in its catalog. -/
theorem Table.built_eq (name packageName : String) (logging : Bool) (imports : List String)
    (ds : List (String × Event)) :
    built name packageName logging imports ds =
      { name, packageName, imports, logging, events := Catalog.ofList ds } := by
  rw [built, foldl_declare, foldl_addImport]
  rfl

/-! ### Catalogs of declarations -/

namespace Catalog

variable {α : Type}

/-- What is in the catalog of a list is in the list. -/
theorem mem_of_mem_entries_ofList {es : List (String × α)} {x : String × α}
    (h : x ∈ (ofList es).entries) : x ∈ es := by
  -- an entry of a growing catalog was there before or comes from the list
  suffices hfrom : ∀ c : Catalog α,
      x ∈ (es.foldl (fun c e => c.insert e.1 e.2) c).entries → x ∈ c.entries ∨ x ∈ es from
    (hfrom empty h).resolve_left List.not_mem_nil
  clear h
  induction es with
  | nil => exact fun c hx => .inl hx
  | cons e es ih =>
    intro c hx
    rcases ih (c.insert e.1 e.2) hx with hx | hx
    · rcases mem_insertEntry hx with rfl | hx
      · exact .inr List.mem_cons_self
      · exact .inl hx
    · exact .inr (List.mem_cons_of_mem e hx)

/-- **The order of entries** leaves no trace, if no name is entered twice. -/
theorem ofList_perm {es fs : List (String × α)} (hnames : (es.map Prod.fst).Nodup)
    (h : es.Perm fs) : ofList es = ofList fs := by
  refine h.foldl_eq' (fun x hx y hy c => ?_) empty
  by_cases hname : x.1 = y.1
  · -- one name is entered once, so the two entries are the same
    rw [List.inj_on_of_nodup_map hnames hx hy hname]
  · exact c.insert_comm hname x.2 y.2

variable {R : α → α → Prop}

/-- Related things under one name leave related entries related. -/
theorem insertEntry_forall₂ {name : String} {a b : α} (hab : R a b) {es fs : List (String × α)}
    (h : List.Forall₂ (fun x y => x.1 = y.1 ∧ R x.2 y.2) es fs) :
    List.Forall₂ (fun x y => x.1 = y.1 ∧ R x.2 y.2)
      (insertEntry name a es) (insertEntry name b fs) := by
  induction h with
  | nil => exact .cons ⟨rfl, hab⟩ .nil
  | @cons e f es fs hef hrest ih =>
    -- the names are the same on both sides, so both entries go to the same place
    rw [insertEntry, insertEntry, ← hef.1]
    split
    · exact .cons ⟨rfl, hab⟩ (.cons hef hrest)
    · split
      · exact .cons ⟨rfl, hab⟩ hrest
      · exact .cons hef ih

/-- **Catalogs of related lists** have related entries. -/
theorem ofList_forall₂ {es fs : List (String × α)}
    (h : List.Forall₂ (fun x y => x.1 = y.1 ∧ R x.2 y.2) es fs) :
    List.Forall₂ (fun x y => x.1 = y.1 ∧ R x.2 y.2) (ofList es).entries (ofList fs).entries := by
  -- both catalogs grow in step, so they are kept side by side
  suffices hfrom : ∀ c d : Catalog α,
      List.Forall₂ (fun x y => x.1 = y.1 ∧ R x.2 y.2) c.entries d.entries →
      List.Forall₂ (fun x y => x.1 = y.1 ∧ R x.2 y.2)
        (es.foldl (fun c e => c.insert e.1 e.2) c).entries
        (fs.foldl (fun c e => c.insert e.1 e.2) d).entries from
    hfrom empty empty .nil
  induction h with
  | nil => exact fun c d hcd => hcd
  | @cons e f es fs hef hrest ih =>
    intro c d hcd
    refine ih (c.insert e.1 e.2) (d.insert f.1 f.2) ?_
    rw [entries_insert, entries_insert, ← hef.1]
    exact insertEntry_forall₂ hef.2 hcd

end Catalog

/-- **Declarations that say the same** make tables that agree up to the order of sources. -/
theorem Table.built_rearranged (name packageName : String) (logging : Bool) (imports : List String)
    {ds es : List (String × Event)} (hnames : (ds.map Prod.fst).Nodup) (h : Reordered ds es) :
    (built name packageName logging imports ds).Rearranged
      (built name packageName logging imports es) := by
  obtain ⟨cs, hperm, hrelated⟩ := h
  rw [built_eq, built_eq, Catalog.ofList_perm hnames hperm]
  exact ⟨rfl, rfl, rfl, rfl, Catalog.ofList_forall₂ hrelated⟩

end Automaton
