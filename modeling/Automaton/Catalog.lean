/-!
# Catalogs

A *catalog* lists named things in the order of their names, each name once.  Names are ordered by
their code points, which is also the order of their bytes in UTF-8.

The order is part of the type, so a catalog is determined by what it holds: the order in which
things were entered leaves no trace.  This is `Catalog.ext_get?`.

* `Catalog.insert` enters a thing, in the place of what had its name before.
* `Catalog.get?` looks a name up; `Catalog.get?_insert` says what it finds after an entry.
* `Catalog.names` lists the names, and `Catalog.names_pairwise` says that they increase.
-/

namespace Automaton

/-- **Named things in the order of their names**, each name once. -/
structure Catalog (α : Type) where
  /-- The entries. -/
  entries : List (String × α)
  /-- Their names increase. -/
  ordered : entries.Pairwise (·.1 < ·.1)

/-- Of two names that differ, one comes before the other. -/
theorem lt_of_not_lt_of_ne {a b : String} (h : ¬ a < b) (hne : a ≠ b) : b < a :=
  String.not_le.mp fun hle => hne (String.le_antisymm hle (String.not_lt.mp h))

namespace Catalog

variable {α β : Type}

instance [DecidableEq α] : DecidableEq (Catalog α) := fun a b =>
  match decEq a.entries b.entries with
  | .isTrue h => .isTrue (by cases a; cases b; cases h; rfl)
  | .isFalse h => .isFalse (by intro he; exact h (he ▸ rfl))

/-- The catalog without entries. -/
def empty : Catalog α := ⟨[], .nil⟩

instance : Inhabited (Catalog α) := ⟨empty⟩

/-- Enters a thing into a list of entries, before the first greater name. -/
def insertEntry (name : String) (a : α) : List (String × α) → List (String × α)
  | [] => [(name, a)]
  | e :: es =>
    if name < e.1 then (name, a) :: e :: es
    else if name = e.1 then (name, a) :: es
    else e :: insertEntry name a es

/-- What is in a list after an entry was there before, or is the new one. -/
theorem mem_insertEntry {name : String} {a : α} {es : List (String × α)} {x : String × α}
    (h : x ∈ insertEntry name a es) : x = (name, a) ∨ x ∈ es := by
  induction es with
  | nil => simpa [insertEntry] using h
  | cons e es ih =>
    rw [insertEntry] at h
    split at h
    · simpa using h
    · split at h
      · rcases List.mem_cons.mp h with h | h
        · exact .inl h
        · exact .inr (List.mem_cons_of_mem _ h)
      · rcases List.mem_cons.mp h with h | h
        · exact .inr (h ▸ List.mem_cons_self)
        · exact (ih h).imp_right (List.mem_cons_of_mem _)

/-- Names keep increasing. -/
theorem insertEntry_pairwise {name : String} {a : α} {es : List (String × α)}
    (h : es.Pairwise (·.1 < ·.1)) : (insertEntry name a es).Pairwise (·.1 < ·.1) := by
  induction es with
  | nil => simp [insertEntry]
  | cons e es ih =>
    obtain ⟨hhead, htail⟩ := List.pairwise_cons.mp h
    rw [insertEntry]
    split
    · next hlt =>
      -- the new entry is the least of all
      refine List.pairwise_cons.mpr ⟨fun x hx => ?_, h⟩
      rcases List.mem_cons.mp hx with rfl | hx
      · exact hlt
      · exact String.lt_trans hlt (hhead x hx)
    · next hlt =>
      split
      · next heq =>
        -- the new entry takes the place of one with its name
        refine List.pairwise_cons.mpr ⟨fun x hx => ?_, htail⟩
        exact heq ▸ hhead x hx
      · next hne =>
        -- the new entry goes further down, so the head stays the least
        refine List.pairwise_cons.mpr ⟨fun x hx => ?_, ih htail⟩
        rcases mem_insertEntry hx with rfl | hx
        · exact lt_of_not_lt_of_ne hlt hne
        · exact hhead x hx

/-- **Entering** a thing under a name; it takes the place of what had the name before. -/
def insert (c : Catalog α) (name : String) (a : α) : Catalog α :=
  ⟨insertEntry name a c.entries, insertEntry_pairwise c.ordered⟩

/-- **Striking out** a name and what it names. -/
def erase (c : Catalog α) (name : String) : Catalog α :=
  ⟨c.entries.filter (·.1 != name), c.ordered.filter _⟩

/-- **Looking up** a name. -/
def get? (c : Catalog α) (name : String) : Option α :=
  c.entries.lookup name

/-- The names, in increasing order. -/
def names (c : Catalog α) : List String :=
  c.entries.map (·.1)

/-- The things, in the order of their names. -/
def values (c : Catalog α) : List α :=
  c.entries.map (·.2)

/-- How many things there are. -/
def size (c : Catalog α) : Nat :=
  c.entries.length

/-- The catalog of a list of named things; of two with one name, the later one stays. -/
def ofList (es : List (String × α)) : Catalog α :=
  es.foldl (fun c e => c.insert e.1 e.2) empty

@[simp]
theorem entries_insert (c : Catalog α) (name : String) (a : α) :
    (c.insert name a).entries = insertEntry name a c.entries := rfl

@[simp]
theorem get?_empty (name : String) : (empty : Catalog α).get? name = none := rfl

theorem names_pairwise (c : Catalog α) : c.names.Pairwise (· < ·) := by
  rw [names, List.pairwise_map]
  exact c.ordered

/-- Looking up in a list of entries, one entry at a time. -/
theorem lookup_cons_ite (name : String) (e : String × α) (es : List (String × α)) :
    (e :: es).lookup name = if name = e.1 then some e.2 else es.lookup name := by
  obtain ⟨n, b⟩ := e
  by_cases h : name = n
  · simp [h]
  · have hne : (name == n) = false := by simp [h]
    simp [List.lookup_cons, hne, h]

/-- **Looking up after an entry** finds the new thing under its name, and all others as before. -/
theorem get?_insert (c : Catalog α) (name other : String) (a : α) :
    (c.insert name a).get? other = if other = name then some a else c.get? other := by
  simp only [get?, entries_insert]
  induction c.entries with
  | nil => simp [insertEntry, lookup_cons_ite]
  | cons e es ih =>
    rw [insertEntry]
    split
    · simp [lookup_cons_ite]
    · split
      · next heq => subst heq; by_cases h : other = e.1 <;> simp [lookup_cons_ite, h]
      · next hne =>
        by_cases h : other = e.1
        · have hne' : ¬ e.1 = name := fun h' => hne h'.symm
          simp [lookup_cons_ite, h, hne']
        · simp [lookup_cons_ite, h, ih]

/-- **Looking up after striking out** finds nothing under the name, and all others as before. -/
theorem get?_erase (c : Catalog α) (name other : String) :
    (c.erase name).get? other = if other = name then none else c.get? other := by
  simp only [get?, erase]
  induction c.entries with
  | nil => simp
  | cons e es ih =>
    by_cases hname : e.1 = name
    · rw [List.filter_cons_of_neg (by simp [hname]), ih, lookup_cons_ite, hname]
      split <;> rfl
    · rw [List.filter_cons_of_pos (by simp [hname]), lookup_cons_ite, lookup_cons_ite, ih]
      by_cases h : other = name
      · have hne : ¬ name = e.1 := fun h' => hname h'.symm
        simp [h, hne]
      · simp [h]

/-- A thing is found under a name exactly if the catalog has the entry. -/
theorem get?_eq_some_iff {c : Catalog α} {name : String} {a : α} :
    c.get? name = some a ↔ (name, a) ∈ c.entries := by
  obtain ⟨es, hes⟩ := c
  simp only [get?]
  induction es with
  | nil => simp
  | cons e es ih =>
    obtain ⟨hhead, htail⟩ := List.pairwise_cons.mp hes
    obtain ⟨n, b⟩ := e
    rw [lookup_cons_ite]
    by_cases h : name = n
    · subst h
      -- names increase, so that of the head does not come again
      have hno : (name, a) ∉ es := fun hm => absurd (hhead _ hm) (String.lt_irrefl _)
      simp [hno, eq_comm]
    · simpa [h] using ih htail

/-- Entries in order are determined by what is among them. -/
theorem eq_of_mem_iff {es fs : List (String × α)} (hes : es.Pairwise (·.1 < ·.1))
    (hfs : fs.Pairwise (·.1 < ·.1)) (hmem : ∀ e, e ∈ es ↔ e ∈ fs) : es = fs := by
  induction es generalizing fs with
  | nil =>
    cases fs with
    | nil => rfl
    | cons f fs => exact absurd ((hmem f).mpr List.mem_cons_self) List.not_mem_nil
  | cons e es ih =>
    cases fs with
    | nil => exact absurd ((hmem e).mp List.mem_cons_self) List.not_mem_nil
    | cons f fs =>
      obtain ⟨hehead, hetail⟩ := List.pairwise_cons.mp hes
      obtain ⟨hfhead, hftail⟩ := List.pairwise_cons.mp hfs
      -- if the heads differed, each would come before the other
      have hef : e = f := by
        rcases List.mem_cons.mp ((hmem e).mp List.mem_cons_self) with h | h
        · exact h
        · rcases List.mem_cons.mp ((hmem f).mpr List.mem_cons_self) with h' | h'
          · exact h'.symm
          · exact absurd (hehead f h') (String.lt_asymm (hfhead e h))
      subst hef
      -- the head is in neither rest, so the rests have the same entries
      refine congrArg (e :: ·) (ih hetail hftail fun x => ⟨fun hx => ?_, fun hx => ?_⟩)
      · rcases List.mem_cons.mp ((hmem x).mp (List.mem_cons_of_mem _ hx)) with rfl | h
        · exact absurd (hehead _ hx) (String.lt_irrefl _)
        · exact h
      · rcases List.mem_cons.mp ((hmem x).mpr (List.mem_cons_of_mem _ hx)) with rfl | h
        · exact absurd (hfhead _ hx) (String.lt_irrefl _)
        · exact h

/-- **Extensionality**: a catalog is determined by what is found under each name. -/
theorem ext_get? {c d : Catalog α} (h : ∀ name, c.get? name = d.get? name) : c = d := by
  obtain ⟨es, hes⟩ := c
  obtain ⟨fs, hfs⟩ := d
  have hmem : ∀ e, e ∈ es ↔ e ∈ fs := fun ⟨n, a⟩ => by
    rw [← get?_eq_some_iff (c := ⟨es, hes⟩), ← get?_eq_some_iff (c := ⟨fs, hfs⟩), h n]
  obtain rfl := eq_of_mem_iff hes hfs hmem
  rfl

/-- Entries under two names may be made in either order. -/
theorem insert_comm (c : Catalog α) {m n : String} (hne : m ≠ n) (a b : α) :
    (c.insert m a).insert n b = (c.insert n b).insert m a := by
  refine ext_get? fun name => ?_
  simp only [get?_insert]
  by_cases hn : name = n
  · have hm : name ≠ m := fun hm => hne (hm.symm.trans hn)
    rw [if_pos hn, if_neg hm, if_pos hn]
  · rw [if_neg hn, if_neg hn]

end Catalog

end Automaton
