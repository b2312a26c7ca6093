import Automaton.Name
import Automaton.Table.Basic

/-!
# The states of a table

States are not declared.  The states of a table are the names that its events refer to, each taken
once and listed in increasing order; the place of a name in this list is its *ordinal*, and a new
machine starts in the state with ordinal zero.

A table without events refers to no state at all and has no `States`, so that there always is a
state to start in.

* `States.ofTable` derives the states, and `States.mem_names_ofTable` says which they are.
* `States.ordinal?` is the number of a state, `States.symbol` its generated constant.  Numbers are
  found by halving (`States.searchBetween`).
* `States.ordinal?_eq_some_iff` says that looking up inverts numbering.
-/

namespace Automaton

/-- **The states of a table**, in increasing order. -/
structure States where
  /-- The names. -/
  names : List String
  /-- They increase, so each is there once. -/
  ordered : names.Pairwise (· < ·)
  /-- There is at least one. -/
  inhabited : names ≠ []
  deriving DecidableEq

namespace States

/-! ### Sorting names -/

/-- Puts a name into its place, unless it is there already. -/
def insertName (name : String) : List String → List String
  | [] => [name]
  | n :: ns =>
    if name < n then name :: n :: ns
    else if name = n then n :: ns
    else n :: insertName name ns

@[simp]
theorem mem_insertName {name x : String} {ns : List String} :
    x ∈ insertName name ns ↔ x = name ∨ x ∈ ns := by
  induction ns with
  | nil => simp [insertName]
  | cons n ns ih =>
    rw [insertName]
    split
    · simp
    · split
      · next heq => subst heq; simp
      · simp only [List.mem_cons, ih]
        exact or_left_comm

theorem insertName_pairwise {name : String} {ns : List String} (h : ns.Pairwise (· < ·)) :
    (insertName name ns).Pairwise (· < ·) := by
  induction ns with
  | nil => simp [insertName]
  | cons n ns ih =>
    obtain ⟨hhead, htail⟩ := List.pairwise_cons.mp h
    rw [insertName]
    split
    · next hlt =>
      refine List.pairwise_cons.mpr ⟨fun x hx => ?_, h⟩
      rcases List.mem_cons.mp hx with rfl | hx
      · exact hlt
      · exact String.lt_trans hlt (hhead x hx)
    · next hlt =>
      split
      · exact h
      · next hne =>
        refine List.pairwise_cons.mpr ⟨fun x hx => ?_, ih htail⟩
        rcases mem_insertName.mp hx with rfl | hx
        · exact lt_of_not_lt_of_ne hlt hne
        · exact hhead x hx

/-- **Sorting**: the names of a list, each once, in increasing order. -/
def sorted (ns : List String) : List String :=
  ns.foldr insertName []

@[simp]
theorem mem_sorted {x : String} {ns : List String} : x ∈ sorted ns ↔ x ∈ ns := by
  induction ns with
  | nil => simp [sorted]
  | cons n ns ih =>
    rw [sorted, List.foldr_cons, ← sorted, mem_insertName, ih, List.mem_cons]

theorem sorted_pairwise (ns : List String) : (sorted ns).Pairwise (· < ·) := by
  induction ns with
  | nil => simp [sorted]
  | cons n ns ih => exact insertName_pairwise ih

/-! ### Deriving the states -/

/-- A table with events refers to some state. -/
theorem sorted_references_ne_nil {t : Table} (h : t.events.entries ≠ []) :
    sorted t.references ≠ [] := by
  obtain ⟨⟨n, e⟩, hmem⟩ := List.exists_mem_of_ne_nil _ h
  have hdest : e.destination ∈ sorted t.references :=
    mem_sorted.mpr (Table.mem_references.mpr ⟨n, e, hmem, .inr rfl⟩)
  exact List.ne_nil_of_mem hdest

/-- **The states of a table**, unless it has no events. -/
def ofTable (t : Table) : Option States :=
  if h : t.events.entries = [] then none
  else some ⟨sorted t.references, sorted_pairwise _, sorted_references_ne_nil h⟩

/-- A table has states exactly if it has events. -/
theorem ofTable_eq_none_iff {t : Table} : ofTable t = none ↔ t.events.entries = [] := by
  by_cases h : t.events.entries = [] <;> simp [ofTable, h]

/-- The states of a table are the sorted references. -/
theorem names_ofTable {t : Table} {s : States} (h : ofTable t = some s) :
    s.names = sorted t.references := by
  rw [ofTable] at h
  split at h
  · simp at h
  · simp only [Option.some.injEq] at h
    subst h
    rfl

/-- The states of a table are those that its events refer to. -/
theorem mem_names_ofTable {t : Table} {s : States} (h : ofTable t = some s) {name : String} :
    name ∈ s.names ↔ name ∈ t.references := by
  rw [names_ofTable h, mem_sorted]

/-! ### Looking names up -/

/-- **Halving**: looks for a name among increasing ones, between two places. -/
def searchBetween (names : Array String) (name : String) (low high : Nat)
    (h : high ≤ names.size) : Option Nat :=
  if hlt : low < high then
    let middle := (low + high) / 2
    have hmiddle : middle < high := by omega
    let probe := names[middle]
    if name < probe then searchBetween names name low middle (by omega)
    else if name = probe then some middle
    else searchBetween names name (middle + 1) high h
  else none
termination_by high - low

/-- Increasing names stand in the order of their places. -/
theorem names_lt_iff {names : Array String} (hs : names.toList.Pairwise (· < ·)) {i j : Nat}
    (hi : i < names.size) (hj : j < names.size) : names[i] < names[j] ↔ i < j := by
  have before : ∀ {i j : Nat} (hi : i < names.size) (hj : j < names.size),
      i < j → names[i] < names[j] := fun hi hj => List.pairwise_iff_getElem.mp hs _ _ hi hj
  refine ⟨fun hlt => ?_, before hi hj⟩
  rcases Nat.lt_trichotomy i j with hij | hij | hij
  · exact hij
  · subst hij
    exact absurd hlt (String.lt_irrefl _)
  · exact absurd hlt (String.lt_asymm (before hj hi hij))

/-- **Halving finds** a name between two places exactly if it stands there. -/
theorem searchBetween_eq_some_iff {names : Array String} (hs : names.toList.Pairwise (· < ·))
    {name : String} {low high i : Nat} {h : high ≤ names.size} :
    searchBetween names name low high h = some i ↔
      low ≤ i ∧ i < high ∧ names[i]? = some name := by
  fun_induction searchBetween names name low high h with
  | case1 low high h hlt middle hmiddle probe hbefore ih =>
    rw [ih]
    refine and_congr_right fun _ => ⟨fun ⟨hi, hname⟩ => ⟨by omega, hname⟩, fun ⟨hi, hname⟩ => ?_⟩
    -- the name is after the one probed, so it cannot be in the half that is dropped
    obtain ⟨hi', hname'⟩ := Array.getElem?_eq_some_iff.mp hname
    exact ⟨(names_lt_iff hs hi' (by omega)).mp (hname' ▸ hbefore), hname⟩
  | case2 low high h hlt middle hmiddle probe hnot heq =>
    rw [Option.some.injEq]
    constructor
    · rintro rfl
      exact ⟨by omega, hmiddle, heq ▸ Array.getElem?_eq_getElem _⟩
    · rintro ⟨-, -, hname⟩
      obtain ⟨hi, hname⟩ := Array.getElem?_eq_some_iff.mp hname
      -- no other place holds the name, as names increase
      have hno : ¬ names[i] < names[middle] ∧ ¬ names[middle] < names[i] := by
        rw [hname, heq]
        exact ⟨String.lt_irrefl _, String.lt_irrefl _⟩
      rw [names_lt_iff hs, names_lt_iff hs] at hno
      omega
  | case3 low high h hlt middle hmiddle probe hnot hne ih =>
    rw [ih]
    -- the probe is after the name, and so is all above it
    have hafter : probe < name := lt_of_not_lt_of_ne hnot hne
    constructor
    · rintro ⟨hi, hrest⟩
      exact ⟨by omega, hrest⟩
    · rintro ⟨-, hi, hname⟩
      obtain ⟨hi', hname'⟩ := Array.getElem?_eq_some_iff.mp hname
      exact ⟨(names_lt_iff hs (by omega) hi').mp (hname' ▸ hafter), hi, hname⟩
  | case4 low high h hge =>
    simp only [reduceCtorEq, false_iff]
    rintro ⟨hlow, hhigh, -⟩
    omega

/-! ### Numbering -/

/-- **The number of a state**, found by halving. -/
def ordinal? (s : States) (name : String) : Option Nat :=
  searchBetween s.names.toArray name 0 s.names.length (by simp)

/-- Whether a name is one of the states. -/
def contains (s : States) (name : String) : Bool :=
  (s.ordinal? name).isSome

/-- How many states there are. -/
def size (s : States) : Nat :=
  s.names.length

/-- **The state that machines start in.** -/
def initial (s : States) : String :=
  s.names.head s.inhabited

/-- The states with their numbers, in increasing order. -/
def numbered (s : States) : List (Nat × String) :=
  s.names.zipIdx.map fun (name, ordinal) => (ordinal, name)

/-- **The complaint about a name** that is none of the states. -/
structure Unknown where
  /-- The name. -/
  name : String
  deriving DecidableEq, Repr

/-- The generated constant of a state. -/
def symbol (s : States) (name : String) : Except Unknown String :=
  if s.contains name then .ok (Symbol.ofState name) else .error ⟨name⟩

/-- Names that increase are all different. -/
theorem nodup (s : States) : s.names.Nodup :=
  List.Pairwise.imp
    (fun {a b} (hlt : a < b) (heq : a = b) => absurd (heq ▸ hlt) (String.lt_irrefl b)) s.ordered

/-- **Looking up inverts numbering.** -/
theorem ordinal?_eq_some_iff {s : States} {name : String} {i : Nat} :
    s.ordinal? name = some i ↔ s.names[i]? = some name := by
  rw [ordinal?, searchBetween_eq_some_iff s.ordered]
  simp only [List.getElem?_toArray, Nat.zero_le, true_and, and_iff_right_iff_imp]
  intro h
  exact (List.getElem?_eq_some_iff.mp h).1

/-- A name is one of the states exactly if it is listed. -/
theorem contains_iff {s : States} {name : String} : s.contains name = true ↔ name ∈ s.names := by
  rw [contains, Option.isSome_iff_exists, List.mem_iff_getElem?]
  exact exists_congr fun _ => ordinal?_eq_some_iff

/-- States have symbols. -/
theorem symbol_eq_ok {s : States} {name : String} (h : name ∈ s.names) :
    s.symbol name = .ok (Symbol.ofState name) := by
  rw [symbol, if_pos (contains_iff.mpr h)]

/-- A numbered state stands at its number. -/
theorem mem_numbered {s : States} {name : String} {i : Nat} :
    (i, name) ∈ s.numbered ↔ s.names[i]? = some name := by
  simp only [numbered, List.mem_map, Prod.mk.injEq, Prod.exists, List.mem_zipIdx_iff_getElem?]
  constructor
  · rintro ⟨n, j, hn, rfl, rfl⟩
    exact hn
  · intro hn
    exact ⟨name, i, hn, rfl, rfl⟩

end States

end Automaton
