import Automaton.Document.Toml.Reader
import Mathlib.Data.List.Nodup

/-!
# Documents without repeated names

A document keeps the repetitions of its text, so a record may hold one name twice.  TOML does not let
that happen: a name is added to a table only where it is not there yet, and whatever would write it
again is refused or goes on below it.  So every document that is read from TOML is *unambiguous*
(`Toml.unambiguous_of_read`).

The argument follows the growing tree.  `Members.alter` is the only way in which members change, and
`Members.Unambiguous.alter` is its step lemma: names stay distinct, and so does everything below them
if the change at the place itself keeps to it.  Headers and assignments are walks of such changes,
and `Toml.grow` is one walk for each statement.
-/

namespace Automaton.Document

/-- **Unambiguous documents**: no record in them writes a name twice. -/
inductive Unambiguous : Document → Prop where
  | null : Unambiguous .null
  | boolean (value : Bool) : Unambiguous (.boolean value)
  | number (literal : String) : Unambiguous (.number literal)
  | text (value : String) : Unambiguous (.text value)
  | unreadable (skippable : Bool) : Unambiguous (.unreadable skippable)
  | list {items : List Document} (below : ∀ d ∈ items, Unambiguous d) : Unambiguous (.list items)
  | record {members : List (String × Document)} (names : (members.map Prod.fst).Nodup)
      (below : ∀ m ∈ members, Unambiguous m.2) : Unambiguous (.record members)

/-- The names of a record. -/
theorem Unambiguous.nodup {ms : List (String × Document)} (h : Unambiguous (.record ms)) :
    (ms.map Prod.fst).Nodup := by
  cases h with
  | record names below => exact names

/-- What stands below a name. -/
theorem Unambiguous.of_mem {ms : List (String × Document)} (h : Unambiguous (.record ms))
    {m : String × Document} (hm : m ∈ ms) : m.2.Unambiguous := by
  cases h with
  | record names below => exact below m hm

/-- An item of a list. -/
theorem Unambiguous.of_mem_list {ds : List Document} (h : Unambiguous (.list ds)) {d : Document}
    (hd : d ∈ ds) : d.Unambiguous := by
  cases h with
  | list below => exact below d hd

namespace Toml

/-! ### Growing trees -/

/-- **Unambiguous places**: no table at or below them has a name twice. -/
inductive Tree.Unambiguous : Tree → Prop where
  | value {d : Document} (h : d.Unambiguous) : Unambiguous (.value d)
  | table {origin : Origin} {members : Members} (names : (members.map Prod.fst).Nodup)
      (below : ∀ m ∈ members, Unambiguous m.2) : Unambiguous (.table origin members)
  | tables {finished : List Members} {current : Members}
      (names : ∀ ms ∈ finished ++ [current], (ms.map Prod.fst).Nodup)
      (below : ∀ ms ∈ finished ++ [current], ∀ m ∈ ms, Unambiguous m.2) :
      Unambiguous (.tables finished current)

/-- **Unambiguous members**: each name occurs once, and so it is below each name. -/
structure Members.Unambiguous (ms : Members) : Prop where
  /-- The names are distinct. -/
  names : (ms.map Prod.fst).Nodup
  /-- So are the names below them. -/
  below : ∀ m ∈ ms, m.2.Unambiguous

theorem Tree.unambiguous_table_iff {origin : Origin} {ms : Members} :
    Tree.Unambiguous (.table origin ms) ↔ ms.Unambiguous := by
  constructor
  · rintro (_ | ⟨names, below⟩ | _)
    exact ⟨names, below⟩
  · exact fun h => .table h.names h.below

theorem Tree.unambiguous_tables_iff {finished : List Members} {current : Members} :
    Tree.Unambiguous (.tables finished current) ↔
      ∀ ms ∈ finished ++ [current], Members.Unambiguous ms := by
  constructor
  · rintro (_ | _ | ⟨names, below⟩) ms hms
    exact ⟨names ms hms, below ms hms⟩
  · exact fun h => .tables (fun ms hms => (h ms hms).names) fun ms hms => (h ms hms).below

/-- The last table of a list. -/
theorem Tree.Unambiguous.current {finished : List Members} {current : Members}
    (h : Tree.Unambiguous (.tables finished current)) : current.Unambiguous :=
  unambiguous_tables_iff.mp h current (List.mem_append_right _ (List.mem_singleton_self current))

/-- Another last table of a list. -/
theorem Tree.Unambiguous.replace {finished : List Members} {current next : Members}
    (h : Tree.Unambiguous (.tables finished current)) (hnext : next.Unambiguous) :
    Tree.Unambiguous (.tables finished next) := by
  refine unambiguous_tables_iff.mpr fun ms hms => ?_
  rcases List.mem_append.mp hms with hms | hms
  · exact unambiguous_tables_iff.mp h ms (List.mem_append_left _ hms)
  · exact List.mem_singleton.mp hms ▸ hnext

namespace Members

variable {ms ms' : Members} {name : String} {f : Option Tree → Option Tree}

theorem unambiguous_nil : Unambiguous [] :=
  ⟨.nil, fun _ h => absurd h List.not_mem_nil⟩

/-- Where names come from when a member changes: they were there, or there is one more. -/
theorem mem_names_alter (h : alter name f ms = some ms') {n : String} (hn : n ∈ ms'.map Prod.fst) :
    n ∈ ms.map Prod.fst ∨ n = name := by
  induction ms generalizing ms' with
  | nil =>
    obtain ⟨t, -, rfl⟩ := Option.map_eq_some_iff.mp h
    exact .inr (List.mem_singleton.mp hn)
  | cons m ms ih =>
    obtain ⟨n', t⟩ := m
    rw [alter] at h
    split at h
    · -- the member is changed in its place
      obtain ⟨t', -, rfl⟩ := Option.map_eq_some_iff.mp h
      exact .inl hn
    · obtain ⟨rest, hrest, rfl⟩ := Option.map_eq_some_iff.mp h
      rcases List.mem_cons.mp hn with rfl | hn
      · exact .inl List.mem_cons_self
      · exact (ih hrest hn).imp_left (List.mem_cons_of_mem _)

/-- **A member changes**, and no name is there twice, at this place or below, if that is so of what
the change itself makes. -/
theorem Unambiguous.alter (hms : ms.Unambiguous)
    (hnone : ∀ t, f none = some t → t.Unambiguous)
    (hsome : ∀ old t, old.Unambiguous → f (some old) = some t → t.Unambiguous)
    (h : alter name f ms = some ms') : ms'.Unambiguous := by
  induction ms generalizing ms' with
  | nil =>
    obtain ⟨t, ht, rfl⟩ := Option.map_eq_some_iff.mp h
    exact ⟨List.nodup_singleton _, fun m hm => List.mem_singleton.mp hm ▸ hnone t ht⟩
  | cons m ms ih =>
    obtain ⟨n, old⟩ := m
    obtain ⟨hnew, hnames⟩ := List.nodup_cons.mp hms.names
    obtain ⟨hold, hbelow⟩ := List.forall_mem_cons.mp hms.below
    rw [Members.alter] at h
    split at h
    · obtain ⟨t, ht, rfl⟩ := Option.map_eq_some_iff.mp h
      exact ⟨hms.names, List.forall_mem_cons.mpr ⟨hsome old t hold ht, hbelow⟩⟩
    · next hne =>
      obtain ⟨rest, hrest, rfl⟩ := Option.map_eq_some_iff.mp h
      -- the head stays, and below it names stay distinct by induction
      have hgrown := ih ⟨hnames, hbelow⟩ hrest
      refine ⟨List.nodup_cons.mpr ⟨fun hn => ?_, hgrown.names⟩,
        List.forall_mem_cons.mpr ⟨hold, hgrown.below⟩⟩
      exact (mem_names_alter hrest hn).elim hnew hne

/-- A change of the table at the end of a path is as good as the change itself. -/
theorem Unambiguous.follow {change : Members → Option Members}
    (hchange : ∀ ms ms', Unambiguous ms → change ms = some ms' → ms'.Unambiguous)
    {path : List String} (hms : ms.Unambiguous) (h : follow change path ms = some ms') :
    ms'.Unambiguous := by
  induction path generalizing ms ms' with
  | nil => exact hchange ms ms' hms h
  | cons step path ih =>
    refine hms.alter (fun t ht => ?_) (fun old t hold ht => ?_) h
    · -- what is missing on the way is grown from nothing
      obtain ⟨inner, hinner, rfl⟩ := Option.map_eq_some_iff.mp ht
      exact Tree.unambiguous_table_iff.mpr (ih unambiguous_nil hinner)
    · cases old with
      | value d => exact absurd ht nofun
      | table origin inner =>
        obtain ⟨inner', hinner, rfl⟩ := Option.map_eq_some_iff.mp ht
        exact Tree.unambiguous_table_iff.mpr (ih (Tree.unambiguous_table_iff.mp hold) hinner)
      | tables finished current =>
        obtain ⟨next, hnext, rfl⟩ := Option.map_eq_some_iff.mp ht
        exact hold.replace (ih hold.current hnext)

/-- Opening a table keeps to it. -/
theorem Unambiguous.open (hms : ms.Unambiguous) (h : Members.open name ms = some ms') :
    ms'.Unambiguous := by
  refine hms.alter (fun t ht => ?_) (fun old t hold ht => ?_) h
  · exact Option.some.inj ht ▸ Tree.unambiguous_table_iff.mpr unambiguous_nil
  · -- a table may be opened again if it was only implied, and nothing else may
    cases old with
    | table origin inner =>
      cases origin with
      | implied =>
        obtain rfl := Option.some.inj ht
        exact Tree.unambiguous_table_iff.mpr (Tree.unambiguous_table_iff.mp hold)
      | header | dotted => exact absurd ht nofun
    | value | tables => exact absurd ht nofun

/-- So does opening the next table of a list. -/
theorem Unambiguous.openNext (hms : ms.Unambiguous) (h : Members.openNext name ms = some ms') :
    ms'.Unambiguous := by
  refine hms.alter (fun t ht => ?_) (fun old t hold ht => ?_) h
  · obtain rfl := Option.some.inj ht
    exact Tree.unambiguous_tables_iff.mpr fun ms hms => List.mem_singleton.mp hms ▸ unambiguous_nil
  · -- an array of tables goes on with an empty one, and nothing else does
    cases old with
    | tables finished current =>
      obtain rfl := Option.some.inj ht
      refine Tree.unambiguous_tables_iff.mpr fun ms hms => ?_
      rcases List.mem_append.mp hms with hms | hms
      · exact Tree.unambiguous_tables_iff.mp hold ms hms
      · exact List.mem_singleton.mp hms ▸ unambiguous_nil
    | value | table => exact absurd ht nofun

/-- **Assigning** an unambiguous document keeps to it. -/
theorem Unambiguous.assign {d : Document} (hd : d.Unambiguous) {path : List String}
    (hms : ms.Unambiguous) (h : Members.assign name d path ms = some ms') : ms'.Unambiguous := by
  induction path generalizing ms ms' with
  | nil =>
    -- a name that is there already refuses the assignment
    refine hms.alter (fun t ht => ?_) (fun _ t _ ht => absurd ht.symm (Option.some_ne_none t)) h
    exact Option.some.inj ht ▸ .value hd
  | cons step path ih =>
    refine hms.alter (fun t ht => ?_) (fun old t hold ht => ?_) h
    · obtain ⟨inner, hinner, rfl⟩ := Option.map_eq_some_iff.mp ht
      exact Tree.unambiguous_table_iff.mpr (ih unambiguous_nil hinner)
    · cases old with
      | value => exact absurd ht nofun
      | table origin inner =>
        have hinner := Tree.unambiguous_table_iff.mp hold
        cases origin with
        | header => exact absurd ht nofun
        | dotted =>
          obtain ⟨next, hnext, rfl⟩ := Option.map_eq_some_iff.mp ht
          exact Tree.unambiguous_table_iff.mpr (ih hinner hnext)
        | implied =>
          obtain ⟨-, hpath⟩ := (Option.ite_none_left_eq_some).mp ht
          obtain ⟨next, hnext, rfl⟩ := Option.map_eq_some_iff.mp hpath
          exact Tree.unambiguous_table_iff.mpr (ih hinner hnext)
      | tables finished current =>
        obtain ⟨-, hpath⟩ := (Option.ite_none_left_eq_some).mp ht
        obtain ⟨next, hnext, rfl⟩ := Option.map_eq_some_iff.mp hpath
        exact hold.replace (ih hold.current hnext)

end Members

/-! ### The document of a tree -/

theorem membersToDocuments_eq_map (ms : Members) :
    membersToDocuments ms = ms.map fun m => (m.1, m.2.toDocument) := by
  induction ms with
  | nil => rfl
  | cons m ms ih =>
    obtain ⟨n, t⟩ := m
    rw [membersToDocuments, ih, List.map_cons]

theorem finishedToDocuments_eq_map (finished : List Members) :
    finishedToDocuments finished = finished.map fun ms => .record (membersToDocuments ms) := by
  induction finished with
  | nil => rfl
  | cons ms finished ih => rw [finishedToDocuments, ih, List.map_cons]

/-- A record of members whose names are distinct, if what they hold is unambiguous. -/
theorem unambiguous_record {ms : Members} (names : (ms.map Prod.fst).Nodup)
    (below : ∀ m ∈ ms, m.2.toDocument.Unambiguous) :
    (Document.record (membersToDocuments ms)).Unambiguous := by
  rw [membersToDocuments_eq_map]
  refine .record ?_ (List.forall_mem_map.mpr below)
  rw [List.map_map]
  exact names

/-- **What a place holds** in the end is unambiguous if the place is. -/
theorem Tree.Unambiguous.toDocument {t : Tree} (h : t.Unambiguous) :
    t.toDocument.Unambiguous := by
  induction h with
  | value h => exact h
  | table names below ih => exact unambiguous_record names ih
  | @tables finished current names below ih =>
    -- finished tables come first, and the current one is the last
    have hitems : (Tree.tables finished current).toDocument =
        .list ((finished ++ [current]).map fun ms => .record (membersToDocuments ms)) := by
      rw [Tree.toDocument, finishedToDocuments_eq_map, List.map_append, List.map_singleton]
    rw [hitems]
    exact .list (List.forall_mem_map.mpr fun ms hms => unambiguous_record (names ms hms) (ih ms hms))

/-- Unambiguous members make an unambiguous record. -/
theorem Members.Unambiguous.record {ms : Members} (h : ms.Unambiguous) :
    (Document.record (membersToDocuments ms)).Unambiguous :=
  unambiguous_record h.names fun m hm => (h.below m hm).toDocument

/-! ### Values -/

/-- A number denotes itself or nothing. -/
theorem unambiguous_readable (denotes : Bool) (word : List Char) :
    (readable denotes word).Unambiguous := by
  rw [readable]
  split
  · exact .number _
  · exact .unreadable _

/-- A point in time is a record with one name. -/
theorem unambiguous_of_moment {word : List Char} {d : Document} (h : moment word = some d) :
    d.Unambiguous := by
  simp only [moment, Option.bind_eq_bind, Option.pure_def] at h
  -- however it is written, a moment becomes a record of one member
  have hrecord : record [("moment", .text (String.ofList word))] = d := by
    split at h
    · obtain ⟨_, -, h⟩ := Option.bind_eq_some_iff.mp h
      exact Option.some.inj h
    · obtain ⟨_, -, h⟩ := Option.bind_eq_some_iff.mp h
      split at h
      · exact Option.some.inj h
      · exact absurd h nofun
  refine hrecord ▸ .record (List.nodup_singleton _) fun m hm => ?_
  exact List.mem_singleton.mp hm ▸ .text _

/-- A word in digits is a number or a point in time. -/
theorem unambiguous_of_numeric {word : List Char} {d : Document} (h : numeric word = some d) :
    d.Unambiguous := by
  -- whatever a word is read as, it is one value without members
  have hwhole : ∀ negative body, wholeNumber word negative body = some d → d.Unambiguous := by
    intro negative body h
    obtain ⟨-, h⟩ := Option.ite_none_left_eq_some.mp h
    exact Option.some.inj h ▸ unambiguous_readable _ word
  have hfloat : ∀ body, floatNumber word body = some d → d.Unambiguous := by
    intro body h
    simp only [floatNumber, Option.bind_eq_bind, Option.bind_none, Option.ite_none_left_eq_some,
      Option.bind_eq_some_iff, Option.pure_def, Option.some.injEq] at h
    obtain ⟨-, _, -, _, -, rfl⟩ := h
    exact unambiguous_readable _ word
  simp only [numeric] at h
  split at h
  · exact Option.some.inj h ▸ .number _
  · exact Option.some.inj h ▸ .number _
  · obtain ⟨-, h⟩ := Option.ite_none_right_eq_some.mp h
    unfold numberOrMoment at h
    split at h
    · exact hwhole _ _ h
    · split at h
      · exact unambiguous_of_moment h
      · split at h
        · exact hfloat _ h
        · obtain ⟨-, h⟩ := Option.ite_none_right_eq_some.mp h
          exact hwhole _ _ h
  · exact absurd h nofun

/-- A word is unambiguous: a point in time is a record with one name, and no other word is a
record. -/
theorem unambiguous_of_scalar {word : List Char} {d : Document} (h : scalar word = some d) :
    d.Unambiguous := by
  have hbased : ∀ base digits, basedNumber base word digits = some d → d.Unambiguous := by
    intro base digits h
    obtain ⟨-, h⟩ := Option.ite_none_right_eq_some.mp h
    exact Option.some.inj h ▸ unambiguous_readable _ word
  unfold scalar at h
  split at h
  · exact Option.some.inj h ▸ .boolean true
  · exact Option.some.inj h ▸ .boolean false
  · exact hbased 16 _ h
  · exact hbased 8 _ h
  · exact hbased 2 _ h
  · exact unambiguous_of_numeric h

/-- What every step of a walk keeps, the walk keeps. -/
theorem foldlM_invariant {α β : Type} {f : β → α → Option β} {P : β → Prop} {as : List α}
    {b b' : β} (hstep : ∀ b a b', a ∈ as → P b → f b a = some b' → P b') (hb : P b)
    (h : as.foldlM f b = some b') : P b' := by
  induction as generalizing b with
  | nil => exact Option.some.inj h ▸ hb
  | cons a as ih =>
    rw [List.foldlM_cons] at h
    obtain ⟨next, hnext, hrest⟩ := Option.bind_eq_some_iff.mp h
    refine ih (fun b a' b' ha' => hstep b a' b' (List.mem_cons_of_mem a ha')) ?_ hrest
    exact hstep b a next List.mem_cons_self hb hnext

variable {depth steps : Nat} {cs rest : List Char} {d : Document} {ds : List Document}
  {as : List (List String × String × Document)}

/-- Where the items of a list come from. -/
theorem items_cases (h : items depth (steps + 1) cs = some (ds, rest)) :
    ds = [] ∨ ∃ d cs' ds', value depth steps cs = some (d, cs') ∧ ds = d :: ds' ∧
      (ds' = [] ∨ ∃ cs'', items depth steps cs'' = some (ds', rest)) := by
  unfold items at h
  split at h
  · exact .inl (congrArg Prod.fst (Option.some.inj h)).symm
  · simp only [Option.bind_eq_bind, Option.bind_eq_some_iff, Option.pure_def, Prod.exists] at h
    obtain ⟨d, cs', hd, h⟩ := h
    refine .inr ⟨d, cs', ?_⟩
    split at h
    · next cs'' _ =>
      -- a comma, behind which the remaining items are
      simp only [Option.bind_eq_some_iff, Option.some.injEq, Prod.exists, Prod.mk.injEq] at h
      obtain ⟨ds', _, hds, rfl, rfl⟩ := h
      exact ⟨ds', hd, rfl, .inr ⟨_, hds⟩⟩
    · simp only [Option.some.injEq, Prod.mk.injEq] at h
      exact ⟨[], hd, h.1.symm, .inl rfl⟩
    · exact absurd h nofun

/-- Where the assignments of an inline table come from. -/
theorem pairs_cases (h : pairs depth (steps + 1) cs = some (as, rest)) :
    as = [] ∨ ∃ path name d cs₁ cs₂ as', value depth steps cs₁ = some (d, cs₂) ∧
      as = (path, name, d) :: as' ∧
      (as' = [] ∨ ∃ cs₃, pairs depth steps cs₃ = some (as', rest)) := by
  unfold pairs at h
  split at h
  · exact .inl (congrArg Prod.fst (Option.some.inj h)).symm
  · simp only [Option.bind_eq_bind, Option.bind_eq_some_iff, Option.pure_def, Prod.exists] at h
    obtain ⟨path, name, _, -, cs₁, -, d, cs₂, hd, h⟩ := h
    refine .inr ⟨path, name, d, skipBetween (cs₁.length + 1) cs₁, cs₂, ?_⟩
    split at h
    · simp only [Option.bind_eq_some_iff, Option.some.injEq, Prod.exists, Prod.mk.injEq] at h
      obtain ⟨as', _, has, rfl, rfl⟩ := h
      exact ⟨as', hd, rfl, .inr ⟨_, has⟩⟩
    · simp only [Option.some.injEq, Prod.mk.injEq] at h
      exact ⟨[], hd, h.1.symm, .inl rfl⟩
    · exact absurd h nofun

/-- Where a value comes from. -/
theorem value_cases (h : value depth (steps + 1) cs = some (d, rest)) :
    (∃ ds cs', items (depth + 1) steps cs' = some (ds, rest) ∧ d = .list ds) ∨
    (∃ as cs', pairs (depth + 1) steps cs' = some (as, rest) ∧ inlineTable as = some d) ∨
    leaf cs = some (d, rest) := by
  unfold value at h
  split at h
  · -- a list, unless it is nested too deep
    simp only [Option.bind_eq_bind, Option.bind_none, Option.ite_none_left_eq_some,
      Option.bind_eq_some_iff, Option.pure_def, Option.some.injEq, Prod.exists,
      Prod.mk.injEq] at h
    obtain ⟨-, ds, _, hds, rfl, rfl⟩ := h
    exact .inl ⟨ds, _, hds, rfl⟩
  · -- an inline table, whose members are entered like those of any other
    simp only [Option.bind_eq_bind, Option.bind_none, Option.ite_none_left_eq_some,
      Option.bind_eq_some_iff, Option.pure_def, Option.some.injEq, Prod.exists,
      Prod.mk.injEq] at h
    obtain ⟨-, as, _, has, _, hd, rfl, rfl⟩ := h
    exact .inr (.inl ⟨as, _, has, hd⟩)
  · exact .inr (.inr h)

/-- A leaf is a text or a word. -/
theorem unambiguous_of_leaf (h : leaf cs = some (d, rest)) : d.Unambiguous := by
  unfold leaf at h
  -- two kinds of texts, and all other words
  split at h
  · obtain ⟨r, -, hr⟩ := Option.map_eq_some_iff.mp h
    obtain ⟨rfl, -⟩ := Prod.mk.inj hr
    exact .text _
  · obtain ⟨r, -, hr⟩ := Option.map_eq_some_iff.mp h
    obtain ⟨rfl, -⟩ := Prod.mk.inj hr
    exact .text _
  · obtain ⟨d', hd', hr⟩ := Option.map_eq_some_iff.mp h
    obtain ⟨rfl, -⟩ := Prod.mk.inj hr
    exact unambiguous_of_scalar hd'

/-- An inline table of unambiguous values is unambiguous. -/
theorem unambiguous_of_inlineTable (hvalues : ∀ a ∈ as, a.2.2.Unambiguous)
    (h : inlineTable as = some d) : d.Unambiguous := by
  simp only [inlineTable, Option.bind_eq_bind, Option.bind_eq_some_iff, Option.pure_def,
    Option.some.injEq] at h
  obtain ⟨ms, hms, rfl⟩ := h
  -- the table is grown from nothing by its assignments
  refine Members.Unambiguous.record (foldlM_invariant ?_ Members.unambiguous_nil hms)
  exact fun ms a ms' ha hms hassign => hms.assign (hvalues a ha) hassign

/-- **Values** are unambiguous, and so is what lists and inline tables are made of. -/
theorem unambiguous_of_steps (steps : Nat) :
    (∀ depth cs d rest, value depth steps cs = some (d, rest) → d.Unambiguous) ∧
    (∀ depth cs ds rest, items depth steps cs = some (ds, rest) → ∀ d ∈ ds, d.Unambiguous) ∧
    ∀ depth cs as rest, pairs depth steps cs = some (as, rest) → ∀ a ∈ as, a.2.2.Unambiguous := by
  induction steps with
  | zero => exact ⟨nofun, nofun, nofun⟩
  | succ steps ih =>
    obtain ⟨ihvalue, ihitems, ihpairs⟩ := ih
    -- values hold items and pairs, and these hold values: one induction for the three
    refine ⟨fun depth cs d rest h => ?_, fun depth cs ds rest h => ?_, fun depth cs as rest h => ?_⟩
    · rcases value_cases h with ⟨ds, cs', hds, rfl⟩ | ⟨as, cs', has, hd⟩ | hleaf
      · exact .list (ihitems _ _ _ _ hds)
      · exact unambiguous_of_inlineTable (ihpairs _ _ _ _ has) hd
      · exact unambiguous_of_leaf hleaf
    · rcases items_cases h with rfl | ⟨d, cs', ds', hd, rfl, hrest⟩
      · exact fun _ hd => absurd hd List.not_mem_nil
      · refine List.forall_mem_cons.mpr ⟨ihvalue _ _ _ _ hd, ?_⟩
        rcases hrest with rfl | ⟨cs'', hds⟩
        · exact fun _ hd => absurd hd List.not_mem_nil
        · exact ihitems _ _ _ _ hds
    · rcases pairs_cases h with rfl | ⟨path, name, d, cs₁, cs₂, as', hd, rfl, hrest⟩
      · exact fun _ ha => absurd ha List.not_mem_nil
      · refine List.forall_mem_cons.mpr ⟨ihvalue _ _ _ _ hd, ?_⟩
        rcases hrest with rfl | ⟨cs₃, has⟩
        · exact fun _ ha => absurd ha List.not_mem_nil
        · exact ihpairs _ _ _ _ has

/-! ### Statements -/

/-- **Statements** that assign something unambiguous, if they assign anything. -/
def Statement.Unambiguous : Statement → Prop
  | .assign _ _ d => d.Unambiguous
  | .header _ _ => True
  | .nextHeader _ _ => True

/-- A header assigns nothing. -/
theorem unambiguous_of_header {s : Statement} (h : header cs = some (s, rest)) :
    s.Unambiguous := by
  unfold header at h
  split at h
  · simp only [Option.bind_eq_bind, Option.bind_eq_some_iff, Option.pure_def, Option.some.injEq,
      Prod.exists, Prod.mk.injEq] at h
    obtain ⟨_, _, _, -, _, -, _, -, rfl, -⟩ := h
    trivial
  · simp only [Option.bind_eq_bind, Option.bind_eq_some_iff, Option.pure_def, Option.some.injEq,
      Prod.exists, Prod.mk.injEq] at h
    obtain ⟨_, _, _, -, _, -, rfl, -⟩ := h
    trivial

/-- An assignment assigns a value. -/
theorem unambiguous_of_assignment {s : Statement} (h : assignment cs = some (s, rest)) :
    s.Unambiguous := by
  simp only [assignment, Option.bind_eq_bind, Option.bind_eq_some_iff, Option.pure_def,
    Option.some.injEq, Prod.exists, Prod.mk.injEq] at h
  obtain ⟨path, name, _, -, cs, -, d, _, hd, rfl, -⟩ := h
  exact (unambiguous_of_steps _).1 _ _ _ _ hd

/-- The statements of a text. -/
theorem unambiguous_of_statements {ss : List Statement} (h : statements steps cs = some ss) :
    ∀ s ∈ ss, s.Unambiguous := by
  induction steps generalizing cs ss with
  | zero => exact absurd h nofun
  | succ steps ih =>
    unfold statements at h
    -- what is left may be nothing, a header, a line without a statement, or an assignment
    split at h
    · exact Option.some.inj h ▸ fun _ hs => absurd hs List.not_mem_nil
    · simp only [Option.bind_eq_bind, Option.bind_eq_some_iff, Option.pure_def,
        Option.some.injEq, Prod.exists] at h
      obtain ⟨s, _, hs, _, -, rest, hrest, rfl⟩ := h
      exact List.forall_mem_cons.mpr ⟨unambiguous_of_header hs, ih hrest⟩
    · split at h
      · exact Option.some.inj h ▸ fun _ hs => absurd hs List.not_mem_nil
      · exact ih h
      · simp only [Option.bind_eq_bind, Option.bind_eq_some_iff, Option.pure_def,
          Option.some.injEq, Prod.exists] at h
        obtain ⟨s, _, hs, _, -, rest, hrest, rfl⟩ := h
        exact List.forall_mem_cons.mpr ⟨unambiguous_of_assignment hs, ih hrest⟩

/-- **A statement** leaves the document unambiguous. -/
theorem unambiguous_of_grow {state state' : Members × List String} {s : Statement}
    (hstate : state.1.Unambiguous) (hs : s.Unambiguous) (h : grow state s = some state') :
    state'.1.Unambiguous := by
  -- each statement is one walk down the tree, with a change at its end
  cases s with
  | header path name =>
    obtain ⟨root, hroot, h⟩ := Option.bind_eq_some_iff.mp h
    obtain rfl := Option.some.inj h
    exact hstate.follow (fun _ _ hms => hms.open) hroot
  | nextHeader path name =>
    obtain ⟨root, hroot, h⟩ := Option.bind_eq_some_iff.mp h
    obtain rfl := Option.some.inj h
    exact hstate.follow (fun _ _ hms => hms.openNext) hroot
  | assign path name d =>
    obtain ⟨root, hroot, h⟩ := Option.bind_eq_some_iff.mp h
    obtain rfl := Option.some.inj h
    exact hstate.follow (fun _ _ hms => hms.assign hs) hroot

/-- **No name is written twice** in a document that is read from TOML. -/
theorem unambiguous_of_read {text : String} (h : read text = some d) : d.Unambiguous := by
  simp only [read, Option.bind_eq_bind, Option.bind_eq_some_iff, Option.pure_def,
    Option.some.injEq, Prod.exists] at h
  obtain ⟨ss, hss, root, _, hroot, rfl⟩ := h
  -- the statements are walked one by one, and each of them keeps to it
  have hgrown := foldlM_invariant (P := fun state => state.1.Unambiguous)
    (fun _ s _ hs hstate => unambiguous_of_grow hstate (unambiguous_of_statements hss s hs))
    Members.unambiguous_nil hroot
  exact Members.Unambiguous.record hgrown

end Toml

end Automaton.Document
