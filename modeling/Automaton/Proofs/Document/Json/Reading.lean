import Automaton.Proofs.Document.Json.Lexical
import Mathlib.Data.List.DropRight

/-!
# Reading what is spelled

The reader finds in a text what the grammar says that it denotes (`Json.read_of_writes`).

For each kind of phrase, `Phrase.Reads` says what reading it comes to, whatever follows, and
`Spelling.reads` is the induction over the rules of spelling.  Two things carry it:

* **Steps.**  Two steps for each character are enough, because every list and every record spends
  two characters, and so four steps, on its brackets.
* **Beginnings.**  The reader decides by the first character behind blanks what comes next, and
  `Spelling.opens` says which ones are possible.
-/

namespace Automaton.Document.Json

/-! ### Records -/

/-- A record of readable names. -/
theorem recordOf_map_some (ms : List (String × Document)) :
    recordOf (ms.map fun m => (some m.1, m.2)) = .record ms := by
  have hmembers : (ms.map fun m => (some m.1, m.2)).mapM
      (fun m : Option String × Document => m.1.map (·, m.2)) = some ms := by
    induction ms with
    | nil => rfl
    | cons m ms ih => rw [List.map_cons, List.mapM_cons, ih]; rfl
  rw [recordOf, hmembers]

/-- One name that is no text makes a record unreadable. -/
theorem recordOf_of_none {ms : List (Option String × Document)} (h : ∃ m ∈ ms, m.1 = none) :
    recordOf ms = .unreadable true := by
  -- one member without a name spoils the whole record
  have hmembers : ms.mapM (fun m => m.1.map (·, m.2)) = none := by
    induction ms with
    | nil => exact absurd h.choose_spec.1 List.not_mem_nil
    | cons m ms ih =>
      rw [List.mapM_cons]
      cases hm : m.1 with
      | none => rfl
      | some n =>
        obtain ⟨m', hm', hnone⟩ := h
        rcases List.mem_cons.mp hm' with rfl | hm'
        · exact absurd (hm.symm.trans hnone) nofun
        · rw [ih ⟨m', hm', hnone⟩]
          rfl
  rw [recordOf, hmembers]

/-! ### Blanks in front -/

theorem skipBlanks_skipBlanks (cs : List Char) : skipBlanks (skipBlanks cs) = skipBlanks cs :=
  List.dropWhile_idempotent _ _

theorem value_skipBlanks (steps : Nat) (cs : List Char) :
    value steps (skipBlanks cs) = value steps cs := by
  cases steps with
  | zero => rfl
  | succ steps =>
    unfold value
    rw [skipBlanks_skipBlanks]

theorem items_skipBlanks (steps : Nat) (cs : List Char) :
    items steps (skipBlanks cs) = items steps cs := by
  cases steps with
  | zero => rfl
  | succ steps => rw [items, items, value_skipBlanks]

theorem members_skipBlanks (steps : Nat) (cs : List Char) :
    members steps (skipBlanks cs) = members steps cs := by
  cases steps with
  | zero => rfl
  | succ steps =>
    unfold members
    rw [skipBlanks_skipBlanks]

/-! ### Beginnings -/

/-- **How a phrase begins**, behind blanks: no value and no list begins with the bracket that ends a
list, and all members begin with a quote. -/
def Phrase.Opens (cs : List Char) : Phrase → Prop
  | .value _ => ∃ c tail, cs = c :: tail ∧ isBlank c = false ∧ c ≠ ']'
  | .entry _ | .items _ => ∀ rest, ∃ c tail, skipBlanks (cs ++ rest) = c :: tail ∧ c ≠ ']'
  | .member _ _ | .members _ => ∀ rest, ∃ tail, skipBlanks (cs ++ rest) = '"' :: tail

/-- **A number begins** with its sign or a digit, and so with nothing else. -/
theorem Numeral.exists_cons {cs : List Char} (h : Numeral cs) :
    ∃ c tail, cs = c :: tail ∧ isBlank c = false ∧
      ∀ x : Char, x ≠ '-' → x.isDigit = false → c ≠ x := by
  -- a sign or a digit comes first, and neither is a blank or closes anything
  have hfirst : ∃ c tail, cs = c :: tail ∧ (c = '-' ∨ c.isDigit = true) := by
    obtain @⟨sign, whole, fraction, exponent, rfl | rfl, hwhole, -, -⟩ := h
    · cases hwhole with
      | zero => exact ⟨'0', _, rfl, .inr (by decide)⟩
      | digits h hzero =>
        cases whole with
        | nil => exact absurd rfl h.ne_nil
        | cons d ds => exact ⟨d, _, rfl, .inr (h.isDigit d List.mem_cons_self)⟩
    · exact ⟨'-', _, rfl, .inl rfl⟩
  obtain ⟨c, tail, rfl, hc⟩ := hfirst
  have hne : ∀ x : Char, x ≠ '-' → x.isDigit = false → c ≠ x := by
    rintro x hsign hdigit rfl
    rcases hc with hc | hc
    · exact hsign hc
    · exact absurd (hdigit.symm.trans hc) nofun
  refine ⟨c, tail, rfl, Bool.eq_false_iff.mpr fun hblank => ?_, hne⟩
  refine hne c (fun hsign => ?_) (isDigit_of_isBlank hblank) rfl
  exact absurd (hsign ▸ hblank) (by decide)

/-- **Phrases open** as they should. -/
theorem Spelling.opens {p : Phrase} {cs : List Char} (h : Spelling p cs) : p.Opens cs := by
  induction h with
  | nullWord | trueWord | falseWord | emptyList | list | emptyRecord | record | garbledRecord =>
    exact ⟨_, _, rfl, by decide, by decide⟩
  | number h =>
    obtain ⟨c, tail, rfl, hblank, hne⟩ := h.exists_cons
    exact ⟨c, tail, rfl, hblank, hne ']' (by decide) (by decide)⟩
  | text h | garbled h =>
    obtain ⟨tail, rfl⟩ := h.exists_tail
    exact ⟨_, _, rfl, by decide, by decide⟩
  | @entry d before cs after hbefore h hafter ih =>
    obtain ⟨c, tail, rfl, hblank, hc⟩ := ih
    intro rest
    -- the blanks before an entry are skipped, so its own first character decides
    refine ⟨c, tail ++ (after ++ rest), ?_, hc⟩
    rw [List.append_assoc, skipBlanks_append hbefore, List.append_assoc, List.cons_append,
      skipBlanks_cons hblank]
  | item h ih => exact ih
  | items h hrest ih ihrest =>
    intro rest
    rw [List.append_assoc]
    exact ih _
  | @named name d before literal after cs hbefore hname hafter h ih =>
    obtain ⟨tail, rfl⟩ := hname.exists_tail
    intro rest
    -- a member begins with the quotation mark of its name
    refine ⟨tail ++ ((after ++ ':' :: cs) ++ rest), ?_⟩
    rw [List.append_assoc, skipBlanks_append hbefore, List.append_assoc, List.cons_append,
      skipBlanks_cons (by decide)]
  | member h ih => exact ih
  | members h hrest ih ihrest =>
    intro rest
    rw [List.append_assoc]
    exact ih _

/-! ### Phrases -/

/-- What is read behind an item: the items after it, or the end of the list. -/
def itemsAfter (steps : Nat) (d : Document) : List Char → Option (List Document × List Char)
  | ',' :: cs => do
    let (ds, cs) ← Json.items steps cs
    pure (d :: ds, cs)
  | ']' :: cs => pure ([d], cs)
  | _ => none

/-- What is read behind a member: the members after it, or the end of the record. -/
def membersAfter (steps : Nat) (m : Option String × Document) :
    List Char → Option (List (Option String × Document) × List Char)
  | ',' :: cs => do
    let (ms, cs) ← Json.members steps cs
    pure (m :: ms, cs)
  | '\x7d' :: cs => pure ([m], cs)
  | _ => none

/-- **What reading a phrase comes to**, if there are steps enough: what it denotes, and what follows
it. -/
def Phrase.Reads (cs : List Char) : Phrase → Prop
  | .value d => ∀ steps rest, 2 * cs.length ≤ steps → Closed rest →
      Json.value steps (cs ++ rest) = some (d, rest)
  | .entry d => ∀ steps rest, 2 * cs.length ≤ steps → Closed rest →
      ∃ rest', Json.value steps (cs ++ rest) = some (d, rest') ∧ skipBlanks rest' = skipBlanks rest
  | .items ds => ∀ steps rest, 2 * cs.length < steps →
      Json.items steps (cs ++ ']' :: rest) = some (ds, rest)
  | .member name d => ∀ steps rest, 2 * cs.length ≤ steps → Closed rest →
      Json.members (steps + 1) (cs ++ rest) = membersAfter steps (name, d) (skipBlanks rest)
  | .members ms => ∀ steps rest, 2 * cs.length < steps →
      Json.members steps (cs ++ '\x7d' :: rest) = some (ms, rest)

/-- A value that is neither a list nor a record. -/
theorem value_scalar {c : Char} (hblank : isBlank c = false) (hbracket : c ≠ '[')
    (hbrace : c ≠ '\x7b') (steps : Nat) (cs : List Char) :
    value (steps + 1) (c :: cs) = scalar (c :: cs) := by
  rw [value.eq_def]
  simp only [skipBlanks_cons hblank]
  split
  · next h => exact absurd (List.cons.inj h).1 hbracket
  · next h => exact absurd (List.cons.inj h).1 hbrace
  · rfl

/-- A string is a value. -/
theorem scalar_string {s : Option String} {tail : List Char} (h : Literal s ('"' :: tail))
    (rest : List Char) :
    scalar ('"' :: (tail ++ rest)) = match s with
      | some s => some (.text s, rest)
      | none => some (.unreadable true, rest) := by
  rw [scalar, string_of_literal h]
  cases s <;> rfl

/-- So is a number. -/
theorem scalar_number {cs : List Char} (h : Numeral cs) (rest : List Char) (hrest : Closed rest) :
    scalar (cs ++ rest) = some (.number (String.ofList cs), rest) := by
  obtain ⟨c, tail, rfl, -, hne⟩ := h.exists_cons
  have hnumber := number_append h hrest
  rw [List.cons_append] at hnumber ⊢
  rw [scalar.eq_def]
  -- a number begins like none of the other scalars
  split
  · next hcs => exact absurd (List.cons.inj hcs).1 (hne _ (by decide) (by decide))
  · next hcs => exact absurd (List.cons.inj hcs).1 (hne _ (by decide) (by decide))
  · next hcs => exact absurd (List.cons.inj hcs).1 (hne _ (by decide) (by decide))
  · next hcs => exact absurd (List.cons.inj hcs).1 (hne _ (by decide) (by decide))
  · rw [hnumber]
    rfl

/-- **The first character** of a value leaves steps for the others. -/
theorem reads_value_cons {c : Char} {tail : List Char} {d : Document}
    (h : ∀ steps rest, 2 * tail.length < steps → Closed rest →
      Json.value (steps + 1) (c :: (tail ++ rest)) = some (d, rest)) :
    (Phrase.value d).Reads (c :: tail) := by
  intro steps rest hsteps hrest
  rw [List.length_cons] at hsteps
  obtain ⟨steps, rfl⟩ := Nat.exists_eq_add_one.mpr (show 0 < steps by omega)
  exact h steps rest (by omega) hrest

/-- **A value on one level** is read in one step. -/
theorem reads_of_scalar {c : Char} {tail : List Char} {d : Document} (hblank : isBlank c = false)
    (hbracket : c ≠ '[') (hbrace : c ≠ '\x7b')
    (h : ∀ rest, Closed rest → scalar (c :: (tail ++ rest)) = some (d, rest)) :
    (Phrase.value d).Reads (c :: tail) := by
  refine reads_value_cons fun steps rest _ hrest => ?_
  rw [value_scalar hblank hbracket hbrace, h rest hrest]

/-- **A number** is read. -/
theorem reads_number {cs : List Char} (h : Numeral cs) :
    (Phrase.value (.number (String.ofList cs))).Reads cs := by
  have hscalar := scalar_number h
  obtain ⟨c, tail, rfl, hblank, hne⟩ := h.exists_cons
  exact reads_of_scalar hblank (hne '[' (by decide) (by decide))
    (hne '\x7b' (by decide) (by decide)) hscalar

/-- **A list** is read if its items are. -/
theorem reads_list {ds : List Document} {cs : List Char} (hopens : (Phrase.items ds).Opens cs)
    (h : (Phrase.items ds).Reads cs) : (Phrase.value (.list ds)).Reads ('[' :: (cs ++ [']'])) := by
  refine reads_value_cons fun steps rest hsteps _ => ?_
  rw [List.length_append] at hsteps
  have hitems : items steps (cs ++ ']' :: rest) = some (ds, rest) := h steps rest (by omega)
  -- the first item does not close the list, so the reader goes into its items
  obtain ⟨c, tail, hcs, hc⟩ := hopens (']' :: rest)
  rw [List.append_assoc, List.singleton_append]
  unfold value
  rw [skipBlanks_cons (by decide)]
  simp only [hcs]
  split
  · next heq => exact absurd (List.cons.inj heq).1 hc
  · rw [← hcs, items_skipBlanks, hitems]
    rfl

/-- **A record** is read if its members are. -/
theorem reads_record {ms : List (Option String × Document)} {cs : List Char}
    (hopens : (Phrase.members ms).Opens cs) (h : (Phrase.members ms).Reads cs) :
    (Phrase.value (recordOf ms)).Reads ('\x7b' :: (cs ++ ['\x7d'])) := by
  refine reads_value_cons fun steps rest hsteps _ => ?_
  rw [List.length_append] at hsteps
  have hmembers : members steps (cs ++ '\x7d' :: rest) = some (ms, rest) :=
    h steps rest (by omega)
  -- a member opens with a quotation mark, so the reader goes into the members
  obtain ⟨tail, hcs⟩ := hopens ('\x7d' :: rest)
  rw [List.append_assoc, List.singleton_append]
  unfold value
  rw [skipBlanks_cons (by decide)]
  simp only [hcs]
  split
  · next heq => exact absurd (List.cons.inj heq).1 (by decide)
  · rw [← hcs, members_skipBlanks, hmembers]
    rfl

/-- **The first item** of a list, and what comes after it. -/
theorem items_entry {d : Document} {cs rest : List Char} (h : (Phrase.entry d).Reads cs)
    {steps : Nat} (hsteps : 2 * cs.length ≤ steps) (hrest : Closed rest) :
    items (steps + 1) (cs ++ rest) = itemsAfter steps d (skipBlanks rest) := by
  obtain ⟨rest', hvalue, hskip⟩ := h steps rest hsteps hrest
  rw [items, hvalue, ← hskip]
  rfl

/-- What closes a value or stands between two. -/
theorem closed_cons {c : Char} (h : c = ',' ∨ c = ']' ∨ c = '\x7d') (cs : List Char) :
    Closed (c :: cs) :=
  fun _ hc => Option.some.inj hc ▸ .inr h

/-- **Every phrase is read.** -/
theorem Spelling.reads {p : Phrase} {cs : List Char} (h : Spelling p cs) : p.Reads cs := by
  induction h with
  | nullWord | trueWord | falseWord =>
    exact reads_of_scalar (by decide) (by decide) (by decide) fun rest _ => rfl
  | number h => exact reads_number h
  | text h | garbled h =>
    obtain ⟨tail, rfl⟩ := h.exists_tail
    exact reads_of_scalar (by decide) (by decide) (by decide) fun rest _ => scalar_string h rest
  | emptyList h =>
    -- nothing but blanks stands between the brackets
    refine reads_value_cons fun steps rest _ _ => ?_
    rw [List.append_assoc, List.singleton_append]
    unfold value
    rw [skipBlanks_cons (by decide)]
    simp only [skipBlanks_append h, skipBlanks_cons (show isBlank ']' = false by decide)]
  | emptyRecord h =>
    refine reads_value_cons fun steps rest _ _ => ?_
    rw [List.append_assoc, List.singleton_append]
    unfold value
    rw [skipBlanks_cons (by decide)]
    simp only [skipBlanks_append h, skipBlanks_cons (show isBlank '\x7d' = false by decide)]
  | list h ih => exact reads_list h.opens ih
  | @record ms cs h ih =>
    -- every name can be read, so the members make a record
    have hread := reads_record h.opens ih
    rwa [recordOf_map_some] at hread
  | garbledRecord h hnone ih =>
    -- some name cannot, and the record is unreadable as a whole
    have hread := reads_record h.opens ih
    rwa [recordOf_of_none hnone] at hread
  | @entry d before cs after hbefore h hafter ih =>
    intro steps rest hsteps hrest
    -- an entry spends no steps of its own: its value has all of them
    have hlength : 2 * cs.length ≤ steps := by
      simp only [List.length_append] at hsteps
      omega
    refine ⟨after ++ rest, ?_, skipBlanks_append hafter rest⟩
    rw [List.append_assoc, ← value_skipBlanks, skipBlanks_append hbefore, value_skipBlanks,
      List.append_assoc]
    exact ih steps _ hlength (hrest.append hafter)
  | @item d cs h ih =>
    intro steps rest hsteps
    obtain ⟨steps, rfl⟩ := Nat.exists_eq_add_one.mpr (Nat.zero_lt_of_lt hsteps)
    -- what follows closes the list, which also ends the item
    rw [items_entry ih (Nat.le_of_lt_succ hsteps) (closed_cons (.inr (.inl rfl)) rest),
      skipBlanks_cons (by decide)]
    rfl
  | @items d ds cs rest' h hrest ih ihrest =>
    intro steps rest hsteps
    obtain ⟨steps, rfl⟩ := Nat.exists_eq_add_one.mpr (Nat.zero_lt_of_lt hsteps)
    rw [List.length_append, List.length_cons] at hsteps
    -- the remaining items have one step less, which the comma makes up for
    have hitems := ihrest steps rest (by omega)
    rw [List.append_assoc, List.cons_append,
      items_entry ih (by omega) (closed_cons (.inl rfl) _), skipBlanks_cons (by decide)]
    simp only [itemsAfter, hitems]
    rfl
  | @named name d before literal after cs hbefore hname hafter h ih =>
    obtain ⟨tail, rfl⟩ := hname.exists_tail
    intro steps rest hsteps hrest
    -- as for an entry, all the steps are left to the value
    have hlength : 2 * cs.length ≤ steps := by
      simp only [List.length_append, List.length_cons] at hsteps
      omega
    obtain ⟨rest', hvalue, hskip⟩ := ih steps rest hlength hrest
    rw [List.append_assoc, ← members_skipBlanks, skipBlanks_append hbefore, members_skipBlanks,
      List.append_assoc, List.cons_append, List.append_assoc, List.cons_append,
      Json.members.eq_def]
    simp only [skipBlanks_cons (show isBlank '"' = false by decide), string_of_literal hname,
      skipBlanks_append hafter, Option.bind_eq_bind, Option.bind_some,
      skipBlanks_cons (show isBlank ':' = false by decide), hvalue, hskip]
    rfl
  | @member name d cs h ih =>
    intro steps rest hsteps
    obtain ⟨steps, rfl⟩ := Nat.exists_eq_add_one.mpr (Nat.zero_lt_of_lt hsteps)
    -- what follows closes the record, which also ends the member
    rw [ih steps _ (Nat.le_of_lt_succ hsteps) (closed_cons (.inr (.inr rfl)) rest),
      skipBlanks_cons (by decide)]
    rfl
  | @members name d ms cs rest' h hrest ih ihrest =>
    intro steps rest hsteps
    obtain ⟨steps, rfl⟩ := Nat.exists_eq_add_one.mpr (Nat.zero_lt_of_lt hsteps)
    rw [List.length_append, List.length_cons] at hsteps
    -- the remaining members have one step less, which the comma makes up for
    have hmembers := ihrest steps rest (by omega)
    rw [List.append_assoc, List.cons_append,
      ih steps _ (by omega) (closed_cons (.inl rfl) _), skipBlanks_cons (by decide)]
    simp only [membersAfter, hmembers]
    rfl

/-- **Reading follows the grammar**: what a text writes is what is read from it. -/
theorem read_of_writes {d : Document} {text : String} (h : Writes d text) :
    read text = some d := by
  have hclosed : Closed [] := fun _ hc => nomatch hc
  obtain ⟨rest, hvalue, hrest⟩ := h.reads (2 * text.toList.length + 2) [] (by omega) hclosed
  rw [List.append_nil] at hvalue
  simp only [read, hvalue, hrest, Option.bind_eq_bind, Option.bind_some]
  rfl

end Automaton.Document.Json
