import Automaton.Proofs.Document.Json.Reading

/-!
# What is read is spelled

The reader accepts nothing but the texts of the grammar, and finds nothing in them but what they
denote.  With `Json.read_of_writes` this makes the two agree (`Json.read_eq_some_iff`).

The proof follows the reader: each part of it returns what it has read and the rest of the text, and
what stands before the rest is a spelling of what it has read.
-/

namespace Automaton.Document.Json

variable {cs rest : List Char}

/-! ### Strings -/

/-- **Units** are spelled up to the closing quote. -/
theorem exists_unitsSpelling {us : List Nat} (h : units cs = some (us, rest)) :
    ∃ body, cs = body ++ '"' :: rest ∧ UnitsSpelling us body := by
  induction cs using units.induct generalizing us rest with
  | case1 => cases h
  | case2 cs =>
    obtain ⟨rfl, rfl⟩ := Prod.mk.inj (Option.some.inj h)
    exact ⟨[], rfl, .nil⟩
  | case3 a b c d cs ih =>
    -- a unit in hexadecimal digits
    simp only [units, Option.bind_eq_bind, Option.bind_eq_some_iff, Option.pure_def,
      Option.some.injEq, Prod.exists, Prod.mk.injEq] at h
    obtain ⟨u, hu, us, _, hus, rfl, rfl⟩ := h
    obtain ⟨body, rfl, hbody⟩ := ih hus
    exact ⟨_, rfl, .cons (.digits hu) hbody⟩
  | case4 c cs hno ih =>
    -- a sign behind a backslash
    rw [units] at h
    · simp only [Option.bind_eq_bind, Option.bind_eq_some_iff, Option.pure_def,
        Option.some.injEq, Prod.exists, Prod.mk.injEq] at h
      obtain ⟨e, he, us, _, hus, rfl, rfl⟩ := h
      obtain ⟨body, rfl, hbody⟩ := ih hus
      exact ⟨_, rfl, .cons (.sign he) hbody⟩
    · exact hno
  | case5 c cs hquote hdigits hsign hbad =>
    -- a character that has to be escaped, or a backslash at the end
    rw [units, if_pos hbad] at h
    · cases h
    · exact hquote
    · exact hdigits
    · exact hsign
  | case6 c cs hquote hdigits hsign hgood ih =>
    -- a character that stands for itself
    rw [units, if_neg hgood] at h
    · simp only [Option.bind_eq_bind, Option.bind_eq_some_iff, Option.pure_def,
        Option.some.injEq, Prod.exists, Prod.mk.injEq] at h
      obtain ⟨us, _, hus, rfl, rfl⟩ := h
      obtain ⟨hcontrol, hescape⟩ := not_or.mp hgood
      obtain ⟨body, rfl, hbody⟩ := ih hus
      exact ⟨_, rfl, .cons (.plain (Nat.not_lt.mp hcontrol) hquote hescape) hbody⟩
    · exact hquote
    · exact hdigits
    · exact hsign

/-- **A string** is spelled from its opening quote on. -/
theorem exists_literal {s : Option String} (h : string cs = some (s, rest)) :
    ∃ tail, cs = tail ++ rest ∧ Literal s ('"' :: tail) := by
  simp only [string, Option.bind_eq_bind, Option.bind_eq_some_iff, Option.pure_def,
    Option.some.injEq, Prod.exists, Prod.mk.injEq] at h
  obtain ⟨us, _, hus, rfl, rfl⟩ := h
  -- what was read up to the closing mark spells units, which may not make a text
  obtain ⟨body, rfl, hbody⟩ := exists_unitsSpelling hus
  refine ⟨body ++ ['"'], by rw [List.append_assoc, List.singleton_append], ?_⟩
  cases hassemble : assemble us with
  | none =>
    refine .garbled hbody fun s hs => ?_
    rw [assemble_of_unitsOf hs] at hassemble
    cases hassemble
  | some s =>
    refine .text hbody ?_
    rw [String.toList_ofList]
    exact unitsOf_of_assemble hbody.lt hassemble

/-! ### Numbers -/

theorem eq_append_of_digits {ds : List Char} (h : digits cs = some (ds, rest)) :
    cs = ds ++ rest ∧ Digits ds := by
  rw [digits] at h
  split at h
  · cases h
  · next hne =>
    obtain ⟨rfl, rfl⟩ := Prod.mk.inj (Option.some.inj h)
    exact ⟨List.takeWhile_append_dropWhile.symm, hne, fun c hc => List.mem_takeWhile_imp hc⟩

theorem eq_append_of_wholePart {whole : List Char} (h : wholePart cs = some (whole, rest)) :
    cs = whole ++ rest ∧ WholePart whole := by
  unfold wholePart at h
  split at h
  · split at h
    · cases h
    · obtain ⟨rfl, rfl⟩ := Prod.mk.inj (Option.some.inj h)
      exact ⟨rfl, .zero⟩
  · next hno =>
    obtain ⟨rfl, hdigits⟩ := eq_append_of_digits h
    refine ⟨rfl, ?_⟩
    by_cases hzero : whole.head? = some '0'
    · -- nothing follows a zero in front, or the first case would have applied
      cases whole with
      | nil => exact absurd rfl hdigits.ne_nil
      | cons d ds =>
        obtain rfl := Option.some.inj hzero
        cases ds with
        | nil => exact .zero
        | cons d ds => exact (hno d (ds ++ rest) rfl).elim
    · exact .digits hdigits hzero

theorem eq_append_of_fractionPart {fraction : List Char}
    (h : fractionPart cs = some (fraction, rest)) :
    cs = fraction ++ rest ∧ FractionPart fraction := by
  unfold fractionPart at h
  split at h
  · simp only [Option.bind_eq_bind, Option.bind_eq_some_iff, Option.pure_def, Option.some.injEq,
      Prod.exists, Prod.mk.injEq] at h
    obtain ⟨ds, _, hds, rfl, rfl⟩ := h
    obtain ⟨rfl, hdigits⟩ := eq_append_of_digits hds
    exact ⟨rfl, .digits hdigits⟩
  · -- there is no point, so there is no fraction
    obtain ⟨rfl, rfl⟩ := Prod.mk.inj (Option.some.inj h)
    exact ⟨rfl, .none⟩

/-- Digits behind something that is kept. -/
theorem eq_append_of_digits_bind (before : List Char) {spelled : List Char}
    (h : (do let (ds, rest) ← digits cs; pure (before ++ ds, rest) : Option _) =
      some (spelled, rest)) : ∃ ds, Digits ds ∧ spelled = before ++ ds ∧ cs = ds ++ rest := by
  simp only [Option.bind_eq_bind, Option.bind_eq_some_iff, Option.pure_def, Option.some.injEq,
    Prod.exists, Prod.mk.injEq] at h
  obtain ⟨ds, _, hds, rfl, rfl⟩ := h
  obtain ⟨rfl, hdigits⟩ := eq_append_of_digits hds
  exact ⟨ds, hdigits, rfl, rfl⟩

theorem eq_append_of_exponentPart {exponent : List Char}
    (h : exponentPart cs = some (exponent, rest)) :
    cs = exponent ++ rest ∧ ExponentPart exponent := by
  -- three cases for the sign behind the letter, and two without an exponent
  unfold exponentPart at h
  split at h
  · split at h
    · next he =>
      split at h
      · obtain ⟨ds, hds, rfl, rfl⟩ := eq_append_of_digits_bind [_, '+'] h
        exact ⟨rfl, .digits he (.inr (.inl rfl)) hds⟩
      · obtain ⟨ds, hds, rfl, rfl⟩ := eq_append_of_digits_bind [_, '-'] h
        exact ⟨rfl, .digits he (.inr (.inr rfl)) hds⟩
      · obtain ⟨ds, hds, rfl, rfl⟩ := eq_append_of_digits_bind [_] h
        exact ⟨rfl, .digits he (.inl rfl) hds⟩
    · obtain ⟨rfl, rfl⟩ := Prod.mk.inj (Option.some.inj h)
      exact ⟨rfl, .none⟩
  · obtain ⟨rfl, rfl⟩ := Prod.mk.inj (Option.some.inj h)
    exact ⟨rfl, .none⟩

/-- **A number** is spelled as it is kept. -/
theorem eq_append_of_number {n : List Char} (h : number cs = some (n, rest)) :
    cs = n ++ rest ∧ Numeral n := by
  -- without its sign, a number is read in three parts
  have hunsigned : ∀ {cs n rest : List Char}, unsigned cs = some (n, rest) →
      ∀ sign, (sign = [] ∨ sign = ['-']) → cs = n ++ rest ∧ Numeral (sign ++ n) := by
    intro cs n rest h sign hsign
    simp only [unsigned, Option.bind_eq_bind, Option.bind_eq_some_iff, Option.pure_def,
      Option.some.injEq, Prod.exists, Prod.mk.injEq] at h
    obtain ⟨whole, _, hwhole, fraction, _, hfraction, exponent, _, hexponent, rfl, rfl⟩ := h
    obtain ⟨rfl, hwhole'⟩ := eq_append_of_wholePart hwhole
    obtain ⟨rfl, hfraction'⟩ := eq_append_of_fractionPart hfraction
    obtain ⟨rfl, hexponent'⟩ := eq_append_of_exponentPart hexponent
    refine ⟨by simp only [List.append_assoc], ?_⟩
    rw [List.append_assoc whole]
    exact .parts hsign hwhole' hfraction' hexponent'
  unfold number at h
  split at h
  · simp only [Option.bind_eq_bind, Option.bind_eq_some_iff, Option.pure_def, Option.some.injEq,
      Prod.exists, Prod.mk.injEq] at h
    obtain ⟨n, _, hn, rfl, rfl⟩ := h
    obtain ⟨rfl, hnumeral⟩ := hunsigned hn ['-'] (.inr rfl)
    exact ⟨rfl, hnumeral⟩
  · exact hunsigned h [] (.inl rfl)

/-! ### Values -/

/-- The text in front of what blanks leave. -/
theorem exists_blanks (cs : List Char) : ∃ blanks, Blanks blanks ∧ cs = blanks ++ skipBlanks cs :=
  ⟨cs.takeWhile isBlank, fun _ hc => List.mem_takeWhile_imp hc, List.takeWhile_append_dropWhile.symm⟩

/-- A word that has to be there. -/
theorem eq_append_of_literal {as : List Char} (h : literal as cs = some rest) : cs = as ++ rest := by
  induction as generalizing cs with
  | nil => exact Option.some.inj h
  | cons a as ih =>
    cases cs with
    | nil => cases h
    | cons c cs =>
      obtain ⟨rfl, htail⟩ := Option.ite_none_right_eq_some.mp h
      rw [ih htail, List.cons_append]

/-- A value on one level. -/
theorem exists_scalar {d : Document} (h : scalar cs = some (d, rest)) :
    ∃ v, Spelling (.value d) v ∧ cs = v ++ rest := by
  -- one case for each first character, and the rest are numbers
  unfold scalar at h
  split at h
  · simp only [Option.bind_eq_bind, Option.bind_eq_some_iff, Option.pure_def, Option.some.injEq,
      Prod.exists] at h
    obtain ⟨s, _, hs, h⟩ := h
    obtain ⟨tail, rfl, hliteral⟩ := exists_literal hs
    cases s with
    | some s =>
      obtain ⟨rfl, rfl⟩ := Prod.mk.inj h
      exact ⟨_, .text hliteral, rfl⟩
    | none =>
      obtain ⟨rfl, rfl⟩ := Prod.mk.inj h
      exact ⟨_, .garbled hliteral, rfl⟩
  · obtain ⟨_, hrest, h⟩ := Option.map_eq_some_iff.mp h
    obtain ⟨rfl, rfl⟩ := Prod.mk.inj h
    exact ⟨_, .trueWord, congrArg _ (eq_append_of_literal hrest)⟩
  · obtain ⟨_, hrest, h⟩ := Option.map_eq_some_iff.mp h
    obtain ⟨rfl, rfl⟩ := Prod.mk.inj h
    exact ⟨_, .falseWord, congrArg _ (eq_append_of_literal hrest)⟩
  · obtain ⟨_, hrest, h⟩ := Option.map_eq_some_iff.mp h
    obtain ⟨rfl, rfl⟩ := Prod.mk.inj h
    exact ⟨_, .nullWord, congrArg _ (eq_append_of_literal hrest)⟩
  · obtain ⟨⟨n, _⟩, hn, h⟩ := Option.map_eq_some_iff.mp h
    obtain ⟨rfl, rfl⟩ := Prod.mk.inj h
    obtain ⟨rfl, hnumeral⟩ := eq_append_of_number hn
    exact ⟨n, .number hnumeral, rfl⟩

/-- Members whose names are all texts. -/
theorem exists_named {ms : List (Option String × Document)} (h : ∀ m ∈ ms, m.1 ≠ none) :
    ∃ named : List (String × Document), ms = named.map fun m => (some m.1, m.2) := by
  induction ms with
  | nil => exact ⟨[], rfl⟩
  | cons m ms ih =>
    obtain ⟨name, d⟩ := m
    obtain ⟨hname, hrest⟩ := List.forall_mem_cons.mp h
    obtain ⟨n, rfl⟩ := Option.ne_none_iff_exists'.mp hname
    obtain ⟨named, rfl⟩ := ih hrest
    exact ⟨(n, d) :: named, rfl⟩

/-- A record of members, readable or not. -/
theorem spelling_recordOf {ms : List (Option String × Document)} {body : List Char}
    (h : Spelling (.members ms) body) :
    Spelling (.value (recordOf ms)) ('\x7b' :: (body ++ ['\x7d'])) := by
  by_cases hnone : ∃ m ∈ ms, m.1 = none
  · rw [recordOf_of_none hnone]
    exact .garbledRecord h hnone
  · obtain ⟨named, rfl⟩ := exists_named fun m hm hm' => hnone ⟨m, hm, hm'⟩
    rw [recordOf_map_some]
    exact .record h

/-- What is read as a value is one, behind blanks. -/
def ValueSpelled (steps : Nat) : Prop :=
  ∀ {cs d rest}, value steps cs = some (d, rest) →
    ∃ blanks v, Blanks blanks ∧ Spelling (.value d) v ∧ cs = blanks ++ (v ++ rest)

/-- What is read as the items of a list are such items, up to the closing bracket. -/
def ItemsSpelled (steps : Nat) : Prop :=
  ∀ {cs ds rest}, items steps cs = some (ds, rest) →
    ∃ body, Spelling (.items ds) body ∧ cs = body ++ ']' :: rest

/-- What is read as the members of a record are such members, up to the closing brace. -/
def MembersSpelled (steps : Nat) : Prop :=
  ∀ {cs ms rest}, members steps cs = some (ms, rest) →
    ∃ body, Spelling (.members ms) body ∧ cs = body ++ '\x7d' :: rest

variable {steps : Nat}

theorem ValueSpelled.step (hitems : ItemsSpelled steps) (hmembers : MembersSpelled steps) :
    ValueSpelled (steps + 1) := by
  intro cs d rest h
  obtain ⟨blanks, hblanks, hcs⟩ := exists_blanks cs
  refine ⟨blanks, ?_⟩
  unfold value at h
  split at h
  · next inner hinner =>
    -- a list: its closing bracket follows, or its items
    rw [hinner] at hcs
    obtain ⟨blanks', hblanks', hinner'⟩ := exists_blanks inner
    split at h
    · next after hafter =>
      obtain ⟨rfl, rfl⟩ := Prod.mk.inj (Option.some.inj h)
      refine ⟨_, hblanks, .emptyList hblanks', ?_⟩
      rw [hcs, hinner', hafter, List.cons_append, List.append_assoc, List.singleton_append]
    · rw [items_skipBlanks] at h
      obtain ⟨⟨ds, _⟩, hds, h⟩ := Option.map_eq_some_iff.mp h
      obtain ⟨rfl, rfl⟩ := Prod.mk.inj h
      obtain ⟨body, hbody, rfl⟩ := hitems hds
      refine ⟨_, hblanks, .list hbody, ?_⟩
      rw [hcs, List.cons_append, List.append_assoc, List.singleton_append]
  · next inner hinner =>
    -- a record, in the same way
    rw [hinner] at hcs
    obtain ⟨blanks', hblanks', hinner'⟩ := exists_blanks inner
    split at h
    · next after hafter =>
      obtain ⟨rfl, rfl⟩ := Prod.mk.inj (Option.some.inj h)
      refine ⟨_, hblanks, .emptyRecord hblanks', ?_⟩
      rw [hcs, hinner', hafter, List.cons_append, List.append_assoc, List.singleton_append]
    · rw [members_skipBlanks] at h
      obtain ⟨⟨ms, _⟩, hms, h⟩ := Option.map_eq_some_iff.mp h
      obtain ⟨rfl, rfl⟩ := Prod.mk.inj h
      obtain ⟨body, hbody, rfl⟩ := hmembers hms
      refine ⟨_, hblanks, spelling_recordOf hbody, ?_⟩
      rw [hcs, List.cons_append, List.append_assoc, List.singleton_append]
  · obtain ⟨v, hv, hcs'⟩ := exists_scalar h
    exact ⟨v, hblanks, hv, hcs' ▸ hcs⟩

theorem ItemsSpelled.step (hvalue : ValueSpelled steps) (hitems : ItemsSpelled steps) :
    ItemsSpelled (steps + 1) := by
  intro cs ds rest h
  simp only [items, Option.bind_eq_bind, Option.bind_eq_some_iff, Prod.exists] at h
  obtain ⟨d, cs₁, hd, h⟩ := h
  -- the entry of this step, with its blanks, is spelled by the value below it
  obtain ⟨before, v, hbefore, hv, rfl⟩ := hvalue hd
  obtain ⟨after, hafter, hcs₁⟩ := exists_blanks cs₁
  have hentry := Spelling.entry hbefore hv hafter
  split at h
  · next cs₂ hcs₂ =>
    -- a comma: the remaining items are read with one step less
    simp only [Option.bind_eq_some_iff, Option.pure_def, Option.some.injEq, Prod.exists,
      Prod.mk.injEq] at h
    obtain ⟨ds, _, hds, rfl, rfl⟩ := h
    obtain ⟨body, hbody, rfl⟩ := hitems hds
    refine ⟨_, .items hentry hbody, ?_⟩
    rw [hcs₁, hcs₂]
    simp only [List.append_assoc, List.cons_append]
  · next cs₂ hcs₂ =>
    obtain ⟨rfl, rfl⟩ := Prod.mk.inj (Option.some.inj h)
    refine ⟨_, .item hentry, ?_⟩
    rw [hcs₁, hcs₂]
    simp only [List.append_assoc]
  · cases h

theorem MembersSpelled.step (hvalue : ValueSpelled steps) (hmembers : MembersSpelled steps) :
    MembersSpelled (steps + 1) := by
  intro cs ms rest h
  -- blanks stand at up to four places around a member, so they are split off first
  obtain ⟨blanks, hblanks, hcs⟩ := exists_blanks cs
  unfold members at h
  split at h
  · next cs₁ hcs₁ =>
    simp only [Option.bind_eq_bind, Option.bind_eq_some_iff, Prod.exists] at h
    obtain ⟨name, cs₂, hname, h⟩ := h
    obtain ⟨tail, rfl, hliteral⟩ := exists_literal hname
    obtain ⟨after, hafter, hcs₂⟩ := exists_blanks cs₂
    split at h
    · next cs₃ hcs₃ =>
      simp only [Option.bind_eq_some_iff, Prod.exists] at h
      obtain ⟨d, cs₄, hd, h⟩ := h
      obtain ⟨before, v, hbefore, hv, rfl⟩ := hvalue hd
      obtain ⟨after', hafter', hcs₄⟩ := exists_blanks cs₄
      -- the member of this step is complete, and a comma or a bracket follows
      have hmember := Spelling.named hblanks hliteral hafter (.entry hbefore hv hafter')
      rw [hcs, hcs₁, hcs₂, hcs₃, hcs₄]
      split at h
      · next cs₅ hcs₅ =>
        simp only [Option.bind_eq_some_iff, Option.pure_def, Option.some.injEq, Prod.exists,
          Prod.mk.injEq] at h
        obtain ⟨ms, _, hms, rfl, rfl⟩ := h
        obtain ⟨body, hbody, rfl⟩ := hmembers hms
        refine ⟨_, .members hmember hbody, ?_⟩
        rw [hcs₅]
        simp only [List.append_assoc, List.cons_append]
      · next cs₅ hcs₅ =>
        obtain ⟨rfl, rfl⟩ := Prod.mk.inj (Option.some.inj h)
        refine ⟨_, .member hmember, ?_⟩
        rw [hcs₅]
        simp only [List.append_assoc, List.cons_append]
      · cases h
    · cases h
  · cases h

/-- **Whatever is read is spelled.** -/
theorem spelled (steps : Nat) :
    ValueSpelled steps ∧ ItemsSpelled steps ∧ MembersSpelled steps := by
  induction steps with
  | zero => exact ⟨nofun, nofun, nofun⟩
  | succ steps ih =>
    obtain ⟨hvalue, hitems, hmembers⟩ := ih
    exact ⟨ValueSpelled.step hitems hmembers, ItemsSpelled.step hvalue hitems,
      MembersSpelled.step hvalue hmembers⟩

/-- **The reader and the grammar agree.** -/
theorem read_eq_some_iff {text : String} {d : Document} : read text = some d ↔ Writes d text := by
  refine ⟨fun h => ?_, read_of_writes⟩
  simp only [read, Option.bind_eq_bind, Option.bind_eq_some_iff, Prod.exists] at h
  obtain ⟨_, rest, hvalue, h⟩ := h
  obtain ⟨hrest, h⟩ := Option.ite_none_right_eq_some.mp h
  obtain rfl := Option.some.inj h
  obtain ⟨before, v, hbefore, hv, htext⟩ := (spelled _).1 hvalue
  -- only blanks are left behind the value
  obtain ⟨after, hafter, hafter'⟩ := exists_blanks rest
  rw [hrest, List.append_nil] at hafter'
  rw [Writes, htext, hafter']
  exact .entry hbefore hv hafter

end Automaton.Document.Json
