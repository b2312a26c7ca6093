import Automaton.Proofs.Document.Json.Grammar

/-!
# Reading strings and numbers

Strings and numbers are read as they are spelled, whatever follows a string, and up to the first
character behind a number that does not belong to it (`Json.string_of_literal`,
`Json.number_append`).

A string is read twice, into its units and from them into the text.  Units that are put together
are those of the text that comes of them (`unitsOf_of_assemble`), so the reader gives up only on
strings that spell no text at all.
-/

namespace Automaton.Document.Json

/-! ### Blanks -/

theorem Blanks.append {a b : List Char} (ha : Blanks a) (hb : Blanks b) : Blanks (a ++ b) :=
  List.forall_mem_append.mpr ⟨ha, hb⟩

/-- Leading blanks are passed over. -/
theorem skipBlanks_append {blanks : List Char} (h : Blanks blanks) (cs : List Char) :
    skipBlanks (blanks ++ cs) = skipBlanks cs :=
  List.dropWhile_append_of_pos h

/-- Nothing else is. -/
theorem skipBlanks_cons {c : Char} (h : isBlank c = false) (cs : List Char) :
    skipBlanks (c :: cs) = c :: cs :=
  List.dropWhile_cons_of_neg (by simp [h])

/-! ### Units -/

/-- **A unit is read** as it is spelled. -/
theorem units_append {u : Nat} {cs : List Char} (h : UnitSpelling u cs) (rest : List Char) :
    units (cs ++ rest) = (units rest).map fun r => (u :: r.1, r.2) := by
  cases h with
  | @plain c hcontrol hquote hescape =>
    rw [List.singleton_append, units.eq_def]
    -- all cases but the last one begin with a quote or a backslash
    split
    · next h => exact absurd h (List.cons_ne_nil c rest)
    · next h => exact absurd (List.cons.inj h).1 hquote
    · next h => exact absurd (List.cons.inj h).1 hescape
    · next h => exact absurd (List.cons.inj h).1 hescape
    · next h =>
      obtain ⟨rfl, rfl⟩ := List.cons.inj h
      rw [if_neg (not_or.mpr ⟨Nat.not_lt.mpr hcontrol, hescape⟩)]
      cases units rest <;> rfl
  | @sign c e h =>
    rw [List.cons_append, List.singleton_append, units.eq_def]
    split
    · next h' => exact absurd h' (List.cons_ne_nil _ _)
    · next h' => exact absurd (List.cons.inj h').1 (by decide)
    · next h' =>
      -- the sign is not the letter that announces digits
      obtain ⟨rfl, -⟩ := List.cons.inj (List.cons.inj h').2
      cases h
    · next h' =>
      obtain ⟨rfl, rfl⟩ := List.cons.inj (List.cons.inj h').2
      rw [h]
      cases units rest <;> rfl
    · next hne h' =>
      obtain ⟨rfl, rfl⟩ := List.cons.inj h'
      exact (hne c rest rfl rfl).elim
  | @digits a b c d u h =>
    show (do let u ← hexNumber [a, b, c, d]; let r ← units rest; pure (u :: r.1, r.2)) = _
    rw [h]
    cases units rest <;> rfl

/-- Units in a row, up to the closing quote. -/
theorem units_body {us : List Nat} {body : List Char} (h : UnitsSpelling us body)
    (rest : List Char) : units (body ++ '"' :: rest) = some (us, rest) := by
  induction h with
  | nil => rfl
  | cons h hrest ih => rw [List.append_assoc, units_append h, ih, Option.map_some]

/-- A hexadecimal digit has a value below sixteen. -/
theorem hexValue_lt {c : Char} {n : Nat} (h : hexValue c = some n) : n < 16 := by
  -- one range of characters for each of the three kinds of digits
  unfold hexValue at h
  split at h
  · next hd =>
    have hle : c.toNat ≤ 57 := by
      simp only [Char.isDigit, Bool.and_eq_true, decide_eq_true_eq] at hd
      exact hd.2
    have := Option.some.inj h
    simp only [Char.reduceToNat] at this
    omega
  · split at h
    · next hd =>
      have hle : c.toNat ≤ 102 := hd.2
      have := Option.some.inj h
      simp only [Char.reduceToNat] at this
      omega
    · obtain ⟨hd, h⟩ := Option.ite_none_right_eq_some.mp h
      have hle : c.toNat ≤ 70 := hd.2
      have := Option.some.inj h
      simp only [Char.reduceToNat] at this
      omega

/-- Digits spell numbers of sixteen bits. -/
theorem hexNumber_lt {a b c d : Char} {u : Nat} (h : hexNumber [a, b, c, d] = some u) :
    u < 0x10000 := by
  simp only [hexNumber, List.foldlM_cons, List.foldlM_nil, Option.bind_eq_bind,
    Option.bind_eq_some_iff, Option.map_eq_some_iff, Option.pure_def, Option.some.injEq] at h
  obtain ⟨_, ⟨p, hp, rfl⟩, _, ⟨q, hq, rfl⟩, _, ⟨r, hr, rfl⟩, _, ⟨s, hs, rfl⟩, rfl⟩ := h
  have := hexValue_lt hp
  have := hexValue_lt hq
  have := hexValue_lt hr
  have := hexValue_lt hs
  omega

/-- Every unit that is spelled is the number of a character, or a half of one. -/
theorem UnitsSpelling.lt {us : List Nat} {body : List Char} (h : UnitsSpelling us body) :
    ∀ u ∈ us, u < 0x110000 := by
  have hchar : ∀ c : Char, c.toNat < 0x110000 := by
    intro c
    have hvalid : c.toNat < 0xD800 ∨ 0xDFFF < c.toNat ∧ c.toNat < 0x110000 := c.valid
    omega
  induction h with
  | nil => exact fun u hu => absurd hu List.not_mem_nil
  | cons h hrest ih =>
    refine List.forall_mem_cons.mpr ⟨?_, ih⟩
    -- a unit is a character, or is written with four digits
    cases h with
    | plain | sign => exact hchar _
    | digits h => exact Nat.lt_trans (hexNumber_lt h) (by decide)

/-! ### Texts -/

theorem isHighHalf_iff {u : Nat} : isHighHalf u = true ↔ 0xD800 ≤ u ∧ u ≤ 0xDBFF := by
  simp [isHighHalf]

theorem isLowHalf_iff {u : Nat} : isLowHalf u = true ↔ 0xDC00 ≤ u ∧ u ≤ 0xDFFF := by
  simp [isLowHalf]

theorem assemble_cons {u : Nat} (hhigh : ¬ isHighHalf u = true) (hlow : ¬ isLowHalf u = true)
    (us : List Nat) : assemble (u :: us) = (assemble us).map (Char.ofNat u :: ·) := by
  cases us with
  | nil => simp [assemble, hhigh, hlow]
  | cons v us => simp [assemble, hhigh, hlow]

/-- A unit that is no half stands for its character. -/
theorem assemble_whole (c : Char) (us : List Nat) :
    assemble (c.toNat :: us) = (assemble us).map (c :: ·) := by
  have hvalid : c.toNat < 0xD800 ∨ 0xDFFF < c.toNat ∧ c.toNat < 0x110000 := c.valid
  rw [assemble_cons, Char.ofNat_toNat]
  · rw [isHighHalf_iff]
    omega
  · rw [isLowHalf_iff]
    omega

/-- Two halves stand for their character. -/
theorem assemble_halves {c : Char} (hc : 0x10000 ≤ c.toNat) (us : List Nat) :
    assemble (highHalf c :: lowHalf c :: us) = (assemble us).map (c :: ·) := by
  have hvalid : c.toNat < 0xD800 ∨ 0xDFFF < c.toNat ∧ c.toNat < 0x110000 := c.valid
  have hhigh : isHighHalf (highHalf c) = true := isHighHalf_iff.mpr (by unfold highHalf; omega)
  have hlow : isLowHalf (lowHalf c) = true := isLowHalf_iff.mpr (by unfold lowHalf; omega)
  have hsum : 0x10000 + (highHalf c - 0xD800) * 0x400 + (lowHalf c - 0xDC00) = c.toNat := by
    unfold highHalf lowHalf
    omega
  rw [assemble, if_pos hhigh, if_pos hlow, hsum, Char.ofNat_toNat]

/-- A number in the right range is that of its character. -/
theorem toNat_ofNat {n : Nat} (h : n.isValidChar) : (Char.ofNat n).toNat = n := by
  rw [Char.ofNat, dif_pos h]
  rfl

/-- A unit that is no half is that of a character. -/
theorem UnitsOf.ofNat {u : Nat} {cs : List Char} {us : List Nat} (hu : u < 0x110000)
    (hhigh : ¬ isHighHalf u = true) (hlow : ¬ isLowHalf u = true) (h : UnitsOf cs us) :
    UnitsOf (Char.ofNat u :: cs) (u :: us) := by
  rw [isHighHalf_iff] at hhigh
  rw [isLowHalf_iff] at hlow
  have hvalid : u.isValidChar := by
    unfold Nat.isValidChar
    omega
  have hwhole := UnitsOf.whole (Char.ofNat u) h
  rwa [toNat_ofNat hvalid] at hwhole

/-- Two units that are halves are those of a character. -/
theorem UnitsOf.ofHalves {u v : Nat} {cs : List Char} {us : List Nat}
    (hhigh : isHighHalf u = true) (hlow : isLowHalf v = true) (h : UnitsOf cs us) :
    UnitsOf (Char.ofNat (0x10000 + (u - 0xD800) * 0x400 + (v - 0xDC00)) :: cs) (u :: v :: us) := by
  obtain ⟨hu, hu'⟩ := isHighHalf_iff.mp hhigh
  obtain ⟨hv, hv'⟩ := isLowHalf_iff.mp hlow
  generalize hn : 0x10000 + (u - 0xD800) * 0x400 + (v - 0xDC00) = n
  -- two halves always make a character beyond the first plane
  have hvalid : n.isValidChar := by
    unfold Nat.isValidChar
    omega
  have hnat := toNat_ofNat hvalid
  have hhalves := UnitsOf.halves (c := Char.ofNat n) (by omega) h
  -- and the halves of that character are those two again
  have hu : highHalf (Char.ofNat n) = u := by
    unfold highHalf
    omega
  have hv : lowHalf (Char.ofNat n) = v := by
    unfold lowHalf
    omega
  rwa [hu, hv] at hhalves

/-- **The units of a text** are put together again. -/
theorem assemble_of_unitsOf {cs : List Char} {us : List Nat} (h : UnitsOf cs us) :
    assemble us = some cs := by
  induction h with
  | nil => rfl
  | whole c h ih => rw [assemble_whole, ih, Option.map_some]
  | halves hc h ih => rw [assemble_halves hc, ih, Option.map_some]

/-- **Units that can be put together** are those of a text. -/
theorem unitsOf_of_assemble {cs : List Char} {us : List Nat} (hus : ∀ u ∈ us, u < 0x110000)
    (h : assemble us = some cs) : UnitsOf cs us := by
  induction us using assemble.induct generalizing cs with
  | case1 =>
    obtain rfl := Option.some.inj h
    exact .nil
  | case2 u hhalf =>
    -- a half at the end has nothing to pair up with
    rw [assemble, if_pos hhalf] at h
    cases h
  | case3 u hwhole =>
    rw [Bool.or_eq_true, not_or] at hwhole
    rw [assemble_cons hwhole.1 hwhole.2] at h
    obtain ⟨cs, hcs, rfl⟩ := Option.map_eq_some_iff.mp h
    obtain rfl := Option.some.inj hcs
    exact .ofNat (hus u List.mem_cons_self) hwhole.1 hwhole.2 .nil
  | case4 u v us hhigh hlow ih =>
    rw [assemble, if_pos hhigh, if_pos hlow] at h
    obtain ⟨cs, hcs, rfl⟩ := Option.map_eq_some_iff.mp h
    refine .ofHalves hhigh hlow (ih (fun w hw => hus w ?_) hcs)
    exact List.mem_cons_of_mem u (List.mem_cons_of_mem v hw)
  | case5 u v us hhigh hlow =>
    -- a first half has to be followed by a second one, and a second half to follow a first one
    rw [assemble, if_pos hhigh, if_neg hlow] at h
    cases h
  | case6 u v us hhigh hlow =>
    rw [assemble, if_neg hhigh, if_pos hlow] at h
    cases h
  | case7 u v us hhigh hlow ih =>
    rw [assemble_cons hhigh hlow] at h
    obtain ⟨cs, hcs, rfl⟩ := Option.map_eq_some_iff.mp h
    refine .ofNat (hus u List.mem_cons_self) hhigh hlow (ih (fun w hw => hus w ?_) hcs)
    exact List.mem_cons_of_mem u hw

/-! ### Strings -/

/-- A string begins with a quote. -/
theorem Literal.exists_tail {s : Option String} {cs : List Char} (h : Literal s cs) :
    ∃ tail, cs = '"' :: tail := by
  cases h with
  | text | garbled => exact ⟨_, rfl⟩

/-- **A string is read** as it is spelled. -/
theorem string_of_literal {s : Option String} {tail : List Char} (h : Literal s ('"' :: tail))
    (rest : List Char) : string (tail ++ rest) = some (s, rest) := by
  cases h with
  | @text s us body hbody hs =>
    rw [List.append_assoc, List.singleton_append, string, units_body hbody]
    simp only [Option.bind_eq_bind, Option.bind_some, Option.pure_def, assemble_of_unitsOf hs,
      Option.map_some, String.ofList_toList]
  | @garbled us body hbody hnone =>
    -- if the units made a text, they would be the units of that text
    have hassemble : assemble us = none := by
      cases hcs : assemble us with
      | none => rfl
      | some cs => exact absurd (unitsOf_of_assemble hbody.lt hcs) (hnone cs)
    rw [List.append_assoc, List.singleton_append, string, units_body hbody]
    simp only [Option.bind_eq_bind, Option.bind_some, Option.pure_def, hassemble, Option.map_none]

/-! ### Numbers -/

/-- No digit comes next. -/
def NoDigit (cs : List Char) : Prop :=
  ∀ c ∈ cs.head?, c.isDigit = false

/-- Digits are read up to what is none. -/
theorem digits_append {ds rest : List Char} (h : Digits ds) (hrest : NoDigit rest) :
    digits (ds ++ rest) = some (ds, rest) := by
  -- the digits end where they are to end
  have htake : rest.takeWhile Char.isDigit = [] ∧ rest.dropWhile Char.isDigit = rest := by
    cases rest with
    | nil => exact ⟨rfl, rfl⟩
    | cons c cs =>
      have hc : ¬ c.isDigit = true := Bool.eq_false_iff.mp (hrest c rfl)
      exact ⟨List.takeWhile_cons_of_neg hc, List.dropWhile_cons_of_neg hc⟩
  rw [digits, List.takeWhile_append_of_pos h.isDigit, List.dropWhile_append_of_pos h.isDigit,
    htake.1, htake.2, List.append_nil]
  cases ds with
  | nil => exact absurd rfl h.ne_nil
  | cons d ds => rfl

/-- Digits begin with a digit. -/
theorem Digits.append_ne {ds : List Char} (h : Digits ds) {c : Char} (hc : c.isDigit = false)
    (rest cs : List Char) : ds ++ rest ≠ c :: cs := by
  cases ds with
  | nil => exact absurd rfl h.ne_nil
  | cons d ds =>
    intro heq
    have hd := h.isDigit d List.mem_cons_self
    rw [(List.cons.inj heq).1, hc] at hd
    cases hd

/-- The whole part of a number. -/
theorem wholePart_append {whole rest : List Char} (h : WholePart whole) (hrest : NoDigit rest) :
    wholePart (whole ++ rest) = some (whole, rest) := by
  cases h with
  | zero =>
    cases rest with
    | nil => rfl
    | cons c cs =>
      show (if c.isDigit = true then none else some (['0'], c :: cs)) = _
      rw [if_neg (Bool.eq_false_iff.mp (hrest c rfl))]
  | digits h hzero =>
    rw [wholePart.eq_def]
    split
    · next c cs hcs =>
      -- the case of a zero in front, which these digits do not have
      cases whole with
      | nil => exact absurd rfl h.ne_nil
      | cons d ds => exact absurd (congrArg some (List.cons.inj hcs).1) hzero
    · exact digits_append h hrest

/-- Its fraction. -/
theorem fractionPart_append {fraction rest : List Char} (h : FractionPart fraction)
    (hrest : NoDigit rest) (hpoint : rest.head? ≠ some '.') :
    fractionPart (fraction ++ rest) = some (fraction, rest) := by
  cases h with
  | none =>
    rw [List.nil_append, fractionPart.eq_def]
    split
    · -- without a fraction there must be no point either
      next cs => exact absurd rfl hpoint
    · rfl
  | digits h =>
    rw [List.cons_append, fractionPart, digits_append h hrest]
    rfl

/-- Its exponent. -/
theorem exponentPart_append {exponent rest : List Char} (h : ExponentPart exponent)
    (hrest : NoDigit rest) (hsmall : rest.head? ≠ some 'e') (hcapital : rest.head? ≠ some 'E') :
    exponentPart (exponent ++ rest) = some (exponent, rest) := by
  cases h with
  | none =>
    cases rest with
    | nil => rfl
    | cons c cs =>
      have hc : ¬ (c = 'e' ∨ c = 'E') :=
        not_or.mpr ⟨fun h => hsmall (congrArg some h), fun h => hcapital (congrArg some h)⟩
      show (if c = 'e' ∨ c = 'E' then _ else some ([], c :: cs)) = _
      rw [if_neg hc]
  | @digits e sign ds he hsign h =>
    have hds := digits_append h hrest
    rcases hsign with rfl | rfl | rfl
    · -- digits begin with no sign, so the reader takes them as they are
      rw [List.nil_append, List.cons_append, exponentPart, if_pos he, hds]
      · rfl
      · exact h.append_ne (by decide) rest
      · exact h.append_ne (by decide) rest
    · show (if e = 'e' ∨ e = 'E' then _ else some ([], _)) = _
      rw [if_pos he]
      show (do let r ← digits (ds ++ rest); pure (e :: '+' :: r.1, r.2)) = _
      rw [hds]
      rfl
    · show (if e = 'e' ∨ e = 'E' then _ else some ([], _)) = _
      rw [if_pos he]
      show (do let r ← digits (ds ++ rest); pure (e :: '-' :: r.1, r.2)) = _
      rw [hds]
      rfl

/-- No blank is a digit. -/
theorem isDigit_of_isBlank {c : Char} (h : isBlank c = true) : c.isDigit = false := by
  simp only [isBlank, Bool.or_eq_true, beq_iff_eq] at h
  rcases h with ((rfl | rfl) | rfl) | rfl <;> decide

/-- **What may follow a value**: the end of the text, blanks, or a sign that closes the value. -/
def Closed (cs : List Char) : Prop :=
  ∀ c ∈ cs.head?, isBlank c = true ∨ c = ',' ∨ c = ']' ∨ c = '\x7d'

/-- Nothing that follows a value belongs to it. -/
theorem Closed.head?_ne {cs : List Char} (h : Closed cs) {c : Char} (hblank : isBlank c = false)
    (hcomma : c ≠ ',') (hbracket : c ≠ ']') (hbrace : c ≠ '\x7d') : cs.head? ≠ some c := by
  intro hc
  rcases h c hc with hc | hc | hc | hc
  · cases hblank.symm.trans hc
  · exact hcomma hc
  · exact hbracket hc
  · exact hbrace hc

/-- Blanks may come first. -/
theorem Closed.append {blanks cs : List Char} (h : Closed cs) (hblanks : Blanks blanks) :
    Closed (blanks ++ cs) := by
  cases blanks with
  | nil => exact h
  | cons b bs => exact fun _ hc => .inl (Option.some.inj hc ▸ hblanks b List.mem_cons_self)

theorem Closed.noDigit {cs : List Char} (h : Closed cs) : NoDigit cs := by
  intro c hc
  rcases h c hc with hblank | rfl | rfl | rfl
  · exact isDigit_of_isBlank hblank
  · decide
  · decide
  · decide

/-- A fraction begins with a point. -/
theorem FractionPart.noDigit {fraction rest : List Char} (h : FractionPart fraction)
    (hrest : NoDigit rest) : NoDigit (fraction ++ rest) := by
  cases h with
  | none => exact hrest
  | digits h => exact fun c hc => Option.some.inj hc ▸ by decide

/-- An exponent begins with its letter. -/
theorem ExponentPart.head? {exponent rest : List Char} (h : ExponentPart exponent) {c : Char}
    (hc : (exponent ++ rest).head? = some c) : c = 'e' ∨ c = 'E' ∨ rest.head? = some c := by
  cases h with
  | none => exact .inr (.inr hc)
  | digits he hsign h =>
    obtain rfl := Option.some.inj hc
    exact he.imp_right .inl

/-- A number without its sign is read part by part. -/
theorem unsigned_append {whole fraction exponent rest : List Char} (hwhole : WholePart whole)
    (hfraction : FractionPart fraction) (hexponent : ExponentPart exponent)
    (hrest : Closed rest) :
    unsigned (whole ++ (fraction ++ (exponent ++ rest))) =
      some (whole ++ (fraction ++ exponent), rest) := by
  have hend : exponentPart (exponent ++ rest) = some (exponent, rest) :=
    exponentPart_append hexponent hrest.noDigit
      (hrest.head?_ne (by decide) (by decide) (by decide) (by decide))
      (hrest.head?_ne (by decide) (by decide) (by decide) (by decide))
  -- each part ends where the next one begins, which is never with a digit
  have hdigit : NoDigit (exponent ++ rest) := by
    intro c hc
    rcases hexponent.head? hc with rfl | rfl | hc
    · decide
    · decide
    · exact hrest.noDigit c hc
  have hpoint : (exponent ++ rest).head? ≠ some '.' := by
    intro hc
    rcases hexponent.head? hc with hc | hc | hc
    · exact absurd hc (by decide)
    · exact absurd hc (by decide)
    · exact hrest.head?_ne (by decide) (by decide) (by decide) (by decide) hc
  simp only [unsigned, wholePart_append hwhole (hfraction.noDigit hdigit),
    fractionPart_append hfraction hdigit hpoint, hend, Option.bind_eq_bind, Option.bind_some,
    Option.pure_def, List.append_assoc]

/-- **A number is read** as it is spelled. -/
theorem number_append {cs rest : List Char} (h : Numeral cs) (hrest : Closed rest) :
    number (cs ++ rest) = some (cs, rest) := by
  obtain ⟨hsign, hwhole, hfraction, hexponent⟩ := h
  have hunsigned := unsigned_append hwhole hfraction hexponent hrest
  rcases hsign with rfl | rfl
  · rw [List.nil_append, List.append_assoc, List.append_assoc, number.eq_def]
    split
    · next cs hcs =>
      -- a whole part does not begin with a sign
      cases hwhole with
      | zero => exact absurd (List.cons.inj hcs).1 (by decide)
      | digits h hzero => exact absurd hcs (h.append_ne (by decide) _ _)
    · exact hunsigned
  · simp only [List.cons_append, List.nil_append, List.append_assoc, number, hunsigned,
      Option.bind_eq_bind, Option.bind_some, Option.pure_def]

end Automaton.Document.Json
