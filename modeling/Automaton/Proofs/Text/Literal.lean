import Automaton.Proofs.Text.Delimited

/-!
# Literals within a text

A source is a text with literals in it, and a reader of the source has to find out where each of
them ends.  `Text.readLiteral` does so: from the opening quote on, a backslash takes the next
character as it is, and the first quote that is not taken closes the literal.

`Text.Embeds` says that a literal can be embedded into any text: whatever follows, the reader stops
at the end of the literal, and at no earlier place.  The literal of every text has this property
(`Text.quote_embeds`).

## Two passes

A literal can be made by replacing characters, first all backslashes and then all quotes
(`Text.escape_eq_replaced`).  The order matters.  The backslashes that the second pass puts in front
of quotes must not be doubled, and those that the first pass puts in are never touched again, since
they are no quotes.
-/

namespace Automaton.Text

/-- **A character replaced** by some text, wherever it stands. -/
def replaced (c : Char) (substitute : List Char) (cs : List Char) : List Char :=
  cs.flatMap fun d => if d = c then substitute else [d]

theorem replaced_cons_self (c : Char) (substitute cs : List Char) :
    replaced c substitute (c :: cs) = substitute ++ replaced c substitute cs := by
  rw [replaced, List.flatMap_cons, if_pos rfl]
  rfl

theorem replaced_cons_of_ne {c d : Char} (h : d ≠ c) (substitute cs : List Char) :
    replaced c substitute (d :: cs) = d :: replaced c substitute cs := by
  rw [replaced, List.flatMap_cons, if_neg h]
  rfl

/-- **Escaping in two passes**: backslashes first, and then quotes. -/
theorem escape_eq_replaced (cs : List Char) :
    escape cs = replaced '"' ['\\', '"'] (replaced '\\' ['\\', '\\'] cs) := by
  induction cs with
  | nil => rfl
  | cons c cs ih =>
    by_cases hbackslash : c = '\\'
    · -- the second pass meets the two backslashes of the first one, and no quote
      subst hbackslash
      rw [escape_backslash, replaced_cons_self, List.cons_append, List.cons_append,
        List.nil_append, replaced_cons_of_ne (by decide), replaced_cons_of_ne (by decide), ih]
    · rw [replaced_cons_of_ne hbackslash]
      by_cases hquote : c = '"'
      · subst hquote
        rw [escape_quote, replaced_cons_self, ih]
        rfl
      · rw [escape_cons hbackslash hquote, replaced_cons_of_ne hquote, ih]

/-- In the other order, a quote is closed by what should have escaped it. -/
example : scanQuoted (replaced '\\' ['\\', '\\'] (replaced '"' ['\\', '"'] ['"']) ++ ['"']) =
    some (['\\'], ['"']) := by
  decide

/-! ### Reading -/

/-- **Reading a literal** from its opening quote on: the text that it denotes, and what follows it.
-/
def readLiteral (text : String) : Option (String × String) :=
  match text.toList with
  | '"' :: cs => (scanQuoted cs).map fun r => (String.ofList r.1, String.ofList r.2)
  | _ => none

/-- The first quote that is not taken closes the literal. -/
theorem scanQuoted_close (cs : List Char) : scanQuoted ('"' :: cs) = some ([], cs) := by
  simp [scanQuoted]

/-- Any other character stands for itself. -/
theorem scanQuoted_cons {c : Char} (hbackslash : c ≠ '\\') (hquote : c ≠ '"') (cs : List Char) :
    scanQuoted (c :: cs) = (scanQuoted cs).map fun r => (c :: r.1, r.2) := by
  rw [scanQuoted, if_neg hquote]
  · exact fun h _ => hbackslash h
  · exact fun _ _ h _ => hbackslash h

/-- **What has been read** is read again if more text follows. -/
theorem scanQuoted_append {cs body rest : List Char} (h : scanQuoted cs = some (body, rest))
    (more : List Char) : scanQuoted (cs ++ more) = some (body, rest ++ more) := by
  -- along the recursion of the reader: each step looks at characters that are there already
  induction cs using scanQuoted.induct generalizing body with
  | case1 => exact absurd h nofun
  | case2 => exact absurd h nofun
  | case3 c cs ih =>
    rw [scanQuoted, Option.map_eq_some_iff] at h
    obtain ⟨r, hr, heq⟩ := h
    obtain ⟨rfl, rfl⟩ := Prod.mk.inj heq
    rw [List.cons_append, List.cons_append, scanQuoted, ih hr]
    rfl
  | case4 cs _ _ =>
    rw [scanQuoted_close] at h
    obtain ⟨rfl, rfl⟩ := Prod.mk.inj (Option.some.inj h)
    rw [List.cons_append, scanQuoted_close]
  | case5 c cs hend htaken hquote ih =>
    have hbackslash : c ≠ '\\' := by
      intro hc
      cases cs with
      | nil => exact hend hc rfl
      | cons d ds => exact htaken d ds hc rfl
    rw [scanQuoted_cons hbackslash hquote, Option.map_eq_some_iff] at h
    obtain ⟨r, hr, heq⟩ := h
    obtain ⟨rfl, rfl⟩ := Prod.mk.inj heq
    rw [List.cons_append, scanQuoted_cons hbackslash hquote, ih hr]
    rfl

/-- The same for whole literals. -/
theorem readLiteral_append {text s rest : String} (h : readLiteral text = some (s, rest))
    (more : String) : readLiteral (text ++ more) = some (s, rest ++ more) := by
  unfold readLiteral at h ⊢
  split at h
  · next cs hcs =>
    obtain ⟨r, hr, heq⟩ := Option.map_eq_some_iff.mp h
    obtain ⟨rfl, rfl⟩ := Prod.mk.inj heq
    rw [String.toList_append, hcs, List.cons_append]
    show Option.map _ (scanQuoted (cs ++ more.toList)) = _
    -- scanning ends at the closing quote, and what follows is left as it is
    rw [scanQuoted_append hr, Option.map_some, String.ofList_append, String.ofList_toList]
  · exact absurd h nofun

/-! ### Embedding -/

/-- **A literal that can be embedded** into any text. -/
structure Embeds (literal s : String) : Prop where
  /-- Whatever follows the literal, it denotes its text, and the reader stops at its end. -/
  reads : ∀ rest, readLiteral (literal ++ rest) = some (s, rest)
  /-- No part of it that ends earlier is a literal. -/
  unfinished : ∀ part rest, part ++ rest = literal → rest ≠ "" → readLiteral part = none

/-- A literal that is read in front of any text is not over before its end. -/
theorem Embeds.of_reads {literal s : String}
    (h : ∀ rest, readLiteral (literal ++ rest) = some (s, rest)) : Embeds literal s where
  reads := h
  unfinished := by
    intro part rest hparts hne
    cases hpart : readLiteral part with
    | none => rfl
    | some r =>
      -- a part that is read would leave the rest of the literal, but the literal leaves nothing
      have hwhole := readLiteral_append hpart rest
      rw [hparts, ← String.append_empty (s := literal), h ""] at hwhole
      have hempty := (Prod.mk.inj (Option.some.inj hwhole)).2
      exact absurd (String.append_eq_empty_iff.mp hempty.symm).2 hne

theorem readLiteral_quote (s rest : String) : readLiteral (quote s ++ rest) = some (s, rest) := by
  have hlist : (quote s ++ rest).toList = '"' :: (escape s.toList ++ '"' :: rest.toList) := by
    rw [String.toList_append, toList_quote, List.cons_append, List.append_assoc,
      List.singleton_append]
  unfold readLiteral
  rw [hlist]
  show Option.map _ (scanQuoted (escape s.toList ++ '"' :: rest.toList)) = _
  rw [scanQuoted_escape, Option.map_some, String.ofList_toList, String.ofList_toList]

/-- **Quoting is unambiguous.**  A text is quoted in two passes, and what comes of it can be
embedded: its reader finds the text, the whole of it, and nothing of what follows.  So texts that
begin with literals are the same only if the literals denote the same and are followed by the same.
-/
theorem quote_embeds (s : String) :
    (quote s).toList =
        '"' :: (replaced '"' ['\\', '"'] (replaced '\\' ['\\', '\\'] s.toList) ++ ['"']) ∧
      Embeds (quote s) s ∧
      ∀ s' r r', quote s ++ r = quote s' ++ r' ↔ s = s' ∧ r = r' := by
  refine ⟨?_, .of_reads (readLiteral_quote s), fun s' r r' => ⟨fun h => ?_, ?_⟩⟩
  · rw [toList_quote, escape_eq_replaced]
  · -- one reading of one text
    have hread := readLiteral_quote s r
    rw [h, readLiteral_quote s' r'] at hread
    obtain ⟨hs, hr⟩ := Prod.mk.inj (Option.some.inj hread)
    exact ⟨hs.symm, hr.symm⟩
  · rintro ⟨rfl, rfl⟩
    rfl

end Automaton.Text
