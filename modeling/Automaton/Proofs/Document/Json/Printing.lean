import Automaton.Document.Json.Printer
import Automaton.Proofs.Document.Json.Reading

/-!
# Printing is spelling

Both layouts of the printer spell the document that is printed, if there is a spelling of it at all:
its numbers must be numbers of the format, and nothing in it may be unreadable (`Printable`).  So
what is printed can be read back (`Json.read_compact`, `Json.read_pretty`).
-/

namespace Automaton.Document.Json

/-! ### Strings -/

/-- **A character is spelled** by its escape. -/
theorem unitSpelling_escapeChar (c : Char) : UnitSpelling c.toNat (escapeChar c) := by
  -- seven characters have a sign of their own
  by_cases hsign : c ∈ ['"', '\\', '\n', '\r', '\t', '\x08', '\x0c']
  · have hsigns : ∀ c ∈ ['"', '\\', '\n', '\r', '\t', '\x08', '\x0c'],
        UnitSpelling c.toNat (escapeChar c) := by
      simp only [List.forall_mem_cons]
      exact ⟨.sign rfl, .sign rfl, .sign rfl, .sign rfl, .sign rfl, .sign rfl, .sign rfl, nofun⟩
    exact hsigns c hsign
  · simp only [List.mem_cons, List.not_mem_nil, or_false, not_or] at hsign
    obtain ⟨hquote, hescape, hn, hr, ht, hb, hf⟩ := hsign
    rw [escapeChar, if_neg hquote, if_neg hescape, if_neg hn, if_neg hr, if_neg ht, if_neg hb,
      if_neg hf]
    split
    · next hcontrol =>
      -- the others below a space are written by their number
      have hdigits : ∀ n, n < 0x20 →
          hexNumber ['0', '0', Nat.digitChar (n / 16), Nat.digitChar (n % 16)] = some n := by
        decide
      exact .digits (hdigits c.toNat hcontrol)
    · next hcontrol => exact .plain (Nat.not_lt.mp hcontrol) hquote hescape

/-- **A text is spelled** by its quotation. -/
theorem literal_quote (s : String) : Literal (some s) (quote s).toList := by
  -- a text is its characters, one unit for each, as they are printed
  have hbody : ∀ cs : List Char, UnitsSpelling (cs.map Char.toNat) (cs.flatMap escapeChar) := by
    intro cs
    induction cs with
    | nil => exact .nil
    | cons c cs ih => exact .cons (unitSpelling_escapeChar c) ih
  have hunits : ∀ cs : List Char, UnitsOf cs (cs.map Char.toNat) := by
    intro cs
    induction cs with
    | nil => exact .nil
    | cons c cs ih => exact .whole c ih
  rw [quote, String.toList_ofList]
  exact .text (hbody s.toList) (hunits s.toList)

/-! ### Documents -/

/-- **Documents that can be printed**: their numbers are numbers, and everything is readable. -/
inductive Printable : Document → Prop where
  | null : Printable .null
  | boolean (value : Bool) : Printable (.boolean value)
  | number {literal : String} (h : Numeral literal.toList) : Printable (.number literal)
  | text (value : String) : Printable (.text value)
  | list {items : List Document} (below : ∀ d ∈ items, Printable d) : Printable (.list items)
  | record {members : List (String × Document)} (below : ∀ m ∈ members, Printable m.2) :
    Printable (.record members)

theorem Printable.texts (ss : List String) : Printable (.texts ss) :=
  .list (List.forall_mem_map.mpr fun s _ => .text s)

/-- A truth value is spelled by its word. -/
theorem spelling_boolean (b : Bool) :
    Spelling (.value (.boolean b)) (plain (.boolean b)).toList := by
  cases b with
  | true => exact .trueWord
  | false => exact .falseWord

/-- A number keeps its spelling. -/
theorem spelling_number {literal : String} (h : Numeral literal.toList) :
    Spelling (.value (.number literal)) (plain (.number literal)).toList := by
  have hnumber := Spelling.number h
  rwa [String.ofList_toList] at hnumber

theorem blanks_nil : Blanks [] :=
  fun _ hc => absurd hc List.not_mem_nil

/-- A value without blanks is an entry. -/
theorem Spelling.bare {d : Document} {cs : List Char} (h : Spelling (.value d) cs) :
    Spelling (.entry d) cs := by
  have hentry := Spelling.entry blanks_nil h blanks_nil
  rwa [List.nil_append, List.append_nil] at hentry

/-- An entry under a quoted name. -/
theorem Spelling.quoted {d : Document} {cs before : List Char} (h : Spelling (.entry d) cs)
    (hbefore : Blanks before) (n : String) :
    Spelling (.member (some n) d) (before ++ ((quote n).toList ++ ':' :: cs)) := by
  have hmember := Spelling.named hbefore (literal_quote n) blanks_nil h
  rwa [List.nil_append] at hmember

/-! ### Commas -/

section Commas

variable (print : Document → List Char) {before space after : List Char}

/-- **Items**: each is printed behind the same blanks, and more blanks may stand behind the last. -/
theorem spelling_items (hbefore : Blanks before) (hafter : Blanks after) {d : Document}
    {ds : List Document} (h : ∀ e ∈ d :: ds, Spelling (.value e) (print e)) :
    Spelling (.items (d :: ds))
      (before ++ print d ++ (ds.flatMap fun e => ',' :: (before ++ print e)) ++ after) := by
  induction ds generalizing d with
  | nil =>
    rw [List.flatMap_nil, List.append_nil, List.append_assoc]
    exact .item (.entry hbefore (h d List.mem_cons_self) hafter)
  | cons d' ds ih =>
    obtain ⟨hd, hrest⟩ := List.forall_mem_cons.mp h
    -- the comma is in front of the next item, and the blanks are behind the last one
    have hitems := Spelling.items (.entry hbefore hd blanks_nil) (ih hrest)
    simpa only [List.flatMap_cons, List.append_assoc, List.cons_append, List.nil_append]
      using hitems

/-- **Members** are printed as items are, each behind its name. -/
theorem spelling_members (hbefore : Blanks before) (hspace : Blanks space) (hafter : Blanks after)
    {m : String × Document} {ms : List (String × Document)}
    (h : ∀ e ∈ m :: ms, Spelling (.value e.2) (print e.2)) :
    Spelling (.members ((m :: ms).map fun e => (some e.1, e.2)))
      (before ++ ((quote m.1).toList ++ ':' :: (space ++ print m.2)) ++
        (ms.flatMap fun e =>
          ',' :: (before ++ ((quote e.1).toList ++ ':' :: (space ++ print e.2)))) ++ after) := by
  induction ms generalizing m with
  | nil =>
    have hd : Spelling (.value m.2) (print m.2) := h m List.mem_cons_self
    -- the last member is the one with blanks behind it
    have hmember := (Spelling.entry hspace hd hafter).quoted hbefore m.1
    simpa only [List.map_cons, List.map_nil, List.flatMap_nil, List.append_nil, List.append_assoc,
      List.cons_append] using Spelling.member hmember
  | cons m' ms ih =>
    obtain ⟨hd, hrest⟩ := List.forall_mem_cons.mp h
    have hmember := (Spelling.entry hspace hd blanks_nil).quoted hbefore m.1
    have hmembers := Spelling.members hmember (ih hrest)
    simpa only [List.map_cons, List.flatMap_cons, List.append_assoc, List.cons_append,
      List.nil_append] using hmembers

end Commas

/-! ### On one line -/

theorem toList_compactItems (ds : List Document) :
    (compactItems ds).toList = ds.flatMap fun d => ',' :: (compact d).toList := by
  induction ds with
  | nil => rfl
  | cons d ds ih => simp [compactItems, ih]

theorem toList_compactMembers (ms : List (String × Document)) : (compactMembers ms).toList =
    ms.flatMap fun m => ',' :: ((quote m.1).toList ++ ':' :: (compact m.2).toList) := by
  induction ms with
  | nil => rfl
  | cons m ms ih => simp [compactMembers, ih]

/-- **The layout on one line** spells what is printed. -/
theorem Printable.spelling_compact {d : Document} (h : Printable d) :
    Spelling (.value d) (compact d).toList := by
  induction h with
  | null =>
    simp only [compact]
    exact .nullWord
  | boolean b =>
    simp only [compact]
    exact spelling_boolean b
  | number h =>
    simp only [compact]
    exact spelling_number h
  | text s =>
    simp only [compact]
    exact .text (literal_quote s)
  -- an empty list has no row of items, so it has a form of its own
  | @list ds below ih =>
    cases ds with
    | nil =>
      rw [compact]
      exact .emptyList blanks_nil
    | cons d ds =>
      have hlist := Spelling.list (spelling_items _ blanks_nil blanks_nil ih)
      simpa [compact, toList_compactItems] using hlist
  | @record ms below ih =>
    cases ms with
    | nil =>
      rw [compact]
      exact .emptyRecord blanks_nil
    | cons m ms =>
      have hrecord := Spelling.record
        (spelling_members (fun d => (compact d).toList) blanks_nil blanks_nil blanks_nil ih)
      simpa [compact, toList_compactMembers] using hrecord

/-- **What is printed on one line** is read back. -/
theorem read_compact {d : Document} (h : Printable d) : read (compact d) = some d :=
  read_of_writes h.spelling_compact.bare

/-! ### One item a line -/

/-- A new line is blank. -/
theorem blanks_newline (level : Nat) : Blanks (newline level).toList := by
  rw [newline, String.toList_append]
  refine Blanks.append (fun c hc => List.mem_singleton.mp hc ▸ rfl) fun c hc => ?_
  rw [String.toList_ofList] at hc
  exact List.eq_of_mem_replicate hc ▸ rfl

theorem toList_prettyItems (level : Nat) (ds : List Document) : (prettyItems level ds).toList =
    ds.flatMap fun d => ',' :: ((newline level).toList ++ (prettyAt level d).toList) := by
  induction ds with
  | nil => rfl
  | cons d ds ih => simp [prettyItems, ih]

theorem toList_prettyMembers (level : Nat) (ms : List (String × Document)) :
    (prettyMembers level ms).toList = ms.flatMap fun m => ',' :: ((newline level).toList ++
      ((quote m.1).toList ++ ':' :: ([' '] ++ (prettyAt level m.2).toList))) := by
  induction ms with
  | nil => rfl
  | cons m ms ih => simp [prettyMembers, ih]

/-- **The layout with one item a line** spells what is printed. -/
theorem Printable.spelling_pretty {d : Document} (h : Printable d) (level : Nat) :
    Spelling (.value d) (prettyAt level d).toList := by
  have hspace : Blanks [' '] := fun c hc => List.mem_singleton.mp hc ▸ rfl
  induction h generalizing level with
  | null =>
    simp only [prettyAt]
    exact .nullWord
  | boolean b =>
    simp only [prettyAt]
    exact spelling_boolean b
  | number h =>
    simp only [prettyAt]
    exact spelling_number h
  | text s =>
    simp only [prettyAt]
    exact .text (literal_quote s)
  | @list ds below ih =>
    cases ds with
    | nil =>
      rw [prettyAt]
      exact .emptyList blanks_nil
    -- what stands in brackets is one level deeper, and the closing bracket is not
    | cons d ds =>
      have hlist := Spelling.list (spelling_items _ (blanks_newline (level + 1))
        (blanks_newline level) fun e he => ih e he (level + 1))
      simpa [prettyAt, toList_prettyItems] using hlist
  | @record ms below ih =>
    cases ms with
    | nil =>
      rw [prettyAt]
      exact .emptyRecord blanks_nil
    | cons m ms =>
      have hrecord := Spelling.record
        (spelling_members (fun d => (prettyAt (level + 1) d).toList) (blanks_newline (level + 1))
          hspace (blanks_newline level) fun e he => ih e he (level + 1))
      simpa [prettyAt, toList_prettyMembers] using hrecord

/-- **What is printed with one item a line** is read back. -/
theorem read_pretty {d : Document} (h : Printable d) : read (pretty d) = some d :=
  read_of_writes (h.spelling_pretty 0).bare

end Automaton.Document.Json
