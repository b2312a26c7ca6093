import Automaton.Name
import Mathlib.Computability.Language
import Mathlib.Data.Char

/-!
# Names as words

`Identifier.valid` reads a name character by character.  The names that it accepts are the words of
a regular language, `Identifier.pattern`, which is the expression `[A-Za-z_][A-Za-z0-9_]*` written
with the operations of languages (`Identifier.valid_iff_matches`).

## Symbols

A symbol is the name in upper case, and upper case is a matter of all scripts.  On identifiers it is
letter arithmetic, so two of them have one symbol exactly if they are the same up to the case of
their letters (`Symbol.ofState_eq_iff`, `Symbol.ofEvent_eq_iff`).

Names and symbols alike are *words* (`Identifier.IsWord`), so whatever is no letter, no digit and no
underscore ends them when they stand in a text.

What `Symbol.clashes` reports are two items with one symbol, in the order in which the list has them
(`Symbol.sublist_of_mem_clashes`).
-/

namespace Automaton

open scoped Computability

/-! ### Identifiers -/

namespace Identifier

/-- **A class of characters**, as words of one character. -/
def ofClass (p : Char → Prop) : Language Char :=
  {w | ∃ c, p c ∧ w = [c]}

/-- The characters from one to another. -/
def between (first last : Char) : Language Char :=
  ofClass fun c => first ≤ c ∧ c ≤ last

/-- **The words that can name something**: `[A-Za-z_][A-Za-z0-9_]*`. -/
def pattern : Language Char :=
  (between 'A' 'Z' + between 'a' 'z' + between '_' '_') *
    (between 'A' 'Z' + between 'a' 'z' + between '0' '9' + between '_' '_')∗

/-- **A name matches** if its characters are a word of the pattern. -/
def Matches (name : String) : Prop :=
  name.toList ∈ pattern

section Classes

variable {p q : Char → Prop} {l : Language Char} {w : List Char}

theorem ofClass_add : ofClass p + ofClass q = ofClass fun c => p c ∨ q c := by
  refine Language.ext fun w => ?_
  rw [Language.mem_add]
  constructor
  · rintro (⟨c, hc, rfl⟩ | ⟨c, hc, rfl⟩)
    · exact ⟨c, .inl hc, rfl⟩
    · exact ⟨c, .inr hc, rfl⟩
  · rintro ⟨c, hc | hc, rfl⟩
    · exact .inl ⟨c, hc, rfl⟩
    · exact .inr ⟨c, hc, rfl⟩

/-- A character of the class in front of a word. -/
theorem mem_ofClass_mul : w ∈ ofClass p * l ↔ ∃ c cs, w = c :: cs ∧ p c ∧ cs ∈ l := by
  rw [Language.mem_mul]
  constructor
  · rintro ⟨_, ⟨c, hc, rfl⟩, cs, hcs, rfl⟩
    exact ⟨c, cs, rfl, hc, hcs⟩
  · rintro ⟨c, cs, rfl, hc, hcs⟩
    exact ⟨[c], ⟨c, hc, rfl⟩, cs, hcs, rfl⟩

/-- A word of characters of the class, however many. -/
theorem mem_kstar_ofClass : w ∈ (ofClass p)∗ ↔ ∀ c ∈ w, p c := by
  rw [Language.mem_kstar]
  constructor
  · rintro ⟨pieces, rfl, hpieces⟩ c hc
    obtain ⟨piece, hpiece, hmem⟩ := List.mem_flatten.mp hc
    obtain ⟨d, hd, rfl⟩ := hpieces piece hpiece
    rw [List.mem_singleton.mp hmem]
    exact hd
  · intro h
    -- every character is a piece of its own
    refine ⟨w.map fun c => [c], ?_, ?_⟩
    · rw [← List.flatMap_def, List.flatMap_singleton']
    · intro piece hpiece
      obtain ⟨c, hc, rfl⟩ := List.mem_map.mp hpiece
      exact ⟨c, h c hc, rfl⟩

end Classes

theorem between_underscore : between '_' '_' = ofClass fun c => c = '_' := by
  refine congrArg ofClass (funext fun c => propext ?_)
  exact ⟨fun h => le_antisymm h.2 h.1, fun h => h ▸ ⟨le_refl _, le_refl _⟩⟩

/-- A digit is one of ten. -/
theorem isDigit_iff {c : Char} : c.isDigit = true ↔ '0' ≤ c ∧ c ≤ '9' :=
  Bool.and_eq_true_iff.trans (and_congr decide_eq_true_iff decide_eq_true_iff)

/-- An identifier begins with a capital, a small letter, or an underscore. -/
theorem isStart_iff {c : Char} :
    isStart c = true ↔ (('A' ≤ c ∧ c ≤ 'Z') ∨ ('a' ≤ c ∧ c ≤ 'z')) ∨ c = '_' := by
  have hupper : c.isUpper = true ↔ 'A' ≤ c ∧ c ≤ 'Z' := decide_eq_true_iff
  have hlower : c.isLower = true ↔ 'a' ≤ c ∧ c ≤ 'z' :=
    Bool.and_eq_true_iff.trans (and_congr decide_eq_true_iff decide_eq_true_iff)
  have halpha : c.isAlpha = true ↔ c.isUpper = true ∨ c.isLower = true := Bool.or_eq_true_iff
  rw [isStart, Bool.or_eq_true, halpha, hupper, hlower, beq_iff_eq]

/-- It goes on with digits as well. -/
theorem isPart_iff {c : Char} : isPart c = true ↔ isStart c = true ∨ ('0' ≤ c ∧ c ≤ '9') := by
  have halnum : c.isAlphanum = true ↔ c.isAlpha = true ∨ c.isDigit = true := Bool.or_eq_true_iff
  rw [isPart, isStart, Bool.or_eq_true, Bool.or_eq_true, halnum, isDigit_iff, or_right_comm]

/-- What an identifier begins with. -/
theorem start_eq :
    between 'A' 'Z' + between 'a' 'z' + between '_' '_' = ofClass (isStart · = true) := by
  rw [between_underscore, between, between, ofClass_add, ofClass_add]
  exact congrArg ofClass (funext fun c => propext isStart_iff.symm)

/-- What an identifier goes on with. -/
theorem part_eq :
    between 'A' 'Z' + between 'a' 'z' + between '0' '9' + between '_' '_' =
      ofClass (isPart · = true) := by
  rw [between_underscore, between, between, between, ofClass_add, ofClass_add, ofClass_add]
  refine congrArg ofClass (funext fun c => propext ?_)
  rw [isPart_iff, isStart_iff]
  exact or_right_comm

/-- **Identifiers** are the names that match. -/
theorem valid_iff_matches {name : String} : valid name = true ↔ Matches name := by
  rw [Matches, pattern, start_eq, part_eq, mem_ofClass_mul, valid]
  simp only [mem_kstar_ofClass]
  constructor
  · intro h
    cases hname : name.toList with
    | nil =>
      rw [hname] at h
      exact absurd h Bool.false_ne_true
    | cons c cs =>
      rw [hname, validList, Bool.and_eq_true, List.all_eq_true] at h
      exact ⟨c, cs, rfl, h.1, h.2⟩
  · rintro ⟨c, cs, hname, hc, hcs⟩
    rw [hname, validList, Bool.and_eq_true, List.all_eq_true]
    exact ⟨hc, hcs⟩

/-- Identifiers are written in ASCII. -/
theorem lt_of_isPart {c : Char} (h : isPart c = true) : c.toNat < 0x80 := by
  rw [isPart_iff, isStart_iff] at h
  -- capitals, small letters, the underscore, and digits
  change (((65 ≤ c.toNat ∧ c.toNat ≤ 90) ∨ (97 ≤ c.toNat ∧ c.toNat ≤ 122)) ∨ c = '_') ∨
    (48 ≤ c.toNat ∧ c.toNat ≤ 57) at h
  rcases h with (h | rfl) | h
  · omega
  · decide
  · omega

/-! ### Words -/

/-- **A word** is written with the characters that identifiers go on with. -/
def IsWord (s : String) : Prop :=
  ∀ c ∈ s.toList, isPart c = true

instance (s : String) : Decidable (IsWord s) :=
  decidable_of_iff (s.toList.all isPart = true) List.all_eq_true

/-- Identifiers are words. -/
theorem isWord_of_valid {name : String} (h : valid name = true) : IsWord name :=
  isPart_of_valid h

/-- **No other character** is in a word. -/
theorem IsWord.notMem {s : String} (h : IsWord s) {c : Char} (hc : isPart c = false) :
    c ∉ s.toList := by
  intro hmem
  rw [h c hmem] at hc
  exact absurd hc nofun

/-- Words put together are a word. -/
theorem IsWord.append {a b : String} (ha : IsWord a) (hb : IsWord b) : IsWord (a ++ b) := by
  intro c hc
  rw [String.toList_append, List.mem_append] at hc
  rcases hc with hc | hc
  · exact ha c hc
  · exact hb c hc

/-- An identifier may go on with any word. -/
theorem valid_append {a b : String} (ha : valid a = true) (hb : IsWord b) :
    valid (a ++ b) = true := by
  unfold valid at ha ⊢
  rw [String.toList_append]
  cases hchars : a.toList with
  | nil =>
    rw [hchars] at ha
    exact absurd ha Bool.false_ne_true
  | cons c cs =>
    rw [hchars, validList, Bool.and_eq_true, List.all_eq_true] at ha
    -- only the first character is special, and it is that of the first part
    rw [List.cons_append, validList, Bool.and_eq_true, List.all_eq_true]
    refine ⟨ha.1, fun d hd => ?_⟩
    rcases List.mem_append.mp hd with hd | hd
    · exact ha.2 d hd
    · exact hb d hd

/-- What holds of the first 128 characters, one by one, holds of all characters of identifiers. -/
theorem forall_isPart {p : Char → Prop} (h : ∀ n < 0x80, p (Char.ofNat n)) {c : Char}
    (hc : isPart c = true) : p c := by
  have hnumber := h c.toNat (lt_of_isPart hc)
  rwa [Char.ofNat_toNat] at hnumber

/-- Upper case keeps the characters of identifiers. -/
theorem isPart_toUpper {c : Char} (h : isPart c = true) : isPart c.toUpper = true :=
  forall_isPart (p := fun c => isPart c = true → isPart c.toUpper = true) (by decide) h h

/-- Either case can be had from the other. -/
theorem toLower_toUpper {c : Char} (h : isPart c = true) : c.toUpper.toLower = c.toLower :=
  forall_isPart (p := fun c => c.toUpper.toLower = c.toLower) (by decide) h

theorem toUpper_toLower {c : Char} (h : isPart c = true) : c.toLower.toUpper = c.toUpper :=
  forall_isPart (p := fun c => c.toLower.toUpper = c.toUpper) (by decide) h

end Identifier

/-! ### Symbols -/

/-- **The same up to case**: texts that differ in nothing but the case of ASCII letters. -/
def Text.SameUpToCase (a b : String) : Prop :=
  a.toList.map Char.toLower = b.toList.map Char.toLower

namespace Symbol

/-- On identifiers, upper case is letter arithmetic. -/
theorem toList_upper_of_valid {name : String} (h : Identifier.valid name = true) :
    (Text.upper name).toList = name.toList.map Char.toUpper := by
  rw [Text.toList_upper, List.map_eq_flatMap]
  refine List.flatMap_congr fun c hc => ?_
  exact Text.upperChar_of_ascii (Identifier.lt_of_isPart (Identifier.isPart_of_valid h c hc))

/-- Identifiers are the same in lower case exactly if they are in upper case. -/
theorem map_toUpper_eq_iff {as bs : List Char} (has : ∀ c ∈ as, Identifier.isPart c = true)
    (hbs : ∀ c ∈ bs, Identifier.isPart c = true) :
    as.map Char.toUpper = bs.map Char.toUpper ↔ as.map Char.toLower = bs.map Char.toLower := by
  -- case is lost in both directions alike, as long as letters are those of names
  have hlower : ∀ cs : List Char, (∀ c ∈ cs, Identifier.isPart c = true) →
      (cs.map Char.toUpper).map Char.toLower = cs.map Char.toLower := by
    intro cs hcs
    rw [List.map_map]
    exact List.map_congr_left fun c hc => Identifier.toLower_toUpper (hcs c hc)
  have hupper : ∀ cs : List Char, (∀ c ∈ cs, Identifier.isPart c = true) →
      (cs.map Char.toLower).map Char.toUpper = cs.map Char.toUpper := by
    intro cs hcs
    rw [List.map_map]
    exact List.map_congr_left fun c hc => Identifier.toUpper_toLower (hcs c hc)
  constructor
  · intro h
    rw [← hlower as has, h, hlower bs hbs]
  · intro h
    rw [← hupper as has, h, hupper bs hbs]

/-- In upper case, an identifier is a word. -/
theorem isWord_upper {name : String} (h : Identifier.valid name = true) :
    Identifier.IsWord (Text.upper name) := by
  intro c hc
  rw [toList_upper_of_valid h] at hc
  obtain ⟨d, hd, rfl⟩ := List.mem_map.mp hc
  exact Identifier.isPart_toUpper (Identifier.isPart_of_valid h d hd)

/-- **Symbols of states** are words. -/
theorem isWord_ofState {name : String} (h : Identifier.valid name = true) :
    Identifier.IsWord (ofState name) :=
  Identifier.IsWord.append (by decide) (isWord_upper h)

/-- **Symbols of events** are words. -/
theorem isWord_ofEvent {name : String} (h : Identifier.valid name = true) :
    Identifier.IsWord (ofEvent name) :=
  Identifier.IsWord.append (by decide) (isWord_upper h)

/-- They are identifiers, too. -/
theorem valid_ofState {name : String} (h : Identifier.valid name = true) :
    Identifier.valid (ofState name) = true :=
  Identifier.valid_append (by decide) (isWord_upper h)

/-- So are the symbols of events. -/
theorem valid_ofEvent {name : String} (h : Identifier.valid name = true) :
    Identifier.valid (ofEvent name) = true :=
  Identifier.valid_append (by decide) (isWord_upper h)

section Identifiers

variable {a b : String} (ha : Identifier.valid a = true) (hb : Identifier.valid b = true)
include ha hb

theorem upper_eq_iff : Text.upper a = Text.upper b ↔ Text.SameUpToCase a b := by
  rw [← String.toList_inj, toList_upper_of_valid ha, toList_upper_of_valid hb,
    map_toUpper_eq_iff (Identifier.isPart_of_valid ha) (Identifier.isPart_of_valid hb),
    Text.SameUpToCase]

/-- **States share a symbol** exactly if their names are the same up to case. -/
theorem ofState_eq_iff : ofState a = ofState b ↔ Text.SameUpToCase a b := by
  rw [ofState, ofState, String.append_right_inj, upper_eq_iff ha hb]

/-- **Events share a symbol** exactly if their names are the same up to case. -/
theorem ofEvent_eq_iff : ofEvent a = ofEvent b ↔ Text.SameUpToCase a b := by
  rw [ofEvent, ofEvent, String.append_right_inj, upper_eq_iff ha hb]

end Identifiers

/-! ### Clashes -/

theorem sublist_of_mem_clashesAfter {earlier items : List (String × String)} {c : Clash}
    (h : c ∈ clashesAfter earlier items) :
    [(c.symbol, c.first), (c.symbol, c.second)].Sublist (earlier ++ items) := by
  -- items move from the list to those before it, and the two together stay what they are
  induction items generalizing earlier with
  | nil => exact absurd h List.not_mem_nil
  | cons item items ih =>
    obtain ⟨symbol, name⟩ := item
    rw [clashesAfter, List.mem_append] at h
    rcases h with h | h
    · -- the clash is between this item and an earlier one
      split at h
      · next found first hfind =>
        have hsymbol : found = symbol := by
          have hfound := List.find?_some hfind
          exact beq_iff_eq.mp hfound
        subst hsymbol
        rw [List.mem_singleton.mp h]
        exact (List.singleton_sublist.mpr (List.mem_of_find?_eq_some hfind)).append
          (List.singleton_sublist.mpr List.mem_cons_self)
      · exact absurd h List.not_mem_nil
    · -- the clash is further on, where this item counts as an earlier one
      have hrest := ih h
      rwa [List.append_assoc, List.singleton_append] at hrest

/-- **A clash** is between two items of the list, in this order, that have its symbol. -/
theorem sublist_of_mem_clashes {items : List (String × String)} {c : Clash}
    (h : c ∈ clashes items) : [(c.symbol, c.first), (c.symbol, c.second)].Sublist items :=
  sublist_of_mem_clashesAfter h

end Symbol

end Automaton
