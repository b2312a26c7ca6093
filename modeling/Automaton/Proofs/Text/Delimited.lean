import Automaton.Text.Column
import Automaton.Text.Quoted
import Mathlib.Data.List.Forall2

/-!
# Texts that can be taken apart

Whether a text says what it was put together from depends on what stands between the pieces.  If a
piece does not contain the mark that ends it, the first mark is its end (`append_cons_inj`), and if
nothing behind a mark contains it, the last mark is the one (`append_cons_inj_last`).

Texts of lines are taken apart by `Text.split`, which inverts `Text.lines` for lines without line
feeds (`Text.split_lines_append`), even behind a text of any kind (`Text.split_append`).  Parts with
commas between them can be told as long as they contain none (`Text.joined_inj`), and a quoted text
can always be told (`Text.quote_inj`).
-/

namespace Automaton

/-! ### Lists with marks -/

section Marks

variable {α β γ δ : Type} {a : α} {xs ys xs' ys' : List α}

/-- **The first mark** ends a piece that does not contain it. -/
theorem append_cons_inj (h : a ∉ xs) (h' : a ∉ xs') (heq : xs ++ a :: ys = xs' ++ a :: ys') :
    xs = xs' ∧ ys = ys' := by
  -- on both pieces at once: when one of them is over, the mark is next, so the other is over too
  induction xs generalizing xs' with
  | nil =>
    cases xs' with
    | nil => exact ⟨rfl, (List.cons.inj heq).2⟩
    | cons x' xs' =>
      obtain ⟨rfl, -⟩ := List.cons.inj heq
      exact absurd List.mem_cons_self h'
  | cons x xs ih =>
    cases xs' with
    | nil =>
      obtain ⟨rfl, -⟩ := List.cons.inj heq
      exact absurd List.mem_cons_self h
    | cons x' xs' =>
      obtain ⟨rfl, htail⟩ := List.cons.inj heq
      obtain ⟨rfl, hys⟩ :=
        ih (List.not_mem_of_not_mem_cons h) (List.not_mem_of_not_mem_cons h') htail
      exact ⟨rfl, hys⟩

/-- **The last mark** begins what does not contain it any more. -/
theorem append_cons_inj_last (h : a ∉ ys) (h' : a ∉ ys') (heq : xs ++ a :: ys = xs' ++ a :: ys') :
    xs = xs' ∧ ys = ys' := by
  -- read backwards, the last mark is the first one
  have hreverse := congrArg List.reverse heq
  simp only [List.reverse_append, List.reverse_cons, List.append_assoc,
    List.singleton_append] at hreverse
  obtain ⟨hys, hxs⟩ :=
    append_cons_inj (mt List.mem_reverse.mp h) (mt List.mem_reverse.mp h') hreverse
  exact ⟨List.reverse_injective hxs, List.reverse_injective hys⟩

/-- **Blocks that end with a mark**, and do not contain it before, can be told. -/
theorem forall₂_of_flatMap_eq {f init : β → List α} (hf : ∀ b, f b = init b ++ [a])
    (hinit : ∀ b, a ∉ init b) {bs cs : List β} (heq : bs.flatMap f = cs.flatMap f) :
    List.Forall₂ (fun b c => f b = f c) bs cs := by
  induction bs generalizing cs with
  | nil =>
    cases cs with
    | nil => exact .nil
    | cons c cs =>
      rw [List.flatMap_nil, List.flatMap_cons, hf c, List.append_assoc] at heq
      exact absurd heq.symm (by simp)
  | cons b bs ih =>
    cases cs with
    | nil =>
      rw [List.flatMap_nil, List.flatMap_cons, hf b, List.append_assoc] at heq
      exact absurd heq (by simp)
    | cons c cs =>
      rw [List.flatMap_cons, List.flatMap_cons, hf b, hf c, List.append_assoc, List.append_assoc]
        at heq
      -- both first blocks end at the first mark
      obtain ⟨hblock, hrest⟩ := append_cons_inj (hinit b) (hinit c) heq
      exact .cons (by rw [hf b, hf c, hblock]) (ih hrest)

/-- **A piece between marks** does not contain the mark. -/
theorem notMem_of_mem_splitOn [BEq α] [LawfulBEq α] (h : ys ∈ xs.splitOn a) : a ∉ ys := by
  rw [List.splitOn] at h
  induction xs generalizing ys with
  | nil =>
    rw [List.splitOnP_nil, List.mem_singleton] at h
    rw [h]
    exact List.not_mem_nil
  | cons x xs ih =>
    rw [List.splitOnP_cons_eq_if_modifyHead] at h
    split at h
    · rcases List.mem_cons.mp h with rfl | h
      · exact List.not_mem_nil
      · exact ih h
    · next hx =>
      have hne : a ≠ x := fun heq => hx (by rw [heq, beq_self_eq_true])
      -- the first piece gets one more item, which is no mark
      cases hpieces : xs.splitOnP (· == a) with
      | nil =>
        rw [hpieces] at h
        exact absurd h List.not_mem_nil
      | cons piece pieces =>
        rw [hpieces, List.modifyHead_cons] at h
        rw [hpieces] at ih
        rcases List.mem_cons.mp h with rfl | h
        · exact List.not_mem_cons_of_ne_of_not_mem hne (ih List.mem_cons_self)
        · exact ih (List.mem_cons_of_mem piece h)

/-- What follows from a relation for items of two lists holds pair by pair. -/
theorem forall₂_imp_mem {R S : β → γ → Prop} {bs : List β} {cs : List γ} (h : List.Forall₂ R bs cs)
    (himp : ∀ b ∈ bs, ∀ c ∈ cs, R b c → S b c) : List.Forall₂ S bs cs := by
  obtain ⟨hlength, hpairs⟩ := List.forall₂_iff_zip.mp h
  refine List.forall₂_iff_zip.mpr ⟨hlength, fun hpair => ?_⟩
  obtain ⟨hb, hc⟩ := List.of_mem_zip hpair
  exact himp _ hb _ hc (hpairs hpair)

/-- Lists that agree under one map agree under another that depends on it. -/
theorem map_eq_of_map_eq {f : β → γ} {g : β → δ} {bs cs : List β} (heq : bs.map f = cs.map f)
    (hfg : ∀ b ∈ bs, ∀ c ∈ cs, f b = f c → g b = g c) : bs.map g = cs.map g := by
  have himages : List.Forall₂ (· = ·) (bs.map f) (cs.map f) := heq ▸ List.forall₂_refl _
  have hpairs : List.Forall₂ (fun b c => f b = f c) bs cs :=
    List.forall₂_map_left_iff.mp (List.forall₂_map_right_iff.mp himages)
  have hresult : List.Forall₂ (· = ·) (bs.map g) (cs.map g) :=
    List.forall₂_map_right_iff.mpr (List.forall₂_map_left_iff.mpr (forall₂_imp_mem hpairs hfg))
  rwa [List.forall₂_eq_eq_eq] at hresult

/-- Lists with the same images are the same if images tell their items. -/
theorem eq_of_map_eq {f : β → γ} {bs cs : List β} (heq : bs.map f = cs.map f)
    (hf : ∀ b ∈ bs, ∀ c ∈ cs, f b = f c → b = c) : bs = cs := by
  have hid := map_eq_of_map_eq (g := id) heq hf
  rwa [List.map_id, List.map_id] at hid

end Marks

namespace Text

/-! ### Marks in texts -/

/-- **A piece ends** where the text goes on with a character that it does not contain. -/
theorem append_inj_of_notMem {c : Char} {a b r s : String} (ha : c ∉ a.toList)
    (hb : c ∉ b.toList) (hr : r.toList.head? = some c) (hs : s.toList.head? = some c)
    (heq : a ++ r = b ++ s) : a = b ∧ r = s := by
  obtain ⟨r', hr'⟩ := List.head?_eq_some_iff.mp hr
  obtain ⟨s', hs'⟩ := List.head?_eq_some_iff.mp hs
  have hlist := congrArg String.toList heq
  rw [String.toList_append, String.toList_append, hr', hs'] at hlist
  obtain ⟨hab, hrs⟩ := append_cons_inj ha hb hlist
  refine ⟨String.toList_inj.mp hab, String.toList_inj.mp ?_⟩
  rw [hr', hs', hrs]

/-- **What is quoted** can be told. -/
theorem quote_inj {a b : String} (h : quote a = quote b) : a = b := by
  have hlist := congrArg String.toList h
  rw [toList_quote, toList_quote] at hlist
  have hbody := (List.cons.inj hlist).2
  -- reading the literal gives what was quoted
  have hscan := congrArg scanQuoted hbody
  rw [scanQuoted_escape, scanQuoted_escape] at hscan
  exact String.toList_inj.mp (Prod.mk.inj (Option.some.inj hscan)).1

/-- Escaping adds no characters but backslashes. -/
theorem mem_escape {c : Char} {cs : List Char} (h : c ∈ escape cs) : c = '\\' ∨ c ∈ cs := by
  induction cs with
  | nil => exact absurd h List.not_mem_nil
  | cons d ds ih =>
    rw [escape] at h
    -- an escaped character brings a backslash with it
    split at h
    · rcases List.mem_cons.mp h with rfl | h
      · exact .inl rfl
      · rcases List.mem_cons.mp h with rfl | h
        · exact .inr List.mem_cons_self
        · exact (ih h).imp_right (List.mem_cons_of_mem _)
    · rcases List.mem_cons.mp h with rfl | h
      · exact .inr List.mem_cons_self
      · exact (ih h).imp_right (List.mem_cons_of_mem _)

/-- Quoting adds no characters but backslashes and quotes. -/
theorem notMem_quote {c : Char} {s : String} (hquote : c ≠ '"') (hbackslash : c ≠ '\\')
    (h : c ∉ s.toList) : c ∉ (quote s).toList := by
  rw [toList_quote, List.mem_cons, List.mem_append, List.mem_singleton]
  rintro (rfl | hmem | rfl)
  · exact hquote rfl
  · rcases mem_escape hmem with rfl | hmem
    · exact hbackslash rfl
    · exact h hmem
  · exact hquote rfl

/-- A number is written with digits. -/
theorem notMem_toString {c : Char} (h : c.isDigit = false) (n : Nat) :
    c ∉ (toString n).toList := by
  have hdigits : (toString n).toList = Nat.toDigits 10 n := by simp
  rw [hdigits]
  intro hmem
  rw [Nat.isDigit_of_mem_toDigits (by decide) (by decide) hmem] at h
  exact absurd h nofun

/-! ### Parts with commas between them -/

@[simp]
theorem joined_singleton (separator part : String) : joined separator [part] = part := by
  rw [joined, ← String.toList_inj, String.toList_intercalate, List.map_singleton,
    List.intercalate_singleton]

theorem joined_cons_cons (separator p q : String) (parts : List String) :
    joined separator (p :: q :: parts) = p ++ (separator ++ joined separator (q :: parts)) := by
  rw [joined, joined, ← String.toList_inj, String.toList_append, String.toList_append,
    String.toList_intercalate, String.toList_intercalate, List.map_cons, List.map_cons,
    List.intercalate_cons_cons, List.append_assoc]

/-- Joining adds no characters but those of the separator. -/
theorem notMem_joined {c : Char} {separator : String} {parts : List String}
    (hseparator : c ∉ separator.toList) (h : ∀ p ∈ parts, c ∉ p.toList) :
    c ∉ (joined separator parts).toList := by
  match parts with
  | [] => exact List.not_mem_nil
  | [p] =>
    rw [joined_singleton]
    exact h p List.mem_cons_self
  | p :: q :: parts =>
    have hrest := notMem_joined hseparator fun x hx => h x (List.mem_cons_of_mem p hx)
    rw [joined_cons_cons, String.toList_append, String.toList_append]
    simp only [List.mem_append, not_or]
    exact ⟨h p List.mem_cons_self, hseparator, hrest⟩

theorem joined_ne_empty {separator p : String} {parts : List String} (h : p ≠ "") :
    joined separator (p :: parts) ≠ "" := by
  cases parts with
  | nil =>
    rw [joined_singleton]
    exact h
  | cons q parts =>
    rw [joined_cons_cons, ne_eq, String.append_eq_empty_iff]
    exact fun hempty => h hempty.1

/-- **Parts with commas between them** can be told if they contain none and are not empty. -/
theorem joined_inj {ps qs : List String} (hps : ∀ p ∈ ps, p ≠ "" ∧ ',' ∉ p.toList)
    (hqs : ∀ q ∈ qs, q ≠ "" ∧ ',' ∉ q.toList) (heq : joined ", " ps = joined ", " qs) :
    ps = qs := by
  induction ps generalizing qs with
  | nil =>
    cases qs with
    | nil => rfl
    | cons q qs => exact absurd heq.symm (joined_ne_empty (hqs q List.mem_cons_self).1)
  | cons p ps ih =>
    obtain ⟨hp, hptail⟩ := List.forall_mem_cons.mp hps
    cases qs with
    | nil => exact absurd heq (joined_ne_empty hp.1)
    | cons q qs =>
      obtain ⟨hq, hqtail⟩ := List.forall_mem_cons.mp hqs
      cases ps with
      | nil =>
        cases qs with
        | nil =>
          rw [joined_singleton, joined_singleton] at heq
          rw [heq]
        | cons q' qs =>
          -- the only part would contain a comma
          rw [joined_singleton, joined_cons_cons] at heq
          exact absurd (by simp [heq]) hp.2
      | cons p' ps =>
        cases qs with
        | nil =>
          rw [joined_singleton, joined_cons_cons] at heq
          exact absurd (by simp [← heq]) hq.2
        | cons q' qs =>
          -- both first parts end at the first comma
          rw [joined_cons_cons, joined_cons_cons] at heq
          obtain ⟨rfl, hrest⟩ := append_inj_of_notMem hp.2 hq.2 (by simp) (by simp) heq
          have htail := ih hptail hqtail ((String.append_right_inj _).mp hrest)
          rw [htail]

/-! ### Lines -/

/-- **The lines of a text**: what stands between its line feeds. -/
def split (text : String) : List String :=
  (text.toList.splitOn '\n').map String.ofList

@[simp]
theorem split_empty : split "" = [""] := by
  decide

theorem lines_cons (l : String) (ls : List String) : lines (l :: ls) = l ++ "\n" ++ lines ls := by
  rw [lines, lines, List.map_cons, String.join_cons]

theorem lines_append (ls ms : List String) : lines (ls ++ ms) = lines ls ++ lines ms := by
  rw [lines, lines, lines, List.map_append, String.join_append]

/-- **A line feed divides** a text, whatever stands before it. -/
theorem split_append (a r : String) : split (a ++ "\n" ++ r) = split a ++ split r := by
  have hlist : (a ++ "\n" ++ r).toList = a.toList ++ '\n' :: r.toList := by
    rw [String.toList_append, String.toList_append, List.append_assoc]
    rfl
  rw [split, hlist, List.splitOn_append_cons_self, List.map_append]
  rfl

/-- A line without line feeds is one line. -/
theorem split_eq_singleton {l : String} (h : '\n' ∉ l.toList) : split l = [l] := by
  rw [split, List.splitOn_eq_singleton h, List.map_singleton, String.ofList_toList]

/-- What is between line feeds contains none. -/
theorem feed_notMem_of_mem_split {text l : String} (h : l ∈ split text) : '\n' ∉ l.toList := by
  obtain ⟨cs, hcs, rfl⟩ := List.mem_map.mp h
  rw [String.toList_ofList]
  exact notMem_of_mem_splitOn hcs

/-- **Whatever lines are put together**, each is split on its own. -/
theorem split_lines_append_flatMap (ls : List String) (r : String) :
    split (lines ls ++ r) = ls.flatMap split ++ split r := by
  induction ls with
  | nil => rw [lines_nil, String.empty_append, List.flatMap_nil, List.nil_append]
  | cons l ls ih =>
    rw [lines_cons, String.append_assoc, split_append, ih, List.flatMap_cons, List.append_assoc]

/-- **Splitting inverts** putting lines together, and goes on with what follows them. -/
theorem split_lines_append {ls : List String} (h : ∀ l ∈ ls, '\n' ∉ l.toList) (r : String) :
    split (lines ls ++ r) = ls ++ split r := by
  induction ls with
  | nil => rw [lines_nil, String.empty_append, List.nil_append]
  | cons l ls ih =>
    obtain ⟨hline, hrest⟩ := List.forall_mem_cons.mp h
    rw [lines_cons, String.append_assoc, split_append, split_eq_singleton hline, ih hrest,
      List.singleton_append, List.cons_append]

end Text

end Automaton
