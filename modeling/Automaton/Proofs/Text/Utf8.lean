import Automaton.Text.Utf8
import Automaton.Proofs.Text.ByteOrder

/-!
# Reading text back from its bytes

A file that was written as text is read as text: `Utf8.decode` undoes the encoding of every text
(`Utf8.decode_toUTF8`).

The reader looks at one sequence at a time, and the work is in showing that it takes the encoding of
a character for that character (`Utf8.leading_utf8EncodeChar`).  There is one lemma for each length.
Of the limits that `Utf8.plan` sets for the second byte, the lower ones are kept because a character
is never encoded with more bytes than it needs, and the upper ones because no character has the
number of a surrogate or one beyond the last.
-/

namespace Automaton.Utf8

/-! ### One character -/

section Lengths

variable {n : Nat} {b b₁ b₂ b₃ : UInt8}

theorem leading_one (hn : n < 0x80) (hb : b.toNat = n) (rest : List UInt8) :
    leading b rest = .scalar (Char.ofNat n) 0 := by
  have hlow : b < 0x80 := UInt8.lt_iff_toNat_lt.mpr (hb ▸ hn)
  rw [leading, if_pos hlow, hb]

theorem leading_two (hn : 0x80 ≤ n) (hn' : n < 0x800) (hb : b.toNat = n / 64 + 0xC0)
    (hb₁ : b₁.toNat = n % 64 + 0x80) (rest : List UInt8) :
    leading b (b₁ :: rest) = .scalar (Char.ofNat n) 1 := by
  have hhigh : ¬ b < 0x80 := by
    simp only [UInt8.lt_iff_toNat_lt, hb, UInt8.reduceToNat]
    omega
  have hplan : plan b = some (1, 0x80, 0xBF) := by
    rw [plan, if_pos]
    simp only [Bool.and_eq_true, decide_eq_true_eq, UInt8.le_iff_toNat_le, hb, UInt8.reduceToNat]
    omega
  have hsecond : (0x80 ≤ b₁ && b₁ ≤ 0xBF) = true := by
    simp only [Bool.and_eq_true, decide_eq_true_eq, UInt8.le_iff_toNat_le, hb₁, UInt8.reduceToNat]
    omega
  have hshift : shiftIn (b.toNat % 32) b₁ = n := by
    unfold shiftIn
    rw [hb, hb₁]
    omega
  rw [leading, if_neg hhigh, hplan]
  dsimp only
  rw [hsecond]
  simp [hshift]

theorem leading_three (hn : 0x800 ≤ n) (hn' : n < 0xD800 ∨ 0xE000 ≤ n ∧ n < 0x10000)
    (hb : b.toNat = n / 4096 + 0xE0) (hb₁ : b₁.toNat = n / 64 % 64 + 0x80)
    (hb₂ : b₂.toNat = n % 64 + 0x80) (rest : List UInt8) :
    leading b (b₁ :: b₂ :: rest) = .scalar (Char.ofNat n) 2 := by
  have hhigh : ¬ b < 0x80 := by
    simp only [UInt8.lt_iff_toNat_lt, hb, UInt8.reduceToNat]
    omega
  obtain ⟨low, high, hplan, hsecond⟩ : ∃ low high, plan b = some (2, low, high) ∧
      (low ≤ b₁ && b₁ ≤ high) = true := by
    simp only [plan, Bool.and_eq_true, Bool.or_eq_true, decide_eq_true_eq, beq_iff_eq,
      UInt8.le_iff_toNat_le, ← UInt8.toNat_inj, hb, hb₁, UInt8.reduceToNat]
    -- one case for each row of the plan; those of other lengths contradict the bounds
    split_ifs
    all_goals first
      | omega
      | exact ⟨_, _, rfl, by simp only [UInt8.reduceToNat]; omega⟩
  have htail : isTail b₂ = true := by
    simp only [isTail, Bool.and_eq_true, decide_eq_true_eq, UInt8.le_iff_toNat_le, hb₂,
      UInt8.reduceToNat]
    omega
  have hshift : shiftIn (shiftIn (b.toNat % 16) b₁) b₂ = n := by
    unfold shiftIn
    rw [hb, hb₁, hb₂]
    omega
  rw [leading, if_neg hhigh, hplan]
  dsimp only
  rw [hsecond]
  simp [htail, hshift]

theorem leading_four (hn : 0x10000 ≤ n) (hn' : n < 0x110000) (hb : b.toNat = n / 262144 + 0xF0)
    (hb₁ : b₁.toNat = n / 4096 % 64 + 0x80) (hb₂ : b₂.toNat = n / 64 % 64 + 0x80)
    (hb₃ : b₃.toNat = n % 64 + 0x80) (rest : List UInt8) :
    leading b (b₁ :: b₂ :: b₃ :: rest) = .scalar (Char.ofNat n) 3 := by
  have hhigh : ¬ b < 0x80 := by
    simp only [UInt8.lt_iff_toNat_lt, hb, UInt8.reduceToNat]
    omega
  obtain ⟨low, high, hplan, hsecond⟩ : ∃ low high, plan b = some (3, low, high) ∧
      (low ≤ b₁ && b₁ ≤ high) = true := by
    simp only [plan, Bool.and_eq_true, Bool.or_eq_true, decide_eq_true_eq, beq_iff_eq,
      UInt8.le_iff_toNat_le, ← UInt8.toNat_inj, hb, hb₁, UInt8.reduceToNat]
    split_ifs
    all_goals first
      | omega
      | exact ⟨_, _, rfl, by simp only [UInt8.reduceToNat]; omega⟩
  have htail : isTail b₂ = true ∧ isTail b₃ = true := by
    simp only [isTail, Bool.and_eq_true, decide_eq_true_eq, UInt8.le_iff_toNat_le, hb₂, hb₃,
      UInt8.reduceToNat]
    omega
  have hshift : shiftIn (shiftIn (shiftIn (b.toNat % 8) b₁) b₂) b₃ = n := by
    unfold shiftIn
    rw [hb, hb₁, hb₂, hb₃]
    omega
  rw [leading, if_neg hhigh, hplan]
  dsimp only
  rw [hsecond]
  simp [htail, hshift]

end Lengths

/-- **The encoding of a character** is taken for that character, whatever follows. -/
theorem leading_utf8EncodeChar (c : Char) (rest : List UInt8) : ∃ b more,
    String.utf8EncodeChar c = b :: more ∧ leading b (more ++ rest) = .scalar c more.length := by
  -- no character is a surrogate, so three bytes never spell one
  have hvalid : c.val.toNat < 0xD800 ∨ 0xE000 ≤ c.val.toNat ∧ c.val.toNat < 0x110000 := by
    have hchar := c.valid
    simp only [UInt32.isValidChar, Nat.isValidChar] at hchar
    omega
  have hbyte : ∀ k, k < 256 → (UInt8.ofNat k).toNat = k := fun k hk => by
    rw [UInt8.toNat_ofNat', Nat.mod_eq_of_lt hk]
  have hself : Char.ofNat c.val.toNat = c := Char.ofNat_toNat c
  unfold String.utf8EncodeChar
  dsimp only
  generalize c.val.toNat = n at hvalid hself ⊢
  rw [← hself]
  -- one case for each length
  split_ifs with hone htwo hthree
  · exact ⟨_, _, rfl, leading_one (n := n) (by omega) (hbyte _ (by omega)) _⟩
  · exact ⟨_, _, rfl, leading_two (n := n) (by omega) (by omega)
      ((hbyte _ (by omega)).trans (by omega)) (hbyte _ (by omega)) _⟩
  · exact ⟨_, _, rfl, leading_three (n := n) (by omega) (by omega)
      ((hbyte _ (by omega)).trans (by omega)) (hbyte _ (by omega)) (hbyte _ (by omega)) _⟩
  · exact ⟨_, _, rfl, leading_four (n := n) (by omega) (by omega)
      ((hbyte _ (by omega)).trans (by omega)) (hbyte _ (by omega)) (hbyte _ (by omega))
      (hbyte _ (by omega)) _⟩

/-! ### Texts -/

theorem decodeFrom_flatMap (cs : List Char) (index : Nat) :
    decodeFrom index (cs.flatMap String.utf8EncodeChar) = .ok cs := by
  induction cs generalizing index with
  | nil => rw [List.flatMap_nil, decodeFrom]
  | cons c cs ih =>
    obtain ⟨b, more, hencode, hleading⟩ :=
      leading_utf8EncodeChar c (cs.flatMap String.utf8EncodeChar)
    rw [List.flatMap_cons, hencode, List.cons_append, decodeFrom, hleading]
    simp only [List.drop_left, ih]
    rfl

/-- Bytes are listed in the order of the array. -/
theorem toList_loop (bs : ByteArray) (i : Nat) (r : List UInt8) :
    ByteArray.toList.loop bs i r = r.reverse ++ bs.data.toList.drop i := by
  fun_induction ByteArray.toList.loop bs i r with
  | case1 i r hlt ih =>
    have hi : i < bs.data.size := hlt
    -- the byte at the place is the next one of the rest
    have hget : bs.get! i = bs.data.toList[i] := getElem!_pos bs.data i hi
    rw [ih, List.drop_eq_getElem_cons hi, ← hget, List.reverse_cons, List.append_assoc,
      List.singleton_append]
  | case2 i r hge =>
    have hnil : bs.data.toList.drop i = [] := List.drop_eq_nil_of_le (Nat.le_of_not_lt hge)
    rw [hnil, List.append_nil]

theorem toList_eq (bs : ByteArray) : bs.toList = bs.data.toList := by
  rw [ByteArray.toList, toList_loop, List.reverse_nil, List.nil_append, List.drop_zero]

/-- **Texts are read back** from their bytes. -/
theorem decode_toUTF8 (s : String) : decode s.toUTF8.toList = .ok s := by
  have hbytes : s.toUTF8.toList = s.toList.flatMap String.utf8EncodeChar :=
    (toList_eq _).trans (Text.bytes_eq_flatMap s)
  rw [decode, hbytes, decodeFrom_flatMap]
  exact congrArg Except.ok String.ofList_toList

end Automaton.Utf8
