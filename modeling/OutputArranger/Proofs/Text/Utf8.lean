import Mathlib.Tactic.SplitIfs
import OutputArranger.Text.Utf8

/-!
# The bytes of a text

A text is read back from its bytes, character by character. Only bytes that are no text are read as
something else.
-/

namespace OutputArranger.Utf8

variable {a b c d : Nat} {bits low high : Nat} {more : List (Nat × Nat)} {rest : List UInt8}

/-- A following byte holds six bits. -/
theorem continued_cons (hlow : low ≤ b + 128) (hhigh : b + 128 ≤ high) (hb : b < 64) :
    continued bits ((low, high) :: more) (UInt8.ofNat (b + 128) :: rest) =
      continued (bits * 64 + b) more rest := by
  have hbyte : (UInt8.ofNat (b + 128)).toNat = b + 128 :=
    UInt8.toNat_ofNat_of_lt' (show b + 128 < 256 by omega)
  rw [continued, hbyte, if_pos ⟨hlow, hhigh⟩, Nat.add_sub_cancel]

/-- Any six bits may be in the last bytes. -/
theorem continued_last (hb : b < 64) :
    continued bits ((0x80, 0xBF) :: more) (UInt8.ofNat (b + 128) :: rest) =
      continued (bits * 64 + b) more rest := continued_cons (by omega) (by omega) hb

theorem next_of_shape (hlead : a < 256) (hshape : shape a = some (bits, more)) :
    next (UInt8.ofNat a) rest = continued bits more rest := by
  have hbyte : (UInt8.ofNat a).toNat = a := UInt8.toNat_ofNat_of_lt' hlead
  rw [next, hbyte, hshape]

theorem next_one (ha : a ≤ 127) : next (UInt8.ofNat a) rest = (some (Char.ofNat a), rest) := by
  have hshape : shape a = some (a, []) := if_pos (by omega)
  rw [next_of_shape (by omega) hshape, continued]

theorem next_two (hleast : 2 ≤ a) (ha : a < 32) (hb : b < 64) :
    next (UInt8.ofNat (a + 192)) (UInt8.ofNat (b + 128) :: rest) =
      (some (Char.ofNat (a * 64 + b)), rest) := by
  have hshape : shape (a + 192) = some (a, [(0x80, 0xBF)]) := by
    rw [shape, if_neg (by omega), if_pos (by omega), Nat.add_sub_cancel]
  rw [next_of_shape (by omega) hshape, continued_last hb, continued]

/-- Neither a character of fewer bytes nor a surrogate is written in three bytes. -/
theorem next_three (ha : a < 16) (hb : b < 64) (hc : c < 64) (hleast : a = 0 → 32 ≤ b)
    (hgap : a = 13 → b < 32) :
    next (UInt8.ofNat (a + 224)) (UInt8.ofNat (b + 128) :: UInt8.ofNat (c + 128) :: rest) =
      (some (Char.ofNat ((a * 64 + b) * 64 + c)), rest) := by
  obtain ⟨low, high, hshape, hlow, hhigh⟩ : ∃ low high,
      shape (a + 224) = some (a, [(low, high), (0x80, 0xBF)]) ∧ low ≤ b + 128 ∧ b + 128 ≤ high := by
    by_cases hzero : a = 0
    · subst hzero
      exact ⟨0xA0, 0xBF, rfl, by omega, by omega⟩
    by_cases hsurrogate : a = 13
    · subst hsurrogate
      exact ⟨0x80, 0x9F, rfl, by omega, by omega⟩
    refine ⟨0x80, 0xBF, ?_, by omega, by omega⟩
    rw [shape, if_neg (by omega), if_neg (by omega), if_neg (by omega), if_neg (by omega),
      if_pos (by omega), Nat.add_sub_cancel]
  rw [next_of_shape (by omega) hshape, continued_cons hlow hhigh hb, continued_last hc, continued]

/-- Neither a character of fewer bytes nor anything past the last one is written in four bytes. -/
theorem next_four (ha : a ≤ 4) (hb : b < 64) (hc : c < 64) (hd : d < 64) (hleast : a = 0 → 16 ≤ b)
    (hlast : a = 4 → b < 16) :
    next (UInt8.ofNat (a + 240))
        (UInt8.ofNat (b + 128) :: UInt8.ofNat (c + 128) :: UInt8.ofNat (d + 128) :: rest) =
      (some (Char.ofNat (((a * 64 + b) * 64 + c) * 64 + d)), rest) := by
  obtain ⟨low, high, hshape, hlow, hhigh⟩ : ∃ low high,
      shape (a + 240) = some (a, [(low, high), (0x80, 0xBF), (0x80, 0xBF)]) ∧
        low ≤ b + 128 ∧ b + 128 ≤ high := by
    by_cases hzero : a = 0
    · subst hzero
      exact ⟨0x90, 0xBF, rfl, by omega, by omega⟩
    by_cases hfour : a = 4
    · subst hfour
      exact ⟨0x80, 0x8F, rfl, by omega, by omega⟩
    refine ⟨0x80, 0xBF, ?_, by omega, by omega⟩
    rw [shape, if_neg (by omega), if_neg (by omega), if_neg (by omega), if_neg (by omega),
      if_neg (by omega), if_neg (by omega), if_pos (by omega), Nat.add_sub_cancel]
  rw [next_of_shape (by omega) hshape, continued_cons hlow hhigh hb, continued_last hc,
    continued_last hd, continued]

/-- The bytes of a character are digits of its number to base 64, each moved to its own range. -/
theorem utf8EncodeChar_eq (c : Char) :
    String.utf8EncodeChar c =
      if c.toNat ≤ 127 then [UInt8.ofNat c.toNat]
      else if c.toNat ≤ 2047 then
        [UInt8.ofNat (c.toNat / 64 % 32 + 192), UInt8.ofNat (c.toNat % 64 + 128)]
      else if c.toNat ≤ 65535 then
        [UInt8.ofNat (c.toNat / 4096 % 16 + 224), UInt8.ofNat (c.toNat / 64 % 64 + 128),
          UInt8.ofNat (c.toNat % 64 + 128)]
      else
        [UInt8.ofNat (c.toNat / 262144 % 8 + 240), UInt8.ofNat (c.toNat / 4096 % 64 + 128),
          UInt8.ofNat (c.toNat / 64 % 64 + 128), UInt8.ofNat (c.toNat % 64 + 128)] := rfl

/-- A character is read back from its bytes, whatever follows them. -/
theorem next_utf8EncodeChar (c : Char) :
    ∃ lead more, String.utf8EncodeChar c = lead :: more ∧
      ∀ rest, next lead (more ++ rest) = (some c, rest) := by
  have hself : Char.ofNat c.toNat = c := Char.ofNat_toNat c
  have hscalar : c.toNat < 0xD800 ∨ 0xDFFF < c.toNat ∧ c.toNat < 0x110000 := c.valid
  rw [utf8EncodeChar_eq]
  generalize c.toNat = n at hself hscalar
  subst hself
  split_ifs with hone htwo hthree
  · exact ⟨_, _, rfl, fun _ => next_one hone⟩
  · refine ⟨_, _, rfl, fun _ => ?_⟩
    refine (next_two (by omega) (Nat.mod_lt _ (by decide)) (Nat.mod_lt _ (by decide))).trans ?_
    congr 3
    omega
  · refine ⟨_, _, rfl, fun _ => ?_⟩
    refine (next_three (Nat.mod_lt _ (by decide)) (Nat.mod_lt _ (by decide))
      (Nat.mod_lt _ (by decide)) (by omega) (by omega)).trans ?_
    congr 3
    omega
  · refine ⟨_, _, rfl, fun _ => ?_⟩
    refine (next_four (by omega) (Nat.mod_lt _ (by decide)) (Nat.mod_lt _ (by decide))
      (Nat.mod_lt _ (by decide)) (by omega) (by omega)).trans ?_
    congr 3
    omega

/-- Characters are read one after the other, as long as there is fuel for each byte. -/
theorem piecesFrom_flatMap (cs : List Char) {fuel : Nat}
    (hfuel : (cs.flatMap String.utf8EncodeChar).length ≤ fuel) :
    piecesFrom fuel (cs.flatMap String.utf8EncodeChar) = cs.map some := by
  induction cs generalizing fuel with
  | nil => cases fuel <;> rfl
  | cons c cs ih =>
      obtain ⟨lead, more, hbytes, hnext⟩ := next_utf8EncodeChar c
      rw [List.flatMap_cons, hbytes, List.cons_append] at hfuel ⊢
      cases fuel with
      | zero => simp at hfuel
      | succ fuel =>
          rw [List.length_cons, List.length_append] at hfuel
          rw [piecesFrom, hnext, ih (by omega), List.map_cons]

/-- The characters of the bytes of a text are those of the text. -/
theorem pieces_toUTF8 (text : String) : pieces text.toUTF8.data.toList = text.toList.map some := by
  have hbytes : text.toUTF8.data.toList = text.toList.flatMap String.utf8EncodeChar := by
    rw [String.toUTF8_eq_toByteArray, ← String.utf8Encode_toList]
    exact List.toList_data_toByteArray
  rw [hbytes]
  exact piecesFrom_flatMap text.toList (Nat.le_refl _)

end OutputArranger.Utf8
