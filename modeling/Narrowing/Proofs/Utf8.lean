import Mathlib.Data.UInt
import Narrowing.Text.Utf8

/-!
# Bytes that spell a text

Reading bytes is the inverse of spelling: a text that was written is read as the text
that it is.  The proof goes along the lengths of a spelling, one to four bytes, and each
of them along the bytes: the first one opens the character, the ones that follow add six
bits each (`decodeFrom_open`, `decodeFrom_further`, `decodeFrom_last`).

## Main statements

* `decode_encode` — the bytes of a text are read as the text
-/

namespace Narrowing.Text

variable {position first byte code missing l h b : ℕ} {rest : List UInt8} {opening : Opening}

/-! ## One byte -/

theorem toNat_ofNat (bound : b < 256) : (UInt8.ofNat b).toNat = b := UInt8.toNat_ofNat_of_lt' bound

theorem decodeFrom_ascii (small : b < 0x80) :
    decodeFrom position none (UInt8.ofNat b :: rest) =
      (decodeFrom (position + 1) none rest).map (Char.ofNat b :: ·) := by
  rw [decodeFrom]
  simp only [toNat_ofNat (show b < 256 by omega), if_pos small]

/-- The first byte of a character opens it. -/
theorem decodeFrom_open (large : 0x80 ≤ b) (bound : b < 256) (opens : opening? b = some opening) :
    decodeFrom position none (UInt8.ofNat b :: rest) =
      decodeFrom (position + 1) (some (opening, b, position)) rest := by
  rw [decodeFrom]
  simp only [toNat_ofNat bound, if_neg (Nat.not_lt.mpr large), opens]

/-- A byte in the range of the next one that is not the last one of a character adds its bits. -/
theorem decodeFrom_further (range : l ≤ b ∧ b ≤ h) (bound : b < 256) :
    decodeFrom position (some (⟨code, missing + 2, l, h⟩, byte, first)) (UInt8.ofNat b :: rest) =
      decodeFrom (position + 1)
        (some ({ code := code * 0x40 + (b - 0x80), missing := missing + 1 }, byte, first)) rest := by
  have more : ¬ missing + 2 ≤ 1 := by omega
  rw [decodeFrom]
  simp only [toNat_ofNat bound, if_pos range, if_neg more]
  rfl

/-- The last byte of a character completes it. -/
theorem decodeFrom_last (range : l ≤ b ∧ b ≤ h) (bound : b < 256) :
    decodeFrom position (some (⟨code, 1, l, h⟩, byte, first)) (UInt8.ofNat b :: rest) =
      (decodeFrom (position + 1) none rest).map (Char.ofNat (code * 0x40 + (b - 0x80)) :: ·) := by
  rw [decodeFrom]
  simp only [toNat_ofNat bound, if_pos range, if_pos le_rfl]

/-! ## What a first byte opens -/

theorem opening?_two (low : 0xC2 ≤ b) (high : b < 0xE0) :
    opening? b = some { code := b - 0xC0, missing := 1 } := by
  rw [opening?, if_neg (Nat.not_lt.mpr low), if_pos high]

theorem opening?_three (low : 0xE0 ≤ b) (high : b < 0xF0) :
    ∃ l h, opening? b = some ⟨b - 0xE0, 2, l, h⟩ ∧
      (l = 0x80 ∨ b = 0xE0 ∧ l = 0xA0) ∧ (h = 0xBF ∨ b = 0xED ∧ h = 0x9F) := by
  have above : ¬ b < 0xC2 := by omega
  have beyond : ¬ b < 0xE0 := by omega
  rw [opening?, if_neg above, if_neg beyond]
  rcases eq_or_ne b 0xE0 with rfl | notFirst
  · exact ⟨_, _, rfl, .inr ⟨rfl, rfl⟩, .inl rfl⟩
  rcases eq_or_ne b 0xED with rfl | other
  · exact ⟨_, _, rfl, .inl rfl, .inr ⟨rfl, rfl⟩⟩
  rw [if_neg notFirst, if_neg other, if_pos high]
  exact ⟨_, _, rfl, .inl rfl, .inl rfl⟩

theorem opening?_four (low : 0xF0 ≤ b) (high : b < 0xF5) :
    ∃ l h, opening? b = some ⟨b - 0xF0, 3, l, h⟩ ∧
      (l = 0x80 ∨ b = 0xF0 ∧ l = 0x90) ∧ (h = 0xBF ∨ b = 0xF4 ∧ h = 0x8F) := by
  obtain rfl | rfl | rfl | rfl | rfl : b = 0xF0 ∨ b = 0xF1 ∨ b = 0xF2 ∨ b = 0xF3 ∨ b = 0xF4 := by
    omega
  · exact ⟨_, _, rfl, .inr ⟨rfl, rfl⟩, .inl rfl⟩
  · exact ⟨_, _, rfl, .inl rfl, .inl rfl⟩
  · exact ⟨_, _, rfl, .inl rfl, .inl rfl⟩
  · exact ⟨_, _, rfl, .inl rfl, .inl rfl⟩
  · exact ⟨_, _, rfl, .inl rfl, .inr ⟨rfl, rfl⟩⟩

/-! ## One character -/

/-- **The bytes of a character are read as the character.** -/
theorem decodeFrom_encodeChar (position : ℕ) (c : Char) (rest : List UInt8) :
    ∃ behind, decodeFrom position none (String.utf8EncodeChar c ++ rest) =
      (decodeFrom behind none rest).map (c :: ·) := by
  have scalar : c.val.toNat < 0xD800 ∨ 0xDFFF < c.val.toNat ∧ c.val.toNat < 0x110000 := c.valid
  have same : Char.ofNat c.val.toNat = c := Char.ofNat_toNat c
  rw [String.utf8EncodeChar]
  generalize c.val.toNat = v at scalar same
  -- The lengths of a spelling, each of them with the bits that its bytes hold.
  split_ifs with one two three
  · exact ⟨_, same ▸ decodeFrom_ascii (by omega)⟩
  · have bits : (v / 64 % 32 + 192 - 0xC0) * 0x40 + (v % 64 + 128 - 0x80) = v := by omega
    refine ⟨position + 1 + 1, ?_⟩
    rw [List.cons_append, List.cons_append, List.nil_append,
      decodeFrom_open (by omega) (by omega) (opening?_two (by omega) (by omega)),
      decodeFrom_last (by omega) (by omega), bits, same]
  · have bits : ((v / 4096 % 16 + 224 - 0xE0) * 0x40 + (v / 64 % 64 + 128 - 0x80)) * 0x40 +
        (v % 64 + 128 - 0x80) = v := by omega
    obtain ⟨l, h, opens, lower, upper⟩ := opening?_three (b := v / 4096 % 16 + 224)
      (by omega) (by omega)
    refine ⟨position + 1 + 1 + 1, ?_⟩
    rw [List.cons_append, List.cons_append, List.cons_append, List.nil_append,
      decodeFrom_open (by omega) (by omega) opens, decodeFrom_further (by omega) (by omega),
      decodeFrom_last (by omega) (by omega), bits, same]
  · have bits : (((v / 262144 % 8 + 240 - 0xF0) * 0x40 + (v / 4096 % 64 + 128 - 0x80)) * 0x40 +
        (v / 64 % 64 + 128 - 0x80)) * 0x40 + (v % 64 + 128 - 0x80) = v := by omega
    obtain ⟨l, h, opens, lower, upper⟩ := opening?_four (b := v / 262144 % 8 + 240)
      (by omega) (by omega)
    refine ⟨position + 1 + 1 + 1 + 1, ?_⟩
    rw [List.cons_append, List.cons_append, List.cons_append, List.cons_append, List.nil_append,
      decodeFrom_open (by omega) (by omega) opens, decodeFrom_further (by omega) (by omega),
      decodeFrom_further (by omega) (by omega), decodeFrom_last (by omega) (by omega), bits, same]

/-! ## A text -/

theorem decodeFrom_encode (position : ℕ) (s : List Char) :
    decodeFrom position none (encode s) = .ok s := by
  induction s generalizing position with
  | nil => rfl
  | cons c s ih =>
      rw [encode, List.flatMap_cons]
      obtain ⟨behind, read⟩ := decodeFrom_encodeChar position c (s.flatMap String.utf8EncodeChar)
      rw [read, ← encode, ih]
      rfl

/-- **The bytes of a text are read as the text.** -/
@[simp] theorem decode_encode (s : List Char) : decode (encode s) = .ok s := decodeFrom_encode 0 s

end Narrowing.Text
