import Distill.Text.Utf8

/-!
Decoding undoes encoding: the bytes of a text are well-formed, so nothing of them is replaced (`decodeLossy_encode`).
-/
namespace Distill.Text

section Bytes

variable {b low high : UInt8} {bits missing : Nat}

theorem lead_one (below : b.toNat < 0x80) : DecodeState.lead b = ([Char.ofNat b.toNat], .start) := by
  simp only [DecodeState.lead, UInt8.lt_iff_toNat_lt, UInt8.reduceToNat]
  rw [if_pos below]

theorem lead_two (above : 0xC2 ≤ b.toNat) (below : b.toNat < 0xE0) :
    DecodeState.lead b = ([], .within 0 0x80 0xBF (b.toNat - 0xC0)) := by
  simp only [DecodeState.lead, UInt8.lt_iff_toNat_lt, UInt8.reduceToNat]
  rw [if_neg (by omega), if_neg (by omega), if_pos below]

theorem lead_three (above : 0xE0 ≤ b.toNat) (below : b.toNat < 0xF0) :
    DecodeState.lead b =
      ([], .within 1 (if b = 0xE0 then 0xA0 else 0x80) (if b = 0xED then 0x9F else 0xBF) (b.toNat - 0xE0)) := by
  simp only [DecodeState.lead, UInt8.lt_iff_toNat_lt, UInt8.reduceToNat]
  rw [if_neg (by omega), if_neg (by omega), if_neg (by omega), if_pos below]

theorem lead_four (above : 0xF0 ≤ b.toNat) (below : b.toNat < 0xF5) :
    DecodeState.lead b =
      ([], .within 2 (if b = 0xF0 then 0x90 else 0x80) (if b = 0xF4 then 0x8F else 0xBF) (b.toNat - 0xF0)) := by
  simp only [DecodeState.lead, UInt8.lt_iff_toNat_lt, UInt8.reduceToNat]
  rw [if_neg (by omega), if_neg (by omega), if_neg (by omega), if_neg (by omega), if_pos below]

theorem step_last (inside : low ≤ b ∧ b ≤ high) : DecodeState.step (.within 0 low high bits) b =
    ([Char.ofNat (bits * 64 + (b.toNat - 0x80))], .start) := by
  rw [DecodeState.step, if_pos inside]

theorem step_more (inside : low ≤ b ∧ b ≤ high) : DecodeState.step (.within (missing + 1) low high bits) b =
    ([], .within missing 0x80 0xBF (bits * 64 + (b.toNat - 0x80))) := by
  rw [DecodeState.step, if_pos inside]

theorem toNat_byte {n : Nat} (small : n < 256) : (UInt8.ofNat n).toNat = n := by
  rw [UInt8.toNat_ofNat', Nat.mod_eq_of_lt small]

theorem continues (n : Nat) : (0x80 : UInt8) ≤ UInt8.ofNat (n % 64 + 0x80) ∧ UInt8.ofNat (n % 64 + 0x80) ≤ 0xBF := by
  rw [UInt8.le_iff_toNat_le, UInt8.le_iff_toNat_le, toNat_byte (by omega)]
  simp only [UInt8.reduceToNat]
  omega

/-- Where the second byte of a character has bounds of its own, it is enough to compare numbers. -/
theorem within_bounds {n : Nat} {p q : Prop} [Decidable p] [Decidable q] (small : n < 256)
    (above : (if p then low.toNat else 0x80) ≤ n) (below : n ≤ if q then high.toNat else 0xBF) :
    (if p then low else 0x80) ≤ UInt8.ofNat n ∧ UInt8.ofNat n ≤ if q then high else 0xBF := by
  rw [UInt8.le_iff_toNat_le, UInt8.le_iff_toNat_le, toNat_byte small, apply_ite UInt8.toNat, apply_ite UInt8.toNat]
  exact ⟨above, below⟩

end Bytes

section Characters

variable {v : Nat}

theorem decodeFrom_cons (s : DecodeState) (b : UInt8) (bs : Bytes) :
    decodeFrom s (b :: bs) = (s.step b).1 ++ decodeFrom (s.step b).2 bs := rfl

theorem decode_two (above : 0x7f < v) (below : v ≤ 0x7ff) (bs : Bytes) :
    decodeFrom .start (UInt8.ofNat (v / 64 % 32 + 192) :: UInt8.ofNat (v % 64 + 128) :: bs) =
      Char.ofNat v :: decodeFrom .start bs := by
  have first : (UInt8.ofNat (v / 64 % 32 + 192)).toNat = v / 64 % 32 + 192 := toNat_byte (by omega)
  have whole : (v / 64 % 32 + 192 - 192) * 64 + (v % 64 + 128 - 128) = v := by omega
  rw [decodeFrom_cons, DecodeState.step, lead_two (by omega) (by omega), decodeFrom_cons, step_last (continues v), first,
    toNat_byte (by omega), whole]
  rfl

theorem decode_three (above : 0x7ff < v) (below : v ≤ 0xffff) (valid : v < 0xD800 ∨ 0xDFFF < v) (bs : Bytes) :
    decodeFrom .start
      (UInt8.ofNat (v / 4096 % 16 + 224) :: UInt8.ofNat (v / 64 % 64 + 128) :: UInt8.ofNat (v % 64 + 128) :: bs) =
      Char.ofNat v :: decodeFrom .start bs := by
  have first : (UInt8.ofNat (v / 4096 % 16 + 224)).toNat = v / 4096 % 16 + 224 := toNat_byte (by omega)
  have whole : ((v / 4096 % 16 + 224 - 224) * 64 + (v / 64 % 64 + 128 - 128)) * 64 + (v % 64 + 128 - 128) = v := by omega
  rw [decodeFrom_cons, DecodeState.step, lead_three (by omega) (by omega), decodeFrom_cons, step_more, decodeFrom_cons,
    step_last (continues v), first, toNat_byte (by omega), toNat_byte (by omega), whole]
  · rfl
  · simp only [← UInt8.toNat_inj, first, UInt8.reduceToNat]
    apply within_bounds (by omega)
    · simp only [UInt8.reduceToNat]
      split <;> omega
    · simp only [UInt8.reduceToNat]
      split <;> omega

theorem decode_four (above : 0xffff < v) (below : v < 0x110000) (bs : Bytes) :
    decodeFrom .start
      (UInt8.ofNat (v / 262144 % 8 + 240) :: UInt8.ofNat (v / 4096 % 64 + 128) :: UInt8.ofNat (v / 64 % 64 + 128) ::
        UInt8.ofNat (v % 64 + 128) :: bs) =
      Char.ofNat v :: decodeFrom .start bs := by
  have first : (UInt8.ofNat (v / 262144 % 8 + 240)).toNat = v / 262144 % 8 + 240 := toNat_byte (by omega)
  have whole : (((v / 262144 % 8 + 240 - 240) * 64 + (v / 4096 % 64 + 128 - 128)) * 64 + (v / 64 % 64 + 128 - 128)) * 64 +
      (v % 64 + 128 - 128) = v := by omega
  rw [decodeFrom_cons, DecodeState.step, lead_four (by omega) (by omega), decodeFrom_cons, step_more, decodeFrom_cons,
    step_more (continues _), decodeFrom_cons, step_last (continues v), first, toNat_byte (by omega), toNat_byte (by omega),
    toNat_byte (by omega), whole]
  · rfl
  · simp only [← UInt8.toNat_inj, first, UInt8.reduceToNat]
    apply within_bounds (by omega)
    · simp only [UInt8.reduceToNat]
      split <;> omega
    · simp only [UInt8.reduceToNat]
      split <;> omega

theorem decodeFrom_utf8EncodeChar (c : Char) (bs : Bytes) :
    decodeFrom .start (String.utf8EncodeChar c ++ bs) = c :: decodeFrom .start bs := by
  have valid : c.val.toNat < 0xD800 ∨ 0xDFFF < c.val.toNat ∧ c.val.toNat < 0x110000 := c.valid
  have same : Char.ofNat c.val.toNat = c := Char.ofNat_toNat c
  rw [String.utf8EncodeChar]
  generalize c.val.toNat = v at valid same
  rw [← same]
  split
  · have only : (UInt8.ofNat v).toNat = v := toNat_byte (by omega)
    rw [List.cons_append, decodeFrom_cons, DecodeState.step, lead_one (by omega), only]
    rfl
  · split
    · exact decode_two (by omega) (by omega) bs
    · split
      · exact decode_three (by omega) (by omega) (by omega) bs
      · exact decode_four (by omega) (by omega) bs

end Characters

theorem decodeLossy_encode (s : String) : decodeLossy (encode s) = s := by
  have chars : ∀ cs : List Char, decodeChars (encodeChars cs) = cs := by
    intro cs
    induction cs with
    | nil => rfl
    | cons c cs ih =>
      rw [encodeChars, List.flatMap_cons, decodeChars, decodeFrom_utf8EncodeChar]
      exact congrArg (c :: ·) ih
  rw [decodeLossy, encode, chars, String.ofList_toList]

end Distill.Text
