import GestureMode.Text.Utf8

/-!
# Encoded texts

The bytes of a character form a sequence that is read as this character, whatever follows
it.  Decoding the bytes of a text therefore gives back the text.
-/

set_option autoImplicit false

namespace GestureMode.Text.Utf8

theorem sequenceLength_eq (lead : UInt8) :
    sequenceLength lead =
      if lead.toNat ≤ 127 then 1
      else if 194 ≤ lead.toNat ∧ lead.toNat ≤ 223 then 2
      else if 224 ≤ lead.toNat ∧ lead.toNat ≤ 239 then 3
      else if 240 ≤ lead.toNat ∧ lead.toNat ≤ 244 then 4
      else 0 := by
  simp only [sequenceLength, UInt8.le_iff_toNat_le, UInt8.reduceToNat, Bool.and_eq_true,
    decide_eq_true_eq]

theorem isContinuation_iff (b : UInt8) :
    isContinuation b = true ↔ 128 ≤ b.toNat ∧ b.toNat ≤ 191 := by
  simp only [isContinuation, UInt8.le_iff_toNat_le, UInt8.reduceToNat, Bool.and_eq_true,
    decide_eq_true_eq]

theorem allowsSecond_iff (lead second : UInt8) :
    allowsSecond lead second = true ↔
      128 ≤ second.toNat ∧ second.toNat ≤ 191 ∧ (lead.toNat = 224 → 160 ≤ second.toNat) ∧
        (lead.toNat = 237 → second.toNat ≤ 159) ∧ (lead.toNat = 240 → 144 ≤ second.toNat) ∧
        (lead.toNat = 244 → second.toNat ≤ 143) := by
  simp only [allowsSecond, beq_iff_eq, ← UInt8.toNat_inj, UInt8.le_iff_toNat_le,
    UInt8.reduceToNat, isContinuation]
  repeat' split
  all_goals
    simp only [Bool.and_eq_true, decide_eq_true_eq]
    omega

theorem toNat_byte (n : Nat) (small : n < 256) : (UInt8.ofNat n).toNat = n :=
  UInt8.toNat_ofNat_of_lt' small

theorem toNat_continuation (n : Nat) : (UInt8.ofNat (n % 64 + 128)).toNat = n % 64 + 128 :=
  toNat_byte (n % 64 + 128) (by omega)

theorem isContinuation_ofNat (n : Nat) : isContinuation (UInt8.ofNat (n % 64 + 128)) = true := by
  rw [isContinuation_iff, toNat_continuation]
  omega

theorem payload_ofNat (n : Nat) : payload (UInt8.ofNat (n % 64 + 128)) = n % 64 := by
  rw [payload, toNat_continuation]
  omega

section Sequence

variable (a b c d : UInt8) (rest : List UInt8)

theorem decodeChars_of_one (one : sequenceLength a = 1) :
    decodeChars (a :: rest) = Char.ofNat a.toNat :: decodeChars rest := by
  rw [decodeChars.eq_def]
  simp only [one]

theorem decodeChars_of_two (two : sequenceLength a = 2) (second : allowsSecond a b = true) :
    decodeChars (a :: b :: rest) =
      Char.ofNat (a.toNat % 32 * 64 + payload b) :: decodeChars rest := by
  rw [decodeChars.eq_def]
  simp only [two, second, if_true]

theorem decodeChars_of_three (three : sequenceLength a = 3) (second : allowsSecond a b = true)
    (third : isContinuation c = true) :
    decodeChars (a :: b :: c :: rest) =
      Char.ofNat (a.toNat % 16 * 4096 + payload b * 64 + payload c) :: decodeChars rest := by
  rw [decodeChars.eq_def]
  simp [three, second, third]

theorem decodeChars_of_four (four : sequenceLength a = 4) (second : allowsSecond a b = true)
    (third : isContinuation c = true) (fourth : isContinuation d = true) :
    decodeChars (a :: b :: c :: d :: rest) =
      Char.ofNat (a.toNat % 8 * 262144 + payload b * 4096 + payload c * 64 + payload d) ::
        decodeChars rest := by
  rw [decodeChars.eq_def]
  simp [four, second, third, fourth]

end Sequence

/-! ## The bytes of a code point -/

theorem decodeChars_one (v : Nat) (rest : List UInt8) (high : v ≤ 127) :
    decodeChars (UInt8.ofNat v :: rest) = Char.ofNat v :: decodeChars rest := by
  have lead : (UInt8.ofNat v).toNat = v := toNat_byte v (by omega)
  have length : sequenceLength (UInt8.ofNat v) = 1 := by
    rw [sequenceLength_eq, lead, if_pos high]
  rw [decodeChars_of_one _ rest length, lead]

theorem decodeChars_two (v : Nat) (rest : List UInt8) (low : 127 < v) (high : v ≤ 2047) :
    decodeChars (UInt8.ofNat (v / 64 % 32 + 192) :: UInt8.ofNat (v % 64 + 128) :: rest) =
      Char.ofNat v :: decodeChars rest := by
  have lead := toNat_byte (v / 64 % 32 + 192) (by omega)
  have length : sequenceLength (UInt8.ofNat (v / 64 % 32 + 192)) = 2 := by
    rw [sequenceLength_eq, lead, if_neg (by omega), if_pos (by omega)]
  have allowed :
      allowsSecond (UInt8.ofNat (v / 64 % 32 + 192)) (UInt8.ofNat (v % 64 + 128)) = true := by
    rw [allowsSecond_iff, lead, toNat_continuation]
    omega
  have value : (v / 64 % 32 + 192) % 32 * 64 + v % 64 = v := by omega
  rw [decodeChars_of_two _ _ rest length allowed, lead, payload_ofNat, value]

theorem decodeChars_three (v : Nat) (rest : List UInt8) (low : 2047 < v) (high : v ≤ 65535)
    (scalar : v < 55296 ∨ 57343 < v) :
    decodeChars (UInt8.ofNat (v / 4096 % 16 + 224) :: UInt8.ofNat (v / 64 % 64 + 128) ::
        UInt8.ofNat (v % 64 + 128) :: rest) =
      Char.ofNat v :: decodeChars rest := by
  have lead := toNat_byte (v / 4096 % 16 + 224) (by omega)
  have length : sequenceLength (UInt8.ofNat (v / 4096 % 16 + 224)) = 3 := by
    rw [sequenceLength_eq, lead, if_neg (by omega), if_neg (by omega), if_pos (by omega)]
  -- The surrogates are what the lead 0xED keeps out.
  have allowed : allowsSecond (UInt8.ofNat (v / 4096 % 16 + 224))
      (UInt8.ofNat (v / 64 % 64 + 128)) = true := by
    rw [allowsSecond_iff, lead, toNat_continuation]
    omega
  have value : (v / 4096 % 16 + 224) % 16 * 4096 + v / 64 % 64 * 64 + v % 64 = v := by omega
  rw [decodeChars_of_three _ _ _ rest length allowed (isContinuation_ofNat v), lead,
    payload_ofNat, payload_ofNat, value]

theorem decodeChars_four (v : Nat) (rest : List UInt8) (low : 65535 < v) (high : v < 1114112) :
    decodeChars (UInt8.ofNat (v / 262144 % 8 + 240) :: UInt8.ofNat (v / 4096 % 64 + 128) ::
        UInt8.ofNat (v / 64 % 64 + 128) :: UInt8.ofNat (v % 64 + 128) :: rest) =
      Char.ofNat v :: decodeChars rest := by
  have lead := toNat_byte (v / 262144 % 8 + 240) (by omega)
  have length : sequenceLength (UInt8.ofNat (v / 262144 % 8 + 240)) = 4 := by
    rw [sequenceLength_eq, lead, if_neg (by omega), if_neg (by omega), if_neg (by omega),
      if_pos (by omega)]
  have allowed : allowsSecond (UInt8.ofNat (v / 262144 % 8 + 240))
      (UInt8.ofNat (v / 4096 % 64 + 128)) = true := by
    rw [allowsSecond_iff, lead, toNat_continuation]
    omega
  have value : (v / 262144 % 8 + 240) % 8 * 262144 + v / 4096 % 64 * 4096 + v / 64 % 64 * 64 +
      v % 64 = v := by omega
  rw [decodeChars_of_four _ _ _ _ rest length allowed (isContinuation_ofNat (v / 64))
    (isContinuation_ofNat v), lead, payload_ofNat, payload_ofNat, payload_ofNat, value]

theorem decodeChars_utf8EncodeChar_append (c : Char) (rest : List UInt8) :
    decodeChars (String.utf8EncodeChar c ++ rest) = c :: decodeChars rest := by
  have valid : c.toNat < 55296 ∨ 57343 < c.toNat ∧ c.toNat < 1114112 := c.valid
  have read : decodeChars (String.utf8EncodeChar c ++ rest) =
      Char.ofNat c.toNat :: decodeChars rest := by
    rw [String.utf8EncodeChar.eq_1, show c.val.toNat = c.toNat from rfl]
    split
    · next high => exact decodeChars_one c.toNat rest high
    · next low =>
      split
      · next high => exact decodeChars_two c.toNat rest (by omega) high
      · next low =>
        split
        · next high => exact decodeChars_three c.toNat rest (by omega) high (by omega)
        · next low => exact decodeChars_four c.toNat rest (by omega) (by omega)
  rw [read, Char.ofNat_toNat]

theorem decode_encode (s : String) : decode (encode s) = s := by
  have chars (cs : List Char) : decodeChars (cs.flatMap String.utf8EncodeChar) = cs := by
    induction cs with
    | nil => rfl
    | cons c rest ih => rw [List.flatMap_cons, decodeChars_utf8EncodeChar_append, ih]
  rw [decode, encode, chars, String.ofList_toList]

end GestureMode.Text.Utf8
