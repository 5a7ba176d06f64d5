import GestureMode.Proofs.Trimming
import GestureMode.Text.Numeral
import GestureMode.Text.ZeroByte
import Mathlib.Data.List.Induction

/-!
# What numerals denote

A row of digits denotes a number: each further digit counts ten times, or as often as the
base says, what stands before it.  A magnitude is such a row with or without a plus sign, an
integer may have a minus sign instead.  The readers accept exactly these texts, up to their
limits, and what is written for a number denotes it.
-/

set_option autoImplicit false

namespace GestureMode.Text.Numeral

/-- One or more digits of a base, and the number that they denote. -/
inductive Digits (base : Nat) : List Char → Nat → Prop
  | single (digit : Nat) (small : digit < base) : Digits base [digit.digitChar] digit
  | snoc (cs : List Char) (n digit : Nat) (start : Digits base cs n) (small : digit < base) :
    Digits base (cs ++ [digit.digitChar]) (base * n + digit)

inductive Magnitude : List Char → Nat → Prop
  | unsigned (cs : List Char) (n : Nat) (digits : Digits 10 cs n) : Magnitude cs n
  | plus (cs : List Char) (n : Nat) (digits : Digits 10 cs n) : Magnitude ('+' :: cs) n

inductive Integer : List Char → Int → Prop
  | magnitude (cs : List Char) (n : Nat) (spelled : Magnitude cs n) : Integer cs n
  | minus (cs : List Char) (n : Nat) (digits : Digits 10 cs n) : Integer ('-' :: cs) (-n)

theorem ofDigitChars_append_digit (base : Nat) (cs : List Char) (digit : Nat) (small : digit < 10) :
    Nat.ofDigitChars base (cs ++ [digit.digitChar]) 0 =
      base * Nat.ofDigitChars base cs 0 + digit := by
  rw [Nat.ofDigitChars_append, Nat.ofDigitChars_cons_digitChar_of_lt_ten small,
    Nat.ofDigitChars_nil]

/-- Digits up to nine denote what their values add up to. -/
theorem digits_iff (base : Nat) (decimal : base ≤ 10) (cs : List Char) (n : Nat) :
    Digits base cs n ↔ cs ≠ [] ∧ (∀ c ∈ cs, ∃ digit < base, c = digit.digitChar) ∧
      Nat.ofDigitChars base cs 0 = n := by
  constructor
  · intro digits
    induction digits with
    | single digit small =>
      refine ⟨List.cons_ne_nil _ _, ?_, ?_⟩
      · intro c member
        exact ⟨digit, small, List.mem_singleton.mp member⟩
      · have value := ofDigitChars_append_digit base [] digit (by omega)
        rw [List.nil_append, Nat.ofDigitChars_nil, Nat.mul_zero, Nat.zero_add] at value
        exact value
    | snoc cs n digit start small ih =>
      obtain ⟨-, all, value⟩ := ih
      refine ⟨List.concat_ne_nil _ _, ?_, ?_⟩
      · intro c member
        rcases List.mem_append.mp member with earlier | last
        · exact all c earlier
        · exact ⟨digit, small, List.mem_singleton.mp last⟩
      · rw [ofDigitChars_append_digit base cs digit (by omega), value]
  · rintro ⟨nonempty, all, rfl⟩
    induction cs using List.reverseRecOn with
    | nil => exact absurd rfl nonempty
    | append_singleton start c ih =>
      obtain ⟨digit, small, rfl⟩ := all c (List.mem_append_right start List.mem_cons_self)
      rw [ofDigitChars_append_digit base start digit (by omega)]
      cases start with
      | nil =>
        rw [List.nil_append, Nat.ofDigitChars_nil, Nat.mul_zero, Nat.zero_add]
        exact .single digit small
      | cons first rest =>
        refine .snoc _ _ digit (ih (List.cons_ne_nil first rest) ?_) small
        intro c member
        exact all c (List.mem_append_left _ member)

theorem Digits.unique {base : Nat} (decimal : base ≤ 10) {cs : List Char} {n m : Nat}
    (first : Digits base cs n) (second : Digits base cs m) : n = m := by
  obtain ⟨-, -, value⟩ := (digits_iff base decimal cs n).mp first
  obtain ⟨-, -, other⟩ := (digits_iff base decimal cs m).mp second
  exact value.symm.trans other

theorem isDigit_iff (c : Char) : c.isDigit = true ↔ ∃ digit < 10, c = digit.digitChar := by
  constructor
  · intro isDigit
    obtain ⟨low, high⟩ := Char.isDigit_iff_toNat.mp isDigit
    have zero : '0'.toNat = 48 := rfl
    have nine : '9'.toNat = 57 := rfl
    refine ⟨c.toNat - 48, by omega, Char.toNat_inj.mp ?_⟩
    rw [Nat.toNat_digitChar_of_lt_ten (by omega)]
    omega
  · rintro ⟨digit, small, rfl⟩
    rw [Nat.isDigit_digitChar]
    exact decide_eq_true small

theorem digits?_eq_some_iff (cs : List Char) (n : Nat) :
    digits? cs = some n ↔ Digits 10 cs n := by
  have all : cs.all Char.isDigit = true ↔ ∀ c ∈ cs, ∃ digit < 10, c = digit.digitChar := by
    rw [List.all_eq_true]
    exact forall₂_congr fun c _ => isDigit_iff c
  have nonempty : (!cs.isEmpty) = true ↔ cs ≠ [] := by
    rw [Bool.not_eq_true', List.isEmpty_eq_false_iff]
  rw [digits_iff 10 (Nat.le_refl 10), digits?, Option.ite_none_right_eq_some, Bool.and_eq_true,
    nonempty, all, Option.some_inj, and_assoc]

theorem Digits.isDigit {cs : List Char} {n : Nat} (digits : Digits 10 cs n) :
    ∀ c ∈ cs, c.isDigit = true := by
  intro c member
  obtain ⟨-, all, -⟩ := (digits_iff 10 (Nat.le_refl 10) cs n).mp digits
  exact (isDigit_iff c).mpr (all c member)

theorem Digits.zero_or_one {cs : List Char} {n : Nat} (digits : Digits 2 cs n) :
    ∀ c ∈ cs, c = '0' ∨ c = '1' := by
  intro c member
  obtain ⟨-, all, -⟩ := (digits_iff 2 (by decide) cs n).mp digits
  obtain ⟨digit, small, rfl⟩ := all c member
  match digit, small with
  | 0, _ => exact .inl rfl
  | 1, _ => exact .inr rfl

/-! ## Signs -/

theorem magnitudeChars?_eq_some_iff (cs : List Char) (n : Nat) :
    magnitudeChars? cs = some n ↔ Magnitude cs n := by
  constructor
  · intro read
    rw [magnitudeChars?.eq_def] at read
    split at read
    · next rest => exact .plus rest n ((digits?_eq_some_iff rest n).mp read)
    · exact .unsigned cs n ((digits?_eq_some_iff cs n).mp read)
  · intro spelled
    cases spelled with
    | unsigned _ _ digits =>
      rw [magnitudeChars?.eq_def]
      split
      · exact absurd (digits.isDigit _ List.mem_cons_self) (by decide)
      · exact (digits?_eq_some_iff cs n).mpr digits
    | plus rest _ digits => exact (digits?_eq_some_iff rest n).mpr digits

theorem Magnitude.ne_minus {rest : List Char} {n : Nat} : ¬ Magnitude ('-' :: rest) n := by
  intro spelled
  cases spelled with
  | unsigned _ _ digits => exact absurd (digits.isDigit _ List.mem_cons_self) (by decide)

theorem integerChars?_minus (cs : List Char) :
    integerChars? ('-' :: cs) = (digits? cs).map fun n : Nat => -(n : Int) := by
  rw [integerChars?]
  cases digits? cs <;> rfl

theorem integerChars?_of_ne_minus (cs : List Char) (unsigned : ∀ rest : List Char, cs ≠ '-' :: rest) :
    integerChars? cs = (magnitudeChars? cs).map fun n : Nat => (n : Int) := by
  rw [integerChars?.eq_def]
  split
  · next rest => exact absurd rfl (unsigned rest)
  · cases magnitudeChars? cs <;> rfl

theorem integerChars?_eq_some_iff (cs : List Char) (n : Int) :
    integerChars? cs = some n ↔ Integer cs n := by
  constructor
  · intro read
    by_cases negative : ∃ rest : List Char, cs = '-' :: rest
    · obtain ⟨rest, rfl⟩ := negative
      rw [integerChars?_minus] at read
      obtain ⟨m, digits, rfl⟩ := Option.map_eq_some_iff.mp read
      exact .minus rest m ((digits?_eq_some_iff rest m).mp digits)
    · rw [integerChars?_of_ne_minus cs (not_exists.mp negative)] at read
      obtain ⟨m, spelled, rfl⟩ := Option.map_eq_some_iff.mp read
      exact .magnitude cs m ((magnitudeChars?_eq_some_iff cs m).mp spelled)
  · intro spelled
    cases spelled with
    | magnitude _ m spelled =>
      have unsigned : ∀ rest : List Char, cs ≠ '-' :: rest := by
        rintro rest rfl
        exact spelled.ne_minus
      rw [integerChars?_of_ne_minus cs unsigned, (magnitudeChars?_eq_some_iff cs m).mpr spelled]
      rfl
    | minus rest m digits =>
      rw [integerChars?_minus, (digits?_eq_some_iff rest m).mpr digits]
      rfl

theorem below?_eq_some_iff (limit : Nat) (s : String) (n : Nat) :
    below? limit s = some n ↔ Magnitude s.toList n ∧ n < limit := by
  rw [below?, Option.filter_eq_some_iff, magnitudeChars?_eq_some_iff, decide_eq_true_eq]

def FitsInt32 (n : Int) : Prop :=
  -2147483648 ≤ n ∧ n ≤ 2147483647

theorem fitsInt32_toInt (value : Int32) : FitsInt32 value.toInt := by
  have low := value.le_toInt
  have high := value.toInt_lt
  constructor <;> omega

theorem int32?_eq_some_iff (s : String) (value : Int32) :
    int32? s = some value ↔ Integer s.toList value.toInt := by
  have range (n : Int) : (-2147483648 ≤ n && n ≤ 2147483647) = true ↔ FitsInt32 n := by
    rw [Bool.and_eq_true, decide_eq_true_eq, decide_eq_true_eq, FitsInt32]
  rw [int32?, Option.map_eq_some_iff]
  constructor
  · rintro ⟨n, read, rfl⟩
    obtain ⟨spelled, fits⟩ := Option.filter_eq_some_iff.mp read
    obtain ⟨low, high⟩ := (range n).mp fits
    rw [Int32.toInt_ofInt_of_le (by omega) (by omega)]
    exact (integerChars?_eq_some_iff s.toList n).mp spelled
  · intro spelled
    refine ⟨value.toInt, Option.filter_eq_some_iff.mpr ⟨?_, ?_⟩, Int32.ofInt_toInt value⟩
    · exact (integerChars?_eq_some_iff s.toList value.toInt).mpr spelled
    · exact (range value.toInt).mpr (fitsInt32_toInt value)

/-- There is no value exactly when the text denotes no integer, or one of more than 32 bits. -/
theorem int32?_eq_none_iff (s : String) :
    int32? s = none ↔ ∀ n : Int, Integer s.toList n → ¬ FitsInt32 n := by
  constructor
  · rintro missing n spelled ⟨low, high⟩
    have shown : int32? s = some (Int32.ofInt n) := by
      rw [int32?_eq_some_iff, Int32.toInt_ofInt_of_le (by omega) (by omega)]
      exact spelled
    rw [missing] at shown
    cases shown
  · intro unspelled
    cases read : int32? s with
    | none => rfl
    | some value =>
      have spelled := (int32?_eq_some_iff s value).mp read
      exact absurd (fitsInt32_toInt value) (unspelled value.toInt spelled)

theorem Integer.sign_or_digit {cs : List Char} {n : Int} (spelled : Integer cs n) :
    ∀ c ∈ cs, c = '+' ∨ c = '-' ∨ c.isDigit = true := by
  intro c member
  cases spelled with
  | magnitude _ m spelled =>
    cases spelled with
    | unsigned _ _ digits => exact .inr (.inr (digits.isDigit c member))
    | plus rest _ digits =>
      rcases List.mem_cons.mp member with sign | member
      · exact .inl sign
      · exact .inr (.inr (digits.isDigit c member))
  | minus rest m digits =>
    rcases List.mem_cons.mp member with sign | member
    · exact .inr (.inl sign)
    · exact .inr (.inr (digits.isDigit c member))

theorem isBlank_of_isDigit (c : Char) (isDigit : c.isDigit = true) : isBlank c = false := by
  obtain ⟨digit, small, rfl⟩ := (isDigit_iff c).mp isDigit
  revert digit
  decide

theorem Integer.trimmed {text : String} {n : Int} (spelled : Integer text.toList n) :
    Trimmed text := by
  apply trimmed_of_visible
  intro c member
  rcases spelled.sign_or_digit c member with rfl | rfl | isDigit
  · decide
  · decide
  · exact isBlank_of_isDigit c isDigit

theorem Integer.hasNul_eq_false {text : String} {n : Int} (spelled : Integer text.toList n) :
    hasNul text = false := by
  rw [hasNul, ← Bool.not_eq_true, List.contains_iff_mem]
  intro member
  have cases := spelled.sign_or_digit _ member
  revert cases
  decide

/-! ## What is written -/

theorem digits_toDigits (n : Nat) : Digits 10 (Nat.toDigits 10 n) n :=
  (digits?_eq_some_iff _ n).mp (digits?_toDigits n)

theorem digits_toString (n : Nat) : Digits 10 (toString n).toList n := by
  have written : (toString n).toList = Nat.toDigits 10 n := String.toList_ofList
  rw [written]
  exact digits_toDigits n

theorem integer_toString (n : Int) : Integer (toString n).toList n := by
  cases n with
  | ofNat m => exact .magnitude _ m (.unsigned _ m (digits_toString m))
  | negSucc m =>
    have written : (toString (Int.negSucc m)).toList = '-' :: (toString (m + 1)).toList :=
      String.toList_append
    rw [written]
    exact .minus _ (m + 1) (digits_toString (m + 1))

end GestureMode.Text.Numeral
