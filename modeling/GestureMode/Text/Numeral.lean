/-!
# Decimal numerals

Two readers of decimal texts.  A magnitude is an optional plus sign and at least
one ASCII digit, below a limit; an integer also takes a minus sign and has to fit
32 bits.  Leading zeros do not matter and nothing may surround the numeral.
-/

set_option autoImplicit false

namespace GestureMode.Text.Numeral

def digits? (cs : List Char) : Option Nat :=
  if !cs.isEmpty && cs.all Char.isDigit then some (Nat.ofDigitChars 10 cs 0) else none

def magnitudeChars? : List Char → Option Nat
  | '+' :: cs => digits? cs
  | cs => digits? cs

def integerChars? : List Char → Option Int
  | '-' :: cs => (digits? cs).map fun n => -(n : Int)
  | cs => (magnitudeChars? cs).map fun n => (n : Int)

def below? (limit : Nat) (s : String) : Option Nat :=
  (magnitudeChars? s.toList).filter (· < limit)

def int32? (s : String) : Option Int32 :=
  ((integerChars? s.toList).filter fun n => -2147483648 ≤ n && n ≤ 2147483647).map Int32.ofInt

theorem digits?_toDigits (n : Nat) : digits? (Nat.toDigits 10 n) = some n := by
  have nonempty : (Nat.toDigits 10 n).isEmpty = false := by
    rw [List.isEmpty_eq_false_iff]
    exact Nat.toDigits_ne_nil
  have digits : (Nat.toDigits 10 n).all Char.isDigit = true := by
    rw [List.all_eq_true]
    intro c member
    exact Nat.isDigit_of_mem_toDigits (by decide) (by decide) member
  simp [digits?, nonempty, digits, Nat.ofDigitChars_toDigits]

end GestureMode.Text.Numeral
