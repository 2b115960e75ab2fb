/-!
# Numerals

Decimal numerals as lists of characters: natural numbers and the integers of 64 bits.

Results:

* `Numeral.ofDigits_digits`: the digits of a number read back as the number.
-/

namespace Provision

namespace Numeral

/-- The decimal digits of a number, `0` for zero. -/
def digits (n : Nat) : List Char :=
  Nat.toDigits 10 n

/-- The number that a list of decimal digits denotes. -/
def ofDigits (cs : List Char) : Nat :=
  Nat.ofDigitChars 10 cs 0

theorem ofDigits_digits (n : Nat) : ofDigits (digits n) = n :=
  Nat.ofDigitChars_toDigits (by decide) (by decide)

/-- The longest run of decimal digits in front, and what follows it. -/
def span (cs : List Char) : List Char × List Char :=
  cs.span Char.isDigit

/-- The integer of 64 bits with this value. -/
def int64? (n : Int) : Option Int64 :=
  if Int64.minValue.toInt ≤ n ∧ n ≤ Int64.maxValue.toInt then some (Int64.ofInt n) else none

theorem int64?_toInt (n : Int64) : int64? n.toInt = some n := by
  simp only [int64?, if_pos (And.intro n.minValue_le_toInt n.toInt_le), Int64.ofInt_toInt]

/-- Splits a leading sign off; true stands for a minus. -/
def sign : List Char → Bool × List Char
  | '-' :: cs => (true, cs)
  | '+' :: cs => (false, cs)
  | cs => (false, cs)

/-- The integer with this sign and magnitude. -/
def signed (negative : Bool) (magnitude : Nat) : Int :=
  if negative then -(magnitude : Int) else magnitude

/-- Reads an optional sign followed by digits alone, if the value has 64 bits. -/
def integer? (cs : List Char) : Option Int64 :=
  let (negative, body) := sign cs
  if body.isEmpty || !body.all Char.isDigit then none
  else int64? (signed negative (ofDigits body))

/-- The numeral of an integer: a minus if it is negative, then the digits. -/
def ofInt (n : Int) : List Char :=
  if n < 0 then '-' :: digits n.natAbs else digits n.natAbs

end Numeral

end Provision
