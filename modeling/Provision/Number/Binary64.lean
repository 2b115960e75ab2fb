/-!
# Double precision numbers

A finite double denotes `± significand · 2 ^ (exponent - 1074)`. Among the pairs of one value
the type holds exactly one, so that equality of doubles is equality of the data, the two zeros
kept apart. There is one NaN: no text shows a sign of it.

Results:

* `roundHalfEven_mul`: an exact quotient is not changed by rounding.
-/

namespace Provision

/-- The quotient rounded to the nearest integer, a tie to the even one. -/
def roundHalfEven (num den : Nat) : Nat :=
  let quotient := num / den
  let twice := 2 * (num % den)
  if twice < den then quotient
  else if den < twice then quotient + 1
  else quotient + quotient % 2

theorem roundHalfEven_mul (quotient den : Nat) (h : 0 < den) :
    roundHalfEven (quotient * den) den = quotient := by
  simp [roundHalfEven, Nat.mul_div_cancel _ h, h]

/-- The pairs that a double is made of: the exponent is as small as the 53 bits of the
    significand allow. -/
def Binary64.Canonical (significand exponent : Nat) : Prop :=
  significand < Nat.pow 2 53 ∧ exponent ≤ 2045 ∧ (exponent = 0 ∨ Nat.pow 2 52 ≤ significand)

instance Binary64.instDecidableCanonical (significand exponent : Nat) :
    Decidable (Binary64.Canonical significand exponent) :=
  inferInstanceAs (Decidable (_ ∧ _))

/-- A double. -/
inductive Binary64 where
  | nan
  | infinite (negative : Bool)
  | finite (negative : Bool) (significand exponent : Nat)
      (canonical : Binary64.Canonical significand exponent)
  deriving DecidableEq

namespace Binary64

/-- The zero of a sign. -/
def zero (negative : Bool) : Binary64 :=
  .finite negative 0 0 (by decide)

/-- The double with this significand and exponent; a pair past the largest one is infinite. -/
def pack (negative : Bool) (significand exponent : Nat) : Binary64 :=
  if h : Canonical significand exponent then .finite negative significand exponent h
  else .infinite negative

theorem pack_of_canonical {negative : Bool} {significand exponent : Nat}
    (h : Canonical significand exponent) :
    pack negative significand exponent = .finite negative significand exponent h := by
  simp [pack, h]

/-- The exponent at which the integer `scaled` has a significand of at most 53 bits. -/
def exponentOf (scaled : Nat) : Nat :=
  scaled.log2 - 52

/-- The double nearest to `num / den`. Rounding up to `2 ^ 53` moves to the next exponent. -/
def ofRatio (negative : Bool) (num den : Nat) : Binary64 :=
  let scaled := num * Nat.pow 2 1074
  let exponent := exponentOf (scaled / den)
  let significand := roundHalfEven scaled (den * Nat.pow 2 exponent)
  if significand = Nat.pow 2 53 then pack negative (Nat.pow 2 52) (exponent + 1)
  else pack negative significand exponent

/-- The sign as written: true for the negative numbers and the negative zero. -/
def isNegative : Binary64 → Bool
  | .nan => false
  | .infinite negative => negative
  | .finite negative _ _ _ => negative

/-- The number of units `2 ^ -1074` that a finite magnitude holds. -/
def units (significand exponent : Nat) : Nat :=
  significand * Nat.pow 2 exponent

/-- Whether the number is finite without a fractional part. -/
def isWhole : Binary64 → Bool
  | .finite _ significand exponent _ => units significand exponent % Nat.pow 2 1074 == 0
  | _ => false

/-- The integer that a whole double denotes. -/
def toInt? : Binary64 → Option Int
  | .finite negative significand exponent _ =>
    let scaled := units significand exponent
    if scaled % Nat.pow 2 1074 = 0 then
      let magnitude : Int := (scaled / Nat.pow 2 1074 : Nat)
      some (if negative then -magnitude else magnitude)
    else none
  | _ => none

end Binary64

end Provision
