import Mathlib.Algebra.Order.Field.Rat
import Mathlib.Data.Rat.Cast.Order
import Mathlib.Order.WithBot
import Mathlib.Tactic.NormNum
import Provision.Proofs.Conformance
import Provision.Proofs.Number.Nearest

/-!
# The numbers that doubles denote

A finite double denotes a fraction with a power of two below the line, and doubles are compared by
the numbers that they denote. A double is turned into an integer of 64 bits by cutting off what is
behind the point, and a limit stands for all that is beyond it. Nothing is cut off and no limit is
met if the double is whole, not below the smallest integer of 64 bits, and below the double next to
the largest one. That one bound is inclusive and the other is not has a reason: the smallest integer
is itself a double, and the double next to the largest one is the next power of two.

Results:

* `Binary64.value?`: the number that a double denotes.
* `Binary64.value?_eq_intCast_iff`: the whole doubles are those that denote an integer.
* `Binary64.value?_ofInt64_minValue`, `Binary64.value?_ofInt64_maxValue`: the doubles next to the
  limits.
* `toInteger?_float_iff`: a double is taken for an integer exactly if turning it into one is safe,
  and then it is this one.
-/

namespace Provision

namespace Numeral

theorem signed_mul (negative : Bool) (m k : Nat) :
    signed negative (m * k) = signed negative m * k := by
  cases negative <;> simp [signed]

/-- A number is a multiple of a unit exactly if nothing is left of it when the units are taken out,
    whatever its sign. -/
theorem signed_eq_mul_iff {negative : Bool} {m unit : Nat} {z : Int} (hunit : 0 < unit) :
    signed negative m = z * unit ↔ m % unit = 0 ∧ signed negative (m / unit) = z := by
  constructor
  · intro h
    have hdvd : (unit : Int) ∣ signed negative m := ⟨z, by rw [h, Int.mul_comm]⟩
    have hmod : m % unit = 0 := by
      cases negative
      · exact Nat.mod_eq_zero_of_dvd (Int.natCast_dvd_natCast.1 hdvd)
      · exact Nat.mod_eq_zero_of_dvd (Int.natCast_dvd_natCast.1 ((Int.dvd_neg).1 hdvd))
    refine ⟨hmod, ?_⟩
    have hm : m = m / unit * unit := (Nat.div_mul_cancel (Nat.dvd_of_mod_eq_zero hmod)).symm
    rw [hm, signed_mul] at h
    exact Int.eq_of_mul_eq_mul_right (by omega) h
  · rintro ⟨hmod, rfl⟩
    rw [← signed_mul, Nat.div_mul_cancel (Nat.dvd_of_mod_eq_zero hmod)]

end Numeral

open Numeral

namespace Binary64

/-! ## Numbers -/

/-- The number that a finite double denotes. -/
def value? : Binary64 → Option ℚ
  | .finite negative significand exponent _ =>
    some (signed negative significand * 2 ^ ((exponent : ℤ) - 1074))
  | _ => none

variable {x y : Binary64} {z : ℤ}

theorem toInt?_finite_eq_some_iff {negative : Bool} {significand exponent : Nat}
    {h : Canonical significand exponent} :
    (Binary64.finite negative significand exponent h).toInt? = some z ↔
      units significand exponent % Nat.pow 2 1074 = 0 ∧
        signed negative (units significand exponent / Nat.pow 2 1074) = z := by
  have hcases : (Binary64.finite negative significand exponent h).toInt? =
      if units significand exponent % Nat.pow 2 1074 = 0 then
        some (signed negative (units significand exponent / Nat.pow 2 1074))
      else none := rfl
  rw [hcases, Option.ite_none_right_eq_some, Option.some.injEq]

/-- The whole doubles are those that denote an integer. -/
theorem value?_eq_intCast_iff : x.value? = some (z : ℚ) ↔ x.toInt? = some z := by
  cases x with
  | nan => simp [value?, toInt?]
  | infinite negative => simp [value?, toInt?]
  | finite negative significand exponent h =>
    rw [toInt?_finite_eq_some_iff, value?, Option.some.injEq]
    -- As a variable the shift keeps the powers from being computed.
    obtain ⟨shift, hshift⟩ : ∃ shift : ℕ, 1074 = shift := ⟨1074, rfl⟩
    have hcast : (1074 : ℤ) = (shift : ℤ) := by rw [← hshift]; rfl
    have hpos : 0 < Nat.pow 2 shift := Nat.two_pow_pos shift
    rw [hshift, hcast, ← signed_eq_mul_iff hpos, units, signed_mul, Nat.pow_eq, Nat.pow_eq,
      zpow_sub₀ two_ne_zero, zpow_natCast, zpow_natCast, ← mul_div_assoc,
      div_eq_iff (pow_ne_zero shift two_ne_zero), ← @Int.cast_inj ℚ]
    push_cast
    rfl

theorem isWhole_iff : x.isWhole = true ↔ ∃ z, x.toInt? = some z := by
  cases x with
  | nan => simp [isWhole, toInt?]
  | infinite negative => simp [isWhole, toInt?]
  | finite negative significand exponent h =>
    simp only [toInt?_finite_eq_some_iff, isWhole, beq_iff_eq]
    constructor
    · exact fun hwhole => ⟨_, hwhole, rfl⟩
    · rintro ⟨_, hwhole, -⟩
      exact hwhole

/-! ## Comparisons -/

/-- The place of a double among the numbers and the two infinities. NaN has none. -/
def place? : Binary64 → Option (WithBot (WithTop ℚ))
  | .nan => none
  | .infinite true => some ⊥
  | .infinite false => some ⊤
  | .finite negative significand exponent h =>
    (value? (.finite negative significand exponent h)).map fun value : ℚ => ↑(value : WithTop ℚ)

/-- A double is at most another one. NaN is not compared with anything. -/
def AtMost (x y : Binary64) : Prop :=
  ∃ a b, x.place? = some a ∧ y.place? = some b ∧ a ≤ b

/-- A double is less than another one. -/
def Below (x y : Binary64) : Prop :=
  ∃ a b, x.place? = some a ∧ y.place? = some b ∧ a < b

theorem place?_of_value? {a : ℚ} (h : x.value? = some a) : x.place? = some ↑(a : WithTop ℚ) := by
  cases x with
  | nan => cases h
  | infinite negative => cases h
  | finite negative significand exponent hcanonical => rw [place?, h, Option.map_some]

theorem atMost_iff {a b : ℚ} (hx : x.value? = some a) (hy : y.value? = some b) :
    x.AtMost y ↔ a ≤ b := by
  simp [AtMost, place?_of_value? hx, place?_of_value? hy]

theorem below_iff {a b : ℚ} (hx : x.value? = some a) (hy : y.value? = some b) :
    x.Below y ↔ a < b := by
  simp [Below, place?_of_value? hx, place?_of_value? hy]

/-! ## Integers of 64 bits -/

/-- The double next to an integer of 64 bits. -/
def ofInt64 (n : Int64) : Binary64 :=
  ofRatio (decide (n.toInt < 0)) n.toInt.natAbs 1

/-- A double cut off to an integer of 64 bits: what is behind the point is dropped, what is beyond a
    limit becomes the limit, and NaN becomes zero. -/
def toInt64 : Binary64 → Int64
  | .nan => 0
  | .infinite negative => if negative then Int64.minValue else Int64.maxValue
  | .finite negative significand exponent _ =>
    Int64.ofInt (max Int64.minValue.toInt (min Int64.maxValue.toInt
      (signed negative (units significand exponent / Nat.pow 2 1074))))

theorem toInt64_of_toInt? {n : Int64} (h : x.toInt? = some n.toInt) : x.toInt64 = n := by
  cases x with
  | nan => cases h
  | infinite negative => cases h
  | finite negative significand exponent hcanonical =>
    obtain ⟨-, hvalue⟩ := toInt?_finite_eq_some_iff.1 h
    rw [toInt64, hvalue, Int.min_eq_right n.toInt_le, Int.max_eq_right n.minValue_le_toInt,
      Int64.ofInt_toInt]

theorem value?_ofInt64_minValue : (ofInt64 Int64.minValue).value? = some (-2 ^ 63) := by
  have hnegative : decide (Int64.minValue.toInt < 0) = true := by decide
  have habs : Int64.minValue.toInt.natAbs = Nat.pow 2 63 := by decide
  have hwhole : (ofInt64 Int64.minValue).toInt? = some (-2 ^ 63) := by
    rw [ofInt64, hnegative, habs]
    exact toInt?_ofRatio_one_of_le true (Nat.le_refl _) (Nat.le_add_right _ _)
  rw [value?_eq_intCast_iff.2 hwhole]
  norm_num

/-- The largest integer of 64 bits is no double: the one next to it is larger by one. -/
theorem value?_ofInt64_maxValue : (ofInt64 Int64.maxValue).value? = some (2 ^ 63) := by
  have hplaces : (2 ^ 63 - 1).log2 = 52 + 10 := by decide
  have hround : roundHalfEven (2 ^ 63 - 1) (Nat.pow 2 10) = Nat.pow 2 53 := by decide
  have hcanonical : Canonical (Nat.pow 2 52) (11 + 1074) := by decide
  have hnegative : decide (Int64.maxValue.toInt < 0) = false := by decide
  have habs : Int64.maxValue.toInt.natAbs = 2 ^ 63 - 1 := by decide
  have hwhole : (ofInt64 Int64.maxValue).toInt? = some (2 ^ 63) := by
    rw [ofInt64, hnegative, habs, ofRatio_one false (by decide) hplaces, if_pos hround]
    exact toInt?_pack_of_canonical false hcanonical
  rw [value?_eq_intCast_iff.2 hwhole]
  norm_num

end Binary64

open Binary64

/-- A double is taken for an integer exactly if it is whole, at least the double next to the
    smallest integer, and below the one next to the largest; and the integer is what the double is
    turned into. -/
theorem toInteger?_float_iff {x : Binary64} {n : Int64} :
    (Scalar.float x).toInteger? = some n ↔
      x.isWhole = true ∧ (ofInt64 Int64.minValue).AtMost x ∧ x.Below (ofInt64 Int64.maxValue) ∧
        x.toInt64 = n := by
  have hmin : Int64.minValue.toInt = -2 ^ 63 := rfl
  have hmax : Int64.maxValue.toInt = 2 ^ 63 - 1 := rfl
  have hinteger : (Scalar.float x).toInteger? = some n ↔ x.toInt? = some n.toInt := by
    simp only [Scalar.toInteger?, Option.bind_eq_some_iff, int64?_eq_some_iff, exists_eq_right]
  rw [hinteger]
  constructor
  · intro h
    have hlimits := And.intro n.minValue_le_toInt n.toInt_le
    have hvalue : x.value? = some (n.toInt : ℚ) := value?_eq_intCast_iff.2 h
    refine ⟨isWhole_iff.2 ⟨_, h⟩, ?_, ?_, toInt64_of_toInt? h⟩
    · rw [atMost_iff value?_ofInt64_minValue hvalue]
      have hle : -2 ^ 63 ≤ n.toInt := by omega
      exact_mod_cast hle
    · rw [below_iff hvalue value?_ofInt64_maxValue]
      have hlt : n.toInt < 2 ^ 63 := by omega
      exact_mod_cast hlt
  · rintro ⟨hwhole, hlower, hupper, hn⟩
    obtain ⟨z, hz⟩ := isWhole_iff.1 hwhole
    have hvalue : x.value? = some (z : ℚ) := value?_eq_intCast_iff.2 hz
    rw [atMost_iff value?_ofInt64_minValue hvalue] at hlower
    rw [below_iff hvalue value?_ofInt64_maxValue] at hupper
    have hle : -2 ^ 63 ≤ z := by exact_mod_cast hlower
    have hlt : z < 2 ^ 63 := by exact_mod_cast hupper
    have hsame : z = (Int64.ofInt z).toInt := int64?_eq_some_iff.1 (if_pos ⟨by omega, by omega⟩)
    have hcut : x.toInt64 = Int64.ofInt z := toInt64_of_toInt? (hsame ▸ hz)
    rw [hz, ← hn, hcut, ← hsame]

end Provision
