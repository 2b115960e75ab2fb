import Provision.Proofs.Number.Numeral
import Provision.Proofs.Number.Rounding

/-!
# The double next to a whole number

A whole number of more than 53 bits is rounded to the nearest one of which only the first 53 bits
are set. At `2 ^ 63`, the first number that is too large for 64 bits with a sign, these lie 2048
apart. So the numbers up to `2 ^ 63 + 1024` are rounded down to `2 ^ 63`, the last one because this
is the even neighbour, and every larger number is rounded to one that is larger than `2 ^ 63`.

Results:

* `Binary64.toInt?_ofRatio_one`: the double next to a whole number denotes `nearestWhole`, unless it
  is infinite.
* `Binary64.nearestWhole_le_iff`: the numbers that are rounded to `2 ^ 63`.
* `Binary64.int64?_ofRatio_one`: which integer of 64 bits, if any, the double next to a larger
  number denotes.
-/

namespace Provision

theorem div_le_roundHalfEven (num den : Nat) : num / den ≤ roundHalfEven num den := by
  unfold roundHalfEven
  dsimp only
  split_ifs <;> omega

/-! ## Bits -/

theorem le_log2_of_pow_le {n : Nat} (h : Nat.pow 2 63 ≤ n) : n ≠ 0 ∧ 63 ≤ n.log2 := by
  have hn : n ≠ 0 := by
    rintro rfl
    exact absurd h (by decide)
  exact ⟨hn, (Nat.le_log2 hn).2 h⟩

namespace Binary64

/-! ## Rounding a whole number -/

/-- The double next to a whole number: the bits behind the first 53 are rounded. -/
theorem ofRatio_one (negative : Bool) {n places : Nat} (hn : n ≠ 0)
    (hplaces : n.log2 = 52 + places) :
    ofRatio negative n 1 =
      if roundHalfEven n (Nat.pow 2 places) = Nat.pow 2 53 then
        pack negative (Nat.pow 2 52) (places + 1074 + 1)
      else pack negative (roundHalfEven n (Nat.pow 2 places)) (places + 1074) := by
  -- As a variable the shift keeps the powers from being computed.
  obtain ⟨shift, hshift⟩ : ∃ shift, 1074 = shift := ⟨1074, rfl⟩
  have hexponent : exponentOf (n * Nat.pow 2 shift / 1) = places + shift := by
    rw [Nat.div_one, exponentOf, log2_mul_pow_two hn, hplaces]
    omega
  have hround : roundHalfEven (n * Nat.pow 2 shift) (1 * Nat.pow 2 (places + shift)) =
      roundHalfEven n (Nat.pow 2 places) := by
    rw [Nat.one_mul, Nat.pow_eq, Nat.pow_eq, Nat.pow_add]
    exact roundHalfEven_mul_mul (Nat.two_pow_pos shift) _ _
  simp only [ofRatio, hshift, hexponent, hround]

theorem toInt?_pack_of_canonical (negative : Bool) {significand places : Nat}
    (h : Canonical significand (places + 1074)) :
    (pack negative significand (places + 1074)).toInt? =
      some (Numeral.signed negative (significand * Nat.pow 2 places)) := by
  rw [pack_of_canonical h]
  obtain ⟨shift, hshift⟩ : ∃ shift, 1074 = shift := ⟨1074, rfl⟩
  have hunits : units significand (places + shift) =
      significand * Nat.pow 2 places * Nat.pow 2 shift := by
    rw [units, Nat.pow_eq, Nat.pow_eq, Nat.pow_eq, Nat.pow_add, Nat.mul_assoc]
  have hpos : 0 < Nat.pow 2 shift := Nat.two_pow_pos shift
  simp only [toInt?, hshift, hunits, Nat.mul_mod_left, if_true, Nat.mul_div_cancel _ hpos]
  rfl

theorem toInt?_pack (negative : Bool) (significand places : Nat) :
    (pack negative significand (places + 1074)).toInt? =
        some (Numeral.signed negative (significand * Nat.pow 2 places)) ∨
      (pack negative significand (places + 1074)).toInt? = none := by
  by_cases h : Canonical significand (places + 1074)
  · exact Or.inl (toInt?_pack_of_canonical negative h)
  · rw [pack, dif_neg h]
    exact Or.inr rfl

/-- The whole number to which a whole number of more than 52 bits is rounded. -/
def nearestWhole (n : Nat) : Nat :=
  roundHalfEven n (Nat.pow 2 (n.log2 - 52)) * Nat.pow 2 (n.log2 - 52)

/-- The double next to a whole number denotes the number to which this is rounded, unless it is
    infinite. -/
theorem toInt?_ofRatio_one (negative : Bool) {n : Nat} (hn : n ≠ 0) (hbits : 52 ≤ n.log2) :
    (ofRatio negative n 1).toInt? = some (Numeral.signed negative (nearestWhole n)) ∨
      (ofRatio negative n 1).toInt? = none := by
  have hplaces : n.log2 = 52 + (n.log2 - 52) := by omega
  rw [ofRatio_one negative hn hplaces, nearestWhole]
  generalize n.log2 - 52 = places
  split_ifs with hcarry
  · -- Rounding has carried into one bit more, and the number is the same with one bit less.
    have hsame : roundHalfEven n (Nat.pow 2 places) * Nat.pow 2 places =
        Nat.pow 2 52 * Nat.pow 2 (places + 1) := by
      calc roundHalfEven n (Nat.pow 2 places) * Nat.pow 2 places
          = Nat.pow 2 52 * 2 * Nat.pow 2 places := by rw [hcarry]
        _ = Nat.pow 2 52 * (Nat.pow 2 places * 2) := by rw [Nat.mul_assoc, Nat.mul_comm 2]
    rw [hsame, Nat.add_right_comm]
    exact toInt?_pack negative _ _
  · exact toInt?_pack negative _ _

/-! ## Numbers too large for 64 bits -/

/-- Rounding keeps the first bit of a number. -/
theorem pow_log2_le_nearestWhole {n : Nat} (hn : n ≠ 0) (hbits : 52 ≤ n.log2) :
    Nat.pow 2 n.log2 ≤ nearestWhole n := by
  have hfirst : Nat.pow 2 n.log2 = Nat.pow 2 52 * Nat.pow 2 (n.log2 - 52) := by
    rw [Nat.pow_eq, Nat.pow_eq, Nat.pow_eq, ← Nat.pow_add]
    congr 1
    omega
  have hpos : 0 < Nat.pow 2 (n.log2 - 52) := Nat.two_pow_pos _
  have hquotient : Nat.pow 2 52 ≤ n / Nat.pow 2 (n.log2 - 52) := by
    rw [Nat.le_div_iff_mul_le hpos, ← hfirst]
    exact Nat.log2_self_le hn
  rw [hfirst]
  exact Nat.mul_le_mul_right _ (hquotient.trans (div_le_roundHalfEven _ _))

/-- The numbers that are rounded to `2 ^ 63`: the last one is half way to the next double. -/
theorem nearestWhole_le_iff {n : Nat} (h : Nat.pow 2 63 ≤ n) :
    nearestWhole n ≤ Nat.pow 2 63 ↔ n ≤ Nat.pow 2 63 + 1024 := by
  obtain ⟨hn, hlog⟩ := le_log2_of_pow_le h
  by_cases hbits : n.log2 = 63
  · have hpow : Nat.pow 2 (63 - 52) = 2048 := rfl
    rw [nearestWhole, hbits, hpow]
    unfold roundHalfEven
    simp only [Nat.pow_eq] at h ⊢
    split_ifs <;> omega
  · have hfirst : Nat.pow 2 64 ≤ Nat.pow 2 n.log2 :=
      Nat.pow_le_pow_right (by decide) (by omega)
    have hself : Nat.pow 2 n.log2 ≤ n := Nat.log2_self_le hn
    have hnearest : Nat.pow 2 n.log2 ≤ nearestWhole n := pow_log2_le_nearestWhole hn (by omega)
    simp only [Nat.pow_eq] at *
    omega

theorem toInt?_ofRatio_one_of_le (negative : Bool) {n : Nat} (h : Nat.pow 2 63 ≤ n)
    (hle : n ≤ Nat.pow 2 63 + 1024) :
    (ofRatio negative n 1).toInt? = some (Numeral.signed negative (Nat.pow 2 63)) := by
  have hn : n ≠ 0 := (le_log2_of_pow_le h).1
  simp only [Nat.pow_eq] at h hle
  have hplaces : n.log2 = 52 + 11 := by
    rw [Nat.log2_eq_iff hn]
    omega
  have hround : roundHalfEven n (Nat.pow 2 11) = Nat.pow 2 52 := by
    unfold roundHalfEven
    simp only [Nat.pow_eq]
    split_ifs <;> omega
  have hcanonical : Canonical (Nat.pow 2 52) (11 + 1074) := by decide
  rw [ofRatio_one negative hn hplaces, hround, if_neg (by decide)]
  exact toInt?_pack_of_canonical negative hcanonical

theorem int64?_signed_eq_none (negative : Bool) {magnitude : Nat}
    (h : Nat.pow 2 63 < magnitude) :
    Numeral.int64? (Numeral.signed negative magnitude) = none := by
  have hpow : Nat.pow 2 63 = 9223372036854775808 := rfl
  have hmin : Int64.minValue.toInt = -9223372036854775808 := rfl
  have hmax : Int64.maxValue.toInt = 9223372036854775807 := rfl
  rw [Numeral.int64?, if_neg]
  unfold Numeral.signed
  split_ifs <;> omega

/-- The double next to a number that is too large for 64 bits denotes an integer of 64 bits only if
    it is the smallest one. This is so for 1024 numbers that are too small. -/
theorem int64?_ofRatio_one (negative : Bool) {n : Nat} (h : Nat.pow 2 63 ≤ n) :
    (ofRatio negative n 1).toInt?.bind Numeral.int64? =
      if negative = true ∧ n ≤ Nat.pow 2 63 + 1024 then some Int64.minValue else none := by
  by_cases hle : n ≤ Nat.pow 2 63 + 1024
  · rw [toInt?_ofRatio_one_of_le negative h hle, Option.bind_some]
    simp only [hle, and_true]
    cases negative <;> rfl
  · obtain ⟨hn, hlog⟩ := le_log2_of_pow_le h
    rw [if_neg fun hband => hle hband.2]
    rcases toInt?_ofRatio_one negative hn (by omega) with hsome | hnone
    · rw [hsome, Option.bind_some]
      apply int64?_signed_eq_none
      exact Nat.lt_of_not_le fun hsmall => hle ((nearestWhole_le_iff h).1 hsmall)
    · rw [hnone, Option.bind_none]

end Binary64

end Provision
