import Mathlib.Data.List.Infix
import Provision.Number.Shortest

/-!
# Decimals of doubles

A fraction that is equal to a double is rounded to it, and the form of the fraction does not
matter. So the shortest decimal of a double is rounded to the double: the search for it only
takes decimals that are, and what stands behind the search is equal to the double.

Results:

* `Binary64.ofRatio_of_eq`: the rounding of a fraction that is equal to a double.
* `Binary64.ofRatio_mul`: numerator and denominator may have a common factor.
* `Shortest.toBinary64_decimal`: the shortest decimal of a double is rounded to it.
-/

namespace Provision

/-! ## Fractions -/

theorem roundHalfEven_mul_mul {k : Nat} (hk : 0 < k) (num den : Nat) :
    roundHalfEven (num * k) (den * k) = roundHalfEven num den := by
  have hquotient : num * k / (den * k) = num / den := Nat.mul_div_mul_right num den hk
  have htwice : 2 * (num * k % (den * k)) = 2 * (num % den) * k := by
    rw [Nat.mul_mod_mul_right, Nat.mul_assoc]
  simp only [roundHalfEven, hquotient, htwice, Nat.mul_lt_mul_right hk]

theorem log2_mul_pow_two {n : Nat} (hn : n ≠ 0) (shift : Nat) :
    (n * Nat.pow 2 shift).log2 = n.log2 + shift := by
  have hpos : 0 < Nat.pow 2 shift := Nat.two_pow_pos shift
  rw [Nat.log2_eq_iff (Nat.mul_ne_zero hn hpos.ne')]
  constructor
  · rw [Nat.pow_add]
    exact Nat.mul_le_mul_right _ (Nat.log2_self_le hn)
  · rw [Nat.add_right_comm, Nat.pow_add]
    exact Nat.mul_lt_mul_of_pos_right Nat.lt_log2_self hpos

namespace Binary64

theorem exponentOf_units {significand exponent : Nat} (h : Canonical significand exponent) :
    exponentOf (units significand exponent) = exponent := by
  obtain ⟨hsmall, -, hlarge⟩ := h
  simp only [Nat.pow_eq] at hsmall hlarge
  rcases hlarge with rfl | hlarge
  · have hunits : units significand 0 = significand := Nat.mul_one significand
    have hlog : significand.log2 ≤ 52 := by
      by_cases hzero : significand = 0
      · simp [hzero]
      · exact Nat.le_of_lt_succ ((Nat.log2_lt hzero).2 hsmall)
    rw [hunits, exponentOf]
    omega
  · have hzero : significand ≠ 0 := by omega
    have hlog : significand.log2 = 52 := (Nat.log2_eq_iff hzero).2 ⟨hlarge, hsmall⟩
    rw [units, exponentOf, log2_mul_pow_two hzero, hlog]
    omega

theorem units_pos {significand exponent : Nat} (h : significand ≠ 0) :
    0 < units significand exponent := by
  rw [units, Nat.pow_eq]
  exact Nat.mul_pos (Nat.pos_of_ne_zero h) (Nat.two_pow_pos exponent)

/-- A fraction that is equal to a double is rounded to it. -/
theorem ofRatio_of_eq {negative : Bool} {significand exponent num den : Nat}
    (h : Canonical significand exponent) (hden : 0 < den)
    (heq : num * Nat.pow 2 1074 = units significand exponent * den) :
    ofRatio negative num den = .finite negative significand exponent h := by
  have hquotient : units significand exponent * den / den = units significand exponent :=
    Nat.mul_div_cancel _ hden
  have hexact : units significand exponent * den = significand * (den * Nat.pow 2 exponent) := by
    rw [units, Nat.mul_assoc, Nat.mul_comm den]
  have hpos : 0 < den * Nat.pow 2 exponent := Nat.mul_pos hden (Nat.two_pow_pos exponent)
  have hround : roundHalfEven (units significand exponent * den) (den * Nat.pow 2 exponent) =
      significand := by
    rw [hexact, roundHalfEven_mul _ _ hpos]
  simp only [ofRatio, heq, hquotient, exponentOf_units h, hround, if_neg h.1.ne]
  exact pack_of_canonical h

theorem ofRatio_mul {k : Nat} (hk : 0 < k) (negative : Bool) (num den : Nat) :
    ofRatio negative (num * k) (den * k) = ofRatio negative num den := by
  have hscaled : num * k * Nat.pow 2 1074 = num * Nat.pow 2 1074 * k := Nat.mul_right_comm _ _ _
  have hquotient : num * Nat.pow 2 1074 * k / (den * k) = num * Nat.pow 2 1074 / den :=
    Nat.mul_div_mul_right _ _ hk
  have hden : ∀ exponent, den * k * Nat.pow 2 exponent = den * Nat.pow 2 exponent * k :=
    fun exponent => Nat.mul_right_comm _ _ _
  simp only [ofRatio, hscaled, hquotient, hden, roundHalfEven_mul_mul hk]

/-- A number of units as a decimal fraction with `places` places. -/
theorem ofRatio_units {negative : Bool} {significand exponent : Nat}
    (h : Canonical significand exponent) (places : Nat) (hplaces : 1074 = places) :
    ofRatio negative (units significand exponent * Nat.pow 5 places) (Nat.pow 10 places) =
      .finite negative significand exponent h := by
  have hten : Nat.pow 10 places = Nat.pow 5 places * Nat.pow 2 places := Nat.mul_pow 5 2 places
  have hpos : 0 < Nat.pow 10 places := Nat.pow_pos (by decide)
  refine ofRatio_of_eq h hpos ?_
  rw [hplaces, hten, Nat.mul_assoc]

/-! ## Signs -/

theorem isNegative_pack (negative : Bool) (significand exponent : Nat) :
    (pack negative significand exponent).isNegative = negative := by
  unfold pack
  split_ifs <;> rfl

theorem isNegative_ofRatio (negative : Bool) (num den : Nat) :
    (ofRatio negative num den).isNegative = negative := by
  unfold ofRatio
  dsimp only
  split_ifs <;> exact isNegative_pack _ _ _

end Binary64

namespace Decimal

theorem isNegative_toBinary64 (d : Decimal) : d.toBinary64.isNegative = d.negative := by
  unfold toBinary64
  split_ifs
  · rfl
  · rfl
  · rfl
  · exact Binary64.isNegative_ofRatio _ _ _
  · exact Binary64.isNegative_ofRatio _ _ _

theorem significand_ne_zero {d : Decimal} {negative : Bool} {significand exponent : Nat}
    {canonical : Binary64.Canonical significand exponent} (hzero : significand ≠ 0)
    (h : d.toBinary64 = .finite negative significand exponent canonical) :
    d.significand ≠ 0 := by
  intro hd
  rw [toBinary64, if_pos hd, Binary64.zero, Binary64.finite.injEq] at h
  exact hzero h.2.1.symm

/-- A zero behind the point of a whole number changes nothing, unless the number is so large
    that it is infinite. -/
theorem toBinary64_tenfold {negative : Bool} {significand exponent : Nat}
    (h : (Decimal.mk negative significand exponent).toBinary64 ≠ .infinite negative) :
    (Decimal.mk negative (significand * Nat.pow 10 (exponent + 1)) (-1)).toBinary64 =
      (Decimal.mk negative significand exponent).toBinary64 := by
  by_cases hzero : significand = 0
  · simp [toBinary64, hzero]
  · have hsmall : ¬ (400 : Int) < exponent := by
      intro hlarge
      simp [toBinary64, hzero, hlarge] at h
    have htenfold : significand * Nat.pow 10 (exponent + 1) ≠ 0 :=
      Nat.mul_ne_zero hzero (Nat.pow_pos (by omega)).ne'
    have hlow : ∀ n : Nat, ¬ (-1 : Int) < -((2000 + n : Nat) : Int) := by omega
    have hlow' : ∀ n : Nat, ¬ (exponent : Int) < -((2000 + n : Nat) : Int) := by omega
    have hfactor : significand * Nat.pow 10 (exponent + 1) =
        significand * Nat.pow 10 exponent * 10 := by
      rw [Nat.mul_assoc]
      rfl
    have hdepth : Nat.pow 10 (-(-1 : Int)).toNat = 1 * 10 := rfl
    simp only [toBinary64, if_neg htenfold, if_neg hzero, if_neg hsmall, if_neg (hlow _),
      if_neg (hlow' _), if_pos (Int.natCast_nonneg exponent), Int.toNat_natCast]
    rw [if_neg (by omega), if_neg (by omega), hdepth, hfactor, Binary64.ofRatio_mul (by omega)]

end Decimal

/-! ## Shortest decimals -/

namespace Shortest

/-- The decimal that is equal to a double is rounded to it. -/
theorem toBinary64_exact {negative : Bool} {significand exponent : Nat}
    (h : Binary64.Canonical significand exponent) (hzero : significand ≠ 0) :
    (exact negative significand exponent).toBinary64 =
      .finite negative significand exponent h := by
  have hscaled : ∀ n, Binary64.units significand exponent * Nat.pow 5 n ≠ 0 := fun n =>
    (Nat.mul_pos (Binary64.units_pos hzero) (Nat.pow_pos (by decide))).ne'
  have hlow : ∀ n : Nat, ¬ (-1074 : Int) < -((2000 + n : Nat) : Int) := by omega
  -- As a variable the number of places keeps the powers from being computed.
  obtain ⟨places, hplaces⟩ : ∃ n, 1074 = n := ⟨1074, rfl⟩
  have hdepth : (-(-1074 : Int)).toNat = places := hplaces
  simp only [exact, Decimal.toBinary64, hdepth, hplaces, if_neg (hscaled places),
    if_neg (hlow _)]
  rw [if_neg (by decide), if_neg (by decide)]
  exact Binary64.ofRatio_units h places hplaces

/-- **The shortest decimal.** The shortest decimal of a double is rounded to it. -/
theorem toBinary64_decimal (tie : Tie) {negative : Bool} {significand exponent : Nat}
    (h : Binary64.Canonical significand exponent) (hzero : significand ≠ 0) :
    (decimal tie (.finite negative significand exponent h) significand exponent).toBinary64 =
      .finite negative significand exponent h := by
  rcases search_reads tie (.finite negative significand exponent h)
    (Binary64.units significand exponent) (Nat.pow 2 1074)
    (exact negative significand exponent) with hreads | hexact
  · exact hreads
  · exact (congrArg Decimal.toBinary64 hexact).trans (toBinary64_exact h hzero)

end Shortest

end Provision
