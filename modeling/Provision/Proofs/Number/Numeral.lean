import Provision.Number.Numeral
import Provision.Proofs.Text.Blank

/-!
# Digits of numerals

The digits of a number, what zeros in front of and behind digits do to the number, and the
digits with which a written number can begin; and integers, whose digits stand behind a sign.

Results:

* `Numeral.digits_eq_cons`: the first digit of a number other than zero is no zero.
* `Numeral.ofDigits_zeros_append`, `Numeral.ofDigits_append_zeros`: zeros in front and behind.
* `Numeral.isLeading_digits`: the digits of a number can stand in front.
* `Numeral.integer?_ofInt`: the numeral of an integer of 64 bits is read as this integer.
-/

namespace Provision

namespace Numeral

theorem isDigit_of_mem_digits {n : Nat} {c : Char} (h : c ∈ digits n) : c.isDigit = true :=
  Nat.isDigit_of_mem_toDigits (by decide) (by decide) h

theorem digits_ne_nil (n : Nat) : digits n ≠ [] :=
  Nat.toDigits_ne_nil

theorem digits_eq_cons {n : Nat} (h : n ≠ 0) : ∃ d rest, digits n = d :: rest ∧ d ≠ '0' := by
  induction n using Nat.strongRecOn with
  | ind n ih =>
    by_cases hsmall : n < 10
    · refine ⟨n.digitChar, [], Nat.toDigits_of_lt_base hsmall, ?_⟩
      rwa [Ne, Nat.digitChar_eq_zero]
    · obtain ⟨d, rest, hdigits, hd⟩ := ih (n / 10) (by omega) (by omega)
      refine ⟨d, rest ++ [Nat.digitChar (n % 10)], ?_, hd⟩
      have hsplit : digits n = digits (n / 10) ++ [Nat.digitChar (n % 10)] :=
        Nat.toDigits_of_base_le (by decide) (by omega)
      rw [hsplit, hdigits, List.cons_append]

/-! ## Digits in a row -/

theorem ofDigits_append (xs ys : List Char) :
    ofDigits (xs ++ ys) = ofDigits xs * Nat.pow 10 ys.length + ofDigits ys := by
  rw [ofDigits, Nat.ofDigitChars_append, Nat.ofDigitChars_eq_ofDigitChars_zero, Nat.mul_comm]
  rfl

theorem ofDigits_replicate_zero (count : Nat) : ofDigits (List.replicate count '0') = 0 := by
  rw [ofDigits, Nat.ofDigitChars_replicate_zero, Nat.mul_zero]

theorem ofDigits_zeros_append (count : Nat) (cs : List Char) :
    ofDigits (List.replicate count '0' ++ cs) = ofDigits cs := by
  rw [ofDigits_append, ofDigits_replicate_zero, Nat.zero_mul, Nat.zero_add]

theorem ofDigits_append_zeros (cs : List Char) (count : Nat) :
    ofDigits (cs ++ List.replicate count '0') = ofDigits cs * Nat.pow 10 count := by
  rw [ofDigits_append, ofDigits_replicate_zero, List.length_replicate, Nat.add_zero]

/-! ## Digits in front -/

/-- Whether digits can stand in front of a point: there is one at least, and a zero stands
    alone. -/
structure IsLeading (cs : List Char) : Prop where
  isDigit : ∀ c ∈ cs, c.isDigit = true
  leads : cs = ['0'] ∨ ∃ d rest, cs = d :: rest ∧ d ≠ '0'

theorem isLeading_zero : IsLeading ['0'] := by
  refine ⟨fun c hc => ?_, Or.inl rfl⟩
  rw [List.mem_singleton.1 hc]
  rfl

theorem IsLeading.ne_nil {cs : List Char} (h : IsLeading cs) : cs ≠ [] := by
  rcases h.leads with rfl | ⟨d, rest, rfl, -⟩ <;> simp

theorem isLeading_digits (n : Nat) : IsLeading (digits n) := by
  refine ⟨fun c hc => isDigit_of_mem_digits hc, ?_⟩
  by_cases hzero : n = 0
  · subst hzero
    exact Or.inl (Nat.toDigits_zero 10)
  · exact Or.inr (digits_eq_cons hzero)

/-! ## Signs -/

theorem sign_of_ne {c : Char} (hminus : c ≠ '-') (hplus : c ≠ '+') (rest : List Char) :
    sign (c :: rest) = (false, c :: rest) := by
  unfold sign
  split
  · next heq => exact absurd (List.cons.inj heq).1 hminus
  · next heq => exact absurd (List.cons.inj heq).1 hplus
  · rfl

theorem sign_of_isDigit {c : Char} (h : c.isDigit = true) (rest : List Char) :
    sign (c :: rest) = (false, c :: rest) := by
  refine sign_of_ne ?_ ?_ rest
  · rintro rfl
    cases h
  · rintro rfl
    cases h

theorem signed_natAbs (n : Int) : signed (decide (n < 0)) n.natAbs = n := by
  by_cases hnegative : n < 0
  · simp only [signed, hnegative, decide_true, if_true]
    omega
  · simp only [signed, hnegative, decide_false, Bool.false_eq_true, if_false]
    omega

theorem sign_ofInt (n : Int) : sign (ofInt n) = (decide (n < 0), digits n.natAbs) := by
  by_cases hnegative : n < 0
  · simp [ofInt, hnegative, sign]
  · obtain ⟨d, rest, hdigits⟩ := List.exists_cons_of_ne_nil (digits_ne_nil n.natAbs)
    have hd : d.isDigit = true := isDigit_of_mem_digits (hdigits ▸ List.mem_cons_self)
    simp only [ofInt, hnegative, if_false, decide_false, hdigits]
    exact sign_of_isDigit hd rest

/-- Digits behind a sign are read as the number with this sign, if it has 64 bits. -/
theorem integer?_of_sign {cs body : List Char} {negative : Bool}
    (hsign : sign cs = (negative, body)) (hne : body ≠ []) (hbody : ∀ c ∈ body, c.isDigit = true) :
    integer? cs = int64? (signed negative (ofDigits body)) := by
  have hall : body.all Char.isDigit = true := List.all_eq_true.2 hbody
  simp [integer?, hsign, hne, hall]

/-- **Integers are read back.** The numeral of an integer of 64 bits is read as this integer. -/
theorem integer?_ofInt (n : Int64) : integer? (ofInt n.toInt) = some n := by
  rw [integer?_of_sign (sign_ofInt n.toInt) (digits_ne_nil _) fun _ hc => isDigit_of_mem_digits hc,
    ofDigits_digits, signed_natAbs, int64?_toInt]

/-- The characters of a numeral: digits, and a minus in front of those of a negative number. -/
theorem isDigit_of_mem_ofInt {n : Int} {c : Char} (h : c ∈ ofInt n) :
    c = '-' ∨ c.isDigit = true := by
  unfold ofInt at h
  split at h
  · rcases List.mem_cons.1 h with rfl | h
    · exact Or.inl rfl
    · exact Or.inr (isDigit_of_mem_digits h)
  · exact Or.inr (isDigit_of_mem_digits h)

theorem isBlank_of_mem_ofInt {n : Int} {c : Char} (h : c ∈ ofInt n) : isBlank c = false := by
  rcases isDigit_of_mem_ofInt h with rfl | hdigit
  · rfl
  · exact isBlank_of_isDigit hdigit

end Numeral

end Provision
