import Provision.Proofs.Number.Value

/-!
# Integers that parameters take

An integer parameter takes every value that is equal to an integer of 64 bits, an integer or a
double, and holds it as this integer. Nothing is rounded, cut off or moved to a limit on the way.
Every other value is refused, and shown in the refusal as it came: a double with a fraction, one
beyond the limits, an infinity, NaN, a text or a truth value.

Results:

* `Scalar.IsInteger`: a scalar is equal to an integer.
* `Parameter.takes_iff_isInteger`: an integer parameter takes what is equal to a 64-bit integer.
* `Parameter.receive_exact`: what a parameter receives, and what it refuses.
-/

namespace Provision

/-- A scalar is equal to an integer: it is an integer, or a double that denotes one. -/
inductive Scalar.IsInteger : Scalar → ℤ → Prop where
  | integer (n : Int64) : IsInteger (.integer n) n.toInt
  | float {x : Binary64} {z : ℤ} : x.value? = some (z : ℚ) → IsInteger (.float x) z

theorem Scalar.isInteger_float_iff {x : Binary64} {z : ℤ} :
    (Scalar.float x).IsInteger z ↔ x.value? = some (z : ℚ) := by
  constructor
  · rintro ⟨⟩
    assumption
  · exact .float

namespace Parameter

variable {p : Parameter} {v taken : Scalar}

/-- An integer parameter takes what is equal to an integer of 64 bits, and holds it as this. -/
theorem takes_iff_isInteger (htype : p.type = .integer) :
    p.Takes v taken ↔ ∃ n : Int64, taken = .integer n ∧ v.IsInteger n.toInt := by
  constructor
  · intro h
    cases h with
    | text htext =>
      rw [htype] at htext
      cases htext
    | @integer n _ => exact ⟨n, rfl, .integer n⟩
    | @whole x n _ hx => exact ⟨n, rfl, .float (Binary64.value?_eq_intCast_iff.2 hx)⟩
  · rintro ⟨n, rfl, h⟩
    generalize hz : n.toInt = z at h
    cases h with
    | integer m =>
      rw [Int64.toInt_inj.1 hz]
      exact .integer htype
    | float hvalue => exact .whole htype (hz ▸ Binary64.value?_eq_intCast_iff.1 hvalue)

/-- An integer parameter refuses what is equal to no integer within the limits, and shows it. -/
theorem receive_error_iff_isInteger (htype : p.type = .integer) :
    p.receive v = .error (.typeMismatch p.name .integer v) ↔
      ∀ z, v.IsInteger z → z < -2 ^ 63 ∨ 2 ^ 63 - 1 < z := by
  have hmin : Int64.minValue.toInt = -2 ^ 63 := rfl
  have hmax : Int64.maxValue.toInt = 2 ^ 63 - 1 := rfl
  constructor
  · intro h z hz
    by_contra hlimits
    have hn : z = (Int64.ofInt z).toInt := int64?_eq_some_iff.1 (if_pos (by omega))
    have htakes : p.Takes v (.integer (Int64.ofInt z)) :=
      (takes_iff_isInteger htype).2 ⟨_, rfl, hn ▸ hz⟩
    rw [receive_eq_ok_iff_takes.2 htakes] at h
    cases h
  · intro h
    cases hreceive : p.receive v with
    | error failure =>
      rw [receive_error hreceive, htype]
      rfl
    | ok taken =>
      obtain ⟨n, -, hn⟩ := (takes_iff_isInteger htype).1 (receive_eq_ok_iff_takes.1 hreceive)
      have hlimits := And.intro n.minValue_le_toInt n.toInt_le
      rcases h n.toInt hn with hlow | hhigh <;> omega

/-- A double is received if it is whole and within the limits as doubles, the lower one included and
    the upper one not, and as the integer into which it is turned. -/
theorem receive_float_iff (htype : p.type = .integer) {x : Binary64} {n : Int64} :
    p.receive (.float x) = .ok (.integer n) ↔
      x.isWhole = true ∧ (Binary64.ofInt64 Int64.minValue).AtMost x ∧
        x.Below (Binary64.ofInt64 Int64.maxValue) ∧ x.toInt64 = n := by
  rw [← toInteger?_float_iff, receive_eq_ok_iff, canonical?, htype]
  simp

/-- **Acceptance.** An integer parameter receives exactly the values that are equal to an integer of
    64 bits, as this integer, and a double among them is turned into it without a loss. Whatever is
    equal to no integer, or to one beyond the limits, is refused as a value of another type, as it
    came. A parameter of any type receives a value exactly if the value conforms, and receives
    unchanged what has been received. -/
theorem receive_exact (p : Parameter) (v : Scalar) :
    (p.type = .integer →
      (∀ taken, p.receive v = .ok taken ↔
        ∃ n : Int64, taken = .integer n ∧ v.IsInteger n.toInt) ∧
      (p.receive v = .error (.typeMismatch p.name .integer v) ↔
        ∀ z, v.IsInteger z → z < -2 ^ 63 ∨ 2 ^ 63 - 1 < z) ∧
      ∀ x, v = .float x → ∀ n, p.receive v = .ok (.integer n) ↔
        x.isWhole = true ∧ (Binary64.ofInt64 Int64.minValue).AtMost x ∧
          x.Below (Binary64.ofInt64 Int64.maxValue) ∧ x.toInt64 = n) ∧
    (p.conforms v = true ↔ ∃ taken, p.receive v = .ok taken) ∧
    ∀ taken, p.receive v = .ok taken → p.receive taken = .ok taken := by
  refine ⟨fun htype => ⟨fun taken => ?_, receive_error_iff_isInteger htype, ?_⟩, ?_, ?_⟩
  · rw [receive_eq_ok_iff_takes, takes_iff_isInteger htype]
  · rintro x rfl n
    exact receive_float_iff htype
  · simp only [conforms_iff, receive_eq_ok_iff_takes]
  · exact fun taken h => receive_receive h

/-- The doubles at the limits: the smallest integer is received as it is, and the double next to the
    largest one is refused. The negative zero is received as zero, and a text is refused. -/
theorem receive_exact_limits :
    let p := Parameter.plain .integer "N"
    let lower := Binary64.ofInt64 Int64.minValue
    let upper := Binary64.ofInt64 Int64.maxValue
    p.type = .integer ∧
      p.receive (.float lower) = .ok (.integer Int64.minValue) ∧
      lower.toInt64 = Int64.minValue ∧
      p.receive (.float upper) = .error (.typeMismatch "N" .integer (.float upper)) ∧
      p.receive (.float (.zero true)) = .ok (.integer 0) ∧
      p.receive (.integer 0) = .ok (.integer 0) ∧
      p.receive (.text "4") = .error (.typeMismatch "N" .integer (.text "4")) ∧
      p.conforms (.text "4") = false := by
  intro p lower upper
  have htype : p.type = .integer := rfl
  have hlower : (Scalar.float lower).IsInteger Int64.minValue.toInt :=
    .float (by rw [Binary64.value?_ofInt64_minValue]; rfl)
  have hupper : ∀ z, (Scalar.float upper).IsInteger z → z < -2 ^ 63 ∨ 2 ^ 63 - 1 < z := by
    intro z hz
    rw [Scalar.isInteger_float_iff, Binary64.value?_ofInt64_maxValue, Option.some.injEq] at hz
    have hlimit : (2 ^ 63 : ℤ) = z := by exact_mod_cast hz
    omega
  have hzero : (Scalar.float (.zero true)).IsInteger (0 : Int64).toInt :=
    .float (by simp [Binary64.value?, Binary64.zero, Numeral.signed])
  have htext : ∀ z, (Scalar.text "4").IsInteger z → z < -2 ^ 63 ∨ 2 ^ 63 - 1 < z := by
    intro z hz
    cases hz
  obtain ⟨hreceives, -, hcast⟩ := (receive_exact p (.float lower)).1 htype
  have hreceived : p.receive (.float lower) = .ok (.integer Int64.minValue) :=
    (hreceives _).2 ⟨_, rfl, hlower⟩
  obtain ⟨-, -, -, hinteger⟩ := (hcast lower rfl _).1 hreceived
  obtain ⟨hzeros, -, hagain⟩ := receive_exact p (.float (.zero true))
  have hnegative : p.receive (.float (.zero true)) = .ok (.integer 0) :=
    ((hzeros htype).1 _).2 ⟨_, rfl, hzero⟩
  obtain ⟨htexts, hconforms, -⟩ := receive_exact p (.text "4")
  have hrefused : p.receive (.text "4") = .error (.typeMismatch "N" .integer (.text "4")) :=
    (htexts htype).2.1.2 htext
  have hunfit : p.conforms (.text "4") = false := by
    rw [← Bool.not_eq_true, hconforms, hrefused]
    simp
  have hoverflow : p.receive (.float upper) = .error (.typeMismatch "N" .integer (.float upper)) :=
    ((receive_exact p (.float upper)).1 htype).2.1.2 hupper
  exact ⟨htype, hreceived, hinteger, hoverflow, hnegative, hagain _ hnegative, hrefused, hunfit⟩

end Parameter

end Provision
