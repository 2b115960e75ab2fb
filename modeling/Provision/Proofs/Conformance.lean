import Provision.Parameter.Conformance

/-!
# The values that parameters take

A text parameter takes texts, and holds them as they are. An integer parameter takes integers as
they are, and a double that is an integer of 64 bits as this integer.

Results:

* `Parameter.Takes`: the form in which a parameter holds a value.
* `Parameter.receive_eq_ok_iff_takes`: a parameter receives exactly what it takes, in this form.
-/

namespace Provision

theorem int64?_eq_some_iff {m : Int} {n : Int64} : Numeral.int64? m = some n ↔ m = n.toInt := by
  constructor
  · intro h
    unfold Numeral.int64? at h
    split at h
    · next hrange =>
      cases h
      have hmax : Int64.maxValue.toInt = 2 ^ 63 - 1 := rfl
      rw [Int64.toInt_ofInt_of_le hrange.1 (by omega)]
    · cases h
  · rintro rfl
    exact Numeral.int64?_toInt n

namespace Parameter

/-- The form in which a parameter holds a value that it takes. -/
inductive Takes (p : Parameter) : Scalar → Scalar → Prop where
  | text {s : String} : p.type = .text → p.Takes (.text s) (.text s)
  | integer {n : Int64} : p.type = .integer → p.Takes (.integer n) (.integer n)
  /-- A double without a fractional part is taken as the equal integer. -/
  | whole {x : Binary64} {n : Int64} : p.type = .integer → x.toInt? = some n.toInt →
      p.Takes (.float x) (.integer n)

variable {p : Parameter} {v taken : Scalar}

theorem canonical?_eq_some_iff : p.canonical? v = some taken ↔ p.Takes v taken := by
  constructor
  · intro h
    unfold canonical? at h
    split at h
    · next htype =>
      obtain ⟨s, hs, rfl⟩ := Option.map_eq_some_iff.1 h
      cases v <;> cases hs
      exact .text htype
    · next htype =>
      obtain ⟨n, hn, rfl⟩ := Option.map_eq_some_iff.1 h
      cases v with
      | text s => cases hn
      | boolean b => cases hn
      | integer m =>
        cases hn
        exact .integer htype
      | float x =>
        obtain ⟨m, hm, hn⟩ := Option.bind_eq_some_iff.1 hn
        rw [int64?_eq_some_iff] at hn
        exact .whole htype (hn ▸ hm)
  · intro h
    cases h with
    | text htype => simp [canonical?, htype, Scalar.toText?]
    | integer htype => simp [canonical?, htype, Scalar.toInteger?]
    | @whole x n htype hx => simp [canonical?, htype, Scalar.toInteger?, hx, Numeral.int64?_toInt]

theorem receive_eq_ok_iff_takes : p.receive v = .ok taken ↔ p.Takes v taken := by
  rw [receive_eq_ok_iff, canonical?_eq_some_iff]

theorem receive_of_kind (h : v.kind = p.type.kind) : p.receive v = .ok v :=
  receive_eq_ok_iff.2 (canonical?_of_kind h)

theorem receive_error {failure : Failure} (h : p.receive v = .error failure) :
    failure = .typeMismatch p.name p.type.kind v := by
  unfold receive at h
  split at h <;> cases h
  rfl

/-- A value has one form in which a parameter holds it. -/
theorem Takes.unique {other : Scalar} (h : p.Takes v taken) (h' : p.Takes v other) :
    taken = other := by
  rw [← canonical?_eq_some_iff] at h h'
  exact Option.some.inj (h.symm.trans h')

theorem conforms_iff : p.conforms v = true ↔ ∃ taken, p.Takes v taken := by
  simp only [conforms, Option.isSome_iff_exists, canonical?_eq_some_iff]

theorem receive_of_conforms_eq_false (h : p.conforms v = false) :
    p.receive v = .error (.typeMismatch p.name p.type.kind v) := by
  cases hreceive : p.receive v with
  | error failure => rw [receive_error hreceive]
  | ok taken =>
    have hconforms : p.conforms v = true :=
      conforms_iff.2 ⟨taken, receive_eq_ok_iff_takes.1 hreceive⟩
    simp [h] at hconforms

theorem Takes.kind_eq (h : p.Takes v taken) : taken.kind = p.type.kind :=
  kind_of_canonical? (canonical?_eq_some_iff.2 h)

end Parameter

end Provision
